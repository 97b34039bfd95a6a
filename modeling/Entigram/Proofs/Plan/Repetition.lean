import Entigram.Proofs.Plan.Correspondence

/-!
# Repeated relationships

A relationship that was declared before, in any spelling and under any label, adds nothing
(`repetition_absorbed`).  Everything that planning takes from the relationships it takes from the
first of some form, or it asks whether there is one of some form at all; a repetition has the form
of what it repeats and comes later.

Deduplication is the one place where this is a little more than a look at the first entry, because
the relationships behind the repetition have to be kept as before.  What is kept of a list is what
is kept of its beginning, and then whatever of the rest has another name (`firstPerName_append`).
-/

set_option autoImplicit false

namespace Entigram

/-! ## Later entries of the same form -/

section later

variable {α : Type} {before : List α} {x y : α} {p : α → Bool}

theorem any_insert_later (hx : x ∈ before) (h : p y = p x) (after : List α) :
    (before ++ y :: after).any p = (before ++ after).any p := by
  rw [List.any_append, List.any_append, List.any_cons, h]
  cases hp : p x with
  | false => rfl
  | true => rw [List.any_eq_true.2 ⟨x, hx, hp⟩, Bool.true_or, Bool.true_or]

theorem find?_insert_later (hx : x ∈ before) (h : p y = p x) (after : List α) :
    (before ++ y :: after).find? p = (before ++ after).find? p := by
  rw [List.find?_append, List.find?_append, List.find?_cons, h]
  cases hp : p x with
  | false => rfl
  | true =>
    obtain ⟨z, hz⟩ := Option.isSome_iff_exists.1 (List.find?_isSome.2 ⟨x, hx, hp⟩)
    rw [hz]
    rfl

end later

namespace Plan

open Naming Attempt

/-- **What is kept of a list**: what is kept of its beginning, and of the rest what has another
name. -/
theorem firstPerName_append (endpoint : Relationship → String) (xs ys : List Relationship) :
    firstPerName endpoint (xs ++ ys) = firstPerName endpoint xs ++
      (firstPerName endpoint ys).filter fun r =>
        xs.all fun x => !sameName (endpoint r) (endpoint x) := by
  induction xs with
  | nil => simp [firstPerName]
  | cons x xs ih =>
    simp only [List.cons_append, firstPerName_cons, ih, List.filter_append, List.filter_filter,
      List.all_cons]

theorem firstPerName_insert_later {endpoint : Relationship → String} {before : List Relationship}
    {r r' : Relationship} (hr : r ∈ before) (h : sameName (endpoint r') (endpoint r) = true)
    (after : List Relationship) :
    firstPerName endpoint (before ++ r' :: after) = firstPerName endpoint (before ++ after) := by
  have hdropped : (before.all fun x => !sameName (endpoint r') (endpoint x)) = false :=
    List.all_eq_false.2 ⟨r, hr, by simp [h]⟩
  -- what is passed over for the name of the repetition is passed over for the repeated one
  have hrest : ∀ x, (before.all fun y => !sameName (endpoint x) (endpoint y)) = true →
      (!sameName (endpoint x) (endpoint r')) = true := by
    intro x hx
    rw [sameName_comm, sameName_congr h, sameName_comm]
    exact List.all_eq_true.1 hx r hr
  rw [firstPerName_append, firstPerName_append, firstPerName_cons, List.filter_cons_of_neg
    (by simp [hdropped]), List.filter_filter]
  congr 1
  refine List.filter_congr fun x _ => ?_
  cases hx : before.all fun y => !sameName (endpoint x) (endpoint y) with
  | false => rfl
  | true => rw [hrest x hx, Bool.and_true]

/-! ## The schema with the repetition -/

section repetition

variable {es : List Entity} {before after : List Relationship} {r r' : Relationship}

theorem isOwned_insert_later (hr : r ∈ before) (h : r'.Alike r) :
    Schema.isOwned ⟨es, before ++ r' :: after⟩ = Schema.isOwned ⟨es, before ++ after⟩ := by
  funext e
  have htest : (r'.isOneToOne && sameName r'.target e.name) =
      (r.isOneToOne && sameName r.target e.name) := by
    rw [h.isOneToOne_eq, sameName_congr h.target]
  rw [Schema.isOwned, Schema.isOwned, Schema.hasOneToOneInto_eq, Schema.hasOneToOneInto_eq,
    any_insert_later hr htest]

/-- A group takes no further relationship from the repetition. -/
theorem relationships_insert_later (hr : r ∈ before) (h : r'.Alike r) (e : Entity) (g : Group) :
    g.relationships ⟨es, before ++ r' :: after⟩ e = g.relationships ⟨es, before ++ after⟩ e := by
  have hadmits : g.admits ⟨es, before ++ r' :: after⟩ e = g.admits ⟨es, before ++ after⟩ e :=
    Group.admits_congr (by rfl) (isOwned_insert_later hr h) e g
  have hcounts := h.counts_eq ⟨es, before ++ after⟩ e g
  rw [Group.relationships_eq, Group.relationships_eq, hadmits, List.filter_append,
    List.filter_append, List.filter_cons]
  split
  · next hr' =>
    rw [hcounts] at hr'
    exact firstPerName_insert_later (List.mem_filter.2 ⟨hr, hr'⟩) (h.farEnd g) _
  · rfl

theorem ownerIndex?_insert_later (hr : r ∈ before) (h : r'.Alike r) :
    Schema.ownerIndex? ⟨es, before ++ r' :: after⟩ = Schema.ownerIndex? ⟨es, before ++ after⟩ := by
  funext e
  rw [Schema.ownerIndex?, Schema.ownerIndex?, Schema.firstInto?_eq, Schema.firstInto?_eq,
    find?_insert_later hr (sameName_congr h.target e.name)]
  rfl

/-- With and without the repetition the schema is planned from the same. -/
theorem corresponds_insert_later (hr : r ∈ before) (h : r'.Alike r) :
    Corresponds Eq ⟨es, before ++ r' :: after⟩ ⟨es, before ++ after⟩ where
  entities := rfl
  isOwned := isOwned_insert_later hr h
  ownerIndex? := ownerIndex?_insert_later hr h
  relationships e g := by
    rw [relationships_insert_later hr h, List.forall₂_eq_eq_eq]

end repetition

/-! ## The effect of a repetition -/

/-- **A repeated relationship is absorbed.**  If a relationship is followed, at any distance, by one
with the same ends, up to the case of their names, and the same cardinalities, then the later one
can be left out.  Class plans and mapping stay the same, and so do both sources, whatever their
outcome is: also what is reported, and with which name and relationship planning fails. -/
theorem repetition_absorbed (es : List Entity) (before after : List Relationship)
    (r r' : Relationship) (hr : r ∈ before) (h : r'.Alike r) :
    entities ⟨es, before ++ r' :: after⟩ = entities ⟨es, before ++ after⟩ ∧
    mapping ⟨es, before ++ r' :: after⟩ = mapping ⟨es, before ++ after⟩ ∧
    ∀ (style : CSharp.Style) (elapsed : String),
      Generation.entities style elapsed ⟨es, before ++ r' :: after⟩ =
          Generation.entities style elapsed ⟨es, before ++ after⟩ ∧
        Generation.mapping style elapsed ⟨es, before ++ r' :: after⟩ =
          Generation.mapping style elapsed ⟨es, before ++ after⟩ :=
  (corresponds_insert_later hr h).outcomes_eq

/-- Readers and the books that they borrow. -/
def lending : List Entity := [⟨"READER", [⟨"id", "int", true, false⟩]⟩, ⟨"BOOK", []⟩]

/-- Readers visit a branch that is not declared. -/
def visit : Relationship := ⟨"READER", "branch", "||", "o\x7b", "visits"⟩

/-- The same, said in other words. -/
def visitAgain : Relationship := ⟨"Reader", "BRANCH", "||", "o\x7b", "comes to"⟩

theorem repetition_absorbed_lending : visitAgain.Alike visit ∧
    entities ⟨lending, [visit, ⟨"READER", "BOOK", "||", "o\x7b", "borrows"⟩, visitAgain]⟩ =
      .error { name := "branch", relationship := some visit } := by
  have h : visitAgain.Alike visit := ⟨by decide +kernel, by decide +kernel, rfl, rfl⟩
  obtain ⟨hentities, -, -⟩ := repetition_absorbed lending
    [visit, ⟨"READER", "BOOK", "||", "o\x7b", "borrows"⟩] [] visit visitAgain List.mem_cons_self h
  exact ⟨h, hentities.trans (by decide +kernel)⟩

end Plan
end Entigram
