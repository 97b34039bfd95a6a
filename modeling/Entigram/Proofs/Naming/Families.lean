import Entigram.Proofs.Naming.Numbering
import Entigram.Proofs.Naming.Resolution

/-!
# Families of names

Names that are wanted several times, in whatever spelling, are numbered in the order in which they
are wanted: the first is kept, the second gets a 2, the third a 3.  What is wanted between them can
get in the way of this.  If `Item2` is wanted as well, it takes the name that the second `Item`
would have, or finds it taken.

Nothing else can get in the way.  A wanted name becomes itself or itself with a number behind it
(`IsForm`), and two such forms of different names can only be the same if one of the names is the
other with digits behind it (`Unrelated.sameName_eq_false`).  So names that are unrelated in this
sense do not see each other: the claims of a family within a list of claims come to the same as its
claims alone (`filter_zip_claimAll`), and so do the claims of all the others.  Alone, a family is
counted through (`zip_claimAll_namesakes`), because at any time its first names are in use and no
more of them (`HoldsFirst`).
-/

set_option autoImplicit false

namespace Entigram

/-! ## Digits behind a text -/

/-- The second text is the first one with one or more digits behind it. -/
def Text.ExtendedByDigits (s t : String) : Prop :=
  ∃ digits : List Char, digits ≠ [] ∧ (∀ c ∈ digits, c.isDigit = true) ∧
    t = s ++ String.ofList digits

/-- What stands behind the first text in the second one tells whether it is digits. -/
theorem Text.extendedByDigits_iff {s t : String} : ExtendedByDigits s t ↔
    s.toList <+: t.toList ∧ t.toList.drop s.toList.length ≠ [] ∧
      (t.toList.drop s.toList.length).all Char.isDigit = true := by
  rw [List.all_eq_true]
  constructor
  · rintro ⟨digits, hne, hdigits, rfl⟩
    rw [String.toList_append, String.toList_ofList, List.drop_left]
    exact ⟨List.prefix_append _ _, hne, hdigits⟩
  · rintro ⟨⟨digits, hdigits⟩, hne, hall⟩
    rw [← hdigits, List.drop_left] at hne hall
    refine ⟨digits, hne, hall, ?_⟩
    rw [← String.toList_inj, String.toList_append, String.toList_ofList, hdigits]

/-- Digits behind a text, if there are any, extend it. -/
theorem Text.eq_or_extendedByDigits {s t : String} {digits : List Char}
    (hdigits : ∀ c ∈ digits, c.isDigit = true) (h : t.toList = s.toList ++ digits) :
    t = s ∨ ExtendedByDigits s t := by
  by_cases hnil : digits = []
  · left
    rw [← String.toList_inj, h, hnil, List.append_nil]
  · refine .inr ⟨digits, hnil, hdigits, ?_⟩
    rw [← String.toList_inj, h, String.toList_append, String.toList_ofList]

instance (s t : String) : Decidable (Text.ExtendedByDigits s t) :=
  decidable_of_iff _ Text.extendedByDigits_iff.symm

namespace Naming

open Text UsedNames

/-! ## Forms of a wanted name -/

/-- Folded, a form of a name is the name with digits behind it or with nothing. -/
theorem IsForm.exists_digits {wanted name : String} (h : IsForm wanted name) :
    ∃ digits : List Char, (∀ c ∈ digits, c.isDigit = true) ∧
      (fold name).toList = (fold wanted).toList ++ digits := by
  rcases h with rfl | ⟨k, -, rfl⟩
  · exact ⟨[], fun c hc => absurd hc List.not_mem_nil, (List.append_nil _).symm⟩
  · refine ⟨Nat.toDigits 10 k, fun c hc =>
      Nat.isDigit_of_mem_toDigits (by decide) (by decide) hc, ?_⟩
    rw [fold_numbered, String.toList_append, Nat.toString_eq_ofList_toDigits,
      String.toList_ofList]

/-- Neither name is the other one, nor the other one with digits behind it, in any spelling. -/
structure Unrelated (a b : String) : Prop where
  name : sameName a b = false
  left : ¬ExtendedByDigits (fold a) (fold b)
  right : ¬ExtendedByDigits (fold b) (fold a)

namespace Unrelated

variable {a b x y : String}

theorem symm (h : Unrelated a b) : Unrelated b a :=
  ⟨(sameName_comm b a).trans h.name, h.right, h.left⟩

/-- **Forms of unrelated names are never the same.** -/
theorem sameName_eq_false (h : Unrelated a b) (hx : IsForm a x) (hy : IsForm b y) :
    sameName x y = false := by
  refine Bool.eq_false_iff.2 fun hxy => ?_
  obtain ⟨ds, hds, hx⟩ := hx.exists_digits
  obtain ⟨es, hes, hy⟩ := hy.exists_digits
  rw [← sameName_iff.1 hxy, hx] at hy
  have hname : fold a ≠ fold b := fun heq =>
    absurd (sameName_iff.2 heq) (Bool.eq_false_iff.1 h.name)
  -- the longer one of the two names is the shorter one with some of the digits
  rcases List.append_eq_append_iff.1 hy with ⟨cs, hb, rfl⟩ | ⟨cs, ha, rfl⟩
  · have hcs : ∀ c ∈ cs, c.isDigit = true := fun c hc => hds c (List.mem_append_left es hc)
    rcases eq_or_extendedByDigits hcs hb with heq | hext
    · exact hname heq.symm
    · exact h.left hext
  · have hcs : ∀ c ∈ cs, c.isDigit = true := fun c hc => hes c (List.mem_append_left ds hc)
    rcases eq_or_extendedByDigits hcs ha with heq | hext
    · exact hname heq
    · exact h.right hext

end Unrelated

namespace UsedNames

/-! ## Families within a list of claims -/

variable {u v : UsedNames} {wanted base : String}

theorem contains_congr {a b : String} (h : sameName a b = true) (u : UsedNames) :
    u.contains a = u.contains b := by
  rw [Bool.eq_iff_iff, contains_iff, contains_iff, sameName_iff.1 h]

theorem isForm_freeName (u : UsedNames) (wanted : String) : IsForm wanted (u.freeName wanted) :=
  Becomes.isForm (freeName_eq_iff.1 rfl)

/-- What a name becomes depends on which of its forms are taken, and on nothing else. -/
theorem freeName_congr (h : ∀ name, IsForm wanted name → u.contains name = v.contains name) :
    u.freeName wanted = v.freeName wanted := by
  have hbecomes : Becomes (fun x => v.contains x = true) wanted (v.freeName wanted) :=
    freeName_eq_iff.1 rfl
  rw [freeName_eq_iff]
  exact hbecomes.of_forms fun x hx => by rw [h x hx]

/-- **A family within a list of claims is named as if it were alone**, if its names are unrelated to
those of the others. -/
theorem filter_zip_claimAll {α : Type} (want : α → String) (family : α → Bool) {xs : List α}
    (hfamily : ∀ x ∈ xs, ∀ y ∈ xs, family x = true → family y = false →
      Unrelated (want x) (want y))
    (hforms : ∀ x ∈ xs, family x = true → ∀ name, IsForm (want x) name →
      u.contains name = v.contains name) :
    (xs.zip (u.claimAll (xs.map want)).1).filter (fun p => family p.1) =
      (xs.filter family).zip (v.claimAll ((xs.filter family).map want)).1 := by
  induction xs generalizing u v with
  | nil => rfl
  | cons x xs ih =>
    obtain ⟨hx, hxs⟩ := List.forall_mem_cons.1 hforms
    have hrest : ∀ y ∈ xs, ∀ z ∈ xs, family y = true → family z = false →
        Unrelated (want y) (want z) := fun y hy z hz =>
      hfamily y (List.mem_cons_of_mem x hy) z (List.mem_cons_of_mem x hz)
    simp only [List.map_cons, claimAll_cons, List.zip_cons_cons, List.filter_cons]
    cases hmember : family x with
    | true =>
      have hname : (u.claim (want x)).1 = (v.claim (want x)).1 := freeName_congr (hx hmember)
      simp only [↓reduceIte, List.map_cons, claimAll_cons, List.zip_cons_cons, hname]
      rw [ih hrest fun y hy hfy name hform => ?_]
      -- both have taken the same name, so they still agree
      rw [Bool.eq_iff_iff, contains_claim, contains_claim, hname, hxs y hy hfy name hform]
    | false =>
      simp only [Bool.false_eq_true, ↓reduceIte]
      refine ih hrest fun y hy hfy name hform => ?_
      -- what the other one has taken is not asked for by the family
      have hother : sameName (u.claim (want x)).1 name = false :=
        (hfamily y (List.mem_cons_of_mem x hy) x List.mem_cons_self hfy hmember).symm
          |>.sameName_eq_false (u.isForm_freeName (want x)) hform
      rw [Bool.eq_iff_iff, contains_claim, hother, hxs y hy hfy name hform]
      simp

/-! ## A family alone -/

/-- The name of the `k`-th of several namesakes, counted from one: the first has its name unchanged,
and the others have their numbers behind it. -/
def ordinal (name : String) (k : Nat) : String := if k ≤ 1 then name else numbered name k

theorem sameName_ordinal {a b : String} (h : sameName a b = true) (k : Nat) :
    sameName (ordinal a k) (ordinal b k) = true := by
  rw [ordinal, ordinal]
  split
  · exact h
  · rw [sameName_iff, fold_numbered, fold_numbered, sameName_iff.1 h]

/-- Namesakes with different numbers have different names. -/
theorem eq_of_sameName_ordinal {j k : Nat} (hj : 1 ≤ j) (hk : 1 ≤ k)
    (h : sameName (ordinal base j) (ordinal base k) = true) : j = k := by
  rw [sameName_iff, ordinal, ordinal] at h
  split at h
  · split at h
    · omega
    · exact absurd h.symm (fold_numbered_ne base k)
  · split at h
    · exact absurd h (fold_numbered_ne base j)
    · exact fold_numbered_inj h

/-- Of the names that namesakes of `base` are given, the first `n` are in use and no more. -/
def HoldsFirst (u : UsedNames) (base : String) (n : Nat) : Prop :=
  ∀ k, 1 ≤ k → (u.contains (ordinal base k) = true ↔ k ≤ n)

theorem holdsFirst_empty (base : String) : HoldsFirst empty base 0 := by
  intro k hk
  rw [contains_empty]
  exact ⟨fun h => absurd h Bool.false_ne_true, by omega⟩

namespace HoldsFirst

variable {n : Nat} {name : String}

/-- The next namesake is given the next number. -/
theorem freeName_eq (h : HoldsFirst u base n) (hname : sameName name base = true) :
    u.freeName name = ordinal name (n + 1) := by
  have hordinal : ∀ k, 1 ≤ k → (u.contains (ordinal name k) = true ↔ k ≤ n) := fun k hk => by
    rw [contains_congr (sameName_ordinal hname k), h k hk]
  have hnumbered : ∀ k, 2 ≤ k → (u.contains (numbered name k) = true ↔ k ≤ n) := fun k hk => by
    rw [← hordinal k (by omega), ordinal, if_neg (by omega)]
  have hkept : u.contains name = true ↔ 1 ≤ n := hordinal 1 (Nat.le_refl 1)
  rw [freeName_eq_iff]
  cases n with
  | zero => exact .kept (by simp [hkept])
  | succ n =>
    rw [ordinal, if_neg (by omega)]
    exact .counted (n + 2) (hkept.2 (by omega)) (by omega)
      (fun j hj hlt => (hnumbered j hj).2 (by omega))
      fun htaken => absurd ((hnumbered _ (by omega)).1 htaken) (by omega)

/-- And then one more of the names is in use. -/
theorem claim (h : HoldsFirst u base n) (hname : sameName name base = true) :
    HoldsFirst (u.claim name).2 base (n + 1) := by
  have hclaimed : (u.claim name).1 = ordinal name (n + 1) := h.freeName_eq hname
  intro k hk
  rw [contains_claim, h k hk, hclaimed, sameName_congr (sameName_ordinal hname (n + 1))]
  constructor
  · rintro (hle | hsame)
    · omega
    · exact Nat.le_of_eq (eq_of_sameName_ordinal (by omega) hk hsame).symm
  · intro hle
    rcases Nat.lt_or_eq_of_le hle with hlt | rfl
    · exact .inl (by omega)
    · exact .inr (sameName_refl _)

end HoldsFirst

/-- **Namesakes are counted through**, each in its own spelling. -/
theorem zip_claimAll_namesakes {α : Type} (want : α → String) {xs : List α} {n : Nat}
    (h : HoldsFirst u base n) (hxs : ∀ x ∈ xs, sameName (want x) base = true) :
    xs.zip (u.claimAll (xs.map want)).1 =
      xs.mapIdx fun i x => (x, ordinal (want x) (n + i + 1)) := by
  induction xs generalizing u n with
  | nil => rfl
  | cons x xs ih =>
    obtain ⟨hx, hxs⟩ := List.forall_mem_cons.1 hxs
    have hclaimed : (u.claim (want x)).1 = ordinal (want x) (n + 1) := h.freeName_eq hx
    have hnumbers : ∀ i, n + 1 + i + 1 = n + (i + 1) + 1 := fun i => by omega
    rw [List.map_cons, claimAll_cons, List.zip_cons_cons, ih (h.claim hx) hxs, hclaimed,
      List.mapIdx_cons]
    simp only [hnumbers, Nat.add_zero]

end UsedNames

/-! ## The classes of a family -/

namespace ClassNames

theorem classes_eq (s : Schema) :
    (ofSchema s).classes = (empty.claimAll (s.entities.map fun e => pascalCase e.name)).1 := rfl

/-- Does the entity want the class name, in any spelling? -/
def wants (base : String) (e : Entity) : Bool := sameName (pascalCase e.name) base

/-- **Entities that want one class name are counted through, and nobody else notices.**  Suppose
that no entity wants the name with digits behind it, and that the name itself is not what another
entity wants with digits behind it, in any spelling.  Then of the entities that want the name, in
the order of the schema, the first is given it in its own spelling, and every other one in its own
spelling with its number in this order behind it.  The classes of all other entities are those that
they have in the schema without these. -/
theorem classes_of_namesakes (s : Schema) (base : String)
    (h : ∀ e ∈ s.entities, ¬ExtendedByDigits (fold base) (fold (pascalCase e.name)) ∧
      ¬ExtendedByDigits (fold (pascalCase e.name)) (fold base)) :
    (s.entities.zip (ofSchema s).classes).filter (fun p => wants base p.1) =
        (s.entities.filter (wants base)).mapIdx
          (fun i e => (e, ordinal (pascalCase e.name) (i + 1))) ∧
      (s.entities.zip (ofSchema s).classes).filter (fun p => !wants base p.1) =
        (s.entities.filter fun e => !wants base e).zip
          (ofSchema { s with entities := s.entities.filter fun e => !wants base e }).classes := by
  have hunrelated : ∀ e ∈ s.entities, ∀ e' ∈ s.entities, wants base e = true →
      wants base e' = false → Unrelated (pascalCase e.name) (pascalCase e'.name) := by
    intro e _ e' he' hwants hother
    obtain ⟨hbehind, hbefore⟩ := h e' he'
    rw [← sameName_iff.1 hwants] at hbehind hbefore
    refine ⟨?_, hbehind, hbefore⟩
    rw [sameName_congr hwants, sameName_comm]
    exact hother
  have hothers : ∀ e ∈ s.entities, ∀ e' ∈ s.entities, (!wants base e) = true →
      (!wants base e') = false → Unrelated (pascalCase e.name) (pascalCase e'.name) := by
    intro e he e' he' hother hwants
    exact (hunrelated e' he' e he (by simpa using hwants) (by simpa using hother)).symm
  have hnamesakes : ∀ e ∈ s.entities.filter (wants base),
      sameName (pascalCase e.name) base = true := fun e he => (List.mem_filter.1 he).2
  rw [classes_eq, classes_eq]
  constructor
  · rw [filter_zip_claimAll (fun e : Entity => pascalCase e.name) (wants base) hunrelated
        fun _ _ _ _ _ => rfl,
      zip_claimAll_namesakes (fun e : Entity => pascalCase e.name) (holdsFirst_empty base)
        hnamesakes]
    simp only [Nat.zero_add]
  · exact filter_zip_claimAll (fun e : Entity => pascalCase e.name) (fun e => !wants base e)
      hothers fun _ _ _ _ _ => rfl

/-- Shelves with books in several spellings, and with loans that have numbers of their own. -/
def shelves : Schema where
  entities := [⟨"BOOK", []⟩, ⟨"LOAN_2", []⟩, ⟨"book_", []⟩, ⟨"LOAN", []⟩, ⟨"bo-ok", []⟩,
    ⟨"loan", []⟩, ⟨"Book", []⟩]

theorem classes_of_namesakes_shelves :
    (∀ e ∈ shelves.entities, ¬ExtendedByDigits (fold "BOOK") (fold (pascalCase e.name)) ∧
      ¬ExtendedByDigits (fold (pascalCase e.name)) (fold "BOOK")) ∧
    (shelves.entities.zip (ofSchema shelves).classes).filter (fun p => wants "BOOK" p.1) =
      [(⟨"BOOK", []⟩, "Book"), (⟨"book_", []⟩, "Book2"), (⟨"bo-ok", []⟩, "BoOk3"),
        (⟨"Book", []⟩, "Book4")] ∧
    (shelves.entities.zip (ofSchema shelves).classes).filter (fun p => !wants "BOOK" p.1) =
      [(⟨"LOAN_2", []⟩, "Loan2"), (⟨"LOAN", []⟩, "Loan"), (⟨"loan", []⟩, "Loan3")] := by
  have h : ∀ e ∈ shelves.entities, ¬ExtendedByDigits (fold "BOOK") (fold (pascalCase e.name)) ∧
      ¬ExtendedByDigits (fold (pascalCase e.name)) (fold "BOOK") := by decide +kernel
  obtain ⟨hbooks, hothers⟩ := classes_of_namesakes shelves "BOOK" h
  exact ⟨h, hbooks.trans (by decide +kernel), hothers.trans (by decide +kernel)⟩

end ClassNames
end Naming
end Entigram
