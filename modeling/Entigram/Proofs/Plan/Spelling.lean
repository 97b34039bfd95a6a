import Entigram.Proofs.Plan.Correspondence

/-!
# The spelling of endpoints

A relationship names its ends, and the case of these names never matters (`respelling_harmless`): a
diagram whose relationships are written with other spellings of the names is planned alike.  Only
what planning fails with quotes the relationship as it is written.

Two schemas that differ in spellings are gone through side by side.  The tests come out the same for
both spellings of a relationship, so what is picked by a test corresponds, entry by entry, and so
does the first of it (`rel_find?`).  Deduplication compares relationships with each other and not
with a given name; it keeps corresponding entries as well, because spellings of one name are the
same names in every comparison (`rel_firstPerName`).
-/

set_option autoImplicit false

namespace Entigram

/-! ## Spellings -/

/-- The same relationship, but for the case of the names of its ends. -/
structure Relationship.Respelled (r r' : Relationship) : Prop extends r.Alike r' where
  label : r.label = r'.label

/-- The same schema, but for the case of the names that its relationships mention. -/
structure Schema.Respelled (s t : Schema) : Prop where
  entities : s.entities = t.entities
  relationships : List.Forall₂ Relationship.Respelled s.relationships t.relationships

/-! ## Entries that correspond -/

section rel

variable {α β : Type} {R : α → β → Prop} {xs : List α} {ys : List β} {p : α → Bool} {q : β → Bool}

/-- What is found first corresponds. -/
theorem rel_find? (hpq : ∀ x y, R x y → p x = q y) (h : List.Forall₂ R xs ys) :
    Option.Rel R (xs.find? p) (ys.find? q) := by
  induction h with
  | nil => exact .none
  | @cons x y _ _ hxy _ ih =>
    rw [List.find?_cons, List.find?_cons, hpq x y hxy]
    cases q y with
    | true => exact .some hxy
    | false => exact ih

/-- Whether there is something of a form. -/
theorem any_eq_of_forall₂ (hpq : ∀ x y, R x y → p x = q y) (h : List.Forall₂ R xs ys) :
    xs.any p = ys.any q := by
  induction h with
  | nil => rfl
  | @cons x y _ _ hxy _ ih => rw [List.any_cons, List.any_cons, hpq x y hxy, ih]

/-- What is picked corresponds. -/
theorem rel_filter (hpq : ∀ x y, R x y → p x = q y) (h : List.Forall₂ R xs ys) :
    List.Forall₂ R (xs.filter p) (ys.filter q) :=
  List.rel_filter (fun x y hxy => Bool.eq_iff_iff.1 (hpq x y hxy)) h

end rel

namespace Plan

open Naming Attempt

/-- One relationship for a name is kept at the same places. -/
theorem rel_firstPerName {R : Relationship → Relationship → Prop} {endpoint : Relationship → String}
    (hR : ∀ r r', R r r' → sameName (endpoint r) (endpoint r') = true)
    {rs rs' : List Relationship} (h : List.Forall₂ R rs rs') :
    List.Forall₂ R (firstPerName endpoint rs) (firstPerName endpoint rs') := by
  induction h with
  | nil => exact .nil
  | @cons r r' _ _ hr _ ih =>
    rw [firstPerName_cons, firstPerName_cons]
    refine .cons hr (rel_filter (fun x x' hx => ?_) ih)
    rw [sameName_congr (hR x x' hx), sameName_comm, sameName_congr (hR r r' hr), sameName_comm]

/-! ## Schemas with other spellings -/

section respelled

variable {s t : Schema}

theorem isOwned_respelled (h : s.Respelled t) : s.isOwned = t.isOwned := by
  funext e
  have htest : ∀ r r' : Relationship, r.Respelled r' →
      (r.isOneToOne && sameName r.target e.name) = (r'.isOneToOne && sameName r'.target e.name) :=
    fun r r' hr => by rw [hr.isOneToOne_eq, sameName_congr hr.target]
  rw [Schema.isOwned, Schema.isOwned, Schema.hasOneToOneInto_eq, Schema.hasOneToOneInto_eq,
    any_eq_of_forall₂ htest h.relationships]

theorem ownerIndex?_respelled (h : s.Respelled t) : s.ownerIndex? = t.ownerIndex? := by
  funext e
  have hfirst : Option.Rel Relationship.Respelled (s.firstInto? e.name) (t.firstInto? e.name) :=
    rel_find? (fun _ _ hr => sameName_congr hr.target e.name) h.relationships
  rw [Schema.ownerIndex?, Schema.ownerIndex?]
  generalize s.firstInto? e.name = x, t.firstInto? e.name = y at hfirst ⊢
  cases hfirst with
  | none => rfl
  | some hr =>
    rw [Option.bind_some, Option.bind_some, Schema.entityIndex?_congr hr.source,
      Schema.entityIndex?, Schema.entityIndex?, h.entities]

/-- A group takes corresponding relationships. -/
theorem relationships_respelled (h : s.Respelled t) (e : Entity) (g : Group) :
    List.Forall₂ Relationship.Respelled (g.relationships s e) (g.relationships t e) := by
  rw [Group.relationships_eq, Group.relationships_eq,
    Group.admits_congr h.entities (isOwned_respelled h)]
  exact rel_firstPerName (fun r r' hr => hr.farEnd g)
    (rel_filter (fun r r' hr => hr.counts_eq t e g) h.relationships)

/-- Schemas that differ in spellings are planned from the same. -/
theorem corresponds_respelled (h : s.Respelled t) :
    Corresponds Relationship.Respelled s t where
  entities := h.entities
  isOwned := isOwned_respelled h
  ownerIndex? := ownerIndex?_respelled h
  relationships := relationships_respelled h

/-- **The spelling of endpoints never matters.**  If relationships name their ends in other
spellings, every entity is of the same kind and has the same owner.  Class plans and mapping are the
same, or both fail, in the same group of navigations and at the same relationship, which is quoted
as it is spelled.  The same holds of both sources and of everything that is reported. -/
theorem respelling_harmless (h : s.Respelled t) :
    s.kind = t.kind ∧ s.owner? = t.owner? ∧
    Attempt.Agree (LostAlike Relationship.Respelled) (entities s) (entities t) ∧
    (mapping s).Agree (Failure.Rel (LostAlike Relationship.Respelled)) (mapping t) ∧
    ∀ (style : CSharp.Style) (elapsed : String),
      (Generation.entities style elapsed s).Agree (Failure.Rel (LostAlike Relationship.Respelled))
          (Generation.entities style elapsed t) ∧
        (Generation.mapping style elapsed s).Agree (Failure.Rel (LostAlike Relationship.Respelled))
          (Generation.mapping style elapsed t) := by
  have hR : ∀ r r' : Relationship, r.Respelled r' → r.Alike r' := fun _ _ hr => hr.toAlike
  have hst := corresponds_respelled h
  exact ⟨hst.kind_eq, hst.owner?_eq, hst.entities_agree hR, hst.mapping_agree hR,
    hst.sources_agree hR⟩

end respelled

/-- A town whose streets belong to it. -/
def town : Schema where
  entities := [⟨"TOWN", [⟨"id", "int", true, false⟩]⟩,
    ⟨"STRASSE", [⟨"town_id", "int", true, true⟩]⟩]
  relationships := [⟨"TOWN", "STRASSE", "||", "||", "has"⟩]

/-- The town with names in small letters, one of which is written with fewer of them. -/
def townInSmallLetters : Schema where
  entities := town.entities
  relationships := [⟨"town", "straße", "||", "||", "has"⟩]

theorem respelling_harmless_town : ∃ m, (mapping town).result = .ok m ∧
    (mapping townInSmallLetters).result = .ok m ∧
    m.ownerships = [⟨"Town", "Strasse", "Strasse"⟩] := by
  have h : town.Respelled townInSmallLetters :=
    ⟨rfl, .cons ⟨⟨by decide +kernel, by decide +kernel, rfl, rfl⟩, rfl⟩ .nil⟩
  obtain ⟨-, -, -, ⟨-, hresult⟩, -⟩ := respelling_harmless h
  obtain ⟨-, m, -, hm⟩ := exists_plans (s := town) (by decide +kernel)
  rw [hm] at hresult
  refine ⟨m, hm, hresult.eq_ok, ?_⟩
  refine eq_of_map_toOption (·.ownerships) hm ?_
  decide +kernel

end Plan
end Entigram
