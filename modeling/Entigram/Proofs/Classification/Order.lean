import Mathlib.Data.Multiset.Basic
import Entigram.Proofs.Classification

/-!
# What the kinds do not depend on

The kind of an entity is told by lists: the attributes of the entity and the relationships of the
schema.  Their order says nothing about it, nor do the types of the attributes, and the other
entities are not looked at at all (`kind_rearranged`).

Two tests need a reason.

* An entity is owned if its key names are its foreign-key names, each as often.  Names can be
  repeated, and an attribute can have both flags or one of them, so neither positions nor sets of
  names will do.  What is kept by another order is the multiset of the names with a flag
  (`Rearranged.names_perm`), since flags and names stay together.
* It is the *first* one-to-one relationship into the entity that counts, but only that there is
  one.

So ownership can also be found by searching for that relationship and sorting both lists of names
(`isOwned_iff_sorted`).
-/

set_option autoImplicit false

namespace Entigram

/-! ## Entities up to order and types -/

/-- The attribute without its type. -/
def Attribute.untyped (a : Attribute) : Attribute := { a with dataType := "" }

namespace Entity

/-- The same entity with its attributes in any order, and of any types. -/
structure Rearranged (e f : Entity) : Prop where
  name : e.name = f.name
  attributes : (e.attributes.map Attribute.untyped).Perm (f.attributes.map Attribute.untyped)

namespace Rearranged

variable {e f : Entity}

/-- The attributes that pass a test, if the test does not look at types. -/
theorem filter_perm (h : e.Rearranged f) (p : Attribute → Bool) (hp : ∀ a, p a.untyped = p a) :
    ((e.attributes.filter p).map Attribute.untyped).Perm
      ((f.attributes.filter p).map Attribute.untyped) := by
  have htest : p ∘ Attribute.untyped = p := funext hp
  have hfilter : ∀ as : List Attribute, (as.filter p).map Attribute.untyped =
      (as.map Attribute.untyped).filter p := fun as => by rw [List.filter_map, htest]
  rw [hfilter, hfilter]
  exact h.attributes.filter p

/-- As many attributes pass the test, -/
theorem length_filter (h : e.Rearranged f) (p : Attribute → Bool) (hp : ∀ a, p a.untyped = p a) :
    (e.attributes.filter p).length = (f.attributes.filter p).length := by
  simpa using (h.filter_perm p hp).length_eq

/-- and they have the same names, each as often. -/
theorem names_perm (h : e.Rearranged f) (p : Attribute → Bool) (hp : ∀ a, p a.untyped = p a) :
    ((e.attributes.filter p).map (·.name)).Perm ((f.attributes.filter p).map (·.name)) := by
  have hname : ((·.name) : Attribute → String) ∘ Attribute.untyped = (·.name) := rfl
  simpa [hname] using (h.filter_perm p hp).map (·.name)

theorem length_primaryKeys (h : e.Rearranged f) :
    e.primaryKeys.length = f.primaryKeys.length :=
  h.length_filter _ fun _ => rfl

theorem isJoinTable_eq (h : e.Rearranged f) : e.isJoinTable = f.isJoinTable := by
  have hforeign : e.foreignKeys.length = f.foreignKeys.length := h.length_filter _ fun _ => rfl
  have huntyped : ∀ as : List Attribute, (as.map Attribute.untyped).all (·.isForeignKey) =
      as.all (·.isForeignKey) := fun as => List.all_map
  have hall : e.primaryKeys.all (·.isForeignKey) = f.primaryKeys.all (·.isForeignKey) := by
    rw [← huntyped e.primaryKeys, ← huntyped f.primaryKeys]
    exact (h.filter_perm _ fun _ => rfl).all_eq
  rw [isJoinTable, isJoinTable, h.length_primaryKeys, hforeign, hall]

theorem keysAreForeign_eq (h : e.Rearranged f) : e.keysAreForeign = f.keysAreForeign := by
  have hprimary := h.names_perm (·.isPrimaryKey) fun _ => rfl
  have hforeign := h.names_perm (·.isForeignKey) fun _ => rfl
  rw [Bool.eq_iff_iff, keysAreForeign_iff, keysAreForeign_iff]
  exact ⟨fun hkeys => (hprimary.symm.trans hkeys).trans hforeign,
    fun hkeys => (hprimary.trans hkeys).trans hforeign.symm⟩

end Rearranged
end Entity

namespace Schema

variable {s t : Schema} {e f : Entity}

theorem isOwned_rearranged (hentity : e.Rearranged f)
    (hrelationships : s.relationships.Perm t.relationships) : s.isOwned e = t.isOwned f := by
  rw [isOwned, isOwned, hentity.keysAreForeign_eq, hasOneToOneInto, hasOneToOneInto, hentity.name,
    hrelationships.any_eq]

/-! ## Ownership -/

theorem hasOneToOneInto_iff {name : String} : s.hasOneToOneInto name = true ↔
    ∃ r ∈ s.relationships, sameName r.target name = true ∧
      exactlyOne r.sourceCardinality = true ∧ exactlyOne r.targetCardinality = true := by
  rw [hasOneToOneInto_eq, List.any_eq_true]
  refine exists_congr fun r => and_congr_right fun _ => ?_
  rw [Relationship.isOneToOne, Bool.and_eq_true, Bool.and_eq_true]
  tauto

/-- The names of attributes in ascending order. -/
def sortedNames (as : List Attribute) : List String :=
  (as.map (·.name)).mergeSort fun a b => decide (a ≤ b)

/-- Sorted lists of names are the same if one list of names rearranges the other. -/
theorem sortedNames_eq_iff {as bs : List Attribute} :
    sortedNames as = sortedNames bs ↔ (as.map (·.name)).Perm (bs.map (·.name)) := by
  have hsorted : ∀ cs : List Attribute, (sortedNames cs).Pairwise (· ≤ ·) := fun cs => by
    have hpairs : (sortedNames cs).Pairwise fun a b => decide (a ≤ b) = true :=
      List.pairwise_mergeSort (fun a b c => by simpa using String.le_trans)
        (fun a b => by simpa using String.le_total a b) _
    simp only [decide_eq_true_eq] at hpairs
    exact hpairs
  have hperm : ∀ cs : List Attribute, (sortedNames cs).Perm (cs.map (·.name)) :=
    fun cs => List.mergeSort_perm _ _
  constructor
  · intro h
    exact (hperm as).symm.trans (h ▸ hperm bs)
  · intro h
    exact (((hperm as).trans h).trans (hperm bs).symm).eq_of_pairwise
      (fun _ _ _ _ => String.le_antisymm) (hsorted as) (hsorted bs)

/-- Ownership, found by a search and by sorting. -/
theorem isOwned_iff_sorted : s.isOwned e = true ↔
    (s.relationships.find? fun r => sameName r.target e.name && r.isOneToOne).isSome = true ∧
      sortedNames e.primaryKeys = sortedNames e.foreignKeys := by
  rw [sortedNames_eq_iff, ← Entity.keysAreForeign_iff, List.find?_isSome, isOwned,
    Bool.and_eq_true, and_comm, hasOneToOneInto_eq, List.any_eq_true]
  refine and_congr_left fun _ => exists_congr fun r => and_congr_right fun _ => ?_
  rw [Bool.and_comm]

/-! ## Kinds -/

/-- **The order does not tell the kind.**  An entity is of the same kind when its attributes are put
in another order and given other types, the relationships of the schema are put in another order,
and the schema has whatever entities besides.  It is owned exactly if some relationship into it is
one-to-one and its key names are its foreign-key names as multisets; and one finds this out as well
by searching for the first such relationship and comparing the sorted names. -/
theorem kind_rearranged (hentity : e.Rearranged f)
    (hrelationships : s.relationships.Perm t.relationships) :
    s.kind e = t.kind f ∧
    (s.isOwned e = true ↔
      (∃ r ∈ s.relationships, sameName r.target e.name = true ∧
        exactlyOne r.sourceCardinality = true ∧ exactlyOne r.targetCardinality = true) ∧
      ((e.primaryKeys.map (·.name) : List String) : Multiset String) =
        (e.foreignKeys.map (·.name) : List String)) ∧
    (s.isOwned e = true ↔
      (s.relationships.find? fun r => sameName r.target e.name && r.isOneToOne).isSome = true ∧
      sortedNames e.primaryKeys = sortedNames e.foreignKeys) := by
  refine ⟨?_, ?_, isOwned_iff_sorted⟩
  · have howned := isOwned_rearranged hentity hrelationships
    have hkeys := hentity.length_primaryKeys
    have hempty : e.primaryKeys.isEmpty = f.primaryKeys.isEmpty := by
      rw [Bool.eq_iff_iff, List.isEmpty_iff_length_eq_zero, List.isEmpty_iff_length_eq_zero, hkeys]
    rw [kind, kind, needsCompositeKey, needsCompositeKey, isKeyless, isKeyless, howned, hkeys,
      hempty, hentity.isJoinTable_eq]
  · rw [isOwned, Bool.and_eq_true, and_comm, hasOneToOneInto_iff, Entity.keysAreForeign_iff,
      Multiset.coe_eq_coe]

/-- Two attributes of a badge have one name, one of them for the key and one as a foreign key. -/
def badge : Entity :=
  ⟨"BADGE", [⟨"person_id", "int", true, true⟩, ⟨"issue", "int", true, false⟩,
    ⟨"colour", "string", false, false⟩, ⟨"issue", "int", false, true⟩]⟩

/-- The badge with its attributes in another order and of other types. -/
def badgeRearranged : Entity :=
  ⟨"BADGE", [⟨"issue", "string", false, true⟩, ⟨"person_id", "uuid", true, true⟩,
    ⟨"issue", "int", true, false⟩, ⟨"colour", "string", false, false⟩]⟩

/-- The first relationship into the badge is not one-to-one. -/
def staff : Schema where
  entities := [⟨"PERSON", [⟨"id", "int", true, false⟩]⟩, badge]
  relationships := [⟨"DOOR", "BADGE", "\x7do", "o\x7b", "opens to"⟩,
    ⟨"PERSON", "badge", "||", "||", "wears"⟩]

/-- The relationships the other way round, among other entities. -/
def staffRearranged : Schema where
  entities := [badgeRearranged, ⟨"DOOR", []⟩, ⟨"PERSON", []⟩]
  relationships := staff.relationships.reverse

theorem kind_rearranged_badge : badge.Rearranged badgeRearranged ∧
    staff.relationships.Perm staffRearranged.relationships ∧
    (badge.primaryKeys.map (·.name), badge.foreignKeys.map (·.name)) =
      (["person_id", "issue"], ["person_id", "issue"]) ∧
    (badgeRearranged.primaryKeys.map (·.name), badgeRearranged.foreignKeys.map (·.name)) =
      (["person_id", "issue"], ["issue", "person_id"]) ∧
    staff.kind badge = .owned ∧ staffRearranged.kind badgeRearranged = .owned := by
  have hbadge : badge.Rearranged badgeRearranged := ⟨rfl, by decide⟩
  have hstaff : staff.relationships.Perm staffRearranged.relationships :=
    (List.reverse_perm _).symm
  have hkind : staff.kind badge = .owned := by decide +kernel
  exact ⟨hbadge, hstaff, by decide, by decide, hkind,
    (kind_rearranged hbadge hstaff).1 ▸ hkind⟩

end Schema
end Entigram
