import Entigram.Classification
import Entigram.Naming.ClassNames
import Entigram.Proofs.Attempt
import Entigram.Proofs.Naming.Fresh

/-!
# What a name stands for

A name can be looked up twice: in the schema, where it stands for the first entity declared with it,
and among the class names, where it stands for that entity's class.  This file shows that the two
agree.

* `Schema.entityIndex?` is the one lookup that everything else follows (`entity?_eq_bind`,
  `isSome_entityIndex?`).  It does not see the case of a name and sees everything else
  (`entityIndex?_congr`, `sameName_of_entityIndex?`).
* `get?_ofSchema` — a name's class stands at the position of its entity.
* `get?_eq_class_iff` — as no two classes have one name (`nodup_classes`), only the spellings of an
  entity's own name lead to its class.
* `resolve_eq_ok_iff` and `fault?_resolve` — resolving a name finds its class, and fails for names
  that are not declared and no others.
-/

set_option autoImplicit false

namespace Entigram

/-- Spellings of one name are the same names. -/
theorem sameName_congr {a b : String} (h : sameName a b = true) (c : String) :
    sameName a c = sameName b c := by
  rw [sameName, sameName, sameName_iff.1 h]

namespace Schema

/-! ## The position of an entity -/

theorem isSome_entityIndex? (s : Schema) (name : String) :
    (s.entityIndex? name).isSome = s.declares name := by
  rw [entityIndex?_eq, declares_eq, List.findIdx?_isSome]

theorem entityIndex?_eq_none_iff {s : Schema} {name : String} :
    s.entityIndex? name = none ↔ s.declares name = false := by
  rw [← isSome_entityIndex?, Option.isSome_eq_false_iff, Option.isNone_iff_eq_none]

theorem entity?_eq_bind (s : Schema) (name : String) :
    s.entity? name = (s.entityIndex? name).bind fun i => s.entities[i]? :=
  List.find?_eq_bind_findIdx?_getElem?

/-- The owner stands at the owner's position. -/
theorem owner?_eq_bind (s : Schema) (e : Entity) :
    s.owner? e = (s.ownerIndex? e).bind fun i => s.entities[i]? := by
  rw [owner?, ownerIndex?, Option.bind_assoc]
  simp only [entity?_eq_bind]

/-- At a name's position stands an entity with that name. -/
theorem exists_of_entityIndex? {s : Schema} {name : String} {i : Nat}
    (h : s.entityIndex? name = some i) :
    ∃ e, s.entities[i]? = some e ∧ sameName e.name name = true := by
  rw [entityIndex?_eq, List.findIdx?_eq_some_iff_getElem] at h
  obtain ⟨hi, hname, -⟩ := h
  exact ⟨_, List.getElem?_eq_getElem hi, hname⟩

/-- A name's position is that of the first entity with the name. -/
theorem entityIndex?_congr {s : Schema} {a b : String} (h : sameName a b = true) :
    s.entityIndex? a = s.entityIndex? b := by
  rw [entityIndex?, entityIndex?, sameName_iff.1 h]

/-- Names that stand for one entity are spellings of each other. -/
theorem sameName_of_entityIndex? {s : Schema} {a b : String} {i : Nat}
    (ha : s.entityIndex? a = some i) (hb : s.entityIndex? b = some i) : sameName a b = true := by
  obtain ⟨e, he, hea⟩ := exists_of_entityIndex? ha
  obtain ⟨e', he', heb⟩ := exists_of_entityIndex? hb
  obtain rfl : e = e' := by simpa [he] using he'
  exact sameName_trans ((sameName_comm a e.name).trans hea) heb

end Schema

namespace Naming
namespace ClassNames

open Text

/-! ## The class of an entity -/

@[simp] theorem length_classes (s : Schema) :
    (ofSchema s).classes.length = s.entities.length := by
  simp [ofSchema]

/-- **The classes of a schema are distinct**, whatever their case. -/
theorem nodup_fold_classes (s : Schema) : ((ofSchema s).classes.map fold).Nodup :=
  UsedNames.nodup_claimAll _ _

theorem nodup_classes (s : Schema) : (ofSchema s).classes.Nodup :=
  (nodup_fold_classes s).of_map fold

theorem classes_inj {s : Schema} {i j : Nat} {c : String}
    (hi : (ofSchema s).classes[i]? = some c) (hj : (ofSchema s).classes[j]? = some c) : i = j := by
  obtain ⟨hlt, -⟩ := List.getElem?_eq_some_iff.1 hi
  exact (List.getElem?_inj hlt (nodup_classes s)).1 (hi.trans hj.symm)

/-- Every entity has a class. -/
theorem exists_class {s : Schema} {i : Nat} {e : Entity} (h : s.entities[i]? = some e) :
    ∃ c, (ofSchema s).classes[i]? = some c := by
  obtain ⟨hlt, -⟩ := List.getElem?_eq_some_iff.1 h
  exact ⟨_, List.getElem?_eq_getElem (by simpa using hlt)⟩

/-- A name's class stands where the name first stands among the names. -/
theorem get?_eq_bind {c : ClassNames} (h : c.names.length = c.classes.length) (name : String) :
    c.get? name =
      (c.names.findIdx? fun n => sameName n name).bind fun i => c.classes[i]? := by
  have hfst : (c.names.zip c.classes).map Prod.fst = c.names := List.map_fst_zip (by omega)
  have hsnd : (c.names.zip c.classes).map Prod.snd = c.classes := List.map_snd_zip (by omega)
  rw [get?_eq, List.find?_eq_bind_findIdx?_getElem?, Option.map_bind]
  conv_rhs => rw [← hfst, List.findIdx?_map]
  refine Option.bind_congr fun i _ => ?_
  rw [Function.comp_apply, ← List.getElem?_map, hsnd]

/-- **The two lookups agree**: a name stands for the class of the entity that it stands for. -/
theorem get?_ofSchema (s : Schema) (name : String) :
    (ofSchema s).get? name = (s.entityIndex? name).bind fun i => (ofSchema s).classes[i]? := by
  rw [get?_eq_bind (by simp [ofSchema])]
  congr 1
  rw [ofSchema, List.findIdx?_map, Schema.entityIndex?_eq]
  rfl

theorem get?_eq_none_iff {s : Schema} {name : String} :
    (ofSchema s).get? name = none ↔ s.declares name = false := by
  rw [← Schema.entityIndex?_eq_none_iff, get?_ofSchema]
  cases h : s.entityIndex? name with
  | none => simp
  | some i =>
    obtain ⟨e, he, -⟩ := Schema.exists_of_entityIndex? h
    obtain ⟨c, hc⟩ := exists_class he
    simp [hc]

/-- Only the spellings of an entity's name lead to its class. -/
theorem get?_eq_class_iff {s : Schema} {name other : String} {j : Nat} {c : String}
    (hj : s.entityIndex? other = some j) (hc : (ofSchema s).classes[j]? = some c) :
    (ofSchema s).get? name = some c ↔ sameName name other = true := by
  rw [get?_ofSchema, Option.bind_eq_some_iff]
  constructor
  · rintro ⟨i, hi, hci⟩
    obtain rfl : i = j := classes_inj hci hc
    exact Schema.sameName_of_entityIndex? hi hj
  · intro h
    exact ⟨j, (Schema.entityIndex?_congr h).trans hj, hc⟩

/-- No name leads to the class of an entity that is not the first with its name. -/
theorem get?_ne_class {s : Schema} {name c : String} {e : Entity} {j : Nat}
    (he : s.entities[j]? = some e) (hc : (ofSchema s).classes[j]? = some c)
    (hj : s.entityIndex? e.name ≠ some j) : (ofSchema s).get? name ≠ some c := by
  rw [get?_ofSchema]
  intro h
  obtain ⟨i, hi, hci⟩ := Option.bind_eq_some_iff.1 h
  obtain rfl : i = j := classes_inj hci hc
  obtain ⟨e', he', hname⟩ := Schema.exists_of_entityIndex? hi
  obtain rfl : e = e' := by simpa [he] using he'
  exact hj ((Schema.entityIndex?_congr hname).trans hi)

/-! ## Resolving -/

theorem resolve_eq_ok_iff {c : ClassNames} {name cls : String} {r : Option Relationship} :
    c.resolve name r = .ok cls ↔ c.get? name = some cls := by
  rw [resolve]
  cases c.get? name <;> simp

/-- **Resolving fails for undeclared names only**, and says which name it was. -/
theorem fault?_resolve (s : Schema) (name : String) (r : Option Relationship) :
    Attempt.fault? ((ofSchema s).resolve name r) =
      if s.declares name then none else some { name, relationship := r } := by
  rw [resolve]
  cases hd : s.declares name with
  | false => rw [get?_eq_none_iff.2 hd]; rfl
  | true =>
    cases hc : (ofSchema s).get? name with
    | some c => rfl
    | none => rw [get?_eq_none_iff.1 hc] at hd; cases hd

end ClassNames
end Naming
end Entigram
