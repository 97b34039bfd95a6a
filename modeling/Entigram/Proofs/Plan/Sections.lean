import Entigram.Proofs.Plan.Keys
import Entigram.Proofs.Plan.Ownership

/-!
# The sections of a mapping and the kinds of entities

Every section of a mapping picks its entities by a test of its own, and none of them asks for an
entity's kind.  Still the sections are what the kinds say (`sections_by_kind`): the tests of query
surfaces, composite keys and keyless classes look at what comes before them, and so agree with the
precedence of `Schema.kind`.

Kinds exclude each other and classes tell their entities, so classes of different kinds are never
the same (`exists_kind_of_mem`).  It follows that a class is in one of these sections at most once,
and in none if it is owned.

The join tables are the exception.  Their section tests for a join table alone, so a join table that
is owned gets a key as well, if its key columns are two.  `configured_once_iff` says that nothing
else stands against every class being configured in one way, and `not_configuredOnce_theatre` is
the smallest case of it.
-/

set_option autoImplicit false

namespace Entigram

open Naming Attempt

namespace Plan

/-! ## Classes by kind -/

/-- The classes of the entities of some kinds, in the order of the schema. -/
def classesOf (s : Schema) (kinds : List Kind) : List (Option String) :=
  (s.entities.zipIdx.filter fun p => s.kind p.1 ∈ kinds).map fun p =>
    (ClassNames.ofSchema s).classes[p.2]?

theorem mem_classesOf_iff {s : Schema} {kinds : List Kind} {c : String} :
    some c ∈ classesOf s kinds ↔ ∃ (i : Nat) (e : Entity), s.entities[i]? = some e ∧
      (ClassNames.ofSchema s).classes[i]? = some c ∧ s.kind e ∈ kinds := by
  simp only [classesOf, List.mem_map, List.mem_filter, List.mem_zipIdx_iff_getElem?,
    decide_eq_true_eq]
  constructor
  · rintro ⟨⟨e, i⟩, ⟨he, hk⟩, hc⟩
    exact ⟨i, e, he, hc, hk⟩
  · rintro ⟨i, e, he, hc, hk⟩
    exact ⟨(e, i), ⟨he, hk⟩, hc⟩

/-- A class has one kind only. -/
theorem exists_kind_of_mem {s : Schema} {kinds kinds' : List Kind} {c : String}
    (h : some c ∈ classesOf s kinds) (h' : some c ∈ classesOf s kinds') :
    ∃ k ∈ kinds, k ∈ kinds' := by
  obtain ⟨i, e, he, hc, hk⟩ := mem_classesOf_iff.1 h
  obtain ⟨j, e', he', hc', hk'⟩ := mem_classesOf_iff.1 h'
  obtain rfl : i = j := ClassNames.classes_inj hc hc'
  obtain rfl : e = e' := by simpa [he] using he'
  exact ⟨s.kind e, hk, hk'⟩

/-- A test that comes to some kinds picks the classes of these kinds. -/
theorem map_filter_named_of_kind {s : Schema} {f : Entity → Bool} {kinds : List Kind}
    (h : ∀ e, f e = true ↔ s.kind e ∈ kinds) :
    ((named s (.ofSchema s)).filter fun x => f x.1).map (fun x => some x.2) =
      classesOf s kinds := by
  have hf : f = fun e => decide (s.kind e ∈ kinds) := by
    funext e
    rw [Bool.eq_iff_iff, h, decide_eq_true_iff]
  rw [named_eq_map, List.filter_map, List.map_map, classesOf, hf]
  refine List.map_congr_left fun p hp => ?_
  have he := List.mem_zipIdx_iff_getElem?.1 (List.mem_filter.1 hp).1
  obtain ⟨c, hc⟩ := ClassNames.exists_class he
  rw [Function.comp_apply, hc]
  rfl

/-! ## The sections -/

variable {s : Schema} {m : MappingPlan}

/-- Query surfaces are for the entities that are neither owned nor join tables. -/
theorem querySurfaces_by_kind (s : Schema) :
    ((querySurfaces s (.ofSchema s)).map (·.className)).map some =
      classesOf s [.compositeKey, .keyless, .regular] := by
  have htest : ∀ e, (!s.isOwned e && !e.isJoinTable) = true ↔
      s.kind e ∈ [Kind.compositeKey, .keyless, .regular] := by
    intro e
    rw [Bool.and_eq_true, Bool.not_eq_true', Bool.not_eq_true', Schema.kind_mem_iff]
  rw [map_querySurfaces, List.map_map, ← map_filter_named_of_kind htest]
  rfl

theorem compositeKeys_by_kind (s : Schema) :
    ((compositeKeys s (.ofSchema s)).map (·.className)).map some = classesOf s [.compositeKey] := by
  have htest : ∀ e, s.needsCompositeKey e = true ↔ s.kind e ∈ [Kind.compositeKey] := by
    intro e
    rw [List.mem_singleton, Schema.kind_eq_compositeKey_iff]
  rw [compositeKeys_eq, List.map_map, List.map_map, ← map_filter_named_of_kind htest]
  rfl

theorem keylessClasses_by_kind (s : Schema) :
    (keylessClasses s (.ofSchema s)).map some = classesOf s [.keyless] := by
  have htest : ∀ e, s.isKeyless e = true ↔ s.kind e ∈ [Kind.keyless] := by
    intro e
    rw [List.mem_singleton, Schema.kind_eq_keyless_iff]
  rw [keylessClasses, List.map_map, ← map_filter_named_of_kind htest]
  rfl

/-- **The sections are what the kinds say.**  In the order of the schema, and once for every entity,
the query surfaces are for the classes of entities with a composite key, without a key or of no
special kind, the composite keys for those of the first of these kinds, and the keyless classes are
those of the second. -/
theorem sections_by_kind (h : (mapping s).result = .ok m) :
    (m.querySurfaces.map (·.className)).map some =
        classesOf s [.compositeKey, .keyless, .regular] ∧
      (m.compositeKeys.map (·.className)).map some = classesOf s [.compositeKey] ∧
      m.keyless.map some = classesOf s [.keyless] := by
  obtain ⟨os, ks, -, -, rfl⟩ := mapping_eq_ok_iff.1 h
  exact ⟨querySurfaces_by_kind s, compositeKeys_by_kind s, keylessClasses_by_kind s⟩

/-- Entities of all kinds, one of them twice under one name. -/
def clinic : Schema where
  entities := [⟨"DOCTOR", [⟨"id", "int", true, false⟩]⟩,
    ⟨"VISIT", [⟨"day", "int", true, false⟩, ⟨"slot", "int", true, true⟩]⟩,
    ⟨"LICENCE", [⟨"doctor_id", "int", true, true⟩]⟩,
    ⟨"LOG", [⟨"text", "string", false, false⟩]⟩,
    ⟨"SHIFT", [⟨"doctor_id", "int", true, true⟩, ⟨"ward_id", "int", true, true⟩]⟩,
    ⟨"licence", [⟨"id", "int", true, false⟩]⟩]
  relationships := [⟨"DOCTOR", "LICENCE", "||", "||", "has"⟩]

theorem sections_by_kind_clinic : ∃ m, (mapping clinic).result = .ok m ∧
    clinic.entities.map clinic.kind =
      [.regular, .compositeKey, .owned, .keyless, .joinTable, .regular] ∧
    (m.querySurfaces.map (·.className)).map some =
      [some "Doctor", some "Visit", some "Log", some "Licence2"] ∧
    (m.compositeKeys.map (·.className)).map some = [some "Visit"] ∧
    m.keyless.map some = [some "Log"] := by
  obtain ⟨-, m, -, h⟩ := exists_plans (s := clinic) (by decide +kernel)
  obtain ⟨hsurfaces, hcomposite, hkeyless⟩ := sections_by_kind h
  exact ⟨m, h, by decide +kernel, hsurfaces.trans (by decide +kernel),
    hcomposite.trans (by decide +kernel), hkeyless.trans (by decide +kernel)⟩

/-! ## One configuration for a class -/

/-- An owned class is that of an owned entity. -/
theorem mem_classesOf_owned (h : (mapping s).result = .ok m) {o : Ownership}
    (ho : o ∈ m.ownerships) : some o.owned ∈ classesOf s [.owned] := by
  obtain ⟨os, ks, hos, -, rfl⟩ := mapping_eq_ok_iff.1 h
  have hmem : (some o.owner, some o.owned) ∈ os.map fun o => (some o.owner, some o.owned) :=
    List.mem_map_of_mem ho
  rw [(ownerships_split hos).1] at hmem
  obtain ⟨⟨e, i⟩, he, heq⟩ := List.mem_map.1 hmem
  obtain ⟨he, hplaced⟩ := List.mem_filter.1 he
  have howned : s.isOwned e = true := by
    rw [← isOwned_and_isPlaced s (e, i), Bool.and_eq_true] at hplaced
    exact hplaced.1
  exact mem_classesOf_iff.2 ⟨i, e, List.mem_zipIdx_iff_getElem?.1 he, (Prod.ext_iff.1 heq).2,
    List.mem_singleton.2 (Schema.kind_eq_owned_iff.2 howned)⟩

/-- The classes with a join table's key are those of the join tables with two key columns. -/
theorem mem_joinTableKeys_iff (h : (mapping s).result = .ok m) {c : String} :
    c ∈ m.joinTableKeys.map (·.className) ↔ ∃ (i : Nat) (e : Entity), s.entities[i]? = some e ∧
      (ClassNames.ofSchema s).classes[i]? = some c ∧ e.primaryKeys.length = 2 ∧
        e.isJoinTable = true := by
  obtain ⟨os, ks, -, hks, rfl⟩ := mapping_eq_ok_iff.1 h
  rw [(joinTableKeys_split hks).1, List.map_map]
  simp only [List.mem_map, List.mem_filter, Bool.and_eq_true, beq_iff_eq, mem_named]
  constructor
  · rintro ⟨x, ⟨⟨i, he, hc⟩, htwo, hjoin⟩, rfl⟩
    exact ⟨i, x.1, he, hc, htwo, hjoin⟩
  · rintro ⟨i, e, he, hc, htwo, hjoin⟩
    exact ⟨(e, c), ⟨⟨i, he, hc⟩, htwo, hjoin⟩, rfl⟩

/-- An owned class is not among the classes of other kinds. -/
theorem not_mem_of_owned (h : (mapping s).result = .ok m) {o : Ownership} (ho : o ∈ m.ownerships)
    (kinds : List Kind) {classes : List String}
    (hclasses : ∀ c ∈ classes, some c ∈ classesOf s kinds) (hkinds : Kind.owned ∉ kinds) :
    o.owned ∉ classes := by
  intro hmem
  obtain ⟨k, hk, hk'⟩ := exists_kind_of_mem (mem_classesOf_owned h ho) (hclasses _ hmem)
  obtain rfl := List.mem_singleton.1 hk
  exact hkinds hk'

/-- An owned class has no composite key and is not keyless. -/
theorem not_mem_keys_of_owned (h : (mapping s).result = .ok m) {o : Ownership}
    (ho : o ∈ m.ownerships) :
    o.owned ∉ m.compositeKeys.map (·.className) ∧ o.owned ∉ m.keyless := by
  obtain ⟨os, ks, -, -, rfl⟩ := mapping_eq_ok_iff.1 h
  constructor
  · refine not_mem_of_owned h ho [.compositeKey] (fun c hc => ?_) (by simp)
    rw [← compositeKeys_by_kind]
    exact List.mem_map_of_mem hc
  · refine not_mem_of_owned h ho [.keyless] (fun c hc => ?_) (by simp)
    rw [← keylessClasses_by_kind]
    exact List.mem_map_of_mem hc

/-- A mapping that configures no class in two ways. -/
structure ConfiguredOnce (s : Schema) (m : MappingPlan) : Prop where
  /-- An owned class has no key of its own, of any sort. -/
  owned : ∀ o ∈ m.ownerships, o.owned ∉ m.compositeKeys.map (·.className) ∧
    o.owned ∉ m.keyless ∧ o.owned ∉ m.joinTableKeys.map (·.className)
  /-- A join table's key is for a class of that kind. -/
  joinTables : ∀ c ∈ m.joinTableKeys.map (·.className), some c ∈ classesOf s [.joinTable]

/-- It is the keys of join tables alone that can break this: the other sections leave owned classes
out. -/
theorem configuredOnce_iff_joinTables (h : (mapping s).result = .ok m) : ConfiguredOnce s m ↔
    ∀ c ∈ m.joinTableKeys.map (·.className), some c ∈ classesOf s [.joinTable] := by
  refine ⟨fun honce => honce.joinTables, fun hjoins => ⟨fun o ho => ?_, hjoins⟩⟩
  obtain ⟨hcomposite, hkeyless⟩ := not_mem_keys_of_owned h ho
  exact ⟨hcomposite, hkeyless, not_mem_of_owned h ho [.joinTable] hjoins (by simp)⟩

/-- The keys of join tables are for classes of that kind unless an owned entity gets one. -/
theorem joinTableKeys_by_kind_iff (h : (mapping s).result = .ok m) :
    (∀ c ∈ m.joinTableKeys.map (·.className), some c ∈ classesOf s [.joinTable]) ↔
      ∀ e ∈ s.entities, s.isOwned e = true → e.isJoinTable = true →
        e.primaryKeys.length ≠ 2 := by
  constructor
  · -- the entity's class would be of two kinds
    intro hjoins e he howned hjoin htwo
    obtain ⟨i, hi⟩ := List.mem_iff_getElem?.1 he
    obtain ⟨c, hc⟩ := ClassNames.exists_class hi
    have hkey := hjoins c ((mem_joinTableKeys_iff h).2 ⟨i, e, hi, hc, htwo, hjoin⟩)
    have hkind : some c ∈ classesOf s [.owned] :=
      mem_classesOf_iff.2 ⟨i, e, hi, hc, List.mem_singleton.2 (Schema.kind_eq_owned_iff.2 howned)⟩
    obtain ⟨k, hk, hk'⟩ := exists_kind_of_mem hkey hkind
    rw [List.mem_singleton.1 hk] at hk'
    simp at hk'
  · intro hnone c hc
    obtain ⟨i, e, he, hc, htwo, hjoin⟩ := (mem_joinTableKeys_iff h).1 hc
    have howned : s.isOwned e = false := Bool.eq_false_iff.2 fun howned =>
      hnone e (List.mem_of_getElem? he) howned hjoin htwo
    exact mem_classesOf_iff.2 ⟨i, e, he, hc,
      List.mem_singleton.2 (Schema.kind_eq_joinTable_iff.2 ⟨howned, hjoin⟩)⟩

/-- **When a class is configured in one way only.**  An owned class never has a composite key and is
never keyless.  It has the key of a join table, as the one thing that goes wrong, when an owned
entity is a join table with two key columns. -/
theorem configured_once_iff (h : (mapping s).result = .ok m) :
    (∀ o ∈ m.ownerships, o.owned ∉ m.compositeKeys.map (·.className) ∧ o.owned ∉ m.keyless) ∧
    (∀ c ∈ m.joinTableKeys.map (·.className), some c ∈ classesOf s [.joinTable, .owned]) ∧
    (ConfiguredOnce s m ↔ ∀ e ∈ s.entities, s.isOwned e = true → e.isJoinTable = true →
      e.primaryKeys.length ≠ 2) := by
  refine ⟨fun o ho => not_mem_keys_of_owned h ho, fun c hc => ?_,
    (configuredOnce_iff_joinTables h).trans (joinTableKeys_by_kind_iff h)⟩
  obtain ⟨i, e, he, hc, -, hjoin⟩ := (mem_joinTableKeys_iff h).1 hc
  exact mem_classesOf_iff.2 ⟨i, e, he, hc, Schema.kind_mem_of_isJoinTable hjoin⟩

/-- An owned join table with three key columns, and one with two that is not owned. -/
def festival : Schema where
  entities := [⟨"PERSON", [⟨"id", "int", true, false⟩]⟩,
    ⟨"PASS", [⟨"person_id", "int", true, true⟩, ⟨"day_id", "int", true, true⟩,
      ⟨"stage_id", "int", true, true⟩]⟩,
    ⟨"BOOKING", [⟨"person_id", "int", true, true⟩, ⟨"stage_id", "int", true, true⟩]⟩]
  relationships := [⟨"PERSON", "PASS", "||", "||", "buys"⟩]

theorem configured_once_iff_festival : ∃ m, (mapping festival).result = .ok m ∧
    m.ownerships.map (·.owned) = ["Pass"] ∧
    m.joinTableKeys.map (·.className) = ["Booking"] ∧ ConfiguredOnce festival m := by
  obtain ⟨-, m, -, h⟩ := exists_plans (s := festival) (by decide +kernel)
  obtain ⟨-, -, honce⟩ := configured_once_iff h
  have howned : m.ownerships.map (·.owned) = ["Pass"] := by
    refine eq_of_map_toOption (·.ownerships.map (·.owned)) h ?_
    decide +kernel
  have hjoins : m.joinTableKeys.map (·.className) = ["Booking"] := by
    refine eq_of_map_toOption (·.joinTableKeys.map (·.className)) h ?_
    decide +kernel
  exact ⟨m, h, howned, hjoins, honce.2 (by decide +kernel)⟩

/-- An owned join table with two key columns. -/
def theatre : Schema where
  entities := [⟨"PERSON", [⟨"id", "int", true, false⟩]⟩,
    ⟨"SEAT", [⟨"person_id", "int", true, true⟩, ⟨"row_id", "int", true, true⟩]⟩]
  relationships := [⟨"PERSON", "SEAT", "||", "||", "takes"⟩]

/-- The seat is configured twice: it is owned, which is its kind, and has the key of a join
table. -/
theorem not_configuredOnce_theatre : ∃ m, (mapping theatre).result = .ok m ∧
    theatre.entities.map theatre.kind = [.regular, .owned] ∧
    m.ownerships.map (·.owned) = ["Seat"] ∧
    m.joinTableKeys.map (·.className) = ["Seat"] ∧ ¬ConfiguredOnce theatre m := by
  obtain ⟨-, m, -, h⟩ := exists_plans (s := theatre) (by decide +kernel)
  have howned : m.ownerships.map (·.owned) = ["Seat"] := by
    refine eq_of_map_toOption (·.ownerships.map (·.owned)) h ?_
    decide +kernel
  have hjoins : m.joinTableKeys.map (·.className) = ["Seat"] := by
    refine eq_of_map_toOption (·.joinTableKeys.map (·.className)) h ?_
    decide +kernel
  refine ⟨m, h, by decide +kernel, howned, hjoins, fun honce => ?_⟩
  obtain ⟨o, ho, hseat⟩ := List.map_eq_singleton_iff.1 howned
  refine (honce.owned o (by rw [ho]; exact List.mem_cons_self)).2.2 ?_
  rw [hseat, hjoins]
  exact List.mem_cons_self

end Plan
end Entigram
