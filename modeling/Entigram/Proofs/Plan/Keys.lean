import Entigram.Proofs.Classification
import Entigram.Proofs.Plan.Closure

/-!
# The properties of a key

A mapping writes down keys by the names of properties.  It does not look them up in the plans of
the classes, but names the properties of an entity once more, with no other names in use.  That
gives the names of the plan because a plan names properties first of all (`keyNames_of_entity`).

The keys come in two sections, and in both they are made in the same way (`keyPlan`).  This has to
be seen for join tables, where a key column is asked to be a foreign key as well
(`joinTableKey_eq`); `joinTableKeys_split` says which join tables are passed over, and with which
notes.  `keys_of_properties` puts that together.
-/

set_option autoImplicit false

namespace Entigram

open Naming Attempt

namespace Plan

/-! ## The names of a key -/

/-- The names of key properties are taken from the plan of the class. -/
theorem keyNames_of_entity {s : Schema} {names : ClassNames} {e : Entity} {c : String}
    {p : EntityPlan} (h : entity s names e c = .ok p) (isKey : Attribute → Bool) :
    keyNames isKey e = (p.properties.filter fun q => isKey q.column).map (·.name) := by
  obtain ⟨ls, -, rfl⟩ := entity_eq_ok_iff.1 h
  rfl

/-- There are as many names as key columns. -/
theorem length_keyNames (isKey : Attribute → Bool) (e : Entity) :
    (keyNames isKey e).length = (e.attributes.filter isKey).length := by
  conv_rhs => rw [← map_column_scalars .empty e.attributes, List.filter_map, List.length_map]
  rw [keyNames, List.length_map]
  rfl

/-- Only what is asked of the entity's own attributes matters. -/
theorem keyNames_congr {isKey isKey' : Attribute → Bool} {e : Entity}
    (h : ∀ a ∈ e.attributes, isKey a = isKey' a) : keyNames isKey e = keyNames isKey' e := by
  refine congrArg _ (List.filter_congr fun q hq => h _ ?_)
  rw [← map_column_scalars .empty e.attributes]
  exact List.mem_map_of_mem hq

/-- The key of an entity's class: all its key columns. -/
def keyPlan (x : Entity × String) : KeyPlan where
  className := x.2
  properties := keyNames (·.isPrimaryKey) x.1

theorem length_keyPlan (x : Entity × String) :
    (keyPlan x).properties.length = x.1.primaryKeys.length :=
  length_keyNames _ _

theorem compositeKeys_eq (s : Schema) (names : ClassNames) : compositeKeys s names =
    ((named s names).filter fun x => s.needsCompositeKey x.1).map keyPlan := rfl

/-! ## Join tables -/

/-- **The key of a join table** consists of all its key columns, and there is one if these are
two. -/
theorem joinTableKey_eq {e : Entity} (h : e.isJoinTable = true) (c : String) :
    joinTableKey e c =
      if e.primaryKeys.length = 2 then .inl (keyPlan (e, c))
      else .inr (.joinTableKeys e.name e.primaryKeys.length) := by
  have hkeys : keyNames (fun a => a.isPrimaryKey && a.isForeignKey) e =
      keyNames (·.isPrimaryKey) e := by
    refine keyNames_congr fun a ha => ?_
    cases hkey : a.isPrimaryKey with
    | false => rfl
    | true => rw [Entity.isForeignKey_of_isJoinTable h ha hkey, Bool.and_self]
  rw [joinTableKey, hkeys, length_keyNames]
  rfl

/-- **The section of the join tables**: those with two key columns have a key, and the others are
noted. -/
theorem joinTableKeys_split {s : Schema} {names : ClassNames} {ks : List KeyPlan}
    (h : (joinTableKeys s names).result = .ok ks) :
    ks = ((named s names).filter fun x =>
        x.1.primaryKeys.length == 2 && x.1.isJoinTable).map keyPlan ∧
      (joinTableKeys s names).reports = ((named s names).filter fun x =>
        x.1.primaryKeys.length != 2 && x.1.isJoinTable).map fun x =>
          .joinTableKeys x.1.name x.1.primaryKeys.length := by
  have hkey : ∀ x ∈ (named s names).filter fun x => x.1.isJoinTable, ∀ y,
      (Except.ok (joinTableKey x.1 x.2) : Except Failure _) = .ok y →
        y = if x.1.primaryKeys.length = 2 then .inl (keyPlan x)
          else .inr (.joinTableKeys x.1.name x.1.primaryKeys.length) := by
    intro x hx y hy
    injection hy with hy
    rw [← hy, joinTableKey_eq (List.mem_filter.1 hx).2]
  rw [joinTableKeys] at h ⊢
  obtain ⟨hkept, hreports⟩ := collect_split h (fun x => x.1.primaryKeys.length == 2) id keyPlan
    (fun x => .joinTableKeys x.1.name x.1.primaryKeys.length)
    (fun x hx hk y hy => ⟨keyPlan x, by rw [hkey x hx y hy, if_pos (by simpa using hk)], rfl⟩)
    (fun x hx hk y hy => by rw [hkey x hx y hy, if_neg (by simpa using hk)])
  rw [List.map_id, List.filter_filter] at hkept
  rw [List.filter_filter] at hreports
  exact ⟨hkept, hreports⟩

/-! ## Notes -/

/-- The notes among the records of planning a mapping. -/
def notes (s : Schema) : List Log.Record :=
  ((mapping s).reports.map Report.record).filter fun r => r.level == .debug

/-- There is a note for every join table whose key is not of two columns. -/
theorem notes_eq {s : Schema} {m : MappingPlan} (h : (mapping s).result = .ok m) :
    notes s = (s.entities.filter fun e => e.primaryKeys.length != 2 && e.isJoinTable).map
      fun e => (Report.joinTableKeys e.name e.primaryKeys.length).record := by
  obtain ⟨os, ks, -, hks, -⟩ := mapping_eq_ok_iff.1 h
  rw [notes, (filter_records h).2, (joinTableKeys_split hks).2, List.map_map]
  exact map_filter_named s (fun e => e.primaryKeys.length != 2 && e.isJoinTable)
    fun e => (Report.joinTableKeys e.name e.primaryKeys.length).record

/-- Every join table has a key or a note. -/
theorem countP_isJoinTable {s : Schema} {m : MappingPlan} (h : (mapping s).result = .ok m) :
    s.entities.countP (·.isJoinTable) = m.joinTableKeys.length + (notes s).length := by
  obtain ⟨os, ks, -, hks, rfl⟩ := mapping_eq_ok_iff.1 h
  calc s.entities.countP (·.isJoinTable)
      = ((named s (.ofSchema s)).filter fun x => x.1.isJoinTable).length := by
        rw [← map_fst_named s, List.countP_map, List.countP_eq_length_filter]
        rfl
    _ = ks.length + (joinTableKeys s (.ofSchema s)).reports.length := by
        rw [joinTableKeys, length_collect hks, List.length_map]
    _ = ks.length + (notes s).length := by rw [notes, (filter_records h).2, List.length_map]

/-! ## Keys and plans -/

/-- A key that names all key properties of the one class that it is for, in the order in which the
attributes of the class's entity are declared. -/
def NamesKey (plans : List EntityPlan) (k : KeyPlan) : Prop :=
  ∃ p ∈ plans, (∀ q ∈ plans, q.className = k.className ↔ q = p) ∧
    p.properties.map (·.column) = p.entity.attributes ∧
    k.properties = (p.properties.filter fun q => q.column.isPrimaryKey).map (·.name)

/-- A named entity's key names the properties of its class. -/
theorem namesKey_keyPlan {s : Schema} {plans : List EntityPlan} (h : entities s = .ok plans)
    {x : Entity × String} (hx : x ∈ named s (.ofSchema s)) : NamesKey plans (keyPlan x) := by
  obtain ⟨i, he, hc⟩ := mem_named.1 hx
  obtain ⟨p, hp, hclass, hep⟩ := exists_plan_of_class h he hc
  refine ⟨p, hp, hclass, ?_, keyNames_of_entity hep _⟩
  obtain ⟨ls, -, rfl⟩ := entity_eq_ok_iff.1 hep
  exact map_column_scalars .empty x.1.attributes

/-- **Keys name the properties that there are.**  Every key, composite or of a join table, names
exactly the key properties of its class.  These are at least two for a composite key and two for a
join table, and every join table has a key or a note. -/
theorem keys_of_properties {s : Schema} {plans : List EntityPlan} {m : MappingPlan}
    (h : entities s = .ok plans) (hm : (mapping s).result = .ok m) :
    (∀ k ∈ m.compositeKeys, NamesKey plans k ∧ 2 ≤ k.properties.length) ∧
    (∀ k ∈ m.joinTableKeys, NamesKey plans k ∧ k.properties.length = 2) ∧
    notes s = (s.entities.filter fun e => e.primaryKeys.length != 2 && e.isJoinTable).map
      (fun e => (Report.joinTableKeys e.name e.primaryKeys.length).record) ∧
    s.entities.countP (·.isJoinTable) = m.joinTableKeys.length + (notes s).length := by
  refine ⟨fun k hk => ?_, fun k hk => ?_, notes_eq hm, countP_isJoinTable hm⟩
  · obtain ⟨os, ks, -, -, rfl⟩ := mapping_eq_ok_iff.1 hm
    rw [compositeKeys_eq] at hk
    obtain ⟨x, hx, rfl⟩ := List.mem_map.1 hk
    obtain ⟨hx, hcomposite⟩ := List.mem_filter.1 hx
    refine ⟨namesKey_keyPlan h hx, ?_⟩
    rw [length_keyPlan]
    exact (Schema.needsCompositeKey_iff.1 hcomposite).2.2
  · obtain ⟨os, ks, -, hks, rfl⟩ := mapping_eq_ok_iff.1 hm
    rw [(joinTableKeys_split hks).1] at hk
    obtain ⟨x, hx, rfl⟩ := List.mem_map.1 hk
    obtain ⟨hx, htwo⟩ := List.mem_filter.1 hx
    rw [Bool.and_eq_true, beq_iff_eq] at htwo
    exact ⟨namesKey_keyPlan h hx, (length_keyPlan x).trans htwo.1⟩

/-- Shelves whose key columns want one name, and two join tables, one of which has three key
columns. -/
def warehouse : Schema where
  entities := [⟨"SHELF", [⟨"label", "string", false, false⟩, ⟨"id", "int", true, false⟩,
      ⟨"ID", "int", true, false⟩, ⟨"parts", "int", false, false⟩, ⟨"id2", "int", true, true⟩]⟩,
    ⟨"PART", [⟨"id", "int", true, false⟩]⟩,
    ⟨"STOCK", [⟨"shelf_id", "int", true, true⟩, ⟨"part_id", "int", true, true⟩]⟩,
    ⟨"MOVE", [⟨"source_id", "int", true, true⟩, ⟨"target_id", "int", true, true⟩,
      ⟨"part_id", "int", true, true⟩]⟩]
  relationships := [⟨"SHELF", "PART", "||", "o\x7b", "holds"⟩,
    ⟨"Shelf", "Stock", "||", "o\x7b", "keeps"⟩]

theorem keys_of_properties_warehouse : ∃ plans m, entities warehouse = .ok plans ∧
    (mapping warehouse).result = .ok m ∧
    m.compositeKeys = [⟨"Shelf", ["Id", "Id2", "Id22"]⟩] ∧
    m.joinTableKeys = [⟨"Stock", ["ShelfId", "PartId"]⟩] ∧
    (∀ k ∈ m.compositeKeys, NamesKey plans k) ∧ (∀ k ∈ m.joinTableKeys, NamesKey plans k) ∧
    (notes warehouse).map (·.message) =
      ["Join table MOVE has 3 key columns, skipping key configuration"] ∧
    m.joinTableKeys.length + (notes warehouse).length = 2 := by
  obtain ⟨plans, m, h, hm⟩ := exists_plans (s := warehouse) (by decide +kernel)
  obtain ⟨hcomposite, hjoin, hnotes, hcount⟩ := keys_of_properties h hm
  refine ⟨plans, m, h, hm, ?_, ?_, fun k hk => (hcomposite k hk).1, fun k hk => (hjoin k hk).1,
    ?_, ?_⟩
  · refine eq_of_map_toOption (·.compositeKeys) hm ?_
    decide +kernel
  · refine eq_of_map_toOption (·.joinTableKeys) hm ?_
    decide +kernel
  · rw [hnotes]
    decide +kernel
  · rw [← hcount]
    decide +kernel

end Plan
end Entigram
