import Entigram.Proofs.Plan.Closure

/-!
# Names in one scope

Three kinds of scopes have names that must not clash: the classes of a schema, the members of one
class, and the query surfaces of a mapping.  A diagram can ask for clashes in many ways: an entity
can be called what the numbered class of another one would be called (`USER2`), a navigation like a
property, and two classes can have one plural.

What keeps the names apart is that every scope is filled by one list of claims.  For the members of
a class this has to be seen: properties and the four groups of navigations are made one after the
other, and what the properties leave of the names in use is handed on to the navigations
(`memberNames_eq`).  `names_apart` puts the three scopes together.
-/

set_option autoImplicit false

namespace Entigram

open Naming Attempt Text

namespace Plan

/-! ## Members -/

/-- The names of a class's members: of its properties, and then of its navigations. -/
def memberNames (p : EntityPlan) : List String :=
  p.properties.map (·.name) ++ p.navigations.map (·.name)

/-- The wanted names of a class's members. -/
def wantedNames (e : Entity) (ls : List Link) : List String :=
  e.attributes.map (fun a => pascalCase a.name) ++ ls.map fun l => l.group.wantedName l.target

/-- **Members are named by one list of claims**, the properties before the navigations. -/
theorem memberNames_eq {s : Schema} {names : ClassNames} {e : Entity} {c : String}
    {p : EntityPlan} (h : entity s names e c = .ok p) : ∃ ls, links s names e = .ok ls ∧
      memberNames p = (UsedNames.empty.claimAll (wantedNames e ls)).1 := by
  obtain ⟨ls, hls, rfl⟩ := entity_eq_ok_iff.1 h
  refine ⟨ls, hls, ?_⟩
  rw [memberNames, map_name_scalars, map_name_navigations, wantedNames,
    UsedNames.claimAll_append]
  rfl

/-- No two members of a class have one name. -/
theorem nodup_memberNames {s : Schema} {names : ClassNames} {e : Entity} {c : String}
    {p : EntityPlan} (h : entity s names e c = .ok p) : ((memberNames p).map fold).Nodup := by
  obtain ⟨ls, -, hnames⟩ := memberNames_eq h
  rw [hnames]
  exact UsedNames.nodup_claimAll _ _

/-! ## Query surfaces -/

/-- No two query surfaces have one name. -/
theorem nodup_surfaceNames (s : Schema) (names : ClassNames) :
    ((querySurfaces s names).map fun q => fold q.name).Nodup :=
  UsedNames.nodup_make (fun _ _ => rfl) .empty _

/-! ## All scopes -/

/-- Plans of a schema whose names tell apart what they name, whatever their case. -/
structure Apart (s : Schema) (plans : List EntityPlan) (m : MappingPlan) : Prop where
  /-- Every entity has one class, in the order of the schema. -/
  planned : plans.map (·.entity) = s.entities
  /-- No two classes have one name. -/
  classes : (plans.map fun p => fold p.className).Nodup
  /-- No two properties or navigations of one class have one name. -/
  members : ∀ p ∈ plans, ((memberNames p).map fold).Nodup
  /-- No two query surfaces have one name. -/
  surfaces : (m.querySurfaces.map fun q => fold q.name).Nodup

/-- Every planned class is that of an entity. -/
theorem map_entity {s : Schema} {plans : List EntityPlan} (h : entities s = .ok plans) :
    plans.map (·.entity) = s.entities := by
  rw [map_of_mapM_eq_ok h fun _ _ => entity_of_eq_ok]
  exact map_fst_named s

/-- **No two names clash**, whatever their case: neither those of two classes, nor those of two
members of one class, nor those of two query surfaces. -/
theorem names_apart {s : Schema} {plans : List EntityPlan} {m : MappingPlan}
    (h : entities s = .ok plans) (hm : (mapping s).result = .ok m) : Apart s plans m where
  planned := map_entity h
  classes := by
    have hnodup := ClassNames.nodup_fold_classes s
    rw [← map_className h, List.map_map] at hnodup
    exact hnodup
  members := by
    intro p hp
    obtain ⟨i, hi⟩ := List.mem_iff_getElem?.1 hp
    obtain ⟨e, c, -, -, hep⟩ := exists_entity h hi
    exact nodup_memberNames hep
  surfaces := by
    obtain ⟨os, ks, -, -, rfl⟩ := mapping_eq_ok_iff.1 hm
    exact nodup_surfaceNames s _

/-- Three users, the first of which is called what the class of a later one would be called, a user
whose properties and navigations want the same names, and two classes with one plural. -/
def garage : Schema where
  entities := [⟨"USER2", []⟩,
    ⟨"user", [⟨"id", "int", true, false⟩, ⟨"ID", "int", false, false⟩,
      ⟨"id2", "int", false, false⟩, ⟨"buses", "int", false, false⟩]⟩,
    ⟨"USER", []⟩, ⟨"BUS", []⟩, ⟨"BUSE", []⟩]
  relationships := [⟨"user", "BUS", "||", "o\x7b", "drives"⟩,
    ⟨"User", "buse", "||", "o\x7b", "keeps"⟩]

theorem names_apart_garage : ∃ plans m, entities garage = .ok plans ∧
    (mapping garage).result = .ok m ∧ Apart garage plans m ∧
    plans.map (·.className) = ["User2", "User", "User3", "Bus", "Buse"] ∧
    (plans.map memberNames)[1]? = some ["Id", "Id2", "Id22", "Buses", "Buses2", "Buses3"] ∧
    m.querySurfaces.map (·.name) = ["User2s", "Users", "User3s", "Buses", "Buses2"] := by
  obtain ⟨plans, m, h, hm⟩ := exists_plans (s := garage) (by decide +kernel)
  refine ⟨plans, m, h, hm, names_apart h hm, ?_, ?_, ?_⟩
  · refine eq_of_map_toOption (·.map (·.className)) h ?_
    decide +kernel
  · refine eq_of_map_toOption (fun ps => (ps.map memberNames)[1]?) h ?_
    decide +kernel
  · refine eq_of_map_toOption (·.querySurfaces.map (·.name)) hm ?_
    decide +kernel

end Plan
end Entigram
