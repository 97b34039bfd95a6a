import Entigram.Proofs.Plan.Mapping
import Entigram.Proofs.Plan.Navigation

/-!
# References between plans

Class plans and mapping plans are made apart from each other and meet only by the names of
classes.  This file shows that the names always meet (`references_closed`): where the classes can be
planned, so can the mapping, and neither of the two mentions a class that is not planned.

Both draw their names from one list, `(ClassNames.ofSchema s).classes`, and the planned classes are
exactly that list (`map_className`).  So it is enough to find every mentioned class there:

* a navigation's target is what a name stands for,
* the sections of a mapping take their classes from the named entities,
* an ownership is made from its owner's plan, which is the one among the class plans.
-/

set_option autoImplicit false

namespace Entigram

open Naming Attempt

namespace Plan

/-! ## Planned classes -/

/-- **The planned classes** are the classes of the schema, in its order. -/
theorem map_className {s : Schema} {plans : List EntityPlan} (h : entities s = .ok plans) :
    plans.map (·.className) = (ClassNames.ofSchema s).classes := by
  rw [map_of_mapM_eq_ok h fun _ _ => className_of_eq_ok]
  exact map_snd_named s

/-- A class of the schema is planned. -/
theorem exists_className {s : Schema} {plans : List EntityPlan} (h : entities s = .ok plans)
    {c : String} (hc : c ∈ (ClassNames.ofSchema s).classes) : ∃ q ∈ plans, q.className = c := by
  rw [← map_className h] at hc
  exact List.mem_map.1 hc

/-- A planned class tells its plan. -/
theorem className_inj {s : Schema} {plans : List EntityPlan} (h : entities s = .ok plans)
    {p q : EntityPlan} (hp : p ∈ plans) (hq : q ∈ plans) (hpq : p.className = q.className) :
    p = q := by
  have hnodup : (plans.map (·.className)).Nodup := by
    rw [map_className h]
    exact ClassNames.nodup_classes s
  exact List.inj_on_of_nodup_map hnodup hp hq hpq

/-- An entity's class has just one plan, which is that of the entity. -/
theorem exists_plan_of_class {s : Schema} {plans : List EntityPlan} (h : entities s = .ok plans)
    {i : Nat} {e : Entity} {c : String} (he : s.entities[i]? = some e)
    (hc : (ClassNames.ofSchema s).classes[i]? = some c) :
    ∃ p ∈ plans, (∀ q ∈ plans, q.className = c ↔ q = p) ∧ entity s (.ofSchema s) e c = .ok p := by
  obtain ⟨p, hp, hep⟩ := exists_plan h he hc
  have hmem := List.mem_of_getElem? hp
  have hclass := className_of_eq_ok hep
  refine ⟨p, hmem, fun q hq => ⟨fun hqc => ?_, fun hqp => ?_⟩, hep⟩
  · exact className_inj h hq hmem (hqc.trans hclass.symm)
  · rw [hqp, hclass]

/-! ## Mentioned classes -/

/-- The class of a named entity is a class of the schema. -/
theorem mem_classes_of_mem_named {s : Schema} {x : Entity × String}
    (h : x ∈ named s (.ofSchema s)) : x.2 ∈ (ClassNames.ofSchema s).classes := by
  obtain ⟨i, -, hc⟩ := mem_named.1 h
  exact List.mem_of_getElem? hc

/-- A name stands for a class of the schema. -/
theorem mem_classes_of_get? {s : Schema} {name c : String}
    (h : (ClassNames.ofSchema s).get? name = some c) : c ∈ (ClassNames.ofSchema s).classes := by
  rw [ClassNames.get?_ofSchema] at h
  obtain ⟨i, -, hc⟩ := Option.bind_eq_some_iff.1 h
  exact List.mem_of_getElem? hc

/-- All classes that a mapping mentions, section by section. -/
def mentioned (m : MappingPlan) : List String :=
  m.querySurfaces.map (·.className) ++ m.ownerships.flatMap (fun o => [o.owner, o.owned]) ++
    m.compositeKeys.map (·.className) ++ m.keyless ++ m.joinTableKeys.map (·.className)

/-- An ownership joins two classes of the schema, and its owner's plan has the navigation. -/
theorem exists_navigation {s : Schema} {os : List Ownership}
    (h : (ownerships s (.ofSchema s)).result = .ok os) {o : Ownership} (ho : o ∈ os) :
    o.owned ∈ (ClassNames.ofSchema s).classes ∧
      ∃ (i : Nat) (e : Entity) (p : EntityPlan), s.entities[i]? = some e ∧
        (ClassNames.ofSchema s).classes[i]? = some o.owner ∧
        entity s (.ofSchema s) e o.owner = .ok p ∧
        ∃ n ∈ p.navigations, n.name = o.navigation ∧ n.target = o.owned ∧
          n.isCollection = false := by
  obtain ⟨⟨e, c⟩, he, hown⟩ := List.mem_map.1 (mem_collect h ho)
  have hc := mem_classes_of_mem_named (List.mem_filter.1 he).1
  rcases ownership_eq_ok_iff.1 hown with ⟨-, hy⟩ | ⟨i, e', co, p, -, he', hco, hp, hy⟩
  · cases hy
  · cases hn : p.navigationTo? c with
    | none => rw [hn] at hy; cases hy
    | some n =>
      rw [hn] at hy
      obtain rfl : o = { owner := co, owned := c, navigation := n.name } := by injection hy
      have hsingle := List.find?_some hn
      rw [Bool.and_eq_true, decide_eq_true_iff, Bool.not_eq_true'] at hsingle
      exact ⟨hc, i, e', p, he', hco, hp, n, List.mem_of_find?_eq_some hn, rfl, hsingle.1, hsingle.2⟩

/-- A query surface takes its class from a named entity. -/
theorem map_querySurfaces (s : Schema) (names : ClassNames) :
    (querySurfaces s names).map (·.className) =
      ((named s names).filter fun p => !s.isOwned p.1 && !p.1.isJoinTable).map (·.2) :=
  (UsedNames.map_make (fun _ _ => by rfl) .empty _).trans (List.map_id _)

/-- So does the key of a join table. -/
theorem mem_classes_of_mem_joinTableKeys {s : Schema} {ks : List KeyPlan}
    (h : (joinTableKeys s (.ofSchema s)).result = .ok ks) {k : KeyPlan} (hk : k ∈ ks) :
    k.className ∈ (ClassNames.ofSchema s).classes := by
  obtain ⟨p, hp, hkey⟩ := List.mem_map.1 (mem_collect h hk)
  injection hkey with hkey
  rw [joinTableKey] at hkey
  split at hkey
  · injection hkey with hkey
    rw [← hkey]
    exact mem_classes_of_mem_named (List.mem_filter.1 hp).1
  · cases hkey

/-- **A mapping mentions classes of its schema only.** -/
theorem mem_classes_of_mem_mentioned {s : Schema} {m : MappingPlan}
    (h : (mapping s).result = .ok m) {c : String} (hc : c ∈ mentioned m) :
    c ∈ (ClassNames.ofSchema s).classes := by
  have hnamed : ∀ f : Entity × String → Bool,
      c ∈ ((named s (.ofSchema s)).filter f).map (·.2) → c ∈ (ClassNames.ofSchema s).classes := by
    intro f hf
    obtain ⟨p, hp, rfl⟩ := List.mem_map.1 hf
    exact mem_classes_of_mem_named (List.mem_filter.1 hp).1
  obtain ⟨os, ks, hos, hks, rfl⟩ := mapping_eq_ok_iff.1 h
  rw [mentioned, List.mem_append, List.mem_append, List.mem_append, List.mem_append] at hc
  rcases hc with (((hc | hc) | hc) | hc) | hc
  · rw [map_querySurfaces] at hc
    exact hnamed _ hc
  · obtain ⟨o, ho, hco⟩ := List.mem_flatMap.1 hc
    obtain ⟨howned, i, e, p, -, howner, -⟩ := exists_navigation hos ho
    rcases List.mem_pair.1 hco with rfl | rfl
    · exact List.mem_of_getElem? howner
    · exact howned
  · rw [compositeKeys, List.map_map] at hc
    exact hnamed _ hc
  · exact hnamed _ hc
  · obtain ⟨k, hk, rfl⟩ := List.mem_map.1 hc
    exact mem_classes_of_mem_joinTableKeys hks hk

/-! ## Closed plans -/

/-- Class plans and a mapping plan that fit together. -/
structure Closed (plans : List EntityPlan) (m : MappingPlan) : Prop where
  /-- Navigations lead to planned classes. -/
  targets : ∀ p ∈ plans, ∀ n ∈ p.navigations, ∃ q ∈ plans, q.className = n.target
  /-- The mapping is about planned classes. -/
  classes : ∀ c ∈ mentioned m, ∃ q ∈ plans, q.className = c
  /-- The plan of an owner, and there is just one, has the single-valued navigation to the owned
  class. -/
  navigations : ∀ o ∈ m.ownerships, ∃ p ∈ plans, (∀ q ∈ plans, q.className = o.owner ↔ q = p) ∧
    ∃ n ∈ p.navigations, n.name = o.navigation ∧ n.target = o.owned ∧ n.isCollection = false

/-- **Where the classes can be planned, so can the mapping, and the two fit together.** -/
theorem references_closed {s : Schema} {plans : List EntityPlan} (h : entities s = .ok plans) :
    ∃ m, (mapping s).result = .ok m ∧ Closed plans m := by
  obtain ⟨m, hm⟩ := exists_mapping h
  refine ⟨m, hm, ?_, ?_, ?_⟩
  · intro p hp n hn
    obtain ⟨i, hi⟩ := List.mem_iff_getElem?.1 hp
    obtain ⟨e, c, -, -, hep⟩ := exists_entity h hi
    obtain ⟨name, hname⟩ := get?_of_mem_navigations hep hn
    exact exists_className h (mem_classes_of_get? hname)
  · intro c hc
    exact exists_className h (mem_classes_of_mem_mentioned hm hc)
  · intro o ho
    obtain ⟨os, ks, hos, -, rfl⟩ := mapping_eq_ok_iff.1 hm
    obtain ⟨-, i, e, p, he, hc, hep, hnav⟩ := exists_navigation hos ho
    -- the plan that the ownership was made from stands among the class plans
    obtain ⟨p', hp', hep'⟩ := exists_plan h he hc
    obtain rfl : p = p' := by simpa [hep] using hep'
    have hmem := List.mem_of_getElem? hp'
    have hclass := className_of_eq_ok hep
    refine ⟨p, hmem, fun q hq => ⟨fun hqo => ?_, fun hqp => ?_⟩, hnav⟩
    · exact className_inj h hq hmem (hqo.trans hclass.symm)
    · rw [hqp, hclass]

theorem references_closed_shop : ∃ plans m, entities shop = .ok plans ∧
    (mapping shop).result = .ok m ∧ Closed plans m ∧
    mentioned m = ["User", "Order", "Order2", "User", "Profile", "Order"] := by
  have hok : fault? (entities shop) = none := by decide +kernel
  obtain ⟨plans, h⟩ := fault?_eq_none_iff.1 hok
  obtain ⟨m, hm, hclosed⟩ := references_closed h
  have hmentioned : (mapping shop).result.toOption.map mentioned =
      some ["User", "Order", "Order2", "User", "Profile", "Order"] := by decide +kernel
  rw [hm] at hmentioned
  exact ⟨plans, m, h, hm, hclosed, Option.some_inj.1 hmentioned⟩

end Plan
end Entigram
