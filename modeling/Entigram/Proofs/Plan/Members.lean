import Entigram.Diagram.Reading
import Entigram.Proofs.Naming.Numbering
import Entigram.Proofs.Plan.Names

/-!
# Members that are named like their class

The names of a class's members are kept apart from each other, and that is all they are kept apart
from: the name of the class itself is in another scope.  So an attribute called like its entity
gives a property with the name of the class, and so does a relationship from an owned entity to
itself.

When this happens can be told exactly, because a member's name is settled by what was wanted for it
and by the members before it (`memberNames_eq_claims`).  A member is named like its class just if
one of the wanted names becomes the name of the class (`className_mem_memberNames_iff`), and for
this it has to be that name already, if need be without a number behind it.
-/

set_option autoImplicit false

namespace Entigram

open Naming Attempt UsedNames

namespace Plan

/-- The wanted names of the members that a class has: attributes in Pascal case, and targets, in
the plural for collections. -/
def wantedMembers (p : EntityPlan) : List String :=
  p.properties.map (fun x => pascalCase x.column.name) ++
    p.navigations.map fun n => if n.isCollection then pluralize n.target else n.target

/-- **Members are named after themselves**: their names are claimed for their columns and targets,
in order. -/
theorem memberNames_eq_claims {s : Schema} {names : ClassNames} {e : Entity} {c : String}
    {p : EntityPlan} (h : entity s names e c = .ok p) :
    memberNames p = (empty.claimAll (wantedMembers p)).1 := by
  obtain ⟨ls, hls, hnames⟩ := memberNames_eq h
  have hproperties : p.properties.map (fun x => pascalCase x.column.name) =
      e.attributes.map fun a => pascalCase a.name := by
    rw [← map_column_of_eq_ok h, List.map_map]
    rfl
  have hnavigations : p.navigations.map
      (fun n => if n.isCollection then pluralize n.target else n.target) =
        ls.map fun l => l.group.wantedName l.target := by
    obtain ⟨ls', hls', rfl⟩ := entity_eq_ok_iff.1 h
    obtain rfl : ls = ls' := Except.ok.inj (hls.symm.trans hls')
    have htargets := congrArg (List.map fun x : String × Bool =>
      if x.2 then pluralize x.1 else x.1) (map_navigations (scalars .empty e.attributes).2 ls)
    rw [List.map_map, List.map_map] at htargets
    exact htargets
  rw [hnames, wantedNames, wantedMembers, hproperties, hnavigations]

/-- **When a member is named like its class.**  It is just if one of the wanted names of its members
becomes the name of the class, given the members before it; the name of the class itself is not kept
free for anything.  So it takes a wanted name that is the name of the class, if need be without a
number from two on. -/
theorem className_mem_memberNames_iff {s : Schema} {plans : List EntityPlan}
    (h : entities s = .ok plans) {p : EntityPlan} (hp : p ∈ plans) :
    (p.className ∈ memberNames p ↔ ∃ i w, (wantedMembers p)[i]? = some w ∧
      Becomes (Occurs ((memberNames p).take i)) w p.className) ∧
    ((∀ w ∈ wantedMembers p, p.className ≠ w ∧ ∀ k, 2 ≤ k → p.className ≠ numbered w k) →
      p.className ∉ memberNames p) := by
  obtain ⟨e, -, c, -, hep⟩ := exists_entity_of_mem h hp
  rw [memberNames_eq_claims hep]
  exact ⟨mem_claimAll_iff, not_mem_claimAll⟩

/-- A user whose attributes want one name, and a picture. -/
def exhibits : Schema where
  entities := [⟨"USER2", [⟨"user", "string", false, false⟩, ⟨"USER", "string", false, false⟩]⟩,
    ⟨"PICTURE", [⟨"title", "string", false, false⟩]⟩]
  relationships := []

/-- The second property of the user gets the number that is in the name of the class. -/
theorem className_mem_memberNames_iff_exhibits : ∃ plans, entities exhibits = .ok plans ∧
    plans.map (·.className) = ["User2", "Picture"] ∧
    ∀ p ∈ plans, p.className ∈ memberNames p ↔ p.className = "User2" := by
  have hok : fault? (entities exhibits) = none := by decide +kernel
  obtain ⟨plans, h⟩ := fault?_eq_none_iff.1 hok
  have hplans : plans.map (fun p => (p.className, wantedMembers p, memberNames p)) =
      [("User2", ["User", "User"], ["User", "User2"]), ("Picture", ["Title"], ["Title"])] := by
    refine eq_of_map_toOption (·.map fun p => (p.className, wantedMembers p, memberNames p)) h ?_
    decide +kernel
  refine ⟨plans, h, ?_, fun p hp => ?_⟩
  · refine eq_of_map_toOption (·.map (·.className)) h ?_
    decide +kernel
  · obtain ⟨hiff, hnot⟩ := className_mem_memberNames_iff h hp
    have hmem : (p.className, wantedMembers p, memberNames p) ∈
        plans.map fun p => (p.className, wantedMembers p, memberNames p) :=
      List.mem_map.2 ⟨p, hp, rfl⟩
    simp only [hplans, List.mem_cons, List.not_mem_nil, or_false, Prod.mk.injEq] at hmem
    rcases hmem with ⟨hclass, hwanted, hmembers⟩ | ⟨hclass, hwanted, hmembers⟩
    · rw [hclass, hwanted, hmembers] at hiff
      rw [hclass, hmembers]
      exact iff_of_true (hiff.2 ⟨1, "User", rfl, Becomes.second "User"⟩) rfl
    · refine iff_of_false (hnot ?_) (by rw [hclass]; decide)
      rw [hwanted, hclass, List.forall_mem_singleton]
      exact ⟨by decide, fun k _ => ne_numbered (by decide) k⟩

/-- A user whose attribute is called like the entity. -/
def selfNamed : String := "USER \x7b\n  string user\n\x7d\n"

/-- **An attribute can be called like its entity**, and then its property is called like the
class. -/
theorem exists_className_mem_memberNames : ∃ plans,
    entities (Diagram.parse selfNamed) = .ok plans ∧
    ∃ p ∈ plans, ∃ x ∈ p.properties, x.name = p.className ∧ p.className = "User" := by
  have hok : fault? (entities (Diagram.parse selfNamed)) = none := by decide +kernel
  obtain ⟨plans, h⟩ := fault?_eq_none_iff.1 hok
  have hplans : decide (∃ p ∈ plans, ∃ x ∈ p.properties,
      x.name = p.className ∧ p.className = "User") = true := by
    refine eq_of_map_toOption (fun plans => decide (∃ p ∈ plans, ∃ x ∈ p.properties,
      x.name = p.className ∧ p.className = "User")) h ?_
    decide +kernel
  exact ⟨plans, h, of_decide_eq_true hplans⟩

end Plan
end Entigram
