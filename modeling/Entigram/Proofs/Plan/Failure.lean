import Entigram.Proofs.Plan.Mapping

/-!
# When planning fails

Planning fails at a relationship that asks for a navigation to an entity that is not declared.
There are three ways for a relationship to do so (`Gap`); `faults` lists all of them, going through
the entities, for each entity through the three ways, and for each way through the relationships.

`fault?_entities` says that planning fails with the first fault of this list.  The planner never
makes the list: it stops early, looks at one relationship for each name only, and has a fourth group
of navigations, which cannot fail because an entity that is owned is declared (`dangling?_owned`).
`entities_fail_iff` is the condition for a failure without the order.
-/

set_option autoImplicit false

namespace Entigram

open Naming Attempt

namespace Plan

/-! ## Faults -/

/-- The ways in which a relationship asks an entity for a navigation to nowhere. -/
inductive Gap
  /-- It leads from the entity to many targets, which are not declared. -/
  | targets
  /-- It takes exactly one of the entity, which is not owned, and its origin is not declared. -/
  | source
  /-- Its end at the entity is optional and not many, and its origin is not declared. -/
  | optionalSource
deriving DecidableEq

namespace Gap

/-- All gaps, in the order in which they are noticed. -/
def all : List Gap := [targets, source, optionalSource]

/-- The end that is not declared. -/
def lostEnd : Gap → Relationship → String
  | targets, r => r.target
  | source, r => r.source
  | optionalSource, r => r.source

/-- Does the relationship leave the entity with this gap? -/
def occurs (s : Schema) (e : Entity) : Gap → Relationship → Bool
  | targets, r =>
    sameName r.source e.name && !s.declares r.target && isMany r.targetCardinality
  | source, r =>
    sameName r.target e.name && !s.declares r.source && exactlyOne r.targetCardinality &&
      !s.isOwned e
  | optionalSource, r =>
    sameName r.target e.name && !s.declares r.source && isOptional r.targetCardinality &&
      !isMany r.targetCardinality

/-- The group of navigations in which the gap is noticed. -/
def group : Gap → Group
  | targets => .outgoingMany
  | source => .incomingOne
  | optionalSource => .incomingOptional

theorem lostEnd_eq (g : Gap) (r : Relationship) : g.lostEnd r = g.group.farEnd r := by
  cases g <;> rfl

/-- A gap is where the group first leads to an undeclared entity. -/
theorem find?_occurs (s : Schema) (e : Entity) (g : Gap) :
    s.relationships.find? (g.occurs s e) = g.group.dangling? s e := by
  refine congrArg (fun p => s.relationships.find? p) (funext fun r => ?_)
  cases g <;>
    simp only [occurs, group, Group.nearEnd, Group.admits, Group.farEnd, Bool.and_assoc,
      Bool.and_comm, Bool.and_left_comm]

end Gap

/-- What can be missed at an entity, in order. -/
def faultsAt (s : Schema) (e : Entity) : List UnresolvedReference :=
  Gap.all.flatMap fun g => (s.relationships.filter (g.occurs s e)).map fun r =>
    { name := g.lostEnd r, relationship := some r }

/-- Everything that can be missed in a schema, in order. -/
def faults (s : Schema) : List UnresolvedReference := s.entities.flatMap (faultsAt s)

/-! ## The first fault -/

/-- The navigations to owned entities lead to no undeclared one. -/
theorem dangling?_owned (s : Schema) (e : Entity) :
    Group.outgoingOwned.dangling? s e = none := by
  refine List.find?_eq_none.2 fun r _ h => ?_
  simp only [Group.nearEnd, Group.admits, Group.farEnd, Bool.and_eq_true, Bool.not_eq_true',
    ← s.isSome_entity?] at h
  cases hr : s.entity? r.target with
  | none => simp [hr] at h
  | some t => simp [hr] at h

/-- An entity's links fail with its first fault. -/
theorem fault?_links_eq_head? (s : Schema) (e : Entity) :
    fault? (links s (.ofSchema s) e) = (faultsAt s e).head? := by
  have hgap : ∀ g : Gap, ((s.relationships.filter (g.occurs s e)).map fun r =>
      ({ name := g.lostEnd r, relationship := some r } : UnresolvedReference)).head? =
        (g.group.dangling? s e).map fun r =>
          { name := g.group.farEnd r, relationship := some r } := by
    intro g
    rw [List.head?_map, List.head?_filter, Gap.find?_occurs]
    simp only [Gap.lostEnd_eq]
  rw [fault?_links, faultsAt, List.head?_flatMap]
  simp only [hgap, Group.all, Gap.all, Gap.group, List.findSome?_cons, List.findSome?_nil,
    dangling?_owned, Option.map_none]

/-- **Planning fails with the first fault** in the order of the entities, the gaps and the
relationships. -/
theorem fault?_entities (s : Schema) : fault? (entities s) = (faults s).head? := by
  calc fault? (entities s)
      = (named s (.ofSchema s)).findSome? fun p => fault? (entity s (.ofSchema s) p.1 p.2) :=
        fault?_mapM _ _
    _ = (named s (.ofSchema s)).findSome? ((fun e => (faultsAt s e).head?) ∘ Prod.fst) := by
        simp only [fault?_entity, fault?_links_eq_head?]
        rfl
    _ = s.entities.findSome? fun e => (faultsAt s e).head? := by
        rw [← List.findSome?_map, map_fst_named]
    _ = (faults s).head? := by rw [faults, List.head?_flatMap]

/-! ## The condition -/

/-- Planning fails when a relationship leaves some entity with a gap. -/
theorem exists_error_iff (s : Schema) : (∃ u, entities s = .error u) ↔
    ∃ r ∈ s.relationships, ∃ e ∈ s.entities, ∃ g : Gap, g.occurs s e r = true := by
  have hhead : (∃ u, entities s = .error u) ↔ ∃ u, u ∈ faults s := by
    simp only [← fault?_eq_some_iff, fault?_entities]
    cases faults s <;> simp
  rw [hhead]
  constructor
  · rintro ⟨u, hu⟩
    obtain ⟨e, he, hu⟩ := List.mem_flatMap.1 hu
    obtain ⟨g, -, hu⟩ := List.mem_flatMap.1 hu
    obtain ⟨r, hr, -⟩ := List.mem_map.1 hu
    obtain ⟨hr, hoccurs⟩ := List.mem_filter.1 hr
    exact ⟨r, hr, e, he, g, hoccurs⟩
  · rintro ⟨r, hr, e, he, g, hoccurs⟩
    have hg : g ∈ Gap.all := by cases g <;> decide
    exact ⟨_, List.mem_flatMap.2 ⟨e, he, List.mem_flatMap.2 ⟨g, hg,
      List.mem_map.2 ⟨r, List.mem_filter.2 ⟨hr, hoccurs⟩, rfl⟩⟩⟩⟩

/-- A name is declared when it is some entity's. -/
theorem declares_iff {s : Schema} {name : String} :
    s.declares name = true ↔ ∃ e ∈ s.entities, sameName name e.name = true := by
  rw [Schema.declares_eq, List.any_eq_true]
  simp only [sameName_comm name]

/-- The gaps that a relationship leaves somewhere, told by its ends and its cardinality. -/
theorem exists_gap_iff (s : Schema) (r : Relationship) :
    (∃ e ∈ s.entities, ∃ g : Gap, g.occurs s e r = true) ↔
      (s.declares r.source = true ∧ s.declares r.target = false ∧
        isMany r.targetCardinality = true) ∨
      (s.declares r.source = false ∧ exactlyOne r.targetCardinality = true ∧
        ∃ e ∈ s.entities, sameName r.target e.name = true ∧ s.isOwned e = false) ∨
      (s.declares r.target = true ∧ s.declares r.source = false ∧
        isOptional r.targetCardinality = true ∧ isMany r.targetCardinality = false) := by
  constructor
  · rintro ⟨e, he, g, hg⟩
    cases g <;> simp only [Gap.occurs, Bool.and_eq_true, Bool.not_eq_true'] at hg
    case targets =>
      obtain ⟨⟨hsource, htarget⟩, hmany⟩ := hg
      exact .inl ⟨declares_iff.2 ⟨e, he, hsource⟩, htarget, hmany⟩
    case source =>
      obtain ⟨⟨⟨htarget, hsource⟩, hone⟩, howned⟩ := hg
      exact .inr (.inl ⟨hsource, hone, e, he, htarget, howned⟩)
    case optionalSource =>
      obtain ⟨⟨⟨htarget, hsource⟩, hoptional⟩, hmany⟩ := hg
      exact .inr (.inr ⟨declares_iff.2 ⟨e, he, htarget⟩, hsource, hoptional, hmany⟩)
  · rintro (⟨hsource, htarget, hmany⟩ | ⟨hsource, hone, e, he, htarget, howned⟩ |
      ⟨htarget, hsource, hoptional, hmany⟩)
    · obtain ⟨e, he, hname⟩ := declares_iff.1 hsource
      exact ⟨e, he, .targets, by simp [Gap.occurs, hname, htarget, hmany]⟩
    · exact ⟨e, he, .source, by simp [Gap.occurs, htarget, hsource, hone, howned]⟩
    · obtain ⟨e, he, hname⟩ := declares_iff.1 htarget
      exact ⟨e, he, .optionalSource, by simp [Gap.occurs, hname, hsource, hoptional, hmany]⟩

/-- Between declared entities no gap is left. -/
theorem exists_plans_of_declared {s : Schema} (h : ∀ r ∈ s.relationships,
    s.declares r.source = true ∧ s.declares r.target = true) : ∃ plans, entities s = .ok plans := by
  cases hs : entities s with
  | ok plans => exact ⟨plans, rfl⟩
  | error u =>
    obtain ⟨r, hr, e, -, g, hg⟩ := (exists_error_iff s).1 ⟨u, hs⟩
    obtain ⟨hsource, htarget⟩ := h r hr
    cases g <;> simp [Gap.occurs, hsource, htarget] at hg

/-- **When planning fails, and how.**  It fails with the first fault of the schema.  There is one
exactly when a relationship from a declared entity leads to many of an undeclared one, or when a
relationship from an undeclared entity takes exactly one of a declared one that is not owned, or
ends optionally, and not with many, at a declared one.  Where both ends of every relationship are
declared, classes and mapping are planned. -/
theorem entities_fail_iff (s : Schema) :
    (∀ u, entities s = .error u ↔ (faults s).head? = some u) ∧
    ((∃ u, entities s = .error u) ↔ ∃ r ∈ s.relationships,
      (s.declares r.source = true ∧ s.declares r.target = false ∧
        isMany r.targetCardinality = true) ∨
      (s.declares r.source = false ∧ exactlyOne r.targetCardinality = true ∧
        ∃ e ∈ s.entities, sameName r.target e.name = true ∧ s.isOwned e = false) ∨
      (s.declares r.target = true ∧ s.declares r.source = false ∧
        isOptional r.targetCardinality = true ∧ isMany r.targetCardinality = false)) ∧
    ((∀ r ∈ s.relationships, s.declares r.source = true ∧ s.declares r.target = true) →
      ∃ plans m, entities s = .ok plans ∧ (mapping s).result = .ok m) := by
  refine ⟨fun u => ?_, ?_, fun hall => ?_⟩
  · rw [← fault?_entities, fault?_eq_some_iff]
  · rw [exists_error_iff]
    exact exists_congr fun r => and_congr_right fun _ => exists_gap_iff s r
  · obtain ⟨plans, hplans⟩ := exists_plans_of_declared hall
    obtain ⟨m, hm⟩ := exists_mapping hplans
    exact ⟨plans, m, hplans, hm⟩

/-- Two lost ends at one entity, the later of which is noticed first. -/
def strays : Schema where
  entities := [⟨"A", []⟩]
  relationships := [⟨"X", "a", "||", "||", ""⟩, ⟨"A", "B", "||", "o\x7b", ""⟩]

theorem entities_fail_iff_strays : entities strays =
    .error { name := "B", relationship := some ⟨"A", "B", "||", "o\x7b", ""⟩ } := by
  obtain ⟨herror, -, -⟩ := entities_fail_iff strays
  exact (herror _).2 (by decide +kernel)

end Plan
end Entigram
