import Entigram.Plan.Entity
import Entigram.Proofs.Naming.Resolution

/-!
# From relationships to links

A class gets its navigations in three steps, and each is described here by what it keeps.

* `firstPerName` keeps one relationship for a name.  Which one is said by `filter_firstPerName`: of
  the relationships with one name at the far end, the first stays and no other.  So a question that
  only looks at the name is answered by the same relationship before and after
  (`find?_firstPerName`).
* `links` resolves the far ends of all groups.  `map_links` gives what it makes of the
  relationships, and `fault?_links` what it fails with: the first relationship of the first group
  whose far end is not declared.
* `navigations` gives every link a name, and leaves its target and its kind alone
  (`map_navigations`), just as `scalars` does with the attributes (`map_column_scalars`).

`entity_eq_ok_iff` puts the steps together, and `exists_plan` and `exists_entity` say which plan
belongs to which entity.
-/

set_option autoImplicit false

namespace Entigram

open Naming Attempt

namespace Plan

/-! ## One relationship for a name -/

/-- **Of the relationships with a name, the first is kept**, and no other. -/
theorem filter_firstPerName (endpoint : Relationship → String) (name : String)
    (rs : List Relationship) :
    (firstPerName endpoint rs).filter (fun r => sameName (endpoint r) name) =
      (rs.find? fun r => sameName (endpoint r) name).toList := by
  induction rs with
  | nil => rfl
  | cons r rs ih =>
    -- Of the later ones with this name, either all are dropped or none.
    have hrest : ((firstPerName endpoint rs).filter fun r' =>
        !sameName (endpoint r') (endpoint r)).filter (fun r' => sameName (endpoint r') name)
          = ((firstPerName endpoint rs).filter fun r' => sameName (endpoint r') name).filter
              fun _ => !sameName (endpoint r) name := by
      rw [List.filter_filter, List.filter_filter]
      refine List.filter_congr fun r' _ => ?_
      cases h : sameName (endpoint r') name with
      | false => simp
      | true => rw [sameName_congr h, sameName_comm name, Bool.true_and, Bool.and_true]
    rw [firstPerName_cons, List.filter_cons, List.find?_cons, hrest]
    cases sameName (endpoint r) name with
    | true => simp
    | false => simpa using ih

/-- A name that occurs is kept once. -/
theorem countP_firstPerName (endpoint : Relationship → String) (name : String)
    (rs : List Relationship) :
    (firstPerName endpoint rs).countP (fun r => sameName (endpoint r) name) =
      (rs.any fun r => sameName (endpoint r) name).toNat := by
  rw [List.countP_eq_length_filter, filter_firstPerName, ← List.isSome_find?]
  cases rs.find? fun r => sameName (endpoint r) name <;> rfl

/-- What only depends on the name is found at the same relationship. -/
theorem find?_firstPerName {endpoint : Relationship → String} {p : Relationship → Bool}
    (hp : ∀ r r', sameName (endpoint r) (endpoint r') = true → p r = p r')
    (rs : List Relationship) : (firstPerName endpoint rs).find? p = rs.find? p := by
  induction rs with
  | nil => rfl
  | cons r rs ih =>
    rw [firstPerName_cons, List.find?_cons, List.find?_cons, List.find?_filter, ← ih]
    cases h : p r with
    | true => rfl
    | false =>
      have hsame : ∀ r', (!sameName (endpoint r') (endpoint r) && p r') = p r' := by
        intro r'
        cases hr' : sameName (endpoint r') (endpoint r) with
        | false => rfl
        | true => rw [hp r' r hr', h, Bool.and_false]
      simp [hsame]

/-- Nothing is added. -/
theorem firstPerName_sublist (endpoint : Relationship → String) (rs : List Relationship) :
    (firstPerName endpoint rs).Sublist rs := by
  induction rs with
  | nil => exact .slnil
  | cons r rs ih =>
    rw [firstPerName_cons]
    exact (List.filter_sublist.trans ih).cons_cons r

theorem mem_of_mem_relationships {s : Schema} {e : Entity} {g : Group} {r : Relationship}
    (h : r ∈ g.relationships s e) : r ∈ s.relationships := by
  rw [Group.relationships_eq] at h
  exact (List.mem_filter.1 ((firstPerName_sublist _ _).subset h)).1

/-! ## Links -/

/-- The relationships that give an entity its navigations, in order, with their groups. -/
def origins (s : Schema) (e : Entity) : List (Group × Relationship) :=
  Group.all.flatMap fun g => (g.relationships s e).map fun r => (g, r)

theorem links_eq (s : Schema) (names : ClassNames) (e : Entity) : links s names e =
    (origins s e).mapM fun p => do
      return { target := ← names.resolve (p.1.farEnd p.2) (some p.2), group := p.1 } := rfl

/-- A link keeps its relationship's group, and leads to the class of the far end. -/
theorem map_links {s : Schema} {names : ClassNames} {e : Entity} {ls : List Link}
    (h : links s names e = .ok ls) :
    ls.map (fun l => (some l.target, l.group)) =
      (origins s e).map fun p => (names.get? (p.1.farEnd p.2), p.1) := by
  rw [links_eq] at h
  refine map_of_mapM_eq_ok h fun p l hl => ?_
  obtain ⟨cls, hcls, hl⟩ := bind_eq_ok_iff.1 hl
  obtain rfl : { target := cls, group := p.1 } = l := by injection hl
  rw [ClassNames.resolve_eq_ok_iff.1 hcls]

/-- The target of a link is the class of its relationship's far end. -/
theorem get?_of_mem_links {s : Schema} {names : ClassNames} {e : Entity} {ls : List Link}
    (h : links s names e = .ok ls) {l : Link} (hl : l ∈ ls) :
    ∃ name, names.get? name = some l.target := by
  have hmem : (some l.target, l.group) ∈
      (origins s e).map fun p => (names.get? (p.1.farEnd p.2), p.1) := by
    rw [← map_links h]
    exact List.mem_map_of_mem hl
  obtain ⟨o, -, ho⟩ := List.mem_map.1 hmem
  exact ⟨o.1.farEnd o.2, (Prod.ext_iff.1 ho).1⟩

/-- The first relationship that would lead an entity to an undeclared one in this group. -/
def Group.dangling? (s : Schema) (e : Entity) (g : Group) : Option Relationship :=
  s.relationships.find? fun r =>
    sameName (g.nearEnd r) e.name && g.admits s e r && !s.declares (g.farEnd r)

/-- Resolving the far ends of one group fails at the first undeclared one; that only one
relationship is kept for a name does not hide it. -/
theorem findSome?_relationships (s : Schema) (e : Entity) (g : Group) :
    ((g.relationships s e).findSome? fun r =>
        fault? ((ClassNames.ofSchema s).resolve (g.farEnd r) (some r))) =
      (g.dangling? s e).map fun r => { name := g.farEnd r, relationship := some r } := by
  have hfault : (fun r => fault? ((ClassNames.ofSchema s).resolve (g.farEnd r) (some r))) =
      Option.map (fun r => { name := g.farEnd r, relationship := some r }) ∘
        Option.guard fun r => !s.declares (g.farEnd r) := by
    funext r
    rw [ClassNames.fault?_resolve, Function.comp_apply, Option.guard]
    cases s.declares (g.farEnd r) <;> rfl
  have hname : ∀ r r', sameName (g.farEnd r) (g.farEnd r') = true →
      (!s.declares (g.farEnd r)) = !s.declares (g.farEnd r') := by
    intro r r' h
    rw [← s.isSome_entityIndex?, ← s.isSome_entityIndex?, Schema.entityIndex?_congr h]
  rw [hfault, ← List.map_findSome?, List.findSome?_guard, Group.relationships_eq,
    find?_firstPerName hname, List.find?_filter, Group.dangling?]
  simp only [Bool.decide_and, Bool.decide_eq_true]

/-- **Links fail at the first undeclared far end**, group by group. -/
theorem fault?_links (s : Schema) (e : Entity) :
    fault? (links s (.ofSchema s) e) = Group.all.findSome? fun g =>
      (g.dangling? s e).map fun r => { name := g.farEnd r, relationship := some r } := by
  have hstep : ∀ p : Group × Relationship,
      fault? (do
        return ({ target := ← (ClassNames.ofSchema s).resolve (p.1.farEnd p.2) (some p.2)
                  group := p.1 } : Link)) =
        fault? ((ClassNames.ofSchema s).resolve (p.1.farEnd p.2) (some p.2)) := by
    intro p
    cases (ClassNames.ofSchema s).resolve (p.1.farEnd p.2) (some p.2) <;> rfl
  rw [links_eq, fault?_mapM, ← List.head?_filterMap, origins, List.filterMap_flatMap,
    List.head?_flatMap]
  congr 1
  funext g
  rw [List.head?_filterMap, List.findSome?_map, ← findSome?_relationships]
  congr 1
  funext r
  exact hstep (g, r)

/-! ## Properties and navigations -/

/-- Properties are those of the attributes, in their order. -/
theorem map_column_scalars (used : UsedNames) (attributes : List Attribute) :
    (scalars used attributes).1.map (·.column) = attributes :=
  (UsedNames.map_make (fun _ _ => by rfl) used attributes).trans (List.map_id attributes)

/-- A property has the name that was claimed for its attribute. -/
theorem map_name_scalars (used : UsedNames) (attributes : List Attribute) :
    (scalars used attributes).1.map (·.name) =
      (used.claimAll (attributes.map fun a => pascalCase a.name)).1 :=
  UsedNames.map_name_make (fun _ _ => rfl) used attributes

/-- A navigation keeps its link's target and is a collection as its group says. -/
theorem map_navigations (used : UsedNames) (ls : List Link) :
    (navigations used ls).map (fun n => (n.target, n.isCollection)) =
      ls.map fun l => (l.target, l.group.isCollection) :=
  UsedNames.map_make (fun _ _ => by rfl) used ls

/-- A navigation has the name that was claimed for its link. -/
theorem map_name_navigations (used : UsedNames) (ls : List Link) :
    (navigations used ls).map (·.name) =
      (used.claimAll (ls.map fun l => l.group.wantedName l.target)).1 :=
  UsedNames.map_name_make (fun _ _ => rfl) used ls

/-! ## Whole plans -/

/-- **What an entity's plan holds.** -/
theorem entity_eq_ok_iff {s : Schema} {names : ClassNames} {e : Entity} {c : String}
    {p : EntityPlan} :
    entity s names e c = .ok p ↔ ∃ ls, links s names e = .ok ls ∧
      p = { entity := e, className := c, kind := s.kind e
            properties := (scalars .empty e.attributes).1
            navigations := navigations (scalars .empty e.attributes).2 ls } := by
  rw [entity, bind_eq_ok_iff]
  refine exists_congr fun ls => and_congr_right fun _ => ?_
  rw [eq_comm]
  simp [pure, Except.pure]

theorem entity_of_eq_ok {s : Schema} {names : ClassNames} {e : Entity} {c : String}
    {p : EntityPlan} (h : entity s names e c = .ok p) : p.entity = e := by
  obtain ⟨ls, -, rfl⟩ := entity_eq_ok_iff.1 h
  rfl

theorem className_of_eq_ok {s : Schema} {names : ClassNames} {e : Entity} {c : String}
    {p : EntityPlan} (h : entity s names e c = .ok p) : p.className = c := by
  obtain ⟨ls, -, rfl⟩ := entity_eq_ok_iff.1 h
  rfl

/-- Every attribute has a property, and nothing else has. -/
theorem map_column_of_eq_ok {s : Schema} {names : ClassNames} {e : Entity} {c : String}
    {p : EntityPlan} (h : entity s names e c = .ok p) :
    p.properties.map (·.column) = e.attributes := by
  obtain ⟨ls, -, rfl⟩ := entity_eq_ok_iff.1 h
  exact map_column_scalars .empty e.attributes

/-- The target of a navigation is the class of its relationship's far end. -/
theorem get?_of_mem_navigations {s : Schema} {names : ClassNames} {e : Entity} {c : String}
    {p : EntityPlan} (h : entity s names e c = .ok p) {n : Navigation} (hn : n ∈ p.navigations) :
    ∃ name, names.get? name = some n.target := by
  obtain ⟨ls, hls, rfl⟩ := entity_eq_ok_iff.1 h
  have hmem : (n.target, n.isCollection) ∈ ls.map fun l => (l.target, l.group.isCollection) := by
    rw [← map_navigations]
    exact List.mem_map_of_mem hn
  obtain ⟨l, hl, htarget⟩ := List.mem_map.1 hmem
  obtain ⟨name, hname⟩ := get?_of_mem_links hls hl
  exact ⟨name, hname.trans (congrArg some (Prod.ext_iff.1 htarget).1)⟩

theorem fault?_entity (s : Schema) (names : ClassNames) (e : Entity) (c : String) :
    fault? (entity s names e c) = fault? (links s names e) := by
  rw [entity]
  cases links s names e <;> rfl

/-- Every entity is named, and nothing else. -/
theorem map_fst_named (s : Schema) : (named s (.ofSchema s)).map Prod.fst = s.entities :=
  List.map_fst_zip (by simp)

/-- Every class is the name of an entity. -/
theorem map_snd_named (s : Schema) :
    (named s (.ofSchema s)).map Prod.snd = (ClassNames.ofSchema s).classes :=
  List.map_snd_zip (by simp)

/-- What only looks at the entities can be told without the names. -/
theorem map_filter_named {α : Type} (s : Schema) (f : Entity → Bool) (g : Entity → α) :
    ((named s (.ofSchema s)).filter fun x => f x.1).map (fun x => g x.1) =
      (s.entities.filter f).map g := by
  conv_rhs => rw [← map_fst_named s, List.filter_map, List.map_map]
  rfl

theorem getElem?_named {s : Schema} {i : Nat} {e : Entity} {c : String} :
    (named s (.ofSchema s))[i]? = some (e, c) ↔
      s.entities[i]? = some e ∧ (ClassNames.ofSchema s).classes[i]? = some c :=
  List.getElem?_zip_eq_some

theorem mem_named {s : Schema} {x : Entity × String} :
    x ∈ named s (.ofSchema s) ↔
      ∃ i : Nat, s.entities[i]? = some x.1 ∧ (ClassNames.ofSchema s).classes[i]? = some x.2 := by
  obtain ⟨e, c⟩ := x
  rw [List.mem_iff_getElem?]
  exact exists_congr fun _ => getElem?_named

/-- Plans stand at the positions of their entities. -/
theorem exists_plan {s : Schema} {plans : List EntityPlan} (h : entities s = .ok plans) {i : Nat}
    {e : Entity} {c : String} (he : s.entities[i]? = some e)
    (hc : (ClassNames.ofSchema s).classes[i]? = some c) :
    ∃ p, plans[i]? = some p ∧ entity s (.ofSchema s) e c = .ok p := by
  have hmap := congrArg (fun xs => xs[i]?) (mapM_eq_ok_iff.1 h)
  simp only [List.getElem?_map, getElem?_named.2 ⟨he, hc⟩, Option.map_some] at hmap
  obtain ⟨p, hp, hep⟩ := Option.map_eq_some_iff.1 hmap.symm
  exact ⟨p, hp, hep.symm⟩

/-- Every plan is that of an entity. -/
theorem exists_entity {s : Schema} {plans : List EntityPlan} (h : entities s = .ok plans) {i : Nat}
    {p : EntityPlan} (hp : plans[i]? = some p) :
    ∃ e c, s.entities[i]? = some e ∧ (ClassNames.ofSchema s).classes[i]? = some c ∧
      entity s (.ofSchema s) e c = .ok p := by
  have hmap := congrArg (fun xs => xs[i]?) (mapM_eq_ok_iff.1 h)
  simp only [List.getElem?_map, hp, Option.map_some] at hmap
  obtain ⟨⟨e, c⟩, hec, hep⟩ := Option.map_eq_some_iff.1 hmap
  obtain ⟨he, hc⟩ := getElem?_named.1 hec
  exact ⟨e, c, he, hc, hep⟩

/-- A planned class is that of an entity. -/
theorem exists_entity_of_mem {s : Schema} {plans : List EntityPlan} (h : entities s = .ok plans)
    {p : EntityPlan} (hp : p ∈ plans) : ∃ e ∈ s.entities, ∃ c ∈ (ClassNames.ofSchema s).classes,
      entity s (.ofSchema s) e c = .ok p := by
  obtain ⟨i, hi⟩ := List.mem_iff_getElem?.1 hp
  obtain ⟨e, c, he, hc, hep⟩ := exists_entity h hi
  exact ⟨e, List.mem_of_getElem? he, c, List.mem_of_getElem? hc, hep⟩

end Plan
end Entigram
