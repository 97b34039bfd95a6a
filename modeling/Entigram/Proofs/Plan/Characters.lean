import Entigram.Proofs.Diagram.Reading
import Entigram.Proofs.Naming.Characters
import Entigram.Proofs.Plan.Keys
import Entigram.Proofs.Plan.Names

/-!
# The characters of planned names

A diagram is cut into lines before anything is read off it, so no name in it has a line break
(`avoids_of_mem_parse`).  All names of the classes are made from those names, and they have no
spaces either (`avoids_of_parse`): those of classes and properties directly, targets because they
are classes, and navigations because they are named after their targets.

A mapping adds the names of its query surfaces, which are plurals of classes.  All its other names
are taken from the classes (`avoids_mapping_of_parse`).
-/

set_option autoImplicit false

namespace Entigram

open Text Naming

/-- No name in the plan of a class has one of these characters. -/
structure EntityPlan.Avoids (p : Char → Bool) (plan : EntityPlan) : Prop where
  className : Text.Avoids p plan.className
  properties : ∀ x ∈ plan.properties, Text.Avoids p x.name
  navigations : ∀ n ∈ plan.navigations, Text.Avoids p n.name ∧ Text.Avoids p n.target

theorem EntityPlan.Avoids.mono {p q : Char → Bool} {plan : EntityPlan}
    (h : plan.Avoids p) (hpq : ∀ c, p c = false → q c = false) : plan.Avoids q where
  className := h.className.mono hpq
  properties x hx := (h.properties x hx).mono hpq
  navigations n hn := (h.navigations n hn).imp (·.mono hpq) (·.mono hpq)

/-- No name in a key has one of these characters. -/
structure KeyPlan.Avoids (p : Char → Bool) (k : KeyPlan) : Prop where
  className : Text.Avoids p k.className
  properties : ∀ name ∈ k.properties, Text.Avoids p name

/-- No name in the plan of a mapping has one of these characters. -/
structure MappingPlan.Avoids (p : Char → Bool) (m : MappingPlan) : Prop where
  querySurfaces : ∀ q ∈ m.querySurfaces, Text.Avoids p q.className ∧ Text.Avoids p q.name
  ownerships : ∀ o ∈ m.ownerships,
    Text.Avoids p o.owner ∧ Text.Avoids p o.owned ∧ Text.Avoids p o.navigation
  compositeKeys : ∀ k ∈ m.compositeKeys, k.Avoids p
  keyless : ∀ c ∈ m.keyless, Text.Avoids p c
  joinTableKeys : ∀ k ∈ m.joinTableKeys, k.Avoids p

instance (p : Char → Bool) (k : KeyPlan) : Decidable (k.Avoids p) :=
  decidable_of_iff (Text.Avoids p k.className ∧ ∀ name ∈ k.properties, Text.Avoids p name)
    ⟨fun h => ⟨h.1, h.2⟩, fun h => ⟨h.1, h.2⟩⟩

theorem KeyPlan.Avoids.mono {p q : Char → Bool} {k : KeyPlan} (h : k.Avoids p)
    (hpq : ∀ c, p c = false → q c = false) : k.Avoids q where
  className := h.className.mono hpq
  properties name hname := (h.properties name hname).mono hpq

theorem MappingPlan.Avoids.mono {p q : Char → Bool} {m : MappingPlan} (h : m.Avoids p)
    (hpq : ∀ c, p c = false → q c = false) : m.Avoids q where
  querySurfaces x hx := (h.querySurfaces x hx).imp (·.mono hpq) (·.mono hpq)
  ownerships o ho :=
    (h.ownerships o ho).imp (·.mono hpq) fun hrest => hrest.imp (·.mono hpq) (·.mono hpq)
  compositeKeys k hk := (h.compositeKeys k hk).mono hpq
  keyless c hc := (h.keyless c hc).mono hpq
  joinTableKeys k hk := (h.joinTableKeys k hk).mono hpq

/-! ## In the diagram -/

namespace Diagram

theorem avoids_openedName {line : List Char} (h : ∀ c ∈ line, isLineBreak c = false) :
    Text.Avoids isLineBreak (openedName line) := by
  intro c hc
  rw [openedName, String.toList_ofList] at hc
  exact h c (List.mem_of_mem_filter (mem_of_mem_trimWhile hc))

theorem avoids_attribute? {line : List Char} (h : ∀ c ∈ line, isLineBreak c = false)
    {a : Attribute} (ha : attribute? line = some a) : Text.Avoids isLineBreak a.name := by
  rw [attribute?] at ha
  split at ha
  · next dataType name rest hwords =>
    obtain rfl := Option.some_inj.1 ha
    intro c hc
    rw [String.toList_ofList] at hc
    exact h c (mem_of_mem_words (by simp [hwords]) hc)
  · cases ha

/-- **No name in a diagram has a line break.** -/
theorem avoids_of_mem_parse {text : String} {e : Entity} (he : e ∈ (parse text).entities) :
    Text.Avoids isLineBreak e.name ∧ ∀ a ∈ e.attributes, Text.Avoids isLineBreak a.name := by
  have htrimmed : ∀ line ∈ lines text.toList, ∀ c ∈ trim line, isLineBreak c = false :=
    fun line hline c hc => isLineBreak_of_mem_lines hline (mem_of_mem_trimWhile hc)
  obtain ⟨hopening, hattributes⟩ := (mem_of_mem_assembled (statements text)).2 e he
  constructor
  · obtain ⟨line, hline, inside, number, hsays⟩ := says_of_mem_statementsFrom hopening
    generalize e.name = name at hsays
    cases hsays
    exact avoids_openedName (htrimmed line hline)
  · intro a ha
    obtain ⟨line, hline, inside, number, hsays⟩ := says_of_mem_statementsFrom (hattributes a ha)
    match hsays with
    | .attribute _ _ _ hread => exact avoids_attribute? (htrimmed line hline) hread

end Diagram

/-! ## In the plans -/

namespace Plan

variable {s : Schema}

theorem avoids_classes (h : ∀ e ∈ s.entities, Text.Avoids isLineBreak e.name) :
    ∀ c ∈ (ClassNames.ofSchema s).classes, Text.Avoids isSpaceOrLineBreak c := by
  refine UsedNames.avoids_claimAll .empty fun base hbase => ?_
  obtain ⟨e, he, rfl⟩ := List.mem_map.1 hbase
  exact avoids_pascalCase (h e he)

theorem avoids_wantedName (g : Group) {target : String}
    (h : Text.Avoids isSpaceOrLineBreak target) :
    Text.Avoids isSpaceOrLineBreak (g.wantedName target) := by
  rw [Group.wantedName]
  split
  · exact avoids_pluralize h
  · exact h

/-- No name in the plan of a class has a space or a line break. -/
theorem avoids_of_entity
    (h : ∀ e ∈ s.entities, Text.Avoids isLineBreak e.name) {e : Entity}
    (he : ∀ a ∈ e.attributes, Text.Avoids isLineBreak a.name) {c : String}
    (hc : c ∈ (ClassNames.ofSchema s).classes) {p : EntityPlan}
    (hp : entity s (.ofSchema s) e c = .ok p) : p.Avoids isSpaceOrLineBreak := by
  obtain ⟨ls, hls, hnames⟩ := memberNames_eq hp
  have hmembers : ∀ name ∈ memberNames p, Text.Avoids isSpaceOrLineBreak name := by
    rw [hnames]
    refine UsedNames.avoids_claimAll .empty fun base hbase => ?_
    rcases List.mem_append.1 hbase with hbase | hbase
    · obtain ⟨a, ha, rfl⟩ := List.mem_map.1 hbase
      exact avoids_pascalCase (he a ha)
    · obtain ⟨l, hl, rfl⟩ := List.mem_map.1 hbase
      obtain ⟨name, hname⟩ := get?_of_mem_links hls hl
      exact avoids_wantedName _ (avoids_classes h _ (mem_classes_of_get? hname))
  refine ⟨?_, fun x hx => hmembers _ ?_, fun n hn => ⟨hmembers _ ?_, ?_⟩⟩
  · rw [className_of_eq_ok hp]
    exact avoids_classes h c hc
  · exact List.mem_append_left _ (List.mem_map_of_mem hx)
  · exact List.mem_append_right _ (List.mem_map_of_mem hn)
  · obtain ⟨name, hname⟩ := get?_of_mem_navigations hp hn
    exact avoids_classes h _ (mem_classes_of_get? hname)

/-- **No name of a diagram's classes has a space or a line break.** -/
theorem avoids_of_parse {text : String} {plans : List EntityPlan}
    (h : entities (Diagram.parse text) = .ok plans) : ∀ p ∈ plans, p.Avoids isSpaceOrLineBreak := by
  intro p hp
  obtain ⟨e, he, c, hc, hep⟩ := exists_entity_of_mem h hp
  exact avoids_of_entity (fun e he => (Diagram.avoids_of_mem_parse he).1)
    (Diagram.avoids_of_mem_parse he).2 hc hep

/-! ## In the mapping -/

/-- A query surface has the name that was claimed for the plural of its class. -/
theorem map_name_querySurfaces (s : Schema) (names : ClassNames) :
    (querySurfaces s names).map (·.name) = (UsedNames.empty.claimAll
      (((querySurfaces s names).map (·.className)).map pluralize)).1 := by
  rw [map_querySurfaces]
  exact UsedNames.map_name_make (fun _ _ => rfl) .empty _

theorem avoids_surfaceName (h : ∀ e ∈ s.entities, Text.Avoids isLineBreak e.name) :
    ∀ q ∈ querySurfaces s (.ofSchema s), Text.Avoids isSpaceOrLineBreak q.name := by
  intro q hq
  have hmem : q.name ∈ (querySurfaces s (.ofSchema s)).map (·.name) := List.mem_map_of_mem hq
  rw [map_name_querySurfaces, map_querySurfaces] at hmem
  refine UsedNames.avoids_claimAll .empty (fun base hbase => ?_) _ hmem
  obtain ⟨c, hc, rfl⟩ := List.mem_map.1 hbase
  obtain ⟨x, hx, rfl⟩ := List.mem_map.1 hc
  exact avoids_pluralize (avoids_classes h _ (mem_classes_of_mem_named (List.mem_filter.1 hx).1))

/-- The key of an entity's class names properties of its attributes. -/
theorem avoids_keyPlan {x : Entity × String} (hc : Text.Avoids isSpaceOrLineBreak x.2)
    (he : ∀ a ∈ x.1.attributes, Text.Avoids isLineBreak a.name) :
    (keyPlan x).Avoids isSpaceOrLineBreak := by
  refine ⟨hc, fun name hname => ?_⟩
  obtain ⟨q, hq, rfl⟩ := List.mem_map.1 hname
  have hmem : q.name ∈ (scalars .empty x.1.attributes).1.map (·.name) :=
    List.mem_map_of_mem (List.mem_filter.1 hq).1
  rw [map_name_scalars] at hmem
  refine UsedNames.avoids_claimAll .empty (fun base hbase => ?_) _ hmem
  obtain ⟨a, ha, rfl⟩ := List.mem_map.1 hbase
  exact avoids_pascalCase (he a ha)

/-- No name in the plan of a mapping has a space or a line break. -/
theorem avoids_of_mapping (h : ∀ e ∈ s.entities, Text.Avoids isLineBreak e.name ∧
      ∀ a ∈ e.attributes, Text.Avoids isLineBreak a.name) {m : MappingPlan}
    (hm : (mapping s).result = .ok m) : m.Avoids isSpaceOrLineBreak := by
  have hnames : ∀ e ∈ s.entities, Text.Avoids isLineBreak e.name := fun e he => (h e he).1
  have hclass : ∀ c ∈ mentioned m, Text.Avoids isSpaceOrLineBreak c := fun c hc =>
    avoids_classes hnames c (mem_classes_of_mem_mentioned hm hc)
  have hkey : ∀ x ∈ named s (.ofSchema s), (keyPlan x).Avoids isSpaceOrLineBreak := by
    intro x hx
    obtain ⟨i, he, hc⟩ := mem_named.1 hx
    exact avoids_keyPlan (avoids_classes hnames _ (List.mem_of_getElem? hc))
      (h _ (List.mem_of_getElem? he)).2
  obtain ⟨os, ks, hos, hks, rfl⟩ := mapping_eq_ok_iff.1 hm
  simp only [mentioned, List.mem_append] at hclass
  refine ⟨fun q hq => ⟨hclass _ ?_, avoids_surfaceName hnames q hq⟩, fun o ho => ?_,
    fun k hk => ?_, fun c hc => hclass c (.inl (.inr hc)), fun k hk => ?_⟩
  · exact .inl (.inl (.inl (.inl (List.mem_map_of_mem hq))))
  · obtain ⟨howned, i, e, p, he, howner, hp, n, hn, hname, -⟩ := exists_navigation hos ho
    have hplan := avoids_of_entity hnames (h e (List.mem_of_getElem? he)).2
      (List.mem_of_getElem? howner) hp
    refine ⟨avoids_classes hnames _ (List.mem_of_getElem? howner),
      avoids_classes hnames _ howned, ?_⟩
    rw [← hname]
    exact (hplan.navigations n hn).1
  · rw [compositeKeys_eq] at hk
    obtain ⟨x, hx, rfl⟩ := List.mem_map.1 hk
    exact hkey x (List.mem_filter.1 hx).1
  · rw [(joinTableKeys_split hks).1] at hk
    obtain ⟨x, hx, rfl⟩ := List.mem_map.1 hk
    exact hkey x (List.mem_filter.1 hx).1

/-- **No name of a diagram's mapping has a space or a line break.** -/
theorem avoids_mapping_of_parse {text : String} {m : MappingPlan}
    (hm : (mapping (Diagram.parse text)).result = .ok m) : m.Avoids isSpaceOrLineBreak :=
  avoids_of_mapping (fun _ he => Diagram.avoids_of_mem_parse he) hm

end Plan
end Entigram
