import Entigram.Proofs.CSharp.Lines

/-!
# Classes are read off their source

Names may hold any punctuation, and types are written in several words, so it is not plain that two
different lists of classes cannot have one source.  They cannot as long as there is no space and no
line feed in a name (`entities_lossless`).  The source is taken apart from the outside to the
inside, and every cut can fall in one place only:

* **Lines** end at line feeds, and no line of a class has one inside (`flatMap_ended_inj`).
* **Classes** hold indented lines only, up to the line in front of the navigations or the one that
  ends the class.  So their properties and navigations are told from what follows, and a class from
  the next one (`classLines_inj`).
* **Properties** have their name behind the last space in front of the accessors, whatever the
  number of words before it (`propertyLine_inj`).
* **Navigations** have their type in front of the first space, and its last character tells a
  collection; their name goes up to the next space (`navigationLine_inj`).
-/

set_option autoImplicit false

namespace Entigram

open Text Naming Attempt

namespace CSharp

/-! ## Properties and navigations -/

theorem toList_propertyLine (x : ScalarProperty) : (propertyLine x).toList =
    (line 1 "public ").toList ++ (((declaredType x).toList ++ ' ' :: x.name.toList) ++
      ' ' :: accessors.toList) := by
  simp [propertyLine, line, toString]

/-- What the declaration of a scalar property says. -/
def shownProperty (x : ScalarProperty) : String × ScalarType × Bool := (x.name, x.type, x.nullable)

theorem declaredType_inj {x y : ScalarProperty} (h : declaredType x = declaredType y) :
    x.type = y.type ∧ x.nullable = y.nullable := by
  revert h
  rw [declaredType, declaredType]
  cases x.type <;> cases x.nullable <;> cases y.type <;> cases y.nullable <;> decide

/-- **Scalar properties are read off their lines.** -/
theorem propertyLine_inj {x y : ScalarProperty} (hx : Avoids isGap x.name)
    (hy : Avoids isGap y.name) (h : propertyLine x = propertyLine y) :
    shownProperty x = shownProperty y := by
  rw [← String.toList_inj, toList_propertyLine, toList_propertyLine] at h
  have hdeclared := List.append_cancel_right (List.append_cancel_left h)
  obtain ⟨htype, -, hname⟩ := append_cons_inj_right (P := fun c => isGap c = false) hx hy
    (by decide) (by decide) hdeclared
  obtain ⟨htype, hnullable⟩ := declaredType_inj (String.toList_inj.1 htype)
  rw [shownProperty, shownProperty, String.toList_inj.1 hname, htype, hnullable]

/-- How the type of a navigation is declared. -/
def navigationType (n : Navigation) : List Char :=
  (if n.isCollection then "ICollection<".toList else []) ++ n.target.toList ++
    [if n.isCollection then '>' else '?']

/-- What follows the name of a navigation. -/
def navigationEnd (n : Navigation) : List Char :=
  accessors.toList ++
    if n.isCollection then " = new List<".toList ++ n.target.toList ++ ">();".toList else []

theorem toList_navigationLine (n : Navigation) : (navigationLine n).toList =
    (line 1 "public ").toList ++
      (navigationType n ++ ' ' :: (n.name.toList ++ ' ' :: navigationEnd n)) := by
  rw [navigationLine, navigationType, navigationEnd]
  split <;> simp [line, toString]

theorem navigationType_inj {m n : Navigation} (h : navigationType m = navigationType n) :
    m.target = n.target ∧ m.isCollection = n.isCollection := by
  obtain ⟨htarget, hlast⟩ := List.append_inj' h rfl
  have hcollection : m.isCollection = n.isCollection := by
    revert hlast
    cases m.isCollection <;> cases n.isCollection <;> decide
  rw [hcollection] at htarget
  exact ⟨String.toList_inj.1 (List.append_cancel_left htarget), hcollection⟩

theorem navigationType_avoids {n : Navigation} (h : Avoids isGap n.target) :
    ∀ c ∈ navigationType n, isGap c = false := by
  intro c hc
  rw [navigationType, List.mem_append, List.mem_append] at hc
  rcases hc with (hc | hc) | hc
  · split at hc
    · revert c
      decide
    · cases hc
  · exact h c hc
  · rw [List.mem_singleton.1 hc]
    split <;> decide

/-- **Navigations are read off their lines.** -/
theorem navigationLine_inj {m n : Navigation} (hm : Avoids isGap m.name ∧ Avoids isGap m.target)
    (hn : Avoids isGap n.name ∧ Avoids isGap n.target) (h : navigationLine m = navigationLine n) :
    m = n := by
  rw [← String.toList_inj, toList_navigationLine, toList_navigationLine] at h
  obtain ⟨htype, -, hrest⟩ := append_cons_inj (P := fun c => isGap c = false)
    (navigationType_avoids hm.2) (navigationType_avoids hn.2) (by decide) (by decide)
    (List.append_cancel_left h)
  obtain ⟨hname, -, -⟩ := append_cons_inj (P := fun c => isGap c = false) hm.1 hn.1 (by decide)
    (by decide) hrest
  obtain ⟨htarget, hcollection⟩ := navigationType_inj htype
  cases m
  cases n
  obtain rfl := String.toList_inj.1 hname
  cases htarget
  cases hcollection
  rfl

/-! ## Classes -/

/-- What the class of a plan says: its name, its scalar properties and its navigations. -/
def shown (p : EntityPlan) : String × List (String × ScalarType × Bool) × List Navigation :=
  (p.className, p.properties.map shownProperty, p.navigations)

theorem isIndented_propertyLine (x : ScalarProperty) : isIndented (propertyLine x) = true :=
  isIndented_line 0 _

theorem isIndented_navigationLine (n : Navigation) : isIndented (navigationLine n) = true := by
  rw [navigationLine]
  split <;> exact isIndented_line 0 _

/-- The navigations of a class are read off their part, up to the line that ends the class. -/
theorem navigationLines_inj {ms ns : List Navigation} {rest rest' : List String}
    (hms : ∀ n ∈ ms, Avoids isGap n.name ∧ Avoids isGap n.target)
    (hns : ∀ n ∈ ns, Avoids isGap n.name ∧ Avoids isGap n.target)
    (h : navigationLines ms ++ "\x7d" :: rest = navigationLines ns ++ "\x7d" :: rest') :
    ms = ns ∧ rest = rest' := by
  cases ms with
  | nil =>
    cases ns with
    | nil => exact ⟨rfl, (List.cons.inj h).2⟩
    | cons n ns => exact absurd (List.cons.inj h).1 (by decide)
  | cons m ms =>
    cases ns with
    | nil => exact absurd (List.cons.inj h).1 (by decide)
    | cons n ns =>
      have hlines : (m :: ms).map navigationLine ++ "\x7d" :: rest =
          (n :: ns).map navigationLine ++ "\x7d" :: rest' :=
        (List.cons.inj (List.cons.inj h).2).2
      obtain ⟨hmembers, -, hrest⟩ := append_cons_inj (P := fun l => isIndented l = true)
        (List.forall_mem_map.2 fun n _ => isIndented_navigationLine n)
        (List.forall_mem_map.2 fun n _ => isIndented_navigationLine n) (by decide) (by decide)
        hlines
      have hall := map_eq_map_of_inj (g := id) (fun _ _ => navigationLine_inj) hms hns hmembers
      rw [List.map_id, List.map_id] at hall
      exact ⟨hall, hrest⟩

/-- The lines behind the properties of a class begin with one that is not indented. -/
theorem exists_navigationLines_append (ns : List Navigation) (rest : List String) :
    ∃ l ls, isIndented l = false ∧ navigationLines ns ++ "\x7d" :: rest = l :: ls := by
  cases ns with
  | nil => exact ⟨_, _, by decide, rfl⟩
  | cons n ns => exact ⟨_, _, by decide, rfl⟩

/-- **A class is read off its lines**, whatever stands behind it. -/
theorem classLines_inj {p q : EntityPlan} {rest rest' : List String} (hp : p.Avoids isGap)
    (hq : q.Avoids isGap) (h : classLines p ++ rest = classLines q ++ rest') :
    shown p = shown q ∧ rest = rest' := by
  simp only [classLines, List.cons_append, List.nil_append, List.append_assoc] at h
  obtain ⟨hclass, h⟩ := List.cons.inj h
  obtain ⟨l, ls, hl, hbehind⟩ := exists_navigationLines_append p.navigations rest
  obtain ⟨l', ls', hl', hbehind'⟩ := exists_navigationLines_append q.navigations rest'
  have hname : p.className = q.className := by
    rw [← String.toList_inj] at hclass ⊢
    simpa [toString] using hclass
  have hmembers := (List.cons.inj h).2
  rw [hbehind, hbehind'] at hmembers
  obtain ⟨hproperties, rfl, rfl⟩ := append_cons_inj (P := fun l => isIndented l = true)
    (List.forall_mem_map.2 fun x _ => isIndented_propertyLine x)
    (List.forall_mem_map.2 fun x _ => isIndented_propertyLine x) (by simp [hl]) (by simp [hl'])
    hmembers
  obtain ⟨hnavigations, hrest⟩ := navigationLines_inj hp.navigations hq.navigations
    (hbehind.trans hbehind'.symm)
  have hshown := map_eq_map_of_inj (g := shownProperty) (fun _ _ => propertyLine_inj)
    hp.properties hq.properties hproperties
  exact ⟨by rw [shown, shown, hname, hshown, hnavigations], hrest⟩

/-- Classes are read off their lines. -/
theorem allLines_inj {ps qs : List EntityPlan} (hps : ∀ p ∈ ps, p.Avoids isGap)
    (hqs : ∀ q ∈ qs, q.Avoids isGap) (h : allLines ps = allLines qs) :
    ps.map shown = qs.map shown := by
  induction ps generalizing qs with
  | nil =>
    cases qs with
    | nil => rfl
    | cons q qs => simp [allLines] at h
  | cons p ps ih =>
    cases qs with
    | nil => simp [allLines] at h
    | cons q qs =>
      obtain ⟨hp, hps⟩ := List.forall_mem_cons.1 hps
      obtain ⟨hq, hqs⟩ := List.forall_mem_cons.1 hqs
      rw [allLines, allLines, List.flatMap_cons, List.flatMap_cons, List.append_assoc,
        List.append_assoc] at h
      obtain ⟨hshown, hrest⟩ := classLines_inj hp hq h
      rw [List.map_cons, List.map_cons, hshown, ih hps hqs (List.cons.inj hrest).2]

/-! ## Whole sources -/

/-- No line feed stands inside a line of a class. -/
theorem lineFeed_not_mem_allLines {plans : List EntityPlan} (h : ∀ p ∈ plans, p.Avoids isGap) :
    ∀ l ∈ allLines plans, '\n' ∉ l.toList := fun l hl =>
  avoids_lineFeed_iff.1 (avoids_allLines sparesPlain_lineFeed
    (fun p hp => (h p hp).mono fun _ => ne_lineFeed_of_isGap) l hl)

/-- **Nothing is lost in the source of the classes.**  If two lists of plans have the same source
under one style, and no space or line feed is in the names of classes, properties, navigations and
targets, then the lists show the same: as many classes, with the same names, the same scalar
properties and the same navigations, position by position.  All names that are made from those of a
diagram are of that kind, and so are the plans. -/
theorem entities_lossless (style : Style) :
    (∀ ps qs : List EntityPlan, (∀ p ∈ ps, p.Avoids isGap) → (∀ q ∈ qs, q.Avoids isGap) →
      entities style ps = entities style qs → ps.map shown = qs.map shown) ∧
    ∀ text : String,
      (∀ e ∈ (Diagram.parse text).entities, Avoids isGap (pascalCase e.name) ∧
        ∀ a ∈ e.attributes, Avoids isGap (pascalCase a.name)) ∧
      ∀ plans : List EntityPlan, Plan.entities (Diagram.parse text) = .ok plans →
        ∀ p ∈ plans, p.Avoids isGap := by
  refine ⟨?_, fun text => ⟨?_, ?_⟩⟩
  · intro ps qs hps hqs h
    rw [← String.toList_inj, toList_entities, toList_entities] at h
    exact allLines_inj hps hqs (flatMap_ended_inj (lineFeed_not_mem_allLines hps)
      (lineFeed_not_mem_allLines hqs) (List.append_cancel_left h))
  · intro e he
    obtain ⟨hname, hattributes⟩ := Diagram.avoids_of_mem_parse he
    exact ⟨fun c hc => isGap_eq_false (avoids_pascalCase hname c hc),
      fun a ha c hc => isGap_eq_false (avoids_pascalCase (hattributes a ha) c hc)⟩
  · intro plans hplans p hp
    exact (Plan.avoids_of_parse hplans p hp).mono fun _ => isGap_eq_false

/-- Singers and what they sing. -/
def singers : String :=
  "SINGER \x7b\nstring voice\n\x7d\nSONG \x7b\n\x7d\nSINGER ||--o\x7b SONG : sings"

/-- The same in other letters. -/
def singersAgain : String :=
  "singer \x7b\nstring VOICE\n\x7d\nsong \x7b\n\x7d\nsinger ||--o\x7b song : sings"

theorem entities_lossless_singers : ∃ ps qs, Plan.entities (Diagram.parse singers) = .ok ps ∧
    Plan.entities (Diagram.parse singersAgain) = .ok qs ∧ ps ≠ qs ∧
    ps.map shown = qs.map shown := by
  have hok : fault? (Plan.entities (Diagram.parse singers)) = none := by decide +kernel
  obtain ⟨ps, hps⟩ := fault?_eq_none_iff.1 hok
  have htext : (Plan.entities (Diagram.parse singersAgain)).map (entities {}) =
      (Plan.entities (Diagram.parse singers)).map (entities {}) := by decide +kernel
  rw [hps] at htext
  obtain ⟨qs, hqs, hsource⟩ := map_eq_ok_iff.1 htext
  obtain ⟨hlossless, hnames⟩ := entities_lossless {}
  refine ⟨ps, qs, hps, hqs, ?_, hlossless ps qs ((hnames _).2 ps hps) ((hnames _).2 qs hqs)
    hsource.symm⟩
  have hentities : (Diagram.parse singers).entities ≠ (Diagram.parse singersAgain).entities := by
    decide +kernel
  rintro rfl
  exact hentities ((Plan.map_entity hps).symm.trans (Plan.map_entity hqs))

end CSharp
end Entigram
