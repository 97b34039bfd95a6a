import Entigram.Proofs.Config.Names
import Entigram.Proofs.Generation.Lines
import Entigram.Proofs.Naming.Numbering

/-!
# Classes that sources declare

The two sources of a diagram belong together, so it matters whether they declare one class twice.
Which classes a source declares is read off its lines (`declaredClasses`):

* that of the entities declares the classes of the schema, one for every entity
  (`declaredClasses_entities`),
* that of the mapping declares the context class and nothing else (`declaredClasses_mapping`).

Both hold for all settings that are accepted.  Their names can end in a line feed, which cuts lines
in two; but no part of them looks like a declaration.

Classes are kept apart from each other, but not from the context class: its name comes from the
settings, and naming the classes does not look at these.  So it is told exactly when the name of the
context is declared twice (`context_declared_twice_iff`), and a diagram shows that it can be.
-/

set_option autoImplicit false

namespace Entigram

open Text Naming Attempt CSharp Config

namespace Generation

/-! ## Declarations in a text -/

/-- What a line begins with that declares a class. -/
def keywords : List Char := "public class ".toList

/-- The class that a line declares: the word behind the keywords. -/
def declared? (l : List Char) : Option String :=
  if keywords.isPrefixOf l then
    some (String.ofList ((l.drop keywords.length).takeWhile (· ≠ ' ')))
  else none

/-- The classes that the lines of a text declare. -/
def declaredIn (cs : List Char) : List String := (lines cs).filterMap declared?

/-- The classes that a source declares. -/
def declaredClasses (source : String) : List String := declaredIn source.toList

section text

variable {l rest : List Char}

theorem declared?_eq_none (h : l.head? ≠ some 'p') : declared? l = none := by
  refine if_neg fun hprefix => ?_
  obtain ⟨behind, rfl⟩ := List.isPrefixOf_iff_prefix.1 hprefix
  exact h rfl

/-- The word behind the keywords ends at a space or with the line. -/
theorem declared?_keywords {name : List Char} (hname : ∀ c ∈ name, c ≠ ' ')
    (hrest : rest.takeWhile (· ≠ ' ') = []) :
    declared? (keywords ++ name ++ rest) = some (String.ofList name) := by
  have hprefix : keywords.isPrefixOf (keywords ++ name ++ rest) = true :=
    List.isPrefixOf_iff_prefix.2 ⟨name ++ rest, by rw [List.append_assoc]⟩
  rw [declared?, if_pos hprefix, List.append_assoc, List.drop_left,
    List.takeWhile_append_of_pos (by simpa using hname), hrest, List.append_nil]

theorem declaredIn_append_lineFeed (h : ∀ c ∈ l, isLineBreak c = false) (rest : List Char) :
    declaredIn (l ++ '\n' :: rest) = (declared? l).toList ++ declaredIn rest := by
  rw [declaredIn, lines_append_lineFeed h, List.filterMap_cons]
  cases declared? l <;> rfl

theorem declaredIn_eq_toList (h : ∀ c ∈ l, isLineBreak c = false) :
    declaredIn l = (declared? l).toList := by
  cases l with
  | nil => rfl
  | cons c l =>
    rw [declaredIn, lines_eq_singleton h (List.cons_ne_nil c l), List.filterMap_cons]
    cases declared? (c :: l) <;> rfl

/-- A line that begins in another way declares nothing. -/
theorem declaredIn_eq_nil (h : ∀ c ∈ l, isLineBreak c = false) (hhead : l.head? ≠ some 'p') :
    declaredIn l = [] := by
  rw [declaredIn_eq_toList h, declared?_eq_none hhead]
  rfl

/-- A fixed line that begins in another way declares nothing. -/
theorem declaredIn_plain {s : String} (h : s.toList.all isPlain = true)
    (hhead : s.toList.head? ≠ some 'p') : declaredIn s.toList = [] :=
  declaredIn_eq_nil (sparesPlain_isLineBreak.avoids h) hhead

/-- **What a text declares is declared by the lines that it was put together from**, also if these
have line breaks inside. -/
theorem declaredIn_flatMap_ended (ls : List String) :
    declaredIn (ls.flatMap ended) = ls.flatMap fun l => declaredIn l.toList := by
  induction ls with
  | nil => rfl
  | cons l ls ih =>
    obtain ⟨gap, hgap, hlines⟩ := exists_lines_append_lineFeed l.toList
    have hnone : gap.filterMap declared? = [] := by
      rw [List.filterMap_eq_nil_iff]
      rintro line hline
      rw [hgap line hline]
      rfl
    rw [List.flatMap_cons, List.flatMap_cons, ended, List.append_assoc, List.singleton_append,
      declaredIn, hlines, List.filterMap_append, List.filterMap_append, hnone, List.append_nil,
      ← declaredIn, ← declaredIn, ih]

end text

/-! ## Names from the settings -/

/-- What lies between plain characters is plain. -/
theorem isPlain_of_le {a b c : Char} (ha : isPlain a = true) (hb : isPlain b = true)
    (hac : a.val ≤ c.val) (hcb : c.val ≤ b.val) : isPlain c = true := by
  have hac : a.toNat ≤ c.toNat := UInt32.le_iff_toNat_le.1 hac
  have hcb : c.toNat ≤ b.toNat := UInt32.le_iff_toNat_le.1 hcb
  rw [isPlain, Bool.and_eq_true, decide_eq_true_eq, decide_eq_true_eq] at ha hb ⊢
  omega

/-- Letters, digits and low lines are plain. -/
theorem isPlain_of_continuesIdentifier {c : Char} (h : continuesIdentifier c = true) :
    isPlain c = true := by
  rw [continuesIdentifier, Bool.or_eq_true, decide_eq_true_eq] at h
  rcases h with h | rfl
  · rcases Bool.or_eq_true_iff.1 h with hletter | hdigit
    · rcases Bool.or_eq_true_iff.1 hletter with hupper | hlower
      · obtain ⟨hA, hZ⟩ : 'A'.val ≤ c.val ∧ c.val ≤ 'Z'.val := of_decide_eq_true hupper
        exact isPlain_of_le (by decide) (by decide) hA hZ
      · obtain ⟨ha, hz⟩ := Bool.and_eq_true_iff.1 hlower
        exact isPlain_of_le (a := 'a') (b := 'z') (by decide) (by decide) (of_decide_eq_true ha)
          (of_decide_eq_true hz)
    · obtain ⟨h0, h9⟩ := Bool.and_eq_true_iff.1 hdigit
      exact isPlain_of_le (a := '0') (b := '9') (by decide) (by decide) (of_decide_eq_true h0)
        (of_decide_eq_true h9)
  · decide

theorem ne_space_of_continuesIdentifier {c : Char} (h : continuesIdentifier c = true) :
    c ≠ ' ' := by
  rintro rfl
  exact absurd h (by decide)

/-- The name of the context class, without the line feed that may be at its end. -/
def contextClass (style : Style) : String :=
  String.ofList (withoutFinalBreak style.contextName.toList)

section style

variable {style : Style} (hstyle : AcceptedStyle style)

include hstyle

theorem contextClass_avoids :
    ∀ c ∈ (contextClass style).toList, isLineBreak c = false ∧ c ≠ ' ' := by
  intro c hc
  rw [contextClass, String.toList_ofList] at hc
  have hname := continuesIdentifier_of_accepts hstyle.contextName c hc
  exact ⟨sparesPlain_isLineBreak c (isPlain_of_continuesIdentifier hname),
    ne_space_of_continuesIdentifier hname⟩

omit hstyle in
theorem toList_contextName (style : Style) :
    style.contextName.toList = (contextClass style).toList ∨
      style.contextName.toList = (contextClass style).toList ++ ['\n'] := by
  rw [contextClass, String.toList_ofList]
  exact eq_withoutFinalBreak _

/-- A namespace declares nothing.  All of it has one space, and a declaration has two. -/
theorem declaredIn_header : (header style).flatMap (fun l => declaredIn l.toList) = [] := by
  have hnamespace : ∀ n, style.declaredNamespace = some n →
      declaredIn s!"namespace {n};".toList = [] := by
    intro n hn
    have hspace : ' ' ∉ n.toList := by
      intro hmem
      rcases mem_namespace (hstyle.declaredNamespace n hn) hmem with h | h | h
      · exact absurd h (by decide)
      · exact absurd h (by decide)
      · exact ne_space_of_continuesIdentifier h rfl
    have hcount : s!"namespace {n};".toList.count ' ' = 1 := by
      simp only [toString, String.toList_append, List.count_append,
        List.count_eq_zero_of_not_mem hspace]
      rfl
    rw [declaredIn, List.filterMap_eq_nil_iff]
    intro l hl
    refine if_neg fun hprefix => ?_
    have hline : l.count ' ' ≤ 1 := hcount ▸ (sublist_of_mem_lines hl).count_le ' '
    have htwo : keywords.count ' ' ≤ l.count ' ' :=
      (List.isPrefixOf_iff_prefix.1 hprefix).sublist.count_le ' '
    have hle : keywords.count ' ' ≤ 1 := Nat.le_trans htwo hline
    exact absurd hle (by decide)
  rw [header]
  split
  · rfl
  · next n hn =>
    split
    · rfl
    · rw [List.flatMap_cons, hnamespace n hn]
      rfl

/-- The head of the context class declares it. -/
theorem declaredIn_contextHead :
    declaredIn s!"public class {style.contextName} : DbContext".toList = [contextClass style] := by
  have havoids := contextClass_avoids hstyle
  have htext : s!"public class {style.contextName} : DbContext".toList =
      keywords ++ style.contextName.toList ++ " : DbContext".toList := by
    simp only [toString, String.toList_append]
    rfl
  have hspaces : ∀ c ∈ (contextClass style).toList, c ≠ ' ' := fun c hc => (havoids c hc).2
  have hkeywords : Avoids isLineBreak "public class " := sparesPlain_isLineBreak.avoids (by decide)
  rw [htext]
  rcases toList_contextName style with hname | hname
  · have hbehind : Avoids isLineBreak " : DbContext" := sparesPlain_isLineBreak.avoids (by decide)
    rw [hname, declaredIn_eq_toList, declared?_keywords hspaces (by decide), String.ofList_toList]
    · rfl
    · simp only [List.forall_mem_append]
      exact ⟨⟨hkeywords, fun c hc => (havoids c hc).1⟩, hbehind⟩
  · -- the name ends the line, and the rest is another one
    have hword : declared? (keywords ++ (contextClass style).toList ++ []) = _ :=
      declared?_keywords hspaces rfl
    have hcut : keywords ++ ((contextClass style).toList ++ ['\n']) ++ " : DbContext".toList =
        (keywords ++ (contextClass style).toList) ++ '\n' :: " : DbContext".toList := by
      simp only [List.append_assoc, List.singleton_append]
    have hbehind := declaredIn_plain (s := " : DbContext") (by decide) (by decide)
    rw [List.append_nil, String.ofList_toList] at hword
    rw [hname, hcut, declaredIn_append_lineFeed, hword, hbehind]
    · rfl
    · exact List.forall_mem_append.2 ⟨hkeywords, fun c hc => (havoids c hc).1⟩

/-- The constructor declares nothing. -/
theorem declaredIn_constructorLine :
    declaredIn (constructorLine style.contextName).toList = [] := by
  have havoids : ∀ c ∈ (contextClass style).toList, isLineBreak c = false := fun c hc =>
    (contextClass_avoids hstyle c hc).1
  have htext : (constructorLine style.contextName).toList = ' ' :: ("   public ".toList ++
      style.contextName.toList) ++ "(DbContextOptions<".toList ++ style.contextName.toList ++
        "> options) : base(options)".toList := by
    rw [constructorLine, toList_line_succ]
    simp only [line, toString, String.toList_append, List.append_assoc, List.cons_append]
    rfl
  have hopening : ∀ c ∈ ' ' :: "   public ".toList, isLineBreak c = false :=
    List.forall_mem_cons.2 ⟨by decide, sparesPlain_isLineBreak.avoids (by decide)⟩
  have hoptions : Avoids isLineBreak "(DbContextOptions<" :=
    sparesPlain_isLineBreak.avoids (by decide)
  have hending : Avoids isLineBreak "> options) : base(options)" :=
    sparesPlain_isLineBreak.avoids (by decide)
  rw [htext]
  rcases toList_contextName style with hname | hname
  · rw [hname]
    refine declaredIn_eq_nil ?_ (by simp)
    rw [← List.cons_append]
    simp only [List.forall_mem_append]
    exact ⟨⟨⟨⟨hopening, havoids⟩, hoptions⟩, havoids⟩, hending⟩
  · -- the name ends two lines, and there are three
    have hcut : ' ' :: ("   public ".toList ++ style.contextName.toList) ++
        "(DbContextOptions<".toList ++ style.contextName.toList ++
          "> options) : base(options)".toList =
        (' ' :: "   public ".toList ++ (contextClass style).toList) ++ '\n' ::
          (("(DbContextOptions<".toList ++ (contextClass style).toList) ++ '\n' ::
            "> options) : base(options)".toList) := by
      simp only [hname, List.append_assoc, List.cons_append, List.nil_append]
    have hfirst : declared? (' ' :: "   public ".toList ++ (contextClass style).toList) = none :=
      declared?_eq_none (by simp)
    have hsecond : declared? ("(DbContextOptions<".toList ++ (contextClass style).toList) = none :=
      declared?_eq_none (by simp)
    have hthird := declaredIn_plain (s := "> options) : base(options)") (by decide) (by decide)
    rw [hcut, declaredIn_append_lineFeed (List.forall_mem_append.2 ⟨hopening, havoids⟩), hfirst,
      declaredIn_append_lineFeed (List.forall_mem_append.2 ⟨hoptions, havoids⟩), hsecond, hthird]
    rfl

end style

/-! ## Declarations in sources -/

/-- Lines that begin in another way declare nothing. -/
theorem declaredIn_lines_eq_nil {ls : List String} (h : ∀ l ∈ ls, Avoids isLineBreak l)
    (hhead : ∀ l ∈ ls, l.toList.head? ≠ some 'p') :
    ls.flatMap (fun l => declaredIn l.toList) = [] :=
  List.flatMap_eq_nil_iff.2 fun l hl => declaredIn_eq_nil (h l hl) (hhead l hl)

theorem head?_line_ne (depth : Nat) (text : String) :
    (line (depth + 1) text).toList.head? ≠ some 'p' := by
  rw [toList_line_succ, List.head?_cons]
  decide

theorem head?_navigationLine_ne (n : Navigation) : (navigationLine n).toList.head? ≠ some 'p' := by
  rw [navigationLine]
  split <;> exact head?_line_ne 0 _

/-- The lines of a class behind its head. -/
def classBody (p : EntityPlan) : List String :=
  "\x7b" :: (p.properties.map propertyLine ++ navigationLines p.navigations ++ ["\x7d"])

theorem head?_classBody_ne (p : EntityPlan) : ∀ l ∈ classBody p, l.toList.head? ≠ some 'p' := by
  have hnavigations : ∀ l ∈ navigationLines p.navigations, l.toList.head? ≠ some 'p' := by
    rw [navigationLines]
    split
    · exact fun l hl => absurd hl List.not_mem_nil
    · rw [List.forall_mem_cons, List.forall_mem_cons, List.forall_mem_map]
      exact ⟨by decide, head?_line_ne 0 _, fun n _ => head?_navigationLine_ne n⟩
  rw [classBody, List.forall_mem_cons]
  simp only [List.forall_mem_append, List.forall_mem_map, List.forall_mem_singleton]
  exact ⟨by decide, ⟨fun x _ => head?_line_ne 0 _, hnavigations⟩, by decide⟩

/-- **The lines of a class declare it**, and nothing else. -/
theorem declaredIn_classLines {p : EntityPlan} (h : p.Avoids isSpaceOrLineBreak) :
    (classLines p ++ [""]).flatMap (fun l => declaredIn l.toList) = [p.className] := by
  have hlines : classLines p = s!"public class {p.className}" :: classBody p := by
    simp only [classLines, classBody, List.cons_append, List.nil_append, List.append_assoc]
  have havoids := avoids_classLines sparesPlain_isLineBreak (h.mono fun _ => isLineBreak_eq_false)
  rw [hlines, List.forall_mem_cons] at havoids
  have hclass : declaredIn s!"public class {p.className}".toList = [p.className] := by
    have htext : s!"public class {p.className}".toList = keywords ++ p.className.toList ++ [] := by
      rw [List.append_nil]
      simp only [toString, String.toList_append]
      rfl
    have hspaces : ∀ c ∈ p.className.toList, c ≠ ' ' := by
      rintro c hc rfl
      exact absurd (h.className ' ' hc) (by decide)
    rw [declaredIn_eq_toList havoids.1, htext, declared?_keywords hspaces rfl, String.ofList_toList]
    rfl
  rw [hlines, List.cons_append, List.flatMap_cons, hclass, List.flatMap_append,
    declaredIn_lines_eq_nil havoids.2 (head?_classBody_ne p)]
  rfl

/-- **The source of the entities declares their classes.** -/
theorem declaredClasses_entities {style : Style} (hstyle : AcceptedStyle style)
    {plans : List EntityPlan} (h : ∀ p ∈ plans, p.Avoids isSpaceOrLineBreak) :
    declaredClasses (CSharp.entities style plans) = plans.map (·.className) := by
  rw [declaredClasses, toList_entities, ← List.flatMap_append, declaredIn_flatMap_ended,
    List.flatMap_append, declaredIn_header hstyle, allLines, List.flatMap_assoc,
    List.flatMap_congr fun p hp => declaredIn_classLines (h p hp), List.nil_append,
    List.map_eq_flatMap]

/-- Nothing behind the opening of a context looks like a declaration. -/
theorem head?_bodyLines_ne (m : MappingPlan) : ∀ l ∈ bodyLines m, l.toList.head? ≠ some 'p' := by
  have hsection : ∀ {α : Type} {heading : String} {entry : α → List String} {ending : List String}
      (xs : List α), (∀ x, ∀ l ∈ entry x, l.toList.head? ≠ some 'p') →
      (∀ l ∈ ending, l.toList.head? ≠ some 'p') →
      ∀ l ∈ sectionLines heading entry ending xs, l.toList.head? ≠ some 'p' :=
    fun xs hentry hending => forall_mem_sectionLines (head?_line_ne 1 _) (fun x _ => hentry x)
      hending
  have hentry : ∀ className text, ∀ l ∈ [entityLine className, line 3 text],
      l.toList.head? ≠ some 'p' := by
    intro className text
    rw [List.forall_mem_cons, List.forall_mem_singleton]
    exact ⟨head?_line_ne 1 _, head?_line_ne 2 _⟩
  have hblank : ∀ l ∈ [""], l.toList.head? ≠ some 'p' := by decide
  simp only [bodyLines, configurationLines, List.forall_mem_append, List.forall_mem_cons,
    List.forall_mem_map]
  refine ⟨fun q _ => head?_line_ne 0 _, ⟨by decide, head?_line_ne 0 _, head?_line_ne 0 _, ?_⟩,
    ⟨⟨⟨?_, ?_⟩, ?_⟩, ?_⟩, head?_line_ne 0 _, by decide, ?_⟩
  · exact fun l hl => absurd hl List.not_mem_nil
  · exact hsection _ (fun o => hentry _ _) hblank
  · exact hsection _ (fun k => hentry _ _) hblank
  · exact hsection _ (fun c => hentry _ _) hblank
  · exact hsection _ (fun k => hentry _ _) fun l hl => absurd hl List.not_mem_nil
  · exact fun l hl => absurd hl List.not_mem_nil

/-- **The source of the mapping declares the context class**, and nothing else. -/
theorem declaredClasses_mapping {style : Style} (hstyle : AcceptedStyle style)
    {m : MappingPlan} (h : m.Avoids isLineBreak) :
    declaredClasses (CSharp.mapping style m) = [contextClass style] := by
  have husing := declaredIn_plain (s := "using Microsoft.EntityFrameworkCore;") (by decide)
    (by decide)
  have hblank : declaredIn "".toList = [] := rfl
  have hbrace := declaredIn_plain (s := "\x7b") (by decide) (by decide)
  have hopening := declaredIn_plain (s := line 1 "\x7b") (by decide) (head?_line_ne 0 _)
  have hclosing := declaredIn_plain (s := line 1 "\x7d") (by decide) (head?_line_ne 0 _)
  have hbody : (bodyLines m).flatMap (fun l => declaredIn l.toList) = [] :=
    declaredIn_lines_eq_nil (avoids_bodyLines sparesPlain_isLineBreak h) (head?_bodyLines_ne m)
  rw [declaredClasses, toList_mapping, ← List.flatMap_append, declaredIn_flatMap_ended,
    List.flatMap_append, openingLines, List.flatMap_append, declaredIn_header hstyle, hbody]
  simp only [List.flatMap_cons, List.flatMap_nil, declaredIn_contextHead hstyle,
    declaredIn_constructorLine hstyle, husing, hblank, hbrace, hopening, hclosing,
    List.append_nil, List.nil_append]

/-! ## Both sources -/

/-- A class is one of the schema's just if the name of an entity becomes it. -/
theorem mem_classes_iff {s : Schema} {name : String} : name ∈ (ClassNames.ofSchema s).classes ↔
    ∃ i e, s.entities[i]? = some e ∧
      Becomes (Occurs ((ClassNames.ofSchema s).classes.take i)) (pascalCase e.name) name := by
  refine UsedNames.mem_claimAll_iff.trans (exists_congr fun i => ?_)
  simp only [List.getElem?_map, Option.map_eq_some_iff]
  constructor
  · rintro ⟨w, ⟨e, he, rfl⟩, hbecomes⟩
    exact ⟨e, he, hbecomes⟩
  · rintro ⟨e, he, hbecomes⟩
    exact ⟨_, ⟨e, he, rfl⟩, hbecomes⟩

section convert

variable {fs : Json.Fields} {settings : Codegen} {elapsed text : String} {c : Conversion}

/-- **What the two sources declare**: the classes of the schema, and the context class. -/
theorem declaredClasses_of_convert (hsettings : codegen fs = .ok settings)
    (h : (convert settings.style elapsed text).result = .ok c) :
    declaredClasses c.entities = (ClassNames.ofSchema c.schema).classes ∧
      declaredClasses c.mapping = [contextClass settings.style] := by
  have hstyle := accepted_of_codegen hsettings
  obtain ⟨plans, m, hplans, hm, rfl⟩ := convert_eq_ok_iff.1 h
  constructor
  · exact (declaredClasses_entities hstyle (Plan.avoids_of_parse hplans)).trans
      (Plan.map_className hplans)
  · exact declaredClasses_mapping hstyle
      ((Plan.avoids_mapping_of_parse hm).mono fun _ => isLineBreak_eq_false)

/-- **When the context is declared twice.**  For all settings that are accepted and every diagram
that is converted under them, the source of the entities declares the classes of the schema, no one
twice, and that of the mapping the context class alone.  The context is declared in both just if the
name of an entity becomes that of the context, given the classes before it.  So if no entity has the
name of the context in Pascal case, not even without a number from two on, then no class is declared
twice. -/
theorem context_declared_twice_iff (hsettings : codegen fs = .ok settings)
    (h : (convert settings.style elapsed text).result = .ok c) :
    ∃ context, context.toList = withoutFinalBreak settings.contextName.toList ∧
      declaredClasses c.mapping = [context] ∧
      declaredClasses c.entities = (ClassNames.ofSchema c.schema).classes ∧
      (declaredClasses c.entities).Nodup ∧
      (context ∈ declaredClasses c.entities ↔ ∃ i e, c.schema.entities[i]? = some e ∧
        Becomes (Occurs ((declaredClasses c.entities).take i)) (pascalCase e.name) context) ∧
      ((∀ e ∈ c.schema.entities, context ≠ pascalCase e.name ∧
          ∀ k, 2 ≤ k → context ≠ UsedNames.numbered (pascalCase e.name) k) →
        (declaredClasses c.entities ++ declaredClasses c.mapping).Nodup) := by
  obtain ⟨hentities, hmapping⟩ := declaredClasses_of_convert hsettings h
  have hnodup := ClassNames.nodup_classes c.schema
  rw [hentities, hmapping]
  refine ⟨contextClass settings.style, ?_, rfl, rfl, hnodup, mem_classes_iff, fun hne => ?_⟩
  · rw [contextClass, String.toList_ofList]
    rfl
  · rw [List.nodup_append]
    refine ⟨hnodup, List.nodup_singleton _, fun a ha b hb => ?_⟩
    obtain rfl := List.mem_singleton.1 hb
    rintro rfl
    refine UsedNames.not_mem_claimAll (fun w hw => ?_) ha
    obtain ⟨e, he, rfl⟩ := List.mem_map.1 hw
    exact hne e he

end convert

/-- Two shops. -/
def shops : String := "SHOP \x7b\n\x7d\nshop \x7b\n\x7d\n"

/-- Settings whose names end in line feeds. -/
def brokenNames : Codegen where
  contextName := "Shop2\n"
  declaredNamespace := some "My\n.Shop"

/-- The second shop is called like the one context, and no shop like the other. -/
theorem context_declared_twice_iff_shops : ∃ c c',
    codegen brokenNames.fields = .ok brokenNames ∧ codegen [] = .ok {} ∧
    (convert brokenNames.style "0" shops).result = .ok c ∧
    (convert ({} : Codegen).style "0" shops).result = .ok c' ∧
    declaredClasses c.mapping = ["Shop2"] ∧ "Shop2" ∈ declaredClasses c.entities ∧
    (declaredClasses c'.entities ++ declaredClasses c'.mapping).Nodup := by
  have hbroken : codegen brokenNames.fields = .ok brokenNames := by rfl
  have hdefault : codegen [] = .ok {} := by rfl
  have hok : fault? (Plan.entities (Diagram.parse shops)) = none := by decide +kernel
  have hshops : (Diagram.parse shops).entities = [⟨"SHOP", []⟩, ⟨"shop", []⟩] := by decide +kernel
  have hclasses : (ClassNames.ofSchema (Diagram.parse shops)).classes = ["Shop", "Shop2"] := by
    decide +kernel
  have hname : pascalCase "SHOP" = "Shop" ∧ pascalCase "shop" = "Shop" := by decide +kernel
  obtain ⟨c, hc⟩ := exists_convert hok
  obtain ⟨c', hc'⟩ := exists_convert hok
  obtain ⟨context, hcontext, hmapping, hentities, -, hiff, -⟩ :=
    context_declared_twice_iff hbroken hc
  obtain ⟨context', hcontext', -, -, -, -, hnodup⟩ := context_declared_twice_iff hdefault hc'
  obtain rfl : context = "Shop2" := String.toList_inj.1 (hcontext.trans (by decide))
  obtain rfl : context' = "AppDbContext" := String.toList_inj.1 (hcontext'.trans (by decide))
  rw [schema_of_convert hc] at hiff hentities
  rw [hentities, hclasses, hshops] at hiff
  rw [schema_of_convert hc', hshops] at hnodup
  refine ⟨c, c', hbroken, hdefault, hc, hc', hmapping, ?_, hnodup ?_⟩
  · rw [hentities, hclasses]
    refine hiff.2 ⟨1, ⟨"shop", []⟩, rfl, ?_⟩
    rw [hname.2]
    exact Becomes.second "Shop"
  · rw [List.forall_mem_cons, List.forall_mem_singleton, hname.1, hname.2, and_self]
    exact ⟨by decide, fun k _ => UsedNames.ne_numbered (by decide) k⟩

/-- A diagram with an entity that is called like the context class. -/
def contextNamed : String := "APP_DB_CONTEXT \x7b\n\x7d\n"

/-- **An entity can be called like the context**, and then both sources declare its class. -/
theorem exists_context_declared_twice : ∃ c, codegen [] = .ok {} ∧
    (convert ({} : Codegen).style "0" contextNamed).result = .ok c ∧
    declaredClasses c.mapping = ["AppDbContext"] ∧
    declaredClasses c.entities = ["AppDbContext"] := by
  have hsettings : codegen [] = .ok {} := by rfl
  have hok : fault? (Plan.entities (Diagram.parse contextNamed)) = none := by decide +kernel
  have hclasses : (ClassNames.ofSchema (Diagram.parse contextNamed)).classes =
      ["AppDbContext"] := by
    decide +kernel
  obtain ⟨c, hc⟩ := exists_convert hok
  obtain ⟨hentities, hmapping⟩ := declaredClasses_of_convert hsettings hc
  rw [schema_of_convert hc, hclasses] at hentities
  exact ⟨c, hsettings, hc, hmapping, hentities⟩

end Generation
end Entigram
