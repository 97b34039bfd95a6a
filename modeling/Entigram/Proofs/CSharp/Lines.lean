import Entigram.CSharp
import Entigram.Proofs.Plan.Characters
import Entigram.Proofs.Text.Pieces

/-!
# The lines of a source

Sources are put together from lines, and everything that is known of a text is known through them.
There are two things to be said.

* **What is inside a line.**  Besides names there are fixed parts, and these are made of plain
  characters, those of ASCII that are printed.  So if no plain character is of some sort, then
  there is one of that sort in a line only if it is in a name (`avoids_allLines`,
  `avoids_bodyLines`).  Line feeds are of this kind, and so are line breaks at large.
* **What the text gives back.**  Lines without line feeds are told by their text
  (`flatMap_ended_inj`), and lines without any line break are just what the text is cut into
  (`lines_flatMap_ended`).

Lines are told apart by how they begin.  All that belongs to one class or one query surface is
indented, and the lines in front of it and behind it are not (`isIndented`).
-/

set_option autoImplicit false

namespace Entigram

open Text Naming

namespace CSharp

/-! ## Characters -/

/-- The characters that names are told apart by in a source: the space and the line feed. -/
def isGap (c : Char) : Bool := c = ' ' || c = '\n'

/-- What is no gap is no line feed. -/
theorem ne_lineFeed_of_isGap {c : Char} (h : isGap c = false) : decide (c = '\n') = false :=
  (Bool.or_eq_false_iff.1 h).2

/-- A line feed is a line break. -/
theorem isGap_eq_false {c : Char} (h : isSpaceOrLineBreak c = false) : isGap c = false := by
  have hbreak : c ≠ '\n' := by
    rintro rfl
    exact absurd h (by decide)
  rw [isSpaceOrLineBreak, Bool.or_eq_false_iff] at h
  rw [isGap, h.1, decide_eq_false hbreak, Bool.or_false]

/-- Is this a character of ASCII that is printed?  The fixed parts of sources have no others. -/
def isPlain (c : Char) : Bool := 0x20 ≤ c.toNat && c.toNat < 0x7F

/-- No plain character is of this sort. -/
def SparesPlain (p : Char → Bool) : Prop := ∀ c, isPlain c = true → p c = false

theorem avoids_lineFeed_iff {s : String} : Avoids (fun c => c = '\n') s ↔ '\n' ∉ s.toList := by
  simp only [Avoids, decide_eq_false_iff_not, List.forall_mem_ne']

theorem sparesPlain_lineFeed : SparesPlain fun c => c = '\n' := by
  rintro c hc
  refine decide_eq_false ?_
  rintro rfl
  exact absurd hc (by decide)

theorem sparesPlain_isLineBreak : SparesPlain isLineBreak := by
  intro c hc
  rw [isPlain, Bool.and_eq_true, decide_eq_true_iff, decide_eq_true_iff] at hc
  simp only [isLineBreak, CharSet.contains, lineBreaks, CharSet.flips_cons, CharSet.flips_nil]
  grind

/-! ## Lists of lines -/

/-- The lines of classes, each followed by an empty one. -/
def allLines (plans : List EntityPlan) : List String := plans.flatMap fun p => classLines p ++ [""]

/-- The line of the constructor of a context. -/
def constructorLine (name : String) : String :=
  line 1 s!"public {name}(DbContextOptions<{name}> options) : base(options)"

/-- The lines of a context up to its first query surface. -/
def openingLines (style : Style) : List String :=
  header style ++ ["using Microsoft.EntityFrameworkCore;",
    "",
    s!"public class {style.contextName} : DbContext",
    "\x7b",
    constructorLine style.contextName,
    line 1 "\x7b",
    line 1 "\x7d",
    ""]

/-- The lines of a context from its first query surface on. -/
def bodyLines (m : MappingPlan) : List String :=
  m.querySurfaces.map surfaceLine
    ++ (["",
        line 1 "protected override void OnModelCreating(ModelBuilder modelBuilder)",
        line 1 "\x7b"]
      ++ (configurationLines m ++ [line 1 "\x7d", "\x7d"]))

/-- Does a line begin with a space? -/
def isIndented (l : String) : Bool := l.toList.head? = some ' '

/-- The properties of a key, one after the other. -/
def keyList (names : List String) : String := ", ".intercalate (names.map fun name => s!"e.{name}")

theorem keyLines_eq (k : KeyPlan) : keyLines k = [entityLine k.className,
    line 3 s!".HasKey(e => new \x7b {keyList k.properties} \x7d);"] := rfl

/-- Every line at some depth begins with a space. -/
theorem toList_line_succ (depth : Nat) (text : String) :
    (line (depth + 1) text).toList = ' ' :: ("   ".toList ++ (line depth text).toList) := by
  simp only [line, String.toList_append, String.toList_join, List.replicate_succ,
    List.flatMap_cons, List.append_assoc]
  rfl

theorem isIndented_line (depth : Nat) (text : String) :
    isIndented (line (depth + 1) text) = true := by
  rw [isIndented, toList_line_succ]
  rfl

/-! ## Characters of lines -/

section avoid

variable {p : Char → Bool} (hp : SparesPlain p)

include hp in
theorem SparesPlain.avoids {s : String} (h : s.toList.all isPlain = true) : Avoids p s :=
  fun c hc => hp c (List.all_eq_true.1 h c hc)

theorem avoids_append {s t : String} : Avoids p (s ++ t) ↔ Avoids p s ∧ Avoids p t := by
  simp only [Avoids, String.toList_append, List.mem_append, or_imp, forall_and]

include hp in
/-- Indentation is plain. -/
theorem avoids_line {depth : Nat} {text : String} :
    Avoids p (line depth text) ↔ Avoids p text := by
  rw [line, avoids_append, and_iff_right]
  intro c hc
  rw [String.toList_join] at hc
  obtain ⟨s, hs, hc⟩ := List.mem_flatMap.1 hc
  rw [List.eq_of_mem_replicate hs] at hc
  exact hp.avoids (by decide) c hc

/-! ## Characters of classes -/

include hp

theorem avoids_propertyLine {x : ScalarProperty} (h : Avoids p x.name) :
    Avoids p (propertyLine x) := by
  have htype : Avoids p (declaredType x) := by
    refine hp.avoids ?_
    rw [declaredType]
    cases x.type <;> cases x.nullable <;> decide
  simp (disch := decide) only [propertyLine, avoids_line hp, toString, avoids_append, hp.avoids,
    htype, h, and_self]

theorem avoids_navigationLine {n : Navigation} (h : Avoids p n.name ∧ Avoids p n.target) :
    Avoids p (navigationLine n) := by
  rw [navigationLine]
  split <;> simp (disch := decide) only [avoids_line hp, toString, avoids_append, hp.avoids, h.1,
    h.2, and_self]

theorem avoids_navigationLines {ns : List Navigation}
    (h : ∀ n ∈ ns, Avoids p n.name ∧ Avoids p n.target) :
    ∀ l ∈ navigationLines ns, Avoids p l := by
  rw [navigationLines]
  split
  · exact fun l hl => absurd hl List.not_mem_nil
  · rw [List.forall_mem_cons, List.forall_mem_cons, List.forall_mem_map, avoids_line hp]
    exact ⟨hp.avoids (by decide), hp.avoids (by decide),
      fun n hn => avoids_navigationLine hp (h n hn)⟩

theorem avoids_classLines {plan : EntityPlan} (h : plan.Avoids p) :
    ∀ l ∈ classLines plan, Avoids p l := by
  have hname : Avoids p s!"public class {plan.className}" := by
    simp (disch := decide) only [toString, avoids_append, hp.avoids, h.className, and_self]
  simp only [classLines, List.forall_mem_append, List.forall_mem_cons, List.forall_mem_map,
    List.not_mem_nil, false_imp_iff, implies_true, and_true]
  exact ⟨⟨⟨⟨hname, hp.avoids (by decide)⟩,
    fun x hx => avoids_propertyLine hp (h.properties x hx)⟩,
    avoids_navigationLines hp h.navigations⟩, hp.avoids (by decide)⟩

/-- **What is inside the lines of classes** is plain or from a name. -/
theorem avoids_allLines {plans : List EntityPlan} (h : ∀ plan ∈ plans, plan.Avoids p) :
    ∀ l ∈ allLines plans, Avoids p l := by
  rw [allLines, List.forall_mem_flatMap]
  intro plan hplan
  rw [List.forall_mem_append, List.forall_mem_singleton]
  exact ⟨avoids_classLines hp (h plan hplan), hp.avoids (by decide)⟩

/-! ## Characters of the context -/

theorem avoids_surfaceLine {q : QuerySurface} (h : Avoids p q.className ∧ Avoids p q.name) :
    Avoids p (surfaceLine q) := by
  simp (disch := decide) only [surfaceLine, avoids_line hp, toString, avoids_append, hp.avoids,
    h.1, h.2, and_self]

theorem avoids_entityLine {c : String} (h : Avoids p c) : Avoids p (entityLine c) := by
  simp (disch := decide) only [entityLine, avoids_line hp, toString, avoids_append, hp.avoids, h,
    and_self]

theorem avoids_ownershipLines {o : Ownership}
    (h : Avoids p o.owner ∧ Avoids p o.owned ∧ Avoids p o.navigation) :
    ∀ l ∈ ownershipLines o, Avoids p l := by
  rw [ownershipLines, List.forall_mem_cons, List.forall_mem_singleton]
  refine ⟨avoids_entityLine hp h.1, ?_⟩
  simp (disch := decide) only [avoids_line hp, toString, avoids_append, hp.avoids, h.2.2, and_self]

theorem avoids_keyList {names : List String} (h : ∀ name ∈ names, Avoids p name) :
    Avoids p (keyList names) := by
  intro c hc
  rw [keyList, String.toList_intercalate, List.map_map] at hc
  rcases mem_intercalate hc with hc | ⟨piece, hpiece, hc⟩
  · exact hp.avoids (by decide) c hc
  · obtain ⟨name, hname, rfl⟩ := List.mem_map.1 hpiece
    have hpart : Avoids p s!"e.{name}" := by
      simp (disch := decide) only [toString, avoids_append, hp.avoids, h name hname, and_self]
    exact hpart c hc

theorem avoids_keyLines {k : KeyPlan} (h : k.Avoids p) : ∀ l ∈ keyLines k, Avoids p l := by
  rw [keyLines_eq, List.forall_mem_cons, List.forall_mem_singleton]
  refine ⟨avoids_entityLine hp h.className, ?_⟩
  simp (disch := decide) only [avoids_line hp, toString, avoids_append, hp.avoids,
    avoids_keyList hp h.properties, and_self]

theorem avoids_keylessLines {c : String} (h : Avoids p c) : ∀ l ∈ keylessLines c, Avoids p l := by
  rw [keylessLines, List.forall_mem_cons, List.forall_mem_singleton, avoids_line hp]
  exact ⟨avoids_entityLine hp h, hp.avoids (by decide)⟩

/-- **What is inside the opening of a context** is plain or from the two names of the style. -/
theorem avoids_openingLines_iff {style : Style} : (∀ l ∈ openingLines style, Avoids p l) ↔
    Avoids p style.contextName ∧ ∀ n, style.declaredNamespace = some n → Avoids p n := by
  have hheader : (∀ l ∈ header style, Avoids p l) ↔
      ∀ n, style.declaredNamespace = some n → Avoids p n := by
    rw [header]
    cases style.declaredNamespace with
    | none => simp
    | some n =>
      by_cases hn : n = ""
      · simp [hn, Avoids]
      · simp (disch := decide) only [if_neg hn, List.forall_mem_cons, List.not_mem_nil,
          false_imp_iff, implies_true, toString, avoids_append, hp.avoids, Option.some.injEq,
          forall_eq', and_true, true_and]
  rw [openingLines, List.forall_mem_append, hheader, and_comm]
  simp (disch := decide) only [List.forall_mem_cons, List.not_mem_nil, false_imp_iff, implies_true,
    constructorLine, avoids_line hp, toString, avoids_append, hp.avoids, and_true, true_and,
    and_self]

omit hp in
/-- A section has its heading, the lines of its entries and its end, or no lines. -/
theorem forall_mem_sectionLines {α : Type} {P : String → Prop} {heading : String}
    {entry : α → List String} {ending : List String} {entries : List α}
    (hheading : P (line 2 heading)) (hentry : ∀ x ∈ entries, ∀ l ∈ entry x, P l)
    (hending : ∀ l ∈ ending, P l) : ∀ l ∈ sectionLines heading entry ending entries, P l := by
  rw [sectionLines]
  split
  · exact fun l hl => absurd hl List.not_mem_nil
  · rw [List.cons_append, List.forall_mem_cons, List.forall_mem_append, List.forall_mem_flatMap]
    exact ⟨hheading, hentry, hending⟩

theorem avoids_configurationLines {m : MappingPlan} (h : m.Avoids p) :
    ∀ l ∈ configurationLines m, Avoids p l := by
  have hblank : ∀ l ∈ [""], Avoids p l := List.forall_mem_singleton.2 (hp.avoids (by decide))
  have hheading : ∀ heading : String, heading.toList.all isPlain = true →
      Avoids p (line 2 heading) := fun _ hplain => (avoids_line hp).2 (hp.avoids hplain)
  simp only [configurationLines, List.forall_mem_append]
  refine ⟨⟨⟨?_, ?_⟩, ?_⟩, ?_⟩
  · exact forall_mem_sectionLines (hheading _ (by decide))
      (fun o ho => avoids_ownershipLines hp (h.ownerships o ho)) hblank
  · exact forall_mem_sectionLines (hheading _ (by decide))
      (fun k hk => avoids_keyLines hp (h.compositeKeys k hk)) hblank
  · exact forall_mem_sectionLines (hheading _ (by decide))
      (fun c hc => avoids_keylessLines hp (h.keyless c hc)) hblank
  · exact forall_mem_sectionLines (hheading _ (by decide))
      (fun k hk => avoids_keyLines hp (h.joinTableKeys k hk)) fun l hl => absurd hl List.not_mem_nil

/-- **What is inside the lines of a context**, behind its opening, is plain or from a name. -/
theorem avoids_bodyLines {m : MappingPlan} (h : m.Avoids p) : ∀ l ∈ bodyLines m, Avoids p l := by
  simp only [bodyLines, List.forall_mem_append, List.forall_mem_cons, List.forall_mem_map,
    List.not_mem_nil, false_imp_iff, implies_true, and_true, avoids_line hp]
  refine ⟨fun q hq => avoids_surfaceLine hp (h.querySurfaces q hq), ⟨?_, ?_, ?_⟩,
    avoids_configurationLines hp h, ?_, ?_⟩
  all_goals exact hp.avoids (by decide)

end avoid

/-! ## Lines and texts -/

/-- A line, ended by a line feed. -/
def ended (l : String) : List Char := l.toList ++ ['\n']

theorem toList_join {ls : List String} (h : ls ≠ []) : (join ls).toList = ls.flatMap ended := by
  rw [join, String.toList_append, String.toList_intercalate]
  induction ls with
  | nil => contradiction
  | cons l ls ih =>
    cases ls with
    | nil => simp [ended]
    | cons l' ls =>
      rw [List.map_cons, List.map_cons, List.intercalate_cons_cons, List.append_assoc,
        ← List.map_cons, ih (List.cons_ne_nil l' ls), List.flatMap_cons (x := l), ended]
      rfl

theorem toList_entities (style : Style) (plans : List EntityPlan) :
    (entities style plans).toList =
      (header style).flatMap ended ++ (allLines plans).flatMap ended := by
  rw [← List.flatMap_append, entities]
  split
  · next hempty => rw [allLines, List.isEmpty_iff.1 hempty]; rfl
  · next hlines => exact toList_join (by simpa using hlines)

theorem toList_mapping (style : Style) (m : MappingPlan) : (mapping style m).toList =
    (openingLines style).flatMap ended ++ (bodyLines m).flatMap ended := by
  rw [← List.flatMap_append, ← toList_join (by simp [bodyLines]), mapping, openingLines, bodyLines]
  simp only [constructorLine, List.append_assoc]

/-- **Lines are read off their text**, if no line feed is inside them. -/
theorem flatMap_ended_inj {ls ls' : List String} (hls : ∀ l ∈ ls, '\n' ∉ l.toList)
    (hls' : ∀ l ∈ ls', '\n' ∉ l.toList) (h : ls.flatMap ended = ls'.flatMap ended) : ls = ls' := by
  induction ls generalizing ls' with
  | nil =>
    cases ls' with
    | nil => rfl
    | cons l' ls' => simp [ended] at h
  | cons l ls ih =>
    cases ls' with
    | nil => simp [ended] at h
    | cons l' ls' =>
      obtain ⟨hl, hls⟩ := List.forall_mem_cons.1 hls
      obtain ⟨hl', hls'⟩ := List.forall_mem_cons.1 hls'
      rw [List.flatMap_cons, List.flatMap_cons, ended, ended, List.append_assoc,
        List.append_assoc] at h
      obtain ⟨htext, -, hrest⟩ := append_cons_inj (P := (· ≠ '\n'))
        (fun c hc => ne_of_mem_of_not_mem hc hl) (fun c hc => ne_of_mem_of_not_mem hc hl')
        (fun h => h rfl) (fun h => h rfl) h
      rw [String.toList_inj.1 htext, ih hls hls' hrest]

theorem lines_flatMap_ended_append {ls : List String} (h : ∀ l ∈ ls, Avoids isLineBreak l)
    (rest : List Char) :
    lines (ls.flatMap ended ++ rest) = ls.map String.toList ++ lines rest := by
  induction ls with
  | nil => rfl
  | cons l ls ih =>
    obtain ⟨hl, hls⟩ := List.forall_mem_cons.1 h
    rw [List.flatMap_cons, ended, List.append_assoc, List.append_assoc, List.singleton_append,
      lines_append_lineFeed hl, ih hls, List.map_cons, List.cons_append]

/-- **A text is cut into the lines that it was put together from**, if no line break is inside
them. -/
theorem lines_flatMap_ended {ls : List String} (h : ∀ l ∈ ls, Avoids isLineBreak l) :
    lines (ls.flatMap ended) = ls.map String.toList := by
  have hlines := lines_flatMap_ended_append h []
  rwa [List.append_nil, lines, List.append_nil] at hlines

/-- Lines are the first ones of the text that they open just if no line break is inside them. -/
theorem prefix_lines_iff {ls : List String} {rest : List Char} :
    ls.map String.toList <+: lines (ls.flatMap ended ++ rest) ↔
      ∀ l ∈ ls, Avoids isLineBreak l := by
  constructor
  · exact fun h l hl c hc =>
      isLineBreak_of_mem_lines (h.subset (List.mem_map_of_mem hl)) hc
  · intro h
    rw [lines_flatMap_ended_append h]
    exact List.prefix_append _ _

/-- The lines of the classes are just those of which their source was put together. -/
theorem lines_entities {style : Style} {plans : List EntityPlan}
    (hheader : ∀ l ∈ header style, Avoids isLineBreak l)
    (h : ∀ plan ∈ plans, plan.Avoids isLineBreak) :
    lines (entities style plans).toList = (header style ++ allLines plans).map String.toList := by
  rw [toList_entities, ← List.flatMap_append]
  exact lines_flatMap_ended
    (List.forall_mem_append.2 ⟨hheader, avoids_allLines sparesPlain_isLineBreak h⟩)

/-- And so are those of the context. -/
theorem lines_mapping {style : Style} {m : MappingPlan}
    (hopening : ∀ l ∈ openingLines style, Avoids isLineBreak l) (h : m.Avoids isLineBreak) :
    lines (mapping style m).toList = (openingLines style ++ bodyLines m).map String.toList := by
  rw [toList_mapping, ← List.flatMap_append]
  exact lines_flatMap_ended
    (List.forall_mem_append.2 ⟨hopening, avoids_bodyLines sparesPlain_isLineBreak h⟩)

/-- Where `f` decides what `g` shows, lists that `f` maps alike are shown alike. -/
theorem map_eq_map_of_inj {α β γ : Type} {f : α → β} {g : α → γ} {P : α → Prop}
    (hfg : ∀ x y, P x → P y → f x = f y → g x = g y) {xs ys : List α} (hxs : ∀ x ∈ xs, P x)
    (hys : ∀ y ∈ ys, P y) (h : xs.map f = ys.map f) : xs.map g = ys.map g := by
  induction xs generalizing ys with
  | nil => rw [List.map_eq_nil_iff.1 h.symm]
  | cons x xs ih =>
    obtain ⟨y, ys, rfl, hy, hrest⟩ := List.map_eq_cons_iff.1 h.symm
    obtain ⟨hx, hxs⟩ := List.forall_mem_cons.1 hxs
    obtain ⟨hy', hys⟩ := List.forall_mem_cons.1 hys
    rw [List.map_cons, List.map_cons, hfg x y hx hy' hy.symm, ih hxs hys hrest.symm]

end CSharp
end Entigram
