import Entigram.Proofs.Generation.Declared

/-!
# Names that are accepted, and the lines with them

The settings may name the context class and the namespace.  What they may say is meant to be
identifiers, one for the class and several with points between them for the namespace (`IsName`,
`IsDotted`).  But a line feed at the end of an identifier does not count, and in a namespace each
part has an end.  So what is accepted are identifiers of which some may end in a line feed
(`MayBreak`, `acceptsIdentifier_iff`, `all_acceptsIdentifier_iff`).

These line feeds are kept, and the names stand in lines that open the source of the mapping.  They
are all that can break these lines: everything else in them is plain (`openingLines_whole_iff`).
-/

set_option autoImplicit false

namespace Entigram

open Text CSharp Config

namespace Generation

/-! ## Identifiers -/

/-- An identifier: letters and digits of ASCII and low lines, at least one, and no digit first. -/
structure IsName (cs : List Char) : Prop where
  ne_nil : cs ≠ []
  chars : ∀ c ∈ cs, c.isAlphanum = true ∨ c = '_'
  head : ∀ c ∈ cs.head?, c.isDigit = false

/-- An identifier that may have a line feed at its end. -/
def MayBreak (cs : List Char) : Prop := IsName cs ∨ ∃ name, IsName name ∧ cs = name ++ ['\n']

/-- Parts of some sort, at least one, with points between them. -/
def Joined (P : List Char → Prop) (cs : List Char) : Prop :=
  ∃ parts, parts ≠ [] ∧ (∀ part ∈ parts, P part) ∧ cs = ['.'].intercalate parts

/-- Identifiers with points between them. -/
def IsDotted (cs : List Char) : Prop := Joined IsName cs

theorem continuesIdentifier_iff {c : Char} :
    continuesIdentifier c = true ↔ c.isAlphanum = true ∨ c = '_' := by
  rw [continuesIdentifier, Bool.or_eq_true, decide_eq_true_eq]

/-- Letters are behind all digits. -/
theorem isDigit_eq_false {c : Char} (h : c.isAlpha = true) : c.isDigit = false := by
  refine Bool.eq_false_iff.2 fun hdigit => ?_
  have h9 : c.val ≤ '9'.val := of_decide_eq_true (Bool.and_eq_true_iff.1 hdigit).2
  rcases Bool.or_eq_true_iff.1 h with hupper | hlower
  · obtain ⟨hA, -⟩ : 'A'.val ≤ c.val ∧ c.val ≤ 'Z'.val := of_decide_eq_true hupper
    exact absurd (UInt32.le_trans hA h9) (by decide)
  · have ha : 'a'.val ≤ c.val := of_decide_eq_true (Bool.and_eq_true_iff.1 hlower).1
    exact absurd (UInt32.le_trans ha h9) (by decide)

/-- What may begin an identifier is what may stand in it and is no digit. -/
theorem startsIdentifier_iff {c : Char} :
    startsIdentifier c = true ↔ continuesIdentifier c = true ∧ c.isDigit = false := by
  rw [startsIdentifier, continuesIdentifier_iff, Bool.or_eq_true, decide_eq_true_eq]
  constructor
  · rintro (halpha | rfl)
    · exact ⟨.inl (by rw [Char.isAlphanum, halpha, Bool.true_or]), isDigit_eq_false halpha⟩
    · exact ⟨.inr rfl, rfl⟩
  · rintro ⟨halnum | rfl, hnot⟩
    · rw [Char.isAlphanum, hnot, Bool.or_false] at halnum
      exact .inl halnum
    · exact .inr rfl

theorem isIdentifier_iff {cs : List Char} : isIdentifier cs = true ↔ IsName cs := by
  cases cs with
  | nil => exact iff_of_false nofun fun h => h.ne_nil rfl
  | cons c cs =>
    rw [isIdentifier, Bool.and_eq_true, startsIdentifier_iff, List.all_eq_true]
    constructor
    · rintro ⟨⟨hc, hdigit⟩, hcs⟩
      refine ⟨List.cons_ne_nil c cs, fun d hd => continuesIdentifier_iff.1 ?_, ?_⟩
      · exact (List.forall_mem_cons (p := (continuesIdentifier · = true))).2 ⟨hc, hcs⟩ d hd
      · rintro d hd
        obtain rfl := Option.some_inj.1 hd
        exact hdigit
    · intro h
      have hchars : ∀ d ∈ c :: cs, continuesIdentifier d = true := fun d hd =>
        continuesIdentifier_iff.2 (h.chars d hd)
      obtain ⟨hc, hcs⟩ := List.forall_mem_cons.1 hchars
      exact ⟨⟨hc, h.head c rfl⟩, hcs⟩

/-- What is no character of an identifier is not in one. -/
theorem IsName.not_mem {cs : List Char} (h : IsName cs) {c : Char}
    (hc : continuesIdentifier c = false) : c ∉ cs := by
  intro hmem
  rw [continuesIdentifier_iff.2 (h.chars c hmem)] at hc
  cases hc

theorem MayBreak.point_not_mem {cs : List Char} (h : MayBreak cs) : '.' ∉ cs := by
  rcases h with h | ⟨name, h, rfl⟩
  · exact h.not_mem (by decide)
  · rw [List.mem_append, not_or]
    exact ⟨h.not_mem (by decide), by decide⟩

/-- Identifiers are those that do not end in a line feed though they might. -/
theorem isName_iff {cs : List Char} : IsName cs ↔ MayBreak cs ∧ '\n' ∉ cs := by
  constructor
  · exact fun h => ⟨.inl h, h.not_mem (by decide)⟩
  · rintro ⟨h | ⟨name, -, rfl⟩, hbreak⟩
    · exact h
    · exact absurd (List.mem_append_right name (List.mem_singleton_self '\n')) hbreak

/-- If the parts have no points, then they are those that the text is cut into. -/
theorem joined_iff {P : List Char → Prop} (hP : ∀ part, P part → '.' ∉ part) {cs : List Char} :
    Joined P cs ↔ ∀ part ∈ splitWhere (· = '.') cs, P part := by
  constructor
  · rintro ⟨parts, hne, hparts, rfl⟩ part hpart
    rw [splitWhere_intercalate (by decide) hne] at hpart
    · exact hparts part hpart
    · rintro part hpart c hc
      refine decide_eq_false ?_
      rintro rfl
      exact hP part (hparts part hpart) hc
  · exact fun h => ⟨_, splitWhere_ne_nil _ cs, h, (intercalate_splitWhere '.' cs).symm⟩

theorem isDotted_iff {cs : List Char} : IsDotted cs ↔ Joined MayBreak cs ∧ '\n' ∉ cs := by
  rw [IsDotted, joined_iff fun part hpart => (isName_iff.1 hpart).1.point_not_mem,
    joined_iff fun part hpart => hpart.point_not_mem]
  constructor
  · refine fun h => ⟨fun part hpart => (isName_iff.1 (h part hpart)).1, fun hbreak => ?_⟩
    rcases exists_mem_splitWhere (p := (· = '.')) hbreak with hpoint | ⟨part, hpart, hbreak⟩
    · exact absurd hpoint (by decide)
    · exact (isName_iff.1 (h part hpart)).2 hbreak
  · exact fun ⟨h, hbreak⟩ part hpart =>
      isName_iff.2 ⟨h part hpart, fun hmem => hbreak (mem_of_mem_splitWhere hpart hmem).1⟩

/-! ## What is accepted -/

/-- **A part is accepted** if it is an identifier, possibly with a line feed at its end. -/
theorem acceptsIdentifier_iff {cs : List Char} : acceptsIdentifier cs = true ↔ MayBreak cs := by
  rw [acceptsIdentifier, isIdentifier_iff]
  constructor
  · intro h
    rcases eq_withoutFinalBreak cs with hsame | hbreak
    · exact .inl (by rwa [← hsame] at h)
    · exact .inr ⟨_, h, hbreak⟩
  · rintro (h | ⟨name, h, rfl⟩)
    · have hlast : cs.getLast? ≠ some '\n' := fun hlast =>
        h.not_mem (by decide) (List.mem_of_getLast? hlast)
      rwa [withoutFinalBreak, if_neg hlast]
    · rwa [withoutFinalBreak, if_pos List.getLast?_concat, List.dropLast_concat]

theorem all_acceptsIdentifier_iff {cs : List Char} :
    (splitWhere (· = '.') cs).all acceptsIdentifier = true ↔ Joined MayBreak cs := by
  rw [List.all_eq_true, joined_iff fun part hpart => hpart.point_not_mem]
  exact forall₂_congr fun part _ => acceptsIdentifier_iff

instance (cs : List Char) : Decidable (MayBreak cs) := decidable_of_iff _ acceptsIdentifier_iff

instance (cs : List Char) : Decidable (Joined MayBreak cs) :=
  decidable_of_iff _ all_acceptsIdentifier_iff

/-- Settings of which only the name of the context is given. -/
theorem codegen_contextName (s : String) : codegen [("context_name", .str s)] =
    if MayBreak s.toList then .ok { contextName := s }
    else .issues [⟨["context_name"], .rejected (.contextName s)⟩] := by
  have hfield : field [("context_name", .str s)] "context_name" (Codegen.contextName {})
      contextName = Checked.under "context_name" (if acceptsIdentifier s.toList then .ok s
        else Checked.reject (.contextName s)) := rfl
  rw [codegen, hfield]
  simp only [acceptsIdentifier_iff]
  split <;> rfl

/-- Settings of which only the namespace is given. -/
theorem codegen_namespace (s : String) : codegen [("namespace", .str s)] =
    if s = "" then .ok {}
    else if Joined MayBreak s.toList then .ok { declaredNamespace := some s }
    else .issues [⟨["namespace"], .rejected (.declaredNamespace s)⟩] := by
  have hfield : field [("namespace", .str s)] "namespace" none declaredNamespace =
      (declaredNamespace (.str s)).under "namespace" := rfl
  rw [codegen, hfield, declaredNamespace_str]
  simp only [all_acceptsIdentifier_iff]
  split
  · rfl
  · split <;> rfl

/-! ## Lines -/

/-- An accepted name breaks a line just if it has a line feed. -/
theorem openingLines_whole_iff {style : Style} (hstyle : AcceptedStyle style) :
    (∀ l ∈ openingLines style, Avoids isLineBreak l) ↔
      '\n' ∉ style.contextName.toList ∧ ∀ n ∈ style.declaredNamespace, '\n' ∉ n.toList := by
  have hlineFeed : ∀ {s : String}, Avoids isLineBreak s → '\n' ∉ s.toList := fun h hmem =>
    absurd (h '\n' hmem) (by decide)
  have hname : ∀ c, continuesIdentifier c = true → isLineBreak c = false := fun c hc =>
    sparesPlain_isLineBreak c (isPlain_of_continuesIdentifier hc)
  rw [avoids_openingLines_iff sparesPlain_isLineBreak]
  refine and_congr ⟨hlineFeed, fun hbreak c hc => ?_⟩ (forall₂_congr fun n hn =>
    ⟨hlineFeed, fun hbreak c hc => ?_⟩)
  · have hidentifier := isName_iff.2 ⟨acceptsIdentifier_iff.1 hstyle.contextName, hbreak⟩
    exact hname c (continuesIdentifier_iff.2 (hidentifier.chars c hc))
  · rcases mem_namespace (hstyle.declaredNamespace n hn) hc with rfl | rfl | hcontinues
    · decide
    · exact absurd hc hbreak
    · exact hname c hcontinues

/-- **Which names are accepted, and when they break lines.**  A text is accepted as the name of the
context just if it is an identifier that may end in a line feed, and as the namespace just if it is
empty or has such identifiers with points between them; of these, the identifiers proper are those
without line feeds.  Accepted texts are kept as they are, but the empty namespace is none.

No line that opens the source of the mapping, with the namespace, the class or the constructor, has
a line break inside if no accepted name has a line feed.  Otherwise some of them have one, and these
lines are not those that the source begins with. -/
theorem accepted_names (s : String) :
    (codegen [("context_name", .str s)] =
      if MayBreak s.toList then .ok { contextName := s }
      else .issues [⟨["context_name"], .rejected (.contextName s)⟩]) ∧
    (codegen [("namespace", .str s)] =
      if s = "" then .ok {}
      else if Joined MayBreak s.toList then .ok { declaredNamespace := some s }
      else .issues [⟨["namespace"], .rejected (.declaredNamespace s)⟩]) ∧
    (IsName s.toList ↔ MayBreak s.toList ∧ '\n' ∉ s.toList) ∧
    (IsDotted s.toList ↔ Joined MayBreak s.toList ∧ '\n' ∉ s.toList) ∧
    ∀ fs c, codegen fs = .ok c →
      ((∀ l ∈ openingLines c.style, ∀ ch ∈ l.toList, isLineBreak ch = false) ↔
        '\n' ∉ c.contextName.toList ∧ ∀ n ∈ c.declaredNamespace, '\n' ∉ n.toList) ∧
      ∀ m, (openingLines c.style).map String.toList <+: lines (CSharp.mapping c.style m).toList ↔
        '\n' ∉ c.contextName.toList ∧ ∀ n ∈ c.declaredNamespace, '\n' ∉ n.toList := by
  refine ⟨codegen_contextName s, codegen_namespace s, isName_iff, isDotted_iff, fun fs c h => ?_⟩
  have hlines := openingLines_whole_iff (accepted_of_codegen h)
  refine ⟨hlines, fun m => ?_⟩
  rw [toList_mapping, prefix_lines_iff]
  exact hlines

/-- A namespace of identifiers, and one with a line feed behind the first of them. -/
theorem accepted_names_shop :
    codegen [("namespace", .str "Shop.Data")] = .ok { declaredNamespace := some "Shop.Data" } ∧
    (∀ l ∈ openingLines { declaredNamespace := some "Shop.Data" }, ∀ ch ∈ l.toList,
      isLineBreak ch = false) ∧
    codegen [("namespace", .str "Shop\n.Data")] =
      .ok { declaredNamespace := some "Shop\n.Data" } ∧
    ¬∀ l ∈ openingLines { declaredNamespace := some "Shop\n.Data" }, ∀ ch ∈ l.toList,
      isLineBreak ch = false := by
  have hwhole : codegen [("namespace", .str "Shop.Data")] =
      .ok { declaredNamespace := some "Shop.Data" } :=
    (accepted_names "Shop.Data").2.1.trans (by decide)
  have hbroken : codegen [("namespace", .str "Shop\n.Data")] =
      .ok { declaredNamespace := some "Shop\n.Data" } :=
    (accepted_names "Shop\n.Data").2.1.trans (by decide)
  refine ⟨hwhole, ?_, hbroken, ?_⟩
  · exact ((accepted_names "Shop.Data").2.2.2.2 _ _ hwhole).1.2 (by decide)
  · intro h
    exact absurd (((accepted_names "Shop\n.Data").2.2.2.2 _ _ hbroken).1.1 h) (by decide)

/-- **What is no identifier can be accepted**, and then the line of the class has a line break. -/
theorem broken_name_accepted : ¬IsName "Shop\n".toList ∧
    ∃ c, codegen [("context_name", .str "Shop\n")] = .ok c ∧
      "public class Shop\n : DbContext" ∈ openingLines c.style ∧ isLineBreak '\n' = true := by
  have hbreak : '\n' ∈ "Shop\n".toList := by decide
  exact ⟨fun h => h.not_mem (by decide) hbreak, _, rfl, by decide, by decide⟩

end Generation
end Entigram
