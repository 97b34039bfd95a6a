import Mathlib.Data.List.TakeWhile
import Entigram.Proofs.Diagram.Reading
import Entigram.Proofs.Diagram.Writing

/-!
# Written lines

Every line that is written is read as what it was written for.  The shapes of lines are tried in an
order, so for each kind of line two things have to be seen: that no shape before its own takes it,
and that its parts are found again.

The first is told by single characters that the line must have.  A space follows the first word, so
the line begins like a comment only if that word does (`isSilent_append_cons`), and it is not a bare
brace (`ne_closing_of_space`).  Only a line that opens a block ends with a brace
(`isOpening_of_getLast?`).

The second needs an argument for relationships alone.  The letter `o` is a letter and a mark, so it
is only the blank between a name and its marks that keeps them apart.  On the left the name would go
on into the marks (`nameThenMarks?_of_marks`), on the right the marks would go on into the name
(`splitRight_of_name`), and both stop at the blank.  Whatever stands in the label does no harm, as
the first colon of the line is the one before the label.
-/

set_option autoImplicit false

namespace Entigram
namespace Diagram

open Text

/-! ## Characters -/

/-- A letter is none of the characters that separate the parts of a relationship's line. -/
theorem ne_of_isWordChar {c d : Char} (h : isWordChar c = true) (hd : isWordChar d = false) :
    c ≠ d := by
  rintro rfl
  rw [h] at hd
  cases hd

theorem isMark_cases {c : Char} (h : isMark c = true) : c = '|' ∨ c = '}' ∨ c = 'o' ∨ c = '{' := by
  simpa [isMark, or_assoc] using h

theorem isBlank_of_isMark {c : Char} (h : isMark c = true) : isBlank c = false := by
  rcases isMark_cases h with rfl | rfl | rfl | rfl <;> decide

theorem isLineBreak_of_not_isBlank {c : Char} (h : isBlank c = false) : isLineBreak c = false :=
  Bool.eq_false_iff.2 fun hbreak => by simp [isBlank_of_isLineBreak hbreak] at h

/-! ## The ends of a relationship -/

section ends

variable {name gap marks : List Char}

theorem dropWhile_isBlank_gap {cs : List Char} (hgap : ∀ c ∈ gap, isBlank c = true)
    (h : ∀ c ∈ cs, isBlank c = false) : (gap ++ cs).dropWhile isBlank = cs := by
  rw [List.dropWhile_append_of_pos hgap]
  cases cs with
  | nil => rfl
  | cons c cs => exact List.dropWhile_cons_of_neg (by simp [h c List.mem_cons_self])

theorem onlyMarks?_of_marks (hgap : ∀ c ∈ gap, isBlank c = true) (hne : marks ≠ [])
    (hmarks : ∀ c ∈ marks, isMark c = true) : onlyMarks? (gap ++ marks) = some marks := by
  rw [onlyMarks?, dropWhile_isBlank_gap hgap fun c hc => isBlank_of_isMark (hmarks c hc)]
  simpa [hne] using hmarks

theorem nameThenMarks?_of_marks (hname : name ≠ []) (hletters : ∀ c ∈ name, isWordChar c = true)
    (hgap : ∀ c ∈ gap, isBlank c = true) (hne : marks ≠ [])
    (hmarks : ∀ c ∈ marks, isMark c = true)
    (hstop : ∀ c ∈ (gap ++ marks).head?, isWordChar c = false) :
    nameThenMarks? (name ++ (gap ++ marks)) = some (name, marks) := by
  have hnone : nameThenMarks? (gap ++ marks) = none := by
    cases hrest : gap ++ marks with
    | nil => rfl
    | cons c rest => rw [nameThenMarks?, hstop c (by rw [hrest]; rfl), if_neg Bool.false_ne_true]
  induction name with
  | nil => contradiction
  | cons c name ih =>
    obtain ⟨hc, hletters⟩ := List.forall_mem_cons.1 hletters
    rw [List.cons_append, nameThenMarks?, if_pos hc]
    cases name with
    | nil =>
      rw [List.nil_append, hnone, onlyMarks?_of_marks hgap hne hmarks]
      rfl
    | cons d name => rw [ih (List.cons_ne_nil d name) hletters]

/-- **On the left** a name is told from its marks by anything that is no letter: a blank between
them, or the first of the marks. -/
theorem splitLeft_of_marks (hname : name ≠ []) (hletters : ∀ c ∈ name, isWordChar c = true)
    (hgap : ∀ c ∈ gap, isBlank c = true) (hne : marks ≠ [])
    (hmarks : ∀ c ∈ marks, isMark c = true)
    (hstop : ∀ c ∈ (gap ++ marks).head?, isWordChar c = false) :
    splitLeft (name ++ (gap ++ marks)) = some (name, marks) := by
  have hfound := nameThenMarks?_of_marks hname hletters hgap hne hmarks hstop
  obtain ⟨c, rest, rfl⟩ := List.exists_cons_of_ne_nil hname
  rw [List.cons_append] at hfound ⊢
  rw [splitLeft, splitLeftFrom, if_pos (hletters c List.mem_cons_self), if_neg (by decide), hfound]

/-- **On the right** marks are told from a name where the marks cannot go on. -/
theorem splitRight_of_name (hne : marks ≠ []) (hmarks : ∀ c ∈ marks, isMark c = true)
    (hgap : ∀ c ∈ gap, isBlank c = true) (hname : name ≠ [])
    (hletters : ∀ c ∈ name, isWordChar c = true) (hstop : splitRight (gap ++ name) = none) :
    splitRight (marks ++ (gap ++ name)) = some (marks, name) := by
  induction marks with
  | nil => contradiction
  | cons c marks ih =>
    obtain ⟨hc, hmarks⟩ := List.forall_mem_cons.1 hmarks
    rw [List.cons_append, splitRight, if_pos hc]
    cases marks with
    | nil =>
      have htake : ((gap ++ name).dropWhile isBlank).takeWhile isWordChar = name := by
        rw [dropWhile_isBlank_gap hgap fun d hd => isBlank_of_isWordChar (hletters d hd)]
        exact List.takeWhile_eq_self_iff.2 hletters
      rw [List.nil_append, hstop]
      dsimp only
      rw [htake, if_neg (by simpa using hname)]
    | cons d marks => rw [ih (List.cons_ne_nil d marks) hmarks]

/-- Marks do not go on at a character that is none. -/
theorem splitRight_eq_none {cs : List Char} (h : ∀ c ∈ cs.head?, isMark c = false) :
    splitRight cs = none := by
  cases cs with
  | nil => rfl
  | cons c cs => rw [splitRight, h c rfl, if_neg Bool.false_ne_true]

end ends

/-! ## Lines -/

/-- Text that stands on a line of its own, with no blanks around it. -/
structure IsLine (line : List Char) : Prop where
  nonempty : line ≠ []
  oneLine : ∀ c ∈ line, isLineBreak c = false
  first : ∀ c ∈ line.head?, isBlank c = false
  last : ∀ c ∈ line.getLast?, isBlank c = false

namespace IsLine

variable {line before after : List Char}

theorem trim_eq (h : IsLine line) : trim line = line := trimWhile_eq_self h.first h.last

theorem trim_space_before (h : IsLine line) : trim (' ' :: line) = line := by
  have hspace : ∀ c ∈ [' '], isBlank c = true := by decide
  rw [← List.singleton_append, trim, trimWhile_append hspace, ← trim, h.trim_eq]

theorem trim_space_after (h : IsLine line) : trim (line ++ [' ']) = line := by
  rw [trim, trimWhile_concat (by decide), ← trim, h.trim_eq]

/-- A text without blanks is a line. -/
theorem of_blankless (hne : line ≠ []) (h : ∀ c ∈ line, isBlank c = false) : IsLine line where
  nonempty := hne
  oneLine := fun c hc => isLineBreak_of_not_isBlank (h c hc)
  first := fun c hc => h c (List.mem_of_mem_head? hc)
  last := fun c hc => h c (List.mem_of_mem_getLast? hc)

/-- Two lines with something between them are one, if that does not end a line. -/
theorem append (hbefore : IsLine before) (between : List Char) (hafter : IsLine after)
    (hbetween : ∀ c ∈ between, isLineBreak c = false) : IsLine (before ++ (between ++ after)) where
  nonempty := by simp [hbefore.nonempty]
  oneLine := by
    intro c hc
    rcases List.mem_append.1 hc with hc | hc
    · exact hbefore.oneLine c hc
    · rcases List.mem_append.1 hc with hc | hc
      · exact hbetween c hc
      · exact hafter.oneLine c hc
  first := by
    intro c hc
    rw [List.head?_append_of_ne_nil _ hbefore.nonempty] at hc
    exact hbefore.first c hc
  last := by
    intro c hc
    rw [← List.append_assoc, List.getLast?_append_of_ne_nil _ hafter.nonempty] at hc
    exact hafter.last c hc

/-- Words with spaces between them are a line. -/
theorem intercalate {ws : List (List Char)} (hne : ws ≠ []) (h : ∀ w ∈ ws, IsLine w) :
    IsLine ([' '].intercalate ws) := by
  induction ws with
  | nil => contradiction
  | cons w ws ih =>
    obtain ⟨hw, hws⟩ := List.forall_mem_cons.1 h
    cases ws with
    | nil => simpa using hw
    | cons next ws =>
      rw [List.intercalate_cons_cons, List.append_assoc]
      exact hw.append [' '] (ih (List.cons_ne_nil next ws) hws) (by decide)

end IsLine

/-! ## The shapes of written lines -/

/-- What begins a text stands before the first character that it does not have. -/
theorem prefix_of_prefix_append_cons {p xs ys : List Char} {c : Char} (hc : c ∉ p)
    (h : p <+: xs ++ c :: ys) : p <+: xs := by
  rcases List.prefix_or_prefix_of_prefix h (List.prefix_append xs (c :: ys)) with hp | ⟨t, rfl⟩
  · exact hp
  · cases t with
    | nil => simp
    | cons d t =>
      rw [List.prefix_append_right_inj, List.cons_prefix_cons] at h
      exact absurd (h.1 ▸ by simp) hc

/-- Whether a line is silent is told by what stands before a character that no such line begins
with. -/
theorem isSilent_append_cons (s : String) {c : Char}
    (hheading : c ∉ ['e', 'r', 'D', 'i', 'a', 'g', 'r', 'a', 'm']) (hcomment : c ∉ ['%', '%'])
    (rest : List Char) :
    isSilent (s.toList ++ c :: rest) = startsSilently s := by
  have hprefix : ∀ p : List Char, c ∉ p →
      p.isPrefixOf (s.toList ++ c :: rest) = p.isPrefixOf s.toList := by
    intro p hp
    rw [Bool.eq_iff_iff, List.isPrefixOf_iff_prefix, List.isPrefixOf_iff_prefix]
    exact ⟨prefix_of_prefix_append_cons hp, fun h => h.trans (List.prefix_append _ _)⟩
  have hne : (s.toList ++ c :: rest).isEmpty = false := by simp
  rw [isSilent, hne, Bool.false_or, hprefix _ hheading, hprefix _ hcomment]
  rfl

/-- A line with another last character opens no block. -/
theorem isOpening_of_getLast? {line : List Char} (h : line.getLast? ≠ some '{') :
    isOpening line = false := by
  rw [isOpening, Bool.and_eq_false_iff]
  refine .inl (Bool.eq_false_iff.2 fun hsuffix => h ?_)
  obtain ⟨before, rfl⟩ := List.isSuffixOf_iff_suffix.1 hsuffix
  exact List.getLast?_concat

theorem ne_closing_of_space (before after : List Char) : before ++ ' ' :: after ≠ ['}'] := by
  intro h
  have hmem : ' ' ∈ ['}'] := h ▸ List.mem_append_right before List.mem_cons_self
  exact absurd hmem (by decide)

/-! ### Opening a block -/

/-- A pattern does not reach to a character that it does not have. -/
theorem occurs_concat {pattern text : List Char} {c : Char} (hne : pattern ≠ [])
    (hc : c ∉ pattern) : occurs pattern (text ++ [c]) = occurs pattern text := by
  rw [Bool.eq_iff_iff, occurs_iff, occurs_iff]
  constructor
  · rintro ⟨before, after, h⟩
    rcases List.eq_nil_or_concat after with rfl | ⟨after, d, rfl⟩
    · -- the pattern would end with the character
      have hlast := congrArg List.getLast? h
      rw [List.getLast?_concat, List.append_nil, List.getLast?_append_of_ne_nil _ hne] at hlast
      exact absurd (List.mem_of_mem_getLast? hlast.symm) hc
    · rw [List.concat_eq_append, ← List.append_assoc] at h
      exact ⟨before, after, List.append_inj_left' h rfl⟩
  · rintro ⟨before, after, rfl⟩
    exact ⟨before, after ++ [c], by simp⟩

theorem toList_openingLine (name : String) :
    (openingLine name).toList = name.toList ++ ' ' :: ['{'] := by
  simp [openingLine]

variable {e : Entity} {a : Attribute} {r : Relationship}

theorem isLine_name (h : EntityWellFormed e) : IsLine e.name.toList := by
  have hends := ends_trimWhile isBlank e.name.toList
  rw [← trim, h.trimmed] at hends
  exact ⟨by simpa using h.nonempty, h.oneLine, hends.1, hends.2⟩

theorem isLine_openingLine (h : EntityWellFormed e) : IsLine (openingLine e.name).toList := by
  rw [toList_openingLine]
  exact (isLine_name h).append [' '] (.of_blankless (by decide) (by decide)) (by decide)

theorem isOpening_openingLine (h : EntityWellFormed e) :
    isOpening (openingLine e.name).toList = true := by
  have hmarks : occurs ['|', '|'] (openingLine e.name).toList = false := by
    rw [toList_openingLine, List.append_cons, occurs_concat (by decide) (by decide),
      occurs_concat (by decide) (by decide)]
    exact h.markless
  have hsuffix : ['{'] <:+ (openingLine e.name).toList :=
    ⟨e.name.toList ++ [' '], by simp [toList_openingLine]⟩
  rw [isOpening, hmarks, List.isSuffixOf_iff_suffix.2 hsuffix]
  rfl

theorem openedName_openingLine (h : EntityWellFormed e) :
    openedName (openingLine e.name).toList = e.name := by
  have hname : e.name.toList.filter (· ≠ '{') = e.name.toList := by
    refine List.filter_eq_self.2 fun c hc => decide_eq_true ?_
    rintro rfl
    exact h.braceless hc
  have hline : (openingLine e.name).toList.filter (· ≠ '{') = e.name.toList ++ [' '] := by
    rw [toList_openingLine, List.filter_append, hname]
    rfl
  rw [openedName, hline, (isLine_name h).trim_space_after, String.ofList_toList]

/-- **A line that opens a block** is read as such. -/
theorem ofTrimmed?_openingLine (h : EntityWellFormed e) (inside : Option String) (number : Nat) :
    Statement.ofTrimmed? inside number (openingLine e.name).toList = some (.opening e.name) := by
  have hsilent : isSilent (openingLine e.name).toList = false := by
    rw [toList_openingLine]
    rw [isSilent_append_cons e.name (by decide) (by decide), h.loud]
  unfold Statement.ofTrimmed?
  rw [hsilent, isOpening_openingLine h, openedName_openingLine h]
  rfl

/-! ### Attributes -/

theorem isLine_of_isWord {s : String} (h : IsWord s) : IsLine s.toList :=
  .of_blankless (by simpa using h.nonempty) h.blankless

theorem isWord_of_mem_attributeWords (h : AttributeWellFormed a) :
    ∀ w ∈ a.dataType :: a.name :: flagWords a, IsWord w := by
  have hflags : ∀ w ∈ flagWords a, IsWord w := by
    rw [flagWords]
    cases a.isPrimaryKey <;> cases a.isForeignKey <;> decide
  exact List.forall_mem_cons.2 ⟨h.dataType, List.forall_mem_cons.2 ⟨h.name, hflags⟩⟩

theorem toList_attributeLine (a : Attribute) : (attributeLine a).toList =
    [' '].intercalate ((a.dataType :: a.name :: flagWords a).map String.toList) :=
  String.toList_intercalate

theorem isLine_attributeLine (h : AttributeWellFormed a) : IsLine (attributeLine a).toList := by
  rw [toList_attributeLine]
  refine .intercalate (by simp) fun w hw => ?_
  obtain ⟨s, hs, rfl⟩ := List.mem_map.1 hw
  exact isLine_of_isWord (isWord_of_mem_attributeWords h s hs)

/-- The words of an attribute's line are an attribute again. -/
theorem attribute?_attributeLine (h : AttributeWellFormed a) :
    attribute? (attributeLine a).toList = some a := by
  have hwords : words (attributeLine a).toList =
      (a.dataType :: a.name :: flagWords a).map String.toList := by
    rw [toList_attributeLine, words_intercalate]
    intro w hw
    obtain ⟨s, hs, rfl⟩ := List.mem_map.1 hw
    have hword := isWord_of_mem_attributeWords h s hs
    exact ⟨by simpa using hword.nonempty, hword.blankless⟩
  have hkey : occurs ['P', 'K'] (((flagWords a).map String.toList).headD []) = a.isPrimaryKey := by
    rw [flagWords]
    cases a.isPrimaryKey <;> cases a.isForeignKey <;> rfl
  have hforeign : occurs ['F', 'K'] (((flagWords a).map String.toList).headD []) =
      a.isForeignKey := by
    rw [flagWords]
    cases a.isPrimaryKey <;> cases a.isForeignKey <;> rfl
  rw [attribute?, hwords, List.map_cons, List.map_cons]
  dsimp only
  rw [hkey, hforeign, String.ofList_toList, String.ofList_toList]

/-- **A line of an attribute** is read as such where a block is open. -/
theorem ofTrimmed?_attributeLine (h : AttributeWellFormed a) (entity : String) (number : Nat) :
    Statement.ofTrimmed? (some entity) number (attributeLine a).toList = some (.attribute a) := by
  have hspace : ∃ rest, (attributeLine a).toList = a.dataType.toList ++ ' ' :: rest := by
    rw [toList_attributeLine, List.map_cons, List.map_cons, List.intercalate_cons_cons,
      List.append_assoc]
    exact ⟨_, rfl⟩
  have hlast : (attributeLine a).toList.getLast? ≠ some '{' := by
    intro hbrace
    have hmem := List.mem_of_mem_getLast? (Option.mem_def.2 hbrace)
    rw [toList_attributeLine] at hmem
    rcases mem_intercalate hmem with hmem | ⟨w, hw, hmem⟩
    · exact absurd hmem (by decide)
    · obtain ⟨s, hs, rfl⟩ := List.mem_map.1 hw
      exact (isWord_of_mem_attributeWords h s hs).braceless hmem
  obtain ⟨rest, hrest⟩ := hspace
  have hsilent : isSilent (attributeLine a).toList = false := by
    rw [hrest]
    rw [isSilent_append_cons a.dataType (by decide) (by decide), h.loud]
  have hclosing : (attributeLine a).toList ≠ ['}'] := by
    rw [hrest]
    exact ne_closing_of_space _ rest
  unfold Statement.ofTrimmed?
  rw [hsilent, isOpening_of_getLast? hlast, if_neg (by decide), if_neg (by decide),
    if_neg hclosing]
  dsimp only
  rw [attribute?_attributeLine h]

/-! ### Relationships -/

theorem isLine_of_isName {s : String} (h : IsName s) : IsLine s.toList :=
  .of_blankless (by simpa using h.nonempty) fun c hc => isBlank_of_isWordChar (h.letters c hc)

theorem isLine_of_isCardinality {s : String} (h : IsCardinality s) : IsLine s.toList :=
  .of_blankless (by simpa using h.nonempty) fun c hc => isBlank_of_isMark (h.marks c hc)

/-- The source of a relationship with its cardinality. -/
def leftSide (r : Relationship) : List Char := r.source.toList ++ ' ' :: r.sourceCardinality.toList

/-- The cardinality at the target of a relationship, with the target. -/
def rightSide (r : Relationship) : List Char := r.targetCardinality.toList ++ ' ' :: r.target.toList

/-- What stands before the colon. -/
def bothSides (r : Relationship) : List Char := leftSide r ++ '-' :: '-' :: rightSide r

/-- A label between its quotes. -/
def quotedLabel (r : Relationship) : List Char := '"' :: (r.label.toList ++ ['"'])

theorem toList_relationshipLine (r : Relationship) : (relationshipLine r).toList =
    bothSides r ++ ' ' :: ':' :: ' ' :: quotedLabel r := by
  simp [relationshipLine, bothSides, leftSide, rightSide, quotedLabel]

theorem isLine_leftSide (h : RelationshipWellFormed r) : IsLine (leftSide r) :=
  (isLine_of_isName h.source).append [' ']
    (isLine_of_isCardinality h.sourceCardinality) (by decide)

theorem isLine_rightSide (h : RelationshipWellFormed r) : IsLine (rightSide r) :=
  (isLine_of_isCardinality h.targetCardinality).append [' ']
    (isLine_of_isName h.target) (by decide)

theorem isLine_bothSides (h : RelationshipWellFormed r) : IsLine (bothSides r) :=
  (isLine_leftSide h).append ['-', '-'] (isLine_rightSide h) (by decide)

/-- Sides have letters, marks and spaces only. -/
theorem ne_of_mem_sides (h : RelationshipWellFormed r) {d : Char} (hletter : isWordChar d = false)
    (hmark : isMark d = false) (hspace : d ≠ ' ') :
    (∀ c ∈ leftSide r, c ≠ d) ∧ ∀ c ∈ rightSide r, c ≠ d := by
  have hname : ∀ s, IsName s → ∀ c ∈ s.toList, c ≠ d := fun s hs c hc =>
    ne_of_isWordChar (hs.letters c hc) hletter
  have hcardinality : ∀ s, IsCardinality s → ∀ c ∈ s.toList, c ≠ d := by
    rintro s hs c hc rfl
    rw [hs.marks c hc] at hmark
    cases hmark
  constructor
  · intro c hc
    rcases List.mem_append.1 hc with hc | hc
    · exact hname _ h.source c hc
    · rcases List.mem_cons.1 hc with rfl | hc
      · exact hspace.symm
      · exact hcardinality _ h.sourceCardinality c hc
  · intro c hc
    rcases List.mem_append.1 hc with hc | hc
    · exact hcardinality _ h.targetCardinality c hc
    · rcases List.mem_cons.1 hc with rfl | hc
      · exact hspace.symm
      · exact hname _ h.target c hc

theorem isLine_quotedLabel (h : RelationshipWellFormed r) : IsLine (quotedLabel r) where
  nonempty := List.cons_ne_nil _ _
  oneLine := by
    intro c hc
    rcases List.mem_cons.1 hc with rfl | hc
    · decide
    · rcases List.mem_append.1 hc with hc | hc
      · exact h.oneLine c hc
      · rw [List.mem_singleton.1 hc]
        decide
  first := by
    rintro c ⟨⟩
    decide
  last := by
    intro c hc
    rw [quotedLabel, ← List.cons_append, List.getLast?_concat] at hc
    cases hc
    decide

theorem isLine_relationshipLine (h : RelationshipWellFormed r) :
    IsLine (relationshipLine r).toList := by
  rw [toList_relationshipLine]
  exact (isLine_bothSides h).append [' ', ':', ' '] (isLine_quotedLabel h) (by decide)

/-- The quotes around a label are dropped, and nothing else. -/
theorem trimWhile_quotedLabel (h : RelationshipWellFormed r) :
    trimWhile (· = '"') (quotedLabel r) = r.label.toList := by
  have hquote : ∀ c ∈ ['"'], decide (c = '"') = true := by decide
  rw [quotedLabel, ← List.singleton_append, trimWhile_append hquote, trimWhile_concat rfl]
  refine trimWhile_eq_self (fun c hc => ?_) (fun c hc => ?_)
  · exact decide_eq_false fun hc' => h.unquotedFirst (hc' ▸ hc)
  · exact decide_eq_false fun hc' => h.unquotedLast (hc' ▸ hc)

/-- No name begins like a comment. -/
theorem startsWith_comment {s : String} (h : IsName s) : startsWith s "%%" = false := by
  rw [startsWith, Bool.eq_false_iff]
  intro hcomment
  have hmem : '%' ∈ s.toList := (List.isPrefixOf_iff_prefix.1 hcomment).subset (by decide)
  exact absurd (h.letters '%' hmem) (by decide)

theorem startsSilently_source (h : RelationshipWellFormed r) : startsSilently r.source = false := by
  rw [startsSilently, h.loud, startsWith_comment h.source]
  rfl

/-- A text is cut where a character is found first. -/
theorem cut_at {d : Char} {before : List Char} (h : ∀ c ∈ before, c ≠ d) (after : List Char) :
    (before ++ d :: after).takeWhile (· ≠ d) = before ∧
      (before ++ d :: after).dropWhile (· ≠ d) = d :: after := by
  have hbefore : ∀ c ∈ before, decide (c ≠ d) = true := fun c hc => decide_eq_true (h c hc)
  rw [List.takeWhile_append_of_pos hbefore, List.takeWhile_cons_of_neg (by simp),
    List.append_nil, List.dropWhile_append_of_pos hbefore, List.dropWhile_cons_of_neg (by simp)]
  exact ⟨rfl, rfl⟩

/-- **A relationship is read side by side.**  The first two hyphens stand between the sides, and the
first colon stands before the label. -/
theorem relationship?_of_sides {left right : List Char} (hleft : IsLine left)
    (hright : IsLine right) (hdash : ∀ c ∈ left ++ right, c ≠ '-')
    (hcolon : ∀ c ∈ left ++ right, c ≠ ':') (label : List Char) :
    relationship? (left ++ '-' :: '-' :: right ++ ' ' :: ':' :: label) =
      (splitLeft left).bind fun l => (splitRight right).map fun r => {
        source := String.ofList l.1
        target := String.ofList r.2
        sourceCardinality := String.ofList l.2
        targetCardinality := String.ofList r.1
        label := String.ofList (trimWhile (· = '"') (trim label)) } := by
  obtain ⟨hdashLeft, hdashRight⟩ := List.forall_mem_append.1 hdash
  obtain ⟨hcolonLeft, hcolonRight⟩ := List.forall_mem_append.1 hcolon
  have hcolonless : ∀ c ∈ left ++ '-' :: '-' :: right ++ [' '], c ≠ ':' := by
    simp only [List.forall_mem_append, List.forall_mem_cons]
    exact ⟨⟨hcolonLeft, by decide, by decide, hcolonRight⟩, by decide, by simp⟩
  obtain ⟨hhead, htail⟩ := cut_at hcolonless label
  have hsides : IsLine (left ++ '-' :: '-' :: right) := hleft.append ['-', '-'] hright (by decide)
  rw [← List.append_cons] at hhead htail
  unfold relationship?
  rw [hhead, htail]
  dsimp only
  rw [hsides.trim_space_after, splitPairs_append_pair hdashLeft, splitPairs_eq_singleton hdashRight]
  dsimp only
  rw [hleft.trim_eq, hright.trim_eq]
  cases splitLeft left <;> cases splitRight right <;> rfl

theorem splitLeft_leftSide (h : RelationshipWellFormed r) :
    splitLeft (leftSide r) = some (r.source.toList, r.sourceCardinality.toList) := by
  change splitLeft (r.source.toList ++ ([' '] ++ r.sourceCardinality.toList)) = _
  exact splitLeft_of_marks (by simpa using h.source.nonempty) h.source.letters (by decide)
    (by simpa using h.sourceCardinality.nonempty) h.sourceCardinality.marks
    (by rintro c ⟨⟩; decide)

theorem splitRight_rightSide (h : RelationshipWellFormed r) :
    splitRight (rightSide r) = some (r.targetCardinality.toList, r.target.toList) := by
  change splitRight (r.targetCardinality.toList ++ ([' '] ++ r.target.toList)) = _
  exact splitRight_of_name (by simpa using h.targetCardinality.nonempty)
    h.targetCardinality.marks (by decide) (by simpa using h.target.nonempty) h.target.letters
    (splitRight_eq_none (by rintro c ⟨⟩; decide))

/-- The parts of a relationship's line are a relationship again. -/
theorem relationship?_relationshipLine (h : RelationshipWellFormed r) :
    relationship? (relationshipLine r).toList = some r := by
  have hlabel : trimWhile (· = '"') (trim (' ' :: quotedLabel r)) = r.label.toList := by
    rw [(isLine_quotedLabel h).trim_space_before, trimWhile_quotedLabel h]
  have hdash := ne_of_mem_sides h (d := '-') (by decide) (by decide) (by decide)
  have hcolon := ne_of_mem_sides h (d := ':') (by decide) (by decide) (by decide)
  rw [toList_relationshipLine, bothSides,
    relationship?_of_sides (isLine_leftSide h) (isLine_rightSide h)
      (List.forall_mem_append.2 hdash) (List.forall_mem_append.2 hcolon),
    splitLeft_leftSide h, splitRight_rightSide h, hlabel]
  simp only [Option.bind_some, Option.map_some, String.ofList_toList]

theorem isSilent_relationshipLine (h : RelationshipWellFormed r) :
    isSilent (relationshipLine r).toList = false := by
  have hspace : (relationshipLine r).toList = r.source.toList ++ ' ' ::
      (r.sourceCardinality.toList ++ '-' :: '-' :: (rightSide r ++
        ' ' :: ':' :: ' ' :: quotedLabel r)) := by
    rw [toList_relationshipLine, bothSides, leftSide]
    simp only [List.append_assoc, List.cons_append]
  rw [hspace]
  rw [isSilent_append_cons r.source (by decide) (by decide), startsSilently_source h]

theorem isOpening_relationshipLine (r : Relationship) :
    isOpening (relationshipLine r).toList = false := by
  have hquote : (relationshipLine r).toList =
      bothSides r ++ ' ' :: ':' :: ' ' :: '"' :: r.label.toList ++ ['"'] := by
    rw [toList_relationshipLine, quotedLabel]
    simp only [List.append_assoc, List.cons_append]
  refine isOpening_of_getLast? ?_
  rw [hquote, List.getLast?_concat]
  decide

/-- **A line of a relationship** is read as such where no block is open. -/
theorem ofTrimmed?_relationshipLine (h : RelationshipWellFormed r) (number : Nat) :
    Statement.ofTrimmed? none number (relationshipLine r).toList = some (.relationship r) := by
  have hclosing : (relationshipLine r).toList ≠ ['}'] := by
    rw [toList_relationshipLine]
    exact ne_closing_of_space _ _
  have hdashes : occurs ['-', '-'] (relationshipLine r).toList = true := by
    rw [occurs_iff, toList_relationshipLine, bothSides]
    exact ⟨leftSide r, rightSide r ++ ' ' :: ':' :: ' ' :: quotedLabel r, by simp⟩
  have hcolon : (relationshipLine r).toList.contains ':' = true := by
    rw [toList_relationshipLine, List.contains_iff_mem]
    simp
  unfold Statement.ofTrimmed?
  rw [isSilent_relationshipLine h, isOpening_relationshipLine r, if_neg (by decide),
    if_neg (by decide), if_neg hclosing]
  dsimp only
  rw [hdashes, hcolon, relationship?_relationshipLine h]
  rfl

end Diagram
end Entigram
