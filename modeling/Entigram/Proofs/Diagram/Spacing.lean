import Entigram.Proofs.Diagram.WrittenLine

/-!
# Spaces between names and marks

Around the marks of a relationship's line there may be spaces: `A ||--o{ B` is read like `A||--o{B`.
There is one exception, and it comes from the letter `o`, which is a mark as well.

* On the left, marks of the notation begin with `|` or `}`, which are no letters, so the name ends
  where they begin whatever its own last letters are (`splitLeft_spacedLeft`).
* On the right it is the marks that go on as far as they can.  A name that begins with `o` and goes
  on behind it loses the letter to them, unless a space stands between
  (`length_lt_of_splitRight`, `splitRight_spacedRight_of_o`).

Everything else in the line is read in the same way with spaces and without: whether the line is
silent is told by the name on the left (`isSilent_trimmedLine`), and whether it opens a block by the
marks and by what stands behind the colon (`isPassedOver_eq`).  So what a line is read as comes down
to how its right side is cut (`relationshipOutside_spacedLine`).
-/

set_option autoImplicit false

namespace Entigram
namespace Text

/-! ## Patterns beside other characters -/

section occurs

variable {pattern xs ys : List Char} {c : Char}

/-- A pattern does not begin in characters that it does not have. -/
theorem occurs_append_of_not_mem (hne : pattern ≠ []) (hxs : ∀ c ∈ xs, c ∉ pattern) :
    occurs pattern (xs ++ ys) = occurs pattern ys := by
  induction xs with
  | nil => rfl
  | cons x xs ih =>
    obtain ⟨hx, hxs⟩ := List.forall_mem_cons.1 hxs
    have hprefix : pattern.isPrefixOf (x :: (xs ++ ys)) = false := by
      rw [Bool.eq_false_iff]
      intro h
      obtain ⟨d, rest, rfl⟩ := List.exists_cons_of_ne_nil hne
      rw [List.isPrefixOf_iff_prefix, List.cons_prefix_cons] at h
      exact hx (h.1 ▸ List.mem_cons_self)
    rw [List.cons_append, occurs, hprefix, Bool.false_or, ih hxs]

/-- A pattern stands on one side of a character that it does not have. -/
theorem occurs_append_cons (hne : pattern ≠ []) (hc : c ∉ pattern) :
    occurs pattern (xs ++ c :: ys) = (occurs pattern xs || occurs pattern ys) := by
  induction xs with
  | nil =>
    have hnil : occurs pattern [] = false := by simp [occurs, hne]
    rw [List.nil_append, hnil, Bool.false_or]
    exact occurs_append_of_not_mem hne (List.forall_mem_singleton.2 hc)
  | cons x xs ih =>
    have hprefix : pattern.isPrefixOf (x :: (xs ++ c :: ys)) = pattern.isPrefixOf (x :: xs) := by
      rw [Bool.eq_iff_iff, List.isPrefixOf_iff_prefix, List.isPrefixOf_iff_prefix,
        ← List.cons_append]
      exact ⟨Diagram.prefix_of_prefix_append_cons hc, fun h => h.trans (List.prefix_append _ _)⟩
    rw [List.cons_append, occurs, occurs, hprefix, ih, Bool.or_assoc]

/-- A pattern stands on one side of characters that it does not have. -/
theorem occurs_append_append {between : List Char} (hne : pattern ≠ []) (hbetween : between ≠ [])
    (hnone : ∀ c ∈ between, c ∉ pattern) :
    occurs pattern (xs ++ (between ++ ys)) = (occurs pattern xs || occurs pattern ys) := by
  obtain ⟨c, rest, rfl⟩ := List.exists_cons_of_ne_nil hbetween
  obtain ⟨hc, hrest⟩ := List.forall_mem_cons.1 hnone
  rw [List.cons_append, occurs_append_cons hne hc, occurs_append_of_not_mem hne hrest]

end occurs
end Text

namespace Diagram

open Text

/-! ## Lines with spaces -/

/-- The marks of the notation on the left of a relationship. -/
def leftMarks : List String := ["||", "|o", "\x7do", "\x7d|"]

/-- The marks of the notation on the right of a relationship. -/
def rightMarks : List String := ["||", "o|", "o\x7b", "|\x7b"]

/-- Names and marks of the notation. -/
structure InNotation (r : Relationship) : Prop where
  source : IsName r.source
  target : IsName r.target
  sourceCardinality : r.sourceCardinality ∈ leftMarks
  targetCardinality : r.targetCardinality ∈ rightMarks

/-- A number of spaces. -/
def spaces (n : Nat) : List Char := List.replicate n ' '

/-- The left side of a relationship, with spaces between the name and the marks. -/
def spacedLeft (r : Relationship) (i : Nat) : List Char :=
  r.source.toList ++ (spaces i ++ r.sourceCardinality.toList)

/-- The right side of a relationship, with spaces between the marks and the name. -/
def spacedRight (r : Relationship) (j : Nat) : List Char :=
  r.targetCardinality.toList ++ (spaces j ++ r.target.toList)

/-- Both sides of a relationship. -/
def spacedSides (r : Relationship) (i j : Nat) : List Char :=
  spacedLeft r i ++ '-' :: '-' :: spacedRight r j

/-- The line of a relationship, with `i` spaces on the left and `j` spaces on the right. -/
def spacedLine (r : Relationship) (i j : Nat) : List Char :=
  spacedSides r i j ++ ' ' :: ':' :: ' ' :: r.label.toList

/-- The relationship that a line is read as where no block is open. -/
def relationshipOutside (number : Nat) (line : List Char) : Option Relationship :=
  (Statement.ofLine? none number line).bind Statement.relationship?

/-- A relationship with its label as it is read: without the blanks and quotes around it. -/
def withReadLabel (r : Relationship) : Relationship :=
  { r with label := String.ofList (trimWhile (· = '"') (trim r.label.toList)) }

variable {r : Relationship}

theorem mem_spaces {n : Nat} {c : Char} (h : c ∈ spaces n) : c = ' ' := List.eq_of_mem_replicate h

theorem isBlank_of_mem_spaces {n : Nat} : ∀ c ∈ spaces n, isBlank c = true := by
  intro c hc
  rw [mem_spaces hc]
  decide

/-! ## The marks of the notation -/

theorem isCardinality_left (h : InNotation r) : IsCardinality r.sourceCardinality :=
  (by decide : ∀ m ∈ leftMarks, IsCardinality m) _ h.sourceCardinality

theorem isCardinality_right (h : InNotation r) : IsCardinality r.targetCardinality :=
  (by decide : ∀ m ∈ rightMarks, IsCardinality m) _ h.targetCardinality

/-- What stands behind the name on the left is neither a letter nor part of a silent line. -/
theorem exists_cons_left (h : InNotation r) (i : Nat) :
    ∃ c rest, spaces i ++ r.sourceCardinality.toList = c :: rest ∧ c ∈ [' ', '|', '}'] := by
  cases i with
  | zero =>
    have hmarks : ∀ m ∈ leftMarks, m.toList.head?.any [' ', '|', '}'].contains = true := by decide
    have hhead := hmarks _ h.sourceCardinality
    cases hcons : r.sourceCardinality.toList with
    | nil =>
      rw [hcons] at hhead
      cases hhead
    | cons c rest =>
      rw [hcons] at hhead
      exact ⟨c, rest, rfl, List.contains_iff_mem.1 hhead⟩
  | succ i => exact ⟨' ', spaces i ++ r.sourceCardinality.toList, rfl, by decide⟩

theorem isLine_spacedLeft (h : InNotation r) (i : Nat) : IsLine (spacedLeft r i) :=
  (isLine_of_isName h.source).append (spaces i) (isLine_of_isCardinality (isCardinality_left h))
    fun c hc => by rw [mem_spaces hc]; decide

theorem isLine_spacedRight (h : InNotation r) (j : Nat) : IsLine (spacedRight r j) :=
  (isLine_of_isCardinality (isCardinality_right h)).append (spaces j) (isLine_of_isName h.target)
    fun c hc => by rw [mem_spaces hc]; decide

/-- The sides have letters, marks and spaces only. -/
theorem ne_of_mem_spacedSides (h : InNotation r) {d : Char} (hletter : isWordChar d = false)
    (hmark : isMark d = false) (hspace : d ≠ ' ') (i j : Nat) :
    ∀ c ∈ spacedLeft r i ++ spacedRight r j, c ≠ d := by
  rintro c hc rfl
  simp only [spacedLeft, spacedRight, List.mem_append] at hc
  rcases hc with (hc | hc | hc) | hc | hc | hc
  · simp [h.source.letters c hc] at hletter
  · exact hspace (mem_spaces hc)
  · simp [(isCardinality_left h).marks c hc] at hmark
  · simp [(isCardinality_right h).marks c hc] at hmark
  · exact hspace (mem_spaces hc)
  · simp [h.target.letters c hc] at hletter

/-! ## The cut on the left -/

theorem splitLeft_spacedLeft (h : InNotation r) (i : Nat) :
    splitLeft (spacedLeft r i) = some (r.source.toList, r.sourceCardinality.toList) := by
  refine splitLeft_of_marks (by simpa using h.source.nonempty) h.source.letters
    isBlank_of_mem_spaces (by simpa using (isCardinality_left h).nonempty)
    (isCardinality_left h).marks fun c hc => ?_
  obtain ⟨d, rest, hcons, hd⟩ := exists_cons_left h i
  rw [hcons, List.head?_cons, Option.mem_some_iff] at hc
  subst hc
  exact (by decide : ∀ c ∈ [' ', '|', '}'], isWordChar c = false) d hd

/-! ## The cut on the right -/

/-- A letter is a mark only if it is an `o`. -/
theorem isMark_of_isWordChar {c : Char} (h : isWordChar c = true) (ho : c ≠ 'o') :
    isMark c = false := by
  rw [Bool.eq_false_iff]
  intro hmark
  rcases isMark_cases hmark with rfl | rfl | rfl | rfl
  · exact absurd h (by decide)
  · exact absurd h (by decide)
  · exact ho rfl
  · exact absurd h (by decide)

/-- At least one mark stands before the name. -/
theorem length_lt_of_splitRight {cs marks name : List Char}
    (h : splitRight cs = some (marks, name)) : name.length < cs.length := by
  induction cs generalizing marks name with
  | nil => cases h
  | cons c cs ih =>
    rw [splitRight] at h
    split at h
    · cases hrest : splitRight cs with
      | some found =>
        rw [hrest] at h
        cases h
        exact (ih hrest).trans (Nat.lt_succ_self _)
      | none =>
        rw [hrest] at h
        dsimp only at h
        split at h
        · cases h
        · cases h
          have htake := (List.takeWhile_sublist isWordChar (l := cs.dropWhile isBlank)).length_le
          have hdrop := (List.dropWhile_sublist isBlank (l := cs)).length_le
          rw [List.length_cons]
          omega
    · cases h

/-- The name is kept where a space stands before it, or where the marks cannot take its first
letter: there is another letter first, or no letter would be left. -/
theorem splitRight_spacedRight (h : InNotation r) {j : Nat}
    (hstop : j = 0 → r.target.toList.head? = some 'o' → r.target = "o") :
    splitRight (spacedRight r j) = some (r.targetCardinality.toList, r.target.toList) := by
  refine splitRight_of_name (by simpa using (isCardinality_right h).nonempty)
    (isCardinality_right h).marks isBlank_of_mem_spaces (by simpa using h.target.nonempty)
    h.target.letters ?_
  cases j with
  | succ j => exact splitRight_eq_none (by rintro c ⟨⟩; decide)
  | zero =>
    by_cases ho : r.target.toList.head? = some 'o'
    · rw [hstop rfl ho]
      rfl
    · refine splitRight_eq_none fun c hc => ?_
      have hc : c ∈ r.target.toList.head? := hc
      refine isMark_of_isWordChar (h.target.letters c (List.mem_of_mem_head? hc)) ?_
      rintro rfl
      exact ho hc

/-- Without a space, the marks take the first letter of a name that begins with `o` and is
longer. -/
theorem splitRight_spacedRight_of_o (h : InNotation r) (ho : r.target.toList.head? = some 'o')
    (hlong : r.target ≠ "o") :
    ∃ marks name, splitRight (spacedRight r 0) = some (marks, name) ∧
      name.length < r.target.toList.length := by
  obtain ⟨rest, htarget⟩ : ∃ rest, r.target.toList = 'o' :: rest := by
    cases hcs : r.target.toList with
    | nil => rw [hcs] at ho; cases ho
    | cons c rest =>
      rw [hcs, List.head?_cons, Option.some_inj] at ho
      exact ⟨rest, ho ▸ rfl⟩
  have hletters := h.target.letters
  rw [htarget] at hletters
  have hrest : rest ≠ [] := by
    rintro rfl
    exact hlong (String.toList_inj.1 htarget)
  -- the name alone is cut behind its first letter, or further on
  have hcut : ∃ marks name, splitRight r.target.toList = some (marks, name) := by
    rw [htarget, splitRight, if_pos (by decide)]
    cases splitRight rest with
    | some found => exact ⟨_, _, rfl⟩
    | none =>
      have htake : (rest.dropWhile isBlank).takeWhile isWordChar = rest := by
        rw [← List.nil_append rest, dropWhile_isBlank_gap (by simp) fun c hc =>
          isBlank_of_isWordChar (hletters c (List.mem_cons_of_mem _ hc))]
        exact List.takeWhile_eq_self_iff.2 fun c hc => hletters c (List.mem_cons_of_mem _ hc)
      dsimp only
      rw [htake, if_neg (by simpa using hrest)]
      exact ⟨_, _, rfl⟩
  obtain ⟨marks, name, hcut⟩ := hcut
  have hall : ∀ front : List Char, (∀ c ∈ front, isMark c = true) →
      splitRight (front ++ r.target.toList) = some (front ++ marks, name) := by
    intro front hfront
    induction front with
    | nil => exact hcut
    | cons c front ih =>
      obtain ⟨hc, hfront⟩ := List.forall_mem_cons.1 hfront
      rw [List.cons_append, splitRight, if_pos hc, ih hfront]
      rfl
  exact ⟨_, name, hall _ (isCardinality_right h).marks, length_lt_of_splitRight hcut⟩

/-! ## The rest of the line -/

/-- What stands behind the colon, without the blanks at its end. -/
def behindColon (r : Relationship) : List Char := trimEndWhile isBlank (' ' :: r.label.toList)

/-- The trimmed line. -/
def trimmedLine (r : Relationship) (i j : Nat) : List Char :=
  spacedSides r i j ++ ' ' :: ':' :: behindColon r

theorem trim_spacedLine (h : InNotation r) (i j : Nat) :
    trim (spacedLine r i j) = trimmedLine r i j := by
  have hsides := (isLine_spacedLeft h i).append ['-', '-'] (isLine_spacedRight h j) (by decide)
  have hfirst : trimStartWhile isBlank (spacedLine r i j) = spacedLine r i j := by
    obtain ⟨c, rest, hcons⟩ := List.exists_cons_of_ne_nil hsides.nonempty
    have hc : isBlank c = false := hsides.first c (by rw [hcons]; rfl)
    rw [trimStartWhile, spacedLine, spacedSides]
    change (spacedLeft r i ++ (['-', '-'] ++ spacedRight r j) ++ _).dropWhile isBlank = _
    rw [hcons, List.cons_append, List.dropWhile_cons_of_neg (by simp [hc]), ← List.cons_append,
      ← hcons]
    rfl
  rw [trim, trimWhile, hfirst, spacedLine, List.append_cons,
    trimEndWhile_append_cons (by decide), ← List.append_cons]
  rfl

/-- The label is trimmed anyway. -/
theorem trim_behindColon (r : Relationship) : trim (behindColon r) = trim r.label.toList := by
  have hspace : ∀ c ∈ [' '], isBlank c = true := by decide
  rw [trim, behindColon, trimWhile_trimEndWhile, ← List.singleton_append, trimWhile_append hspace]
  rfl

theorem isSilent_trimmedLine (h : InNotation r) (i j : Nat) :
    isSilent (trimmedLine r i j) = startsSilently r.source := by
  obtain ⟨c, rest, hcons, hc⟩ := exists_cons_left h i
  rw [trimmedLine, spacedSides, spacedLeft, hcons]
  simp only [List.append_assoc, List.cons_append]
  exact isSilent_append_cons r.source
    ((by decide : ∀ c ∈ [' ', '|', '}'], c ∉ ['e', 'r', 'D', 'i', 'a', 'g', 'r', 'a', 'm']) c hc)
    ((by decide : ∀ c ∈ [' ', '|', '}'], c ∉ ['%', '%']) c hc) _

/-- The marks `||` stand on one side of the hyphens, or behind the colon. -/
theorem occurs_trimmedLine (h : InNotation r) (i j : Nat) :
    occurs ['|', '|'] (trimmedLine r i j) =
      (hasInfix "||" r.sourceCardinality ||
        (hasInfix "||" r.targetCardinality || occurs ['|', '|'] (behindColon r))) := by
  have hname : ∀ s, IsName s → ∀ c ∈ s.toList, c ∉ ['|', '|'] := by
    intro s hs c hc hbar
    rw [List.eq_of_mem_replicate (n := 2) (a := '|') hbar] at hc
    exact absurd (hs.letters _ hc) (by decide)
  have hspaces : ∀ n, ∀ c ∈ spaces n, c ∉ ['|', '|'] := fun n c hc => by
    rw [mem_spaces hc]
    decide
  have hleft : ∀ c ∈ r.source.toList ++ spaces i, c ∉ ['|', '|'] :=
    List.forall_mem_append.2 ⟨hname _ h.source, hspaces i⟩
  have hright : ∀ c ∈ spaces j ++ r.target.toList ++ [' ', ':'], c ∉ ['|', '|'] :=
    List.forall_mem_append.2
      ⟨List.forall_mem_append.2 ⟨hspaces j, hname _ h.target⟩, by decide⟩
  have hparts : trimmedLine r i j = (r.source.toList ++ spaces i) ++
      (r.sourceCardinality.toList ++ (['-', '-'] ++ (r.targetCardinality.toList ++
        ((spaces j ++ r.target.toList ++ [' ', ':']) ++ behindColon r)))) := by
    simp [trimmedLine, spacedSides, spacedLeft, spacedRight]
  rw [hparts, occurs_append_of_not_mem (by decide) hleft,
    occurs_append_append (by decide) (by decide) (by decide),
    occurs_append_append (by decide) (by simp) hright]
  rfl

/-- A line that is silent or opens a block, as far as its names, its marks and its label tell. -/
def isPassedOver (r : Relationship) : Bool :=
  startsSilently r.source ||
    ((':' :: behindColon r).getLast? == some '{' && !(hasInfix "||" r.sourceCardinality ||
      (hasInfix "||" r.targetCardinality || occurs ['|', '|'] (behindColon r))))

theorem isPassedOver_eq (h : InNotation r) (i j : Nat) :
    isPassedOver r = (isSilent (trimmedLine r i j) || isOpening (trimmedLine r i j)) := by
  have hlast : (trimmedLine r i j).getLast? = (':' :: behindColon r).getLast? := by
    rw [trimmedLine, List.append_cons]
    exact List.getLast?_append_of_ne_nil _ (List.cons_ne_nil _ _)
  have hsuffix : ['{'].isSuffixOf (trimmedLine r i j) =
      ((':' :: behindColon r).getLast? == some '{') := by
    rw [Bool.eq_iff_iff, List.isSuffixOf_iff_suffix, beq_iff_eq, ← hlast,
      List.getLast?_eq_some_iff]
    exact exists_congr fun _ => eq_comm
  rw [isPassedOver, isSilent_trimmedLine h, isOpening, hsuffix, occurs_trimmedLine h]

/-! ## What the line is read as -/

/-- **What is read of a line with spaces.**  A line that is passed over stays so with any spaces; of
any other line all but the cut of the right side is read as it was written. -/
theorem relationshipOutside_spacedLine (h : InNotation r) (number i j : Nat) :
    relationshipOutside number (spacedLine r i j) =
      if isPassedOver r then none
      else (splitRight (spacedRight r j)).map fun cut =>
        { withReadLabel r with
          targetCardinality := String.ofList cut.1, target := String.ofList cut.2 } := by
  rw [relationshipOutside, Statement.ofLine?, trim_spacedLine h, isPassedOver_eq h i j]
  have hread : relationship? (trimmedLine r i j) = (splitRight (spacedRight r j)).map fun cut =>
      { withReadLabel r with
        targetCardinality := String.ofList cut.1, target := String.ofList cut.2 } := by
    rw [trimmedLine, spacedSides, relationship?_of_sides (isLine_spacedLeft h i)
      (isLine_spacedRight h j) (ne_of_mem_spacedSides h (by decide) (by decide) (by decide) i j)
      (ne_of_mem_spacedSides h (by decide) (by decide) (by decide) i j), splitLeft_spacedLeft h,
      trim_behindColon]
    simp only [Option.bind_some, String.ofList_toList, withReadLabel]
  have hclosing : trimmedLine r i j ≠ ['}'] := by
    rw [trimmedLine]
    exact ne_closing_of_space _ _
  have hdashes : occurs ['-', '-'] (trimmedLine r i j) = true := by
    rw [occurs_iff, trimmedLine, spacedSides]
    exact ⟨spacedLeft r i, spacedRight r j ++ ' ' :: ':' :: behindColon r, by simp⟩
  have hcolon : (trimmedLine r i j).contains ':' = true := by
    rw [trimmedLine, List.contains_iff_mem]
    simp
  unfold Statement.ofTrimmed?
  cases isSilent (trimmedLine r i j) with
  | true => rfl
  | false =>
    cases isOpening (trimmedLine r i j) with
    | true => rfl
    | false =>
      simp only [Bool.false_eq_true, if_false, if_neg hclosing, hdashes, hcolon, Bool.and_self,
        if_true, Bool.or_self, ← hread]
      cases relationship? (trimmedLine r i j) <;> rfl

/-- With a space on the right the line is read as it was written. -/
theorem relationshipOutside_succ (h : InNotation r) (number i j : Nat) :
    relationshipOutside number (spacedLine r i (j + 1)) =
      if isPassedOver r then none else some (withReadLabel r) := by
  rw [relationshipOutside_spacedLine h, splitRight_spacedRight h (fun hj => by cases hj),
    Option.map_some, String.ofList_toList, String.ofList_toList, withReadLabel]

/-- Without a space on the right the line is read so if the name keeps its first letter. -/
theorem relationshipOutside_zero (h : InNotation r) (number i : Nat) :
    relationshipOutside number (spacedLine r i 0) =
        relationshipOutside number (spacedLine r 1 1) ↔
      (r.target.toList.head? = some 'o' → r.target = "o" ∨ isPassedOver r = true) := by
  rw [relationshipOutside_succ h, relationshipOutside_spacedLine h]
  by_cases hover : isPassedOver r = true
  · simp [hover]
  · rw [if_neg hover, if_neg hover]
    by_cases hstop : r.target.toList.head? = some 'o' → r.target = "o"
    · rw [splitRight_spacedRight h fun _ => hstop, Option.map_some, String.ofList_toList,
        String.ofList_toList, withReadLabel]
      exact iff_of_true rfl fun ho => .inl (hstop ho)
    · obtain ⟨ho, hlong⟩ := Classical.not_imp.1 hstop
      obtain ⟨marks, name, hcut, hlength⟩ := splitRight_spacedRight_of_o h ho hlong
      rw [hcut, Option.map_some, Option.some_inj]
      refine iff_of_false (fun hsame => ?_) fun hkept => (hkept ho).elim hlong hover
      simp only [withReadLabel, Relationship.mk.injEq] at hsame
      rw [← hsame.2.1, String.toList_ofList] at hlength
      exact Nat.lt_irrefl _ hlength

/-- Names and labels of relationships are hardly ever such that the line is passed over. -/
theorem isPassedOver_eq_false (h : InNotation r) (hloud : startsWith r.source "erDiagram" = false)
    (hlabel : (trim r.label.toList).getLast? ≠ some '{') : isPassedOver r = false := by
  have hlast : (':' :: behindColon r).getLast? ≠ some '{' := by
    intro hbrace
    rcases List.eq_nil_or_concat (behindColon r) with hnil | ⟨front, c, hconcat⟩
    · rw [hnil] at hbrace
      cases hbrace
    · rw [hconcat, List.concat_eq_append, ← List.cons_append, List.getLast?_concat] at hbrace
      cases hbrace
      refine hlabel ?_
      rw [← trim_behindColon, hconcat, List.concat_eq_append]
      exact getLast?_trimWhile_concat (by decide) front
  rw [isPassedOver, startsSilently, hloud, startsWith_comment h.source, beq_false_of_ne hlast]
  rfl

/-- **When spaces do not matter.**  On the left of a relationship's line they never do, and on the
right any number of them is as good as one.  Without a space on the right the line is read as it is
with one, unless the name there begins with `o` and goes on behind it: of such a name the marks take
the first letter.  With spaces the line is read as it was written, if no heading begins with its
first name and no block is opened by its label. -/
theorem spaces_matter_iff (h : InNotation r) (number i : Nat) :
    (∀ j, relationshipOutside number (spacedLine r i (j + 1)) =
      relationshipOutside number (spacedLine r 1 1)) ∧
    (relationshipOutside number (spacedLine r i 0) = relationshipOutside number (spacedLine r 1 1) ↔
      (r.target.toList.head? = some 'o' → r.target = "o" ∨
        relationshipOutside number (spacedLine r 1 1) = none)) ∧
    (startsWith r.source "erDiagram" = false → (trim r.label.toList).getLast? ≠ some '{' →
      relationshipOutside number (spacedLine r 1 1) = some (withReadLabel r)) := by
  refine ⟨fun j => ?_, ?_, fun hloud hlabel => ?_⟩
  · rw [relationshipOutside_succ h, relationshipOutside_succ h]
  · have hnone : relationshipOutside number (spacedLine r 1 1) = none ↔ isPassedOver r = true := by
      rw [relationshipOutside_succ h]
      split <;> simp_all
    rw [relationshipOutside_zero h, hnone]
  · rw [relationshipOutside_succ h, isPassedOver_eq_false h hloud hlabel]
    rfl

/-- The names on both sides end or begin with `o`. -/
def deliveries : Relationship := ⟨"Depot", "o", "|o", "o\x7b", " \"goes to\" "⟩

theorem spaces_matter_iff_deliveries : InNotation deliveries ∧
    spacedLine deliveries 0 0 = "Depot|o--o\x7bo :  \"goes to\" ".toList ∧
    relationshipOutside 1 (spacedLine deliveries 0 0) =
      some ⟨"Depot", "o", "|o", "o\x7b", "goes to"⟩ := by
  have h : InNotation deliveries := ⟨by decide, by decide, by decide, by decide⟩
  obtain ⟨-, hiff, hread⟩ := spaces_matter_iff h 1 0
  refine ⟨h, by decide +kernel, ?_⟩
  rw [hiff.2 fun _ => .inl rfl, hread (by decide +kernel) (by decide +kernel)]
  decide +kernel

/-- The marks take a letter of the name behind them. -/
theorem misread_without_spaces :
    (parse "CUSTOMER ||--|| order : places").relationships =
      [⟨"CUSTOMER", "order", "||", "||", "places"⟩] ∧
    (parse "CUSTOMER||--||order : places").relationships =
      [⟨"CUSTOMER", "rder", "||", "||o", "places"⟩] := by
  decide +kernel

end Diagram
end Entigram
