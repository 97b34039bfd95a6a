import Entigram.CharSet
import Entigram.Text.Search

/-!
# Blank characters, words and lines

How text falls apart: `trim` cuts blank characters off both ends, `words` cuts at runs of them,
and `lines` cuts at line breaks.  Blank characters and line breaks are two sets: a form feed is
both, a space only blank, and every line break is blank (`isBlank_of_isLineBreak`).

Everything here works on `List Char`, where each function is one recursion along the text; the
string forms beside them only convert.
-/

set_option autoImplicit false

namespace Entigram
namespace Text

/-! ## The two sets -/

/-- White space: the separators of Unicode and the control characters that separate text. -/
def blanks : CharSet :=
  ⟨[0x9, 0xE, 0x1C, 0x21, 0x85, 0x86, 0xA0, 0xA1, 0x1680, 0x1681, 0x2000, 0x200B, 0x2028, 0x202A,
    0x202F, 0x2030, 0x205F, 0x2060, 0x3000, 0x3001]⟩

/-- Is the character white space? -/
def isBlank (c : Char) : Bool := blanks.contains c

/-- The characters that end a line. -/
def lineBreaks : CharSet :=
  ⟨[0xA, 0xE, 0x1C, 0x1F, 0x85, 0x86, 0x2028, 0x202A]⟩

/-- Does the character end a line? -/
def isLineBreak (c : Char) : Bool := lineBreaks.contains c

/-- A line break is white space, so a trimmed text neither starts nor ends with one. -/
theorem isBlank_of_isLineBreak {c : Char} (h : isLineBreak c = true) : isBlank c = true := by
  simp only [isLineBreak, isBlank, CharSet.contains, lineBreaks, blanks, CharSet.flips_cons,
    CharSet.flips_nil, Bool.and_eq_true, Bool.not_eq_true', decide_eq_true_eq,
    Bool.and_eq_false_iff, decide_eq_false_iff_not, Bool.not_eq_false', Bool.not_false,
    Bool.true_eq_false, or_false] at h ⊢
  omega

/-! ## Trimming -/

/-- Drops the leading characters for which `p` holds. -/
def trimStartWhile (p : Char → Bool) (cs : List Char) : List Char := cs.dropWhile p

/-- Drops the trailing characters for which `p` holds. -/
def trimEndWhile (p : Char → Bool) (cs : List Char) : List Char :=
  (cs.reverse.dropWhile p).reverse

/-- Drops the characters for which `p` holds from both ends. -/
def trimWhile (p : Char → Bool) (cs : List Char) : List Char :=
  trimEndWhile p (trimStartWhile p cs)

/-- Drops white space from both ends. -/
def trim (cs : List Char) : List Char := trimWhile isBlank cs

/-! ## Words -/

/-- The maximal runs of characters that are not white space. -/
def words : List Char → List (List Char)
  | [] => []
  | c :: cs =>
    if isBlank c then words cs
    else if cs.head?.all isBlank then [c] :: words cs
    else prepend c (words cs)

/-! ## Lines -/

/-- The lines of a text, without their ends.  A carriage return and a line feed after it are one
end; a text that stops right after an end has no further line. -/
def lines : List Char → List (List Char)
  | [] => []
  | '\r' :: '\n' :: cs => [] :: lines cs
  | c :: cs => if isLineBreak c then [] :: lines cs else prepend c (lines cs)

end Text
end Entigram
