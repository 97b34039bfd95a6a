import Entigram.Text.CaseTable

/-!
# Upper case, lower case and case folding

The three case mappings of Unicode on whole texts.  Each maps a character to one or several
characters; ASCII is decided by the rule for its letters and everything else by the tables.

Only lower case looks at the neighbours: a capital sigma becomes the final form `ς` when the
nearest letter before it has a case and the nearest after it has none (`isFinalSigma`).  Upper case
and folding therefore distribute over concatenation (`fold_append`), and lower case does not.
-/

set_option autoImplicit false

namespace Entigram
namespace Text

/-! ## One character -/

/-- The upper-case form of a character. -/
def upperChar (c : Char) : List Char :=
  if c.toNat < 0x80 then [c.toUpper] else upperTable.image c

/-- The lower-case form of a character that stands alone. -/
def lowerChar (c : Char) : List Char :=
  if c.toNat < 0x80 then [c.toLower] else lowerTable.image c

/-- The case-folded form of a character. -/
def foldChar (c : Char) : List Char :=
  if c.toNat < 0x80 then [c.toLower] else foldTable.image c

/-! ## The final sigma -/

/-- Is the first character, once ignorable ones are skipped, a letter with a case? -/
def beginsCased (cs : List Char) : Bool :=
  (cs.dropWhile caseIgnorables.contains).head?.any casedLetters.contains

/-- Does a capital sigma end a word, given what stands before it, nearest first, and after it? -/
def isFinalSigma (before after : List Char) : Bool :=
  beginsCased before && !beginsCased after

/-- Lower case of the text that follows `before`, whose characters are nearest first. -/
def lowerAfter (before : List Char) : List Char → List Char
  | [] => []
  | c :: cs =>
    (if c = 'Σ' then [if isFinalSigma before cs then 'ς' else 'σ'] else lowerChar c)
      ++ lowerAfter (c :: before) cs

/-! ## Whole texts -/

/-- Upper case of a text. -/
def upperChars (cs : List Char) : List Char := cs.flatMap upperChar

/-- Lower case of a text. -/
def lowerChars (cs : List Char) : List Char := lowerAfter [] cs

/-- Case folding of a text: two texts that differ only in case fold to the same text. -/
def foldChars (cs : List Char) : List Char := cs.flatMap foldChar

/-- Upper case of a string. -/
def upper (s : String) : String := String.ofList (upperChars s.toList)

/-- Lower case of a string. -/
def lower (s : String) : String := String.ofList (lowerChars s.toList)

/-- The case-folded form of a string. -/
def fold (s : String) : String := String.ofList (foldChars s.toList)

theorem fold_append (s t : String) : fold (s ++ t) = fold s ++ fold t := by
  simp [fold, foldChars]

end Text
end Entigram
