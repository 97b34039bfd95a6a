/-!
# Places in a configuration file

Reading a file keeps a place in it: what is left of the text, how much was read, and the line and
the column that were reached (`Cursor`).  Layout has a meaning in these files, so the column decides
where a collection ends, and a line break ends what has to stand on one line.

A line ends with a line feed, a next-line character, or one of the separators of lines and
paragraphs.  Only spaces and line breaks stand between the parts of a file; tabulators do not.
-/

set_option autoImplicit false

namespace Entigram
namespace Yaml

/-- Why a file is not read. -/
inductive Fault
  /-- A character that no file holds. -/
  | character
  /-- Characters that make up no token where they stand. -/
  | token
  /-- A token that nothing calls for where it stands. -/
  | misplaced
  /-- A second document. -/
  | secondDocument
  /-- A key that is a collection. -/
  | collectionAsKey
  /-- A number with too many digits, or the number of no character. -/
  | number
  /-- The number of a character that is too large to be looked at. -/
  | overflow
  /-- The number of half a character. -/
  | half
  /-- Collections that lie too deep in one another. -/
  | depth
deriving Repr, DecidableEq

/-! ## Characters -/

/-- Can the character stand in a file? -/
def isReadable (c : Char) : Bool :=
  c = '\t' || c = '\n' || c = '\r' || (' ' ≤ c && c ≤ '~') || c.toNat = 0x85
    || (0xA0 ≤ c.toNat && c.toNat ≤ 0xFFFD) || 0x10000 ≤ c.toNat

/-- The mark that a file may begin with.  It takes no room. -/
def mark : Char := Char.ofNat 0xFEFF

/-- Does the character end a line? -/
def isBreak (c : Char) : Bool :=
  c = '\n' || c.toNat = 0x85 || c.toNat = 0x2028 || c.toNat = 0x2029

/-- Is it a space or a tabulator? -/
def isBlank (c : Char) : Bool := c = ' ' || c = '\t'

/-- Does a word end before this?  It does at the end of the text. -/
def endsWord (c : Option Char) : Bool := c.all fun c => isBlank c || isBreak c

/-! ## Places -/

/-- A place in a text. -/
structure Cursor where
  /-- What is left of the text. -/
  rest : List Char
  /-- The number of characters before. -/
  index : Nat := 0
  line : Nat := 0
  column : Nat := 0
deriving Repr

namespace Cursor

/-- The next character. -/
def peek (c : Cursor) : Option Char := c.rest.head?

/-- The place behind the next character. -/
def step (c : Cursor) : Cursor :=
  match c.rest with
  | [] => c
  | ch :: rest =>
    if isBreak ch then { rest, index := c.index + 1, line := c.line + 1, column := 0 }
    else
      let column := if ch = mark then c.column else c.column + 1
      { c with rest, index := c.index + 1, column }

/-- The place behind some characters. -/
def skip : Nat → Cursor → Cursor
  | 0, c => c
  | n + 1, c => skip n c.step

/-- The place behind the characters that come first. -/
def skipWhile (c : Cursor) (p : Char → Bool) : Cursor := c.skip (c.rest.takeWhile p).length

/-- A line break: what it stands for, and the place behind it.  Separators stand for themselves, any
other line break for a line feed. -/
def break? (c : Cursor) : Option (Char × Cursor) :=
  match c.peek with
  | some ch =>
    if isBreak ch then some (if ch.toNat = 0x85 then '\n' else ch, c.step) else none
  | none => none

/-- Do three of these characters come next, and nothing else in their word? -/
def atMark (c : Cursor) (ch : Char) : Bool :=
  [ch, ch, ch].isPrefixOf c.rest && endsWord c.rest[3]?

/-- Does the line that begins here separate documents? -/
def atSeparator (c : Cursor) : Bool := c.atMark '-' || c.atMark '.'

end Cursor

end Yaml
end Entigram
