/-!
# Code pages

An encoding in which every byte is a character of its own is a table of 256 characters.  Most bytes
stand for the character with their own number, so a code page lists only the runs of bytes that
stand for others (`CodePage.char?`).
-/

set_option autoImplicit false

namespace Entigram
namespace Text

/-- A code page. -/
structure CodePage where
  /-- Its name, in small letters and with low lines. -/
  name : String
  aliases : List String := []
  /-- Runs of bytes, each given by its first byte and its characters. -/
  runs : List (Nat × String)
deriving Repr, DecidableEq, Inhabited

namespace CodePage

/-- What stands in a run for a byte without a character. -/
def missing : Char := '\uFFFE'

/-- The character of a byte, if it has one. -/
def char? (p : CodePage) (b : UInt8) : Option Char :=
  let n := b.toNat
  match p.runs.findSome? fun r => if r.1 ≤ n then r.2.toList[n - r.1]? else none with
  | some c => if c = missing then none else some c
  | none => some (Char.ofNat n)

end CodePage

end Text
end Entigram
