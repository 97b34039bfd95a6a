import Entigram.Moment.Calendar
import Entigram.Text.Case

/-!
# Directives

A directive is a percent sign and a letter, and stands for a part of a moment (`%Y-%m-%d`).  Between
the two there can be flags, a width and a modifier:

* `_`, `-` and `0` say what a number is filled up with, `^` asks for capitals, and `#` changes the
  case of names.
* The width is the least number of characters.
* `E` and `O` ask for other forms of a part.  There are none, and not every letter allows them.

A directive without a meaning stands for itself.
-/

set_option autoImplicit false

namespace Entigram
namespace Moment

/-! ## Reading directives -/

/-- A directive, without its percent sign. -/
structure Directive where
  flags : List Char
  width : List Char
  modifier : Option Char
  /-- The letter, unless the pattern ends before it. -/
  letter : Option Char
deriving Repr, DecidableEq

namespace Directive

/-- Is the character a flag? -/
def isFlag (c : Char) : Bool := ['_', '-', '0', '^', '#'].contains c

/-- The directive that begins behind a percent sign. -/
def ofChars (cs : List Char) : Directive :=
  let flags := cs.takeWhile isFlag
  let cs := cs.drop flags.length
  let width := cs.takeWhile Char.isDigit
  let cs := cs.drop width.length
  match cs with
  | 'E' :: rest => { flags, width, modifier := some 'E', letter := rest.head? }
  | 'O' :: rest => { flags, width, modifier := some 'O', letter := rest.head? }
  | _ => { flags, width, modifier := none, letter := cs.head? }

/-- The text of a directive behind its percent sign. -/
def toChars (d : Directive) : List Char :=
  d.flags ++ d.width ++ d.modifier.toList ++ d.letter.toList

/-- What a number is filled up with: the last flag about it. -/
def filler (d : Directive) : Option Char :=
  d.flags.reverse.find? fun c => c = '_' || c = '-' || c = '0'

/-- Does the directive ask for capitals? -/
def wantsCapitals (d : Directive) : Bool := d.flags.contains '^'

/-- Does the directive change the case of names? -/
def changesCase (d : Directive) : Bool := d.flags.contains '#'

/-- The least number of characters. -/
def leastWidth (d : Directive) : Nat :=
  d.width.foldl (fun n c => n * 10 + (c.toNat - '0'.toNat)) 0

/-- Do letters allow this modifier? -/
def allows (modifier : Option Char) (letter : Char) : Bool :=
  match modifier with
  | none => true
  | some 'E' => "cCnpPrRstTuxXyYzZ%".toList.contains letter
  | some _ => "bBCdeghGHIjklmMnpPrRsStTuUVwWyzZ%".toList.contains letter

end Directive

/-! ## What letters stand for -/

/-- A part of a moment, before it is filled up. -/
inductive Entry
  /-- A name, which can be written in capitals. -/
  | name (s : String)
  /-- One half of the day, in capitals or small. -/
  | half (s : String) (small : Bool)
  /-- A number with its usual number of digits. -/
  | number (places n : Nat)
  /-- A number that is filled up with blanks to two places. -/
  | spaced (n : Nat)
  /-- Several parts. -/
  | several (s : String)
  /-- A character, or a number without a usual number of digits. -/
  | fixed (s : String)
  /-- The name of a zone, where there is none. -/
  | noZone
  /-- An offset, where there is none. -/
  | noOffset
deriving Repr, DecidableEq

/-- A number in two places, with a blank in front if it has one digit. -/
def spaced (n : Nat) : String := if n < 10 then s!" {n}" else toString n

/-- The half of the day. -/
def halfOfDay (m : Moment) : String := if m.isAfternoon then "PM" else "AM"

/-- The date as month, day and year: `01/02/24`. -/
def dateByMonth (m : Moment) : String :=
  s!"{padded 2 m.month}/{padded 2 m.day}/{padded 2 (m.year % 100)}"

/-- The date with the day of the week: `Tue Jan  2 03:04:05 2024`. -/
def dateInWords (m : Moment) : String :=
  s!"{shortened m.dayName} {shortened m.monthName} {spaced m.day} {m.timeOfDay} {m.year}"

/-- What a letter behind a percent sign stands for. -/
def entry? (m : Moment) : Char → Option Entry
  | 'a' => some (.name (shortened m.dayName))
  | 'A' => some (.name m.dayName)
  | 'b' => some (.name (shortened m.monthName))
  | 'h' => some (.name (shortened m.monthName))
  | 'B' => some (.name m.monthName)
  | 'c' => some (.several m.dateInWords)
  | 'C' => some (.number 1 (m.year / 100))
  | 'd' => some (.number 2 m.day)
  | 'D' => some (.several m.dateByMonth)
  | 'e' => some (.spaced m.day)
  | 'F' => some (.several s!"{m.year}-{padded 2 m.month}-{padded 2 m.day}")
  | 'g' => some (.number 2 (m.weekAndYear.2 % 100))
  | 'G' => some (.number 1 m.weekAndYear.2)
  | 'H' => some (.number 2 m.hour)
  | 'I' => some (.number 2 m.hourOfTwelve)
  | 'j' => some (.number 3 m.dayOfYear)
  | 'k' => some (.spaced m.hour)
  | 'l' => some (.spaced m.hourOfTwelve)
  | 'm' => some (.number 2 m.month)
  | 'M' => some (.number 2 m.minute)
  | 'n' => some (.fixed "\n")
  | 'p' => some (.half m.halfOfDay false)
  | 'P' => some (.half m.halfOfDay true)
  | 'r' =>
    some (.several (s!"{padded 2 m.hourOfTwelve}:{padded 2 m.minute}:{padded 2 m.second} "
      ++ m.halfOfDay))
  | 'R' => some (.several s!"{padded 2 m.hour}:{padded 2 m.minute}")
  | 's' => some (.fixed (toString m.epochSeconds))
  | 'S' => some (.number 2 m.second)
  | 't' => some (.fixed "\t")
  | 'T' => some (.several m.timeOfDay)
  | 'u' => some (.number 1 (m.weekday + 1))
  | 'U' => some (.number 2 (m.weekFrom 6))
  | 'V' => some (.number 2 m.weekAndYear.1)
  | 'w' => some (.number 1 ((m.weekday + 1) % 7))
  | 'W' => some (.number 2 (m.weekFrom 0))
  | 'x' => some (.several m.dateByMonth)
  | 'X' => some (.several m.timeOfDay)
  | 'y' => some (.number 2 (m.year % 100))
  | 'Y' => some (.number 1 m.year)
  | 'z' => some .noOffset
  | 'Z' => some .noZone
  | '%' => some (.fixed "%")
  | _ => none

/-! ## Writing -/

/-- Fills a text up at the left to a width. -/
def filled (fill : Char) (width : Nat) (cs : List Char) : List Char :=
  List.replicate (width - cs.length) fill ++ cs

/-- A character in capitals, if those are one character. -/
def capital (c : Char) : Char :=
  match Text.upperChar c with
  | [d] => d
  | _ => c

namespace Directive

/-- A text, filled up to the width of a directive, which is cut to a limit. -/
def text (d : Directive) (limit : Nat) (cs : List Char) : List Char :=
  filled (if d.filler = some '0' then '0' else ' ') (min d.leastWidth limit) cs

/-- A text in capitals, if those are asked for. -/
def raised (d : Directive) (cs : List Char) : List Char :=
  if d.wantsCapitals then cs.map capital else cs

/-- A number in so many places, or more if the directive asks for them. -/
def number (d : Directive) (limit : Nat) (filler : Option Char) (places n : Nat) : List Char :=
  let digits := Nat.toDigits 10 n
  let width := max places (min d.leastWidth limit)
  match filler with
  | some '-' => d.text limit digits
  | some '_' => filled ' ' width digits
  | _ => filled '0' width digits

/-- A part of a moment as a directive asks for it. -/
def write (d : Directive) (limit : Nat) : Entry → List Char
  | .name s => d.text limit (if d.changesCase then s.toList.map capital else d.raised s.toList)
  | .half s small =>
    d.text limit (if small || d.changesCase then s.toList.map Char.toLower else s.toList)
  | .number places n => d.number limit d.filler places n
  | .spaced n =>
    d.number limit (if d.filler = some '-' || d.filler = some '0' then d.filler else some '_') 2 n
  | .several s => d.raised (d.text limit s.toList)
  | .fixed s => d.text limit s.toList
  | .noZone => if d.filler = some '-' then [] else d.text limit []
  | .noOffset => []

/-- The meaning of a directive, if it has one. -/
def meaning? (d : Directive) (m : Moment) : Option Entry :=
  d.letter.bind fun c => if allows d.modifier c then m.entry? c else none

/-- What a directive stands for. -/
def shown (d : Directive) (m : Moment) (limit : Nat) : List Char :=
  match d.meaning? m with
  | some e => d.write limit e
  | none => d.text limit (d.raised ('%' :: d.toChars))

end Directive

/-- The moment written by directives, in which no width is greater than a limit.  The first argument
counts characters to pass. -/
def byPlainDirectives (m : Moment) (limit : Nat) : Nat → List Char → List Char
  | _, [] => []
  | skipped + 1, _ :: cs => byPlainDirectives m limit skipped cs
  | 0, c :: cs =>
    if c = '%' then
      let d := Directive.ofChars cs
      d.shown m limit ++ byPlainDirectives m limit d.toChars.length cs
    else c :: byPlainDirectives m limit 0 cs

/-- The texts for the parts that only directives without flags know: the fraction of a second, and
the offset and the name of a zone. -/
def withZone (m : Moment) (offset zone : String) : List Char → List Char
  | '%' :: c :: cs =>
    (match c with
      | 'f' => (padded 6 m.microsecond).toList
      | 'z' => offset.toList
      | 'Z' => zone.toList
      | _ => ['%', c]) ++ withZone m offset zone cs
  | c :: cs => c :: withZone m offset zone cs
  | [] => []

/-- The length that a text by a pattern does not reach: 1024, doubled until it is 256 times the
pattern's. -/
def roomFor (pattern : List Char) : Nat := 1024 * Nat.nextPowerOfTwo ((pattern.length + 3) / 4)

/-- The moment written by directives, with the texts for the offset and the name of its zone.
Nothing is left of a text that is too long. -/
def byDirectives (m : Moment) (offset zone : String) (pattern : List Char) : List Char :=
  let pattern := m.withZone offset zone pattern
  let room := roomFor pattern
  let text := m.byPlainDirectives room 0 pattern
  if text.length < room then text else []

end Moment
end Entigram
