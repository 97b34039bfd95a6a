import Entigram.Moment
import Entigram.Number.Binary64
import Entigram.Text.Blank
import Entigram.Text.WordChar

/-!
# Lengths of time in words

A length of time is written as numbers with units, one behind the other: `1 day`, `2h 30min`,
`1 week, 3 days`.  Case does not count, and blanks may stand between a number and its unit, blanks
and commas behind a unit.

The letter `e` can belong to a number and to a unit.  So whether a text has this form
(`Duration.isWritten`) is decided by following all ways to read it, while its items
(`Duration.items`) are read from left to right, each as long as possible.
-/

set_option autoImplicit false

namespace Entigram

/-- A length of time, which may be negative. -/
structure Duration where
  microseconds : Int
deriving Repr, DecidableEq

namespace Duration

/-- Why a text is no length of time. -/
inductive Fault
  /-- Its form is another, or a number or a unit in it is none. -/
  | malformed
  /-- There are no lengths as great as this. -/
  | tooGreat
deriving Repr, DecidableEq

/-! ## The form -/

/-- Can the character stand in a number? -/
def inNumber (c : Char) : Bool :=
  c = 'e' || c = 'E' || c = '+' || c = '-' || c = '.' || Text.isDecimalDigit c

/-- The small letter that a character in a unit stands for.  Some letters beyond the basic ones are
other cases of them. -/
def letter? (c : Char) : Option Char :=
  if c.isAlpha then some c.toLower
  else [('İ', 'i'), ('ı', 'i'), ('ſ', 's'), (Char.ofNat 0x212A, 'k')].lookup c

/-- Can the character stand in a unit? -/
def inUnit (c : Char) : Bool := (letter? c).isSome

/-- Can the character stand behind a unit? -/
def isSeparator (c : Char) : Bool := c = ',' || Text.isBlank c

/-- Where reading stands. -/
inductive Place
  | start
  | number
  /-- Between a number and its unit. -/
  | gap
  | unit
  | behindUnit
deriving Repr, DecidableEq

namespace Place

/-- What can come next. -/
def next : Place → List Place
  | start => [number]
  | number => [number, gap, unit]
  | gap => [gap, unit]
  | unit => [unit, behindUnit, number]
  | behindUnit => [behindUnit, number]

/-- Can the character stand there? -/
def admits : Place → Char → Bool
  | start, _ => false
  | number, c => inNumber c
  | gap, c => Text.isBlank c
  | unit, c => inUnit c
  | behindUnit, c => isSeparator c

/-- Can a text end there? -/
def isEnd (p : Place) : Bool := p = unit || p = behindUnit

/-- The places that a character leads to from some others. -/
def step (places : List Place) (c : Char) : List Place :=
  ((places.flatMap next).filter fun p => p.admits c).eraseDups

end Place

/-- Has a text the form of a length of time? -/
def isWritten (cs : List Char) : Bool := (cs.foldl Place.step [.start]).any Place.isEnd

/-! ## Items -/

/-- A number and a unit. -/
structure Item where
  number : List Char
  unit : List Char
deriving Repr, DecidableEq

/-- The item at the front, and what follows it.  A number with no unit behind it ends before its
last `e`, which is the unit then. -/
def item? (cs : List Char) : Option (Item × List Char) :=
  let number := cs.takeWhile inNumber
  let behind := (cs.drop number.length).dropWhile Text.isBlank
  let unit := behind.takeWhile inUnit
  if number.isEmpty then none
  else if !unit.isEmpty then some (⟨number, unit⟩, behind.drop unit.length)
  else
    match number.reverse.dropWhile (!inUnit ·) with
    | e :: shorter =>
      if shorter.isEmpty then none
      else some (⟨shorter.reverse, [e]⟩, cs.drop (shorter.length + 1))
    | [] => none

/-- The items of a text.  Each step takes a character at least, so as much fuel as there are
characters is enough. -/
def itemsFrom : Nat → List Char → List Item
  | n + 1, c :: cs =>
    match item? (c :: cs) with
    | some (i, rest) => i :: itemsFrom n (rest.dropWhile isSeparator)
    | none => itemsFrom n cs
  | _, _ => []

/-- The items of a text. -/
def items (cs : List Char) : List Item := itemsFrom cs.length cs

/-! ## Numbers and units -/

/-- The number that digits write. -/
def naturalOf (digits : List Char) : Nat :=
  digits.foldl (fun n c => n * 10 + Text.digitValue c) 0

/-- Takes a sign off the front: is it a minus? -/
def signOf : List Char → Bool × List Char
  | '-' :: cs => (true, cs)
  | '+' :: cs => (false, cs)
  | cs => (false, cs)

/-- The exponent of a number. -/
def exponent? : List Char → Option Int
  | [] => some 0
  | e :: cs =>
    let (negative, digits) := signOf cs
    if (e = 'e' || e = 'E') && !digits.isEmpty && digits.all Text.isDecimalDigit then
      some (if negative then -(naturalOf digits) else naturalOf digits)
    else none

/-- The number that a text writes: digits, perhaps with a sign, a point and an exponent. -/
def number? (cs : List Char) : Option Decimal := do
  let (negative, cs) := signOf cs
  let whole := cs.takeWhile Text.isDecimalDigit
  let behind := cs.drop whole.length
  let (fraction, behind) := match behind with
    | '.' :: rest => rest.span Text.isDecimalDigit
    | _ => ([], behind)
  if whole.isEmpty && fraction.isEmpty then none
  return {
    negative
    digits := naturalOf (whole ++ fraction)
    exponent := (← exponent? behind) - fraction.length }

/-- The units: their names, and how many seconds they are. -/
def units : List (List String × Decimal) :=
  [(["y", "year", "years"], { digits := 31536000, exponent := 0 }),
    (["month", "months"], { digits := 2628000, exponent := 0 }),
    (["w", "week", "weeks"], { digits := 604800, exponent := 0 }),
    (["d", "day", "days"], { digits := 86400, exponent := 0 }),
    (["h", "hour", "hours"], { digits := 3600, exponent := 0 }),
    (["min", "mins", "minute", "minutes"], { digits := 60, exponent := 0 }),
    (["s", "sec", "secs", "second", "seconds"], { digits := 1, exponent := 0 }),
    (["ms", "millisecond", "milliseconds"], { digits := 1, exponent := -3 }),
    (["us", "microsecond", "microseconds"], { digits := 1, exponent := -6 })]

/-- The seconds of a unit. -/
def unitSeconds? (unit : List Char) : Option Decimal :=
  let name := String.ofList (unit.filterMap letter?)
  (units.find? fun u => u.1.contains name).map (·.2)

/-- The seconds of an item. -/
def Item.seconds? (i : Item) : Option Binary64 := do
  return (Binary64.ofDecimal (← number? i.number)).times (.ofDecimal (← unitSeconds? i.unit))

/-! ## Parts -/

/-- The number of microseconds of a day. -/
def dayLength : Int := 86400000000

/-- The number of microseconds of a second. -/
def secondLength : Int := 1000000

/-- The greatest number of days. -/
def mostDays : Int := 999999999

/-- The days of a length, rounded down. -/
def days (d : Duration) : Int := d.microseconds / dayLength

/-- The seconds behind the days. -/
def seconds (d : Duration) : Int := d.microseconds % dayLength / secondLength

/-- The microseconds behind the seconds. -/
def rest (d : Duration) : Int := d.microseconds % secondLength

/-- The least length. -/
def least : Duration := { microseconds := -mostDays * dayLength }

/-- The greatest length. -/
def greatest : Duration := { microseconds := (mostDays + 1) * dayLength - 1 }

/-- A length in words: the days, if there are any, and a time as clocks show it. -/
def inWords (d : Duration) : String :=
  let n := d.seconds.toNat
  let word := if d.days.natAbs = 1 then "day" else "days"
  let days := if d.days = 0 then "" else s!"{d.days} {word}, "
  let rest := if d.rest = 0 then "" else s!".{Moment.padded 6 d.rest.toNat}"
  let padded := Moment.padded 2
  s!"{days}{n / 3600}:{padded (n / 60 % 60)}:{padded (n % 60)}{rest}"

/-- A length by its parts that are not zero. -/
def inParts (d : Duration) : String :=
  let named := [("days", d.days), ("seconds", d.seconds), ("microseconds", d.rest)]
  let shown := (named.filter fun p => p.2 ≠ 0).map fun p => s!"{p.1}={p.2}"
  let parts := if shown.isEmpty then "0" else ", ".intercalate shown
  s!"datetime.timedelta({parts})"

/-! ## Reading -/

/-- The length of a number of seconds. -/
def ofSeconds (x : Binary64) : Except Fault Duration :=
  match x.magnitude? with
  | none => .error .tooGreat
  | some r =>
    let n : Int := (Ratio.scale r 10 6).round
    let microseconds := if x.isNegative then -n else n
    if (microseconds / dayLength).natAbs ≤ mostDays then .ok { microseconds } else .error .tooGreat

/-- Reads a length of time. -/
def ofString (s : String) : Except Fault Duration :=
  let cs := Text.trim s.toList
  if !isWritten cs then .error .malformed
  else
    match (items cs).foldlM (fun sum i => i.seconds?.bind sum.plus?) (Binary64.zero false) with
    | some seconds => ofSeconds seconds
    | none => .error .malformed

end Duration

end Entigram
