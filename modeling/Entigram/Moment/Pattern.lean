import Entigram.Moment.Directive
import Entigram.Text.Search

/-!
# Moments by patterns

A pattern says how a moment is written.  There are two kinds:

* Letters stand for parts of the moment (`YYYY-MM-DD`).  Of the groups of letters that have a
  meaning the longest counts, and one group in square brackets stands for itself (`byLetters`).
* A percent sign and a letter stand for a part of the moment (`%Y-%m-%d`, see `byDirectives`).

A pattern with a percent sign is of the second kind (`inPattern?`).
-/

set_option autoImplicit false

namespace Entigram
namespace Moment

/-! ## Letters -/

/-- The groups of letters that have a meaning, but for fractions of a second.  A group comes before
those that it begins with. -/
def letterGroups (m : Moment) : List (String × String) :=
  [("HH", padded 2 m.hour), ("H", toString m.hour), ("hh", padded 2 m.hourOfTwelve),
    ("h", toString m.hourOfTwelve), ("mm", padded 2 m.minute), ("m", toString m.minute),
    ("ss", padded 2 m.second), ("s", toString m.second), ("YYYY", padded 4 m.year),
    ("YY", padded 2 (m.year % 100)), ("MMMM", m.monthName), ("MMM", shortened m.monthName),
    ("MM", padded 2 m.month), ("M", toString m.month), ("DDDD", padded 3 m.dayOfYear),
    ("DDD", toString m.dayOfYear), ("DD", padded 2 m.day), ("D", toString m.day), ("ZZ", "+0000"),
    ("Z", "+00:00"), ("zz", "UTC"), ("A", m.halfOfDay),
    ("X", toString m.epochSeconds), ("x", toString (m.epochSeconds * 1000000 + m.microsecond)),
    ("E", toString (m.weekday + 1)), ("Q", toString ((m.month - 1) / 3 + 1)),
    ("dddd", m.dayName), ("ddd", shortened m.dayName), ("d", toString m.weekday)]

/-- The group of letters that comes first: its length, and what it stands for. -/
def letterGroup? (m : Moment) (cs : List Char) : Option (Nat × List Char) :=
  let fraction := (cs.takeWhile (· = 'S')).length
  if fraction ≠ 0 then some (fraction, (padded 6 m.microsecond).toList.take fraction)
  else
    (m.letterGroups.find? fun g => g.1.toList.isPrefixOf cs).map fun g => (g.1.length, g.2.toList)

/-- The word that times without an offset are asked for with. -/
def zoneSuffix : List Char := "!UTC".toList

/-- The length of what stands in square brackets, read behind the first, if it stands for itself:
nothing, a group of letters, or the word for a zone. -/
def literalLength? (m : Moment) (cs : List Char) : Option Nat :=
  let text := cs.takeWhile (· ≠ ']')
  if text.length = cs.length then none
  else if text.isEmpty || text = zoneSuffix || text.all (· = 'S')
      || m.letterGroups.any (fun g => g.1.toList = text) then some text.length
  else none

/-- The moment written by letters.  The first argument counts characters to pass. -/
def byLetters (m : Moment) : Nat → List Char → List Char
  | _, [] => []
  | skipped + 1, _ :: cs => byLetters m skipped cs
  | 0, c :: cs =>
    match m.letterGroup? (c :: cs), if c = '[' then m.literalLength? cs else none with
    | some (length, text), _ => text ++ byLetters m (length - 1) cs
    | none, some length => cs.take length ++ byLetters m (length + 1) cs
    | none, none => c :: byLetters m 0 cs

/-! ## Patterns -/

/-- The pattern for a moment that is asked for without one. -/
def standardPattern : List Char := "%Y-%m-%dT%H:%M:%S.%f%z".toList

/-- A pattern without the word for a zone at its end. -/
def withoutZone (pattern : List Char) : List Char :=
  if zoneSuffix.isSuffixOf pattern then pattern.take (pattern.length - zoneSuffix.length)
  else pattern

/-- The moment written by a pattern.  There are no more than six digits of a second. -/
def inPattern? (m : Moment) (pattern : List Char) : Option (List Char) :=
  let pattern := withoutZone pattern
  let pattern := if pattern.isEmpty then standardPattern else pattern
  if pattern.contains '%' then some (m.byDirectives "+0000" "UTC" pattern)
  else if Text.occurs (List.replicate 7 'S') pattern then none
  else some (m.byLetters 0 pattern)

end Moment
end Entigram
