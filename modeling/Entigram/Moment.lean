/-!
# Moments

What a clock shows, and the forms in which file names and records mention it.
-/

set_option autoImplicit false

namespace Entigram

/-- A date and a time of day. -/
structure Moment where
  year : Nat
  month : Nat
  day : Nat
  hour : Nat
  minute : Nat
  second : Nat
  microsecond : Nat := 0
deriving Repr, DecidableEq, Inhabited

namespace Moment

/-- A number in decimal, filled up with zeros to a width. -/
def padded (width n : Nat) : String :=
  let digits := toString n
  String.ofList (List.replicate (width - digits.length) '0') ++ digits

/-- The date without separators: `20240102`. -/
def compactDate (m : Moment) : String := s!"{m.year}{padded 2 m.month}{padded 2 m.day}"

/-- The date and the time without separators: `20240102_030405`. -/
def compact (m : Moment) : String :=
  s!"{m.compactDate}_{padded 2 m.hour}{padded 2 m.minute}{padded 2 m.second}"

/-- The time of day: `03:04:05`. -/
def timeOfDay (m : Moment) : String :=
  s!"{padded 2 m.hour}:{padded 2 m.minute}:{padded 2 m.second}"

/-- The date: `2024-01-02`. -/
def date (m : Moment) : String := s!"{padded 4 m.year}-{padded 2 m.month}-{padded 2 m.day}"

/-- The date and the time: `2024-01-02 03:04:05`. -/
def stamp (m : Moment) : String := s!"{m.date} {m.timeOfDay}"

/-- The date and the time as a part of a file's name, down to the microsecond:
`2024-01-02_03-04-05_000000`. -/
def fileStamp (m : Moment) : String :=
  s!"{m.date}_{padded 2 m.hour}-{padded 2 m.minute}-{padded 2 m.second}_{padded 6 m.microsecond}"

end Moment

end Entigram
