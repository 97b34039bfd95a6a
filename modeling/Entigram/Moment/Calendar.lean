import Entigram.Moment

/-!
# The calendar

What a date means: the day of the week and of the year, the week of the year, and the seconds since
the beginning of 1970.  Days are counted from the first day of the year 1, a Monday.  All times are
times of the same zone, without an offset.
-/

set_option autoImplicit false

namespace Entigram
namespace Moment

/-- Has a year a day more? -/
def isLeap (year : Nat) : Bool := year % 4 = 0 && (year % 100 ≠ 0 || year % 400 = 0)

/-- The lengths of the months. -/
def monthLengths (year : Nat) : List Nat :=
  [31, if isLeap year then 29 else 28, 31, 30, 31, 30, 31, 31, 30, 31, 30, 31]

/-- The day of the year, counted from one. -/
def dayOfYear (m : Moment) : Nat :=
  ((monthLengths m.year).take (m.month - 1)).foldl (· + ·) m.day

/-- The number of days before a year, counted from the year 1. -/
def daysBefore (year : Nat) : Nat :=
  let n := year - 1
  n * 365 + n / 4 - n / 100 + n / 400

/-- The day, counted from the first of the year 1. -/
def dayNumber (m : Moment) : Nat := daysBefore m.year + m.dayOfYear

/-- The day of the week: zero is Monday. -/
def weekday (m : Moment) : Nat := (m.dayNumber + 6) % 7

/-- The seconds since the beginning of 1970. -/
def epochSeconds (m : Moment) : Int :=
  ((m.dayNumber : Int) - (daysBefore 1970 + 1 : Nat)) * 86400
    + (m.hour * 3600 + m.minute * 60 + m.second : Nat)

/-- The week of the year, where weeks begin with a day of the week, and days before the first such
day are in week zero. -/
def weekFrom (first : Nat) (m : Moment) : Nat :=
  (m.dayOfYear + 6 - (m.weekday + 7 - first) % 7) / 7

/-- The number of the week that has the year's first Thursday, and the year that has the week. -/
def weekAndYear (m : Moment) : Nat × Nat :=
  let thursday := m.dayNumber + 3 - m.weekday
  let year :=
    if thursday ≤ daysBefore m.year then m.year - 1
    else if daysBefore (m.year + 1) < thursday then m.year + 1
    else m.year
  ((thursday - daysBefore year - 1) / 7 + 1, year)

/-- The hour on a clock with twelve hours. -/
def hourOfTwelve (m : Moment) : Nat := (m.hour + 11) % 12 + 1

/-- Is it after noon? -/
def isAfternoon (m : Moment) : Bool := 12 ≤ m.hour

/-- The names of the months. -/
def monthNames : List String :=
  ["January", "February", "March", "April", "May", "June", "July", "August", "September", "October",
    "November", "December"]

/-- The names of the days of the week. -/
def dayNames : List String :=
  ["Monday", "Tuesday", "Wednesday", "Thursday", "Friday", "Saturday", "Sunday"]

/-- The name of the month. -/
def monthName (m : Moment) : String := monthNames.getD (m.month - 1) ""

/-- The name of the day of the week. -/
def dayName (m : Moment) : String := dayNames.getD m.weekday ""

/-- The first three letters of a name. -/
def shortened (name : String) : String := String.ofList (name.toList.take 3)

/-- The date and the time in words, down to the microsecond if that is not zero. -/
def preciseStamp (m : Moment) : String :=
  m.stamp ++ if m.microsecond = 0 then "" else s!".{padded 6 m.microsecond}"

end Moment
end Entigram
