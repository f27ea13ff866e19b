import Teleop.Bytes
import Teleop.Time.Instant

/-!
# Calendar

The date and the time of day of an instant in the Gregorian calendar, and its text
`2100-01-01T00:00:00.5Z`: the fraction of a second is written without trailing zeros and left out
when it is zero.
-/

namespace Teleop

/-- A date of the Gregorian calendar. -/
structure Date where
  year : Int
  month : Nat
  day : Nat
  deriving DecidableEq, Repr

def isLeapYear (year : Int) : Bool :=
  decide (year % 4 = 0 ∧ (year % 100 ≠ 0 ∨ year % 400 = 0))

/-- The number of days of a month, counted from one. -/
def daysInMonth (year : Int) (month : Nat) : Nat :=
  if month = 2 then if isLeapYear year then 29 else 28
  else if month = 4 ∨ month = 6 ∨ month = 9 ∨ month = 11 then 30
  else 31

/-- A number in decimal digits, filled up with zeros on the left. -/
def zeroPadded (width : Nat) (n : Nat) : Text :=
  let digits := decimal n
  List.replicate (width - digits.length) 48 ++ digits

/-- The decimal digits of a number without the zeros at its end. -/
def trimZeros (digits : Text) : Text :=
  (digits.reverse.dropWhile (· = 48)).reverse

namespace Date

/-- The date of a day counted from the start of year 1. Years are taken to begin in March, so that
the leap day is the last day of a year; 400 years have 146097 days. -/
def ofDay (day : Int) : Date :=
  let z := day + 306
  let era := z.fdiv 146097
  let dayOfEra := (z - era * 146097).toNat
  let yearOfEra := (dayOfEra - dayOfEra / 1460 + dayOfEra / 36524 - dayOfEra / 146096) / 365
  let dayOfYear := dayOfEra - (365 * yearOfEra + yearOfEra / 4 - yearOfEra / 100)
  let shifted := (5 * dayOfYear + 2) / 153
  let month := if shifted < 10 then shifted + 3 else shifted - 9
  { year := era * 400 + yearOfEra + (if month ≤ 2 then 1 else 0)
    month
    day := dayOfYear - (153 * shifted + 2) / 5 + 1 }

/-- The text `2100-01-01`. -/
def text (d : Date) : Text :=
  (if d.year < 0 then utf8 "-" else []) ++ zeroPadded 4 d.year.natAbs ++ utf8 "-" ++
    zeroPadded 2 d.month ++ utf8 "-" ++ zeroPadded 2 d.day

end Date

namespace Instant

/-- The number of whole days since the start of year 1. -/
def day (t : Instant) : Int :=
  t.nanos.fdiv (24 * Duration.hour)

def date (t : Instant) : Date :=
  Date.ofDay t.day

/-- The nanoseconds since the start of the day. -/
def timeOfDay (t : Instant) : Nat :=
  (t.nanos.fmod (24 * Duration.hour)).toNat

/-- The date, the time of day, and the zone `Z`. -/
def text (t : Instant) : Text :=
  let nanos := t.timeOfDay
  let seconds := nanos / 1000000000
  let fraction := trimZeros (zeroPadded 9 (nanos % 1000000000))
  t.date.text ++ utf8 "T" ++ zeroPadded 2 (seconds / 3600) ++ utf8 ":" ++
    zeroPadded 2 (seconds / 60 % 60) ++ utf8 ":" ++ zeroPadded 2 (seconds % 60) ++
    (if fraction.isEmpty then [] else utf8 "." ++ fraction) ++ utf8 "Z"

end Instant

end Teleop
