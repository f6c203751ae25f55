/-!
# Days of the civil calendar

The Gregorian calendar, extended to all years. Days are numbered from 0000-03-01, so
that the day that a leap year adds is the last one of its year; four hundred years
always have the same length.
-/

namespace Community.Time

/-- Whether a year has 366 days. -/
def isLeapYear (year : Int) : Bool :=
  (year % 4 == 0 && year % 100 != 0) || year % 400 == 0

/-- The length of a month, zero if there is no such month. -/
def daysInMonth (year : Int) : Nat → Nat
  | 2 => if isLeapYear year then 29 else 28
  | 4 | 6 | 9 | 11 => 30
  | 1 | 3 | 5 | 7 | 8 | 10 | 12 => 31
  | _ => 0

/-- The number of a day. -/
def dayNumber (year : Int) (month day : Nat) : Int :=
  let y := if month ≤ 2 then year - 1 else year
  let m := (month + 9) % 12
  365 * y + y / 4 - y / 100 + y / 400 + (153 * m + 2) / 5 + (day - 1 : Int)

/-- A date of the calendar. -/
structure Date where
  year : Int
  month : Nat
  day : Nat
  deriving DecidableEq, Repr

/-- The days before a year of an era of four hundred years. -/
def daysBeforeYear (y : Nat) : Nat :=
  365 * y + y / 4 - y / 100 + y / 400

/-- The year of an era that a day of the era lies in. -/
def yearOfDay (d : Nat) : Nat :=
  (d - d / 1460 + d / 36524 - d / 146096) / 365

/-- The date of a day number. -/
def Date.ofDayNumber (n : Int) : Date :=
  let era := n / 146097
  let dayOfEra := (n % 146097).toNat
  let yearOfEra := yearOfDay dayOfEra
  let dayOfYear := dayOfEra - daysBeforeYear yearOfEra
  let m := (5 * dayOfYear + 2) / 153
  let month := if m < 10 then m + 3 else m - 9
  { year := yearOfEra + era * 400 + (if month ≤ 2 then 1 else 0)
    month := month
    day := dayOfYear - (153 * m + 2) / 5 + 1 }

end Community.Time
