namespace PlainScan

/-!
# The calendar

Days are counted from the first of January of the year one, which is day zero.

* `CalendarDate` — a year, a month and a day of the month.
* `CalendarDate.toDay`, `CalendarDate.ofDay` — from a date to its number and back.
-/

/-- A date of the Gregorian calendar. -/
structure CalendarDate where
  year : Nat
  month : Nat
  day : Nat
  deriving DecidableEq, Repr, Inhabited

namespace CalendarDate

/-- Whether a year has a twenty-ninth of February. -/
def isLeapYear (year : Nat) : Bool :=
  year % 4 == 0 && (year % 100 != 0 || year % 400 == 0)

/-- The number of days of a month. -/
def daysInMonth (year month : Nat) : Nat :=
  match month with
  | 2 => if isLeapYear year then 29 else 28
  | 4 | 6 | 9 | 11 => 30
  | _ => 31

/-- The days before the first of January of a year. -/
def daysBeforeYear (year : Nat) : Nat :=
  let y := year - 1
  y * 365 + y / 4 - y / 100 + y / 400

/-- The days of a year before the first of a month. -/
def daysBeforeMonth (year : Nat) : Nat → Nat
  | 0 => 0
  | 1 => 0
  | month + 1 => daysBeforeMonth year month + daysInMonth year month

/-- The number of a date. -/
def toDay (d : CalendarDate) : Nat :=
  daysBeforeYear d.year + daysBeforeMonth d.year d.month + (d.day - 1)

/-- The year that a day lies in.  The estimate from the mean length of a year is late by one at
    most. -/
def yearOf (day : Nat) : Nat :=
  let estimate := day * 400 / 146097 + 1
  if day < daysBeforeYear estimate then estimate - 1
  else if daysBeforeYear (estimate + 1) ≤ day then estimate + 1
  else estimate

/-- The month and the day of the month for a day of a year, from a month on. -/
def monthFrom (year : Nat) : Nat → Nat → Nat → Nat × Nat
  | 0, month, rest => (month, rest + 1)
  | fuel + 1, month, rest =>
    if rest < daysInMonth year month then (month, rest + 1)
    else monthFrom year fuel (month + 1) (rest - daysInMonth year month)

/-- The date of a day. -/
def ofDay (day : Nat) : CalendarDate :=
  let year := yearOf day
  let (month, dayOfMonth) := monthFrom year 11 1 (day - daysBeforeYear year)
  ⟨year, month, dayOfMonth⟩

/-- The last day that has a date of four digits. -/
def lastDay : Nat := toDay ⟨9999, 12, 31⟩

/-- Whether the parts of a date belong together. -/
def isValid (d : CalendarDate) : Bool :=
  1 ≤ d.year && d.year ≤ 9999 && 1 ≤ d.month && d.month ≤ 12 && 1 ≤ d.day
    && d.day ≤ daysInMonth d.year d.month

end CalendarDate

end PlainScan
