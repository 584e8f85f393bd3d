import Autoresponder.Time
/-!
# Civil dates

Dates of the Gregorian calendar, carried back to the year 0, and the UTC seconds that they and a
time of day stand for.

1. `Date.Valid` says which dates exist.
2. `Date.dayNumber` counts the days from 1970-01-01.
3. `CivilTime.instant?` is the instant of a date and a time of day at an offset from UTC; second 60
   is the leap second at the end of its minute.
-/

namespace Autoresponder

/-- A leap year: a multiple of four, except the centuries that are no multiple of 400. -/
def isLeapYear (year : Nat) : Bool := year % 4 == 0 && (year % 100 != 0 || year % 400 == 0)

/-- The number of days of a month from 1 to 12; other months have none. -/
def daysInMonth (year : Nat) : Nat → Nat
  | 1 => 31
  | 2 => if isLeapYear year then 29 else 28
  | 3 => 31
  | 4 => 30
  | 5 => 31
  | 6 => 30
  | 7 => 31
  | 8 => 31
  | 9 => 30
  | 10 => 31
  | 11 => 30
  | 12 => 31
  | _ => 0

structure Date where
  year : Nat
  month : Nat
  day : Nat
  deriving DecidableEq, Repr

namespace Date

/-- The date exists. -/
def Valid (d : Date) : Prop := 1 ≤ d.day ∧ d.day ≤ daysInMonth d.year d.month

instance (d : Date) : Decidable d.Valid := by
  unfold Valid
  exact inferInstance

/-- The days from the start of the year 0 to the start of a year. -/
def daysBeforeYear (year : Nat) : Nat :=
  365 * year + (year + 3) / 4 - (year + 99) / 100 + (year + 399) / 400

/-- The days of a year before a month. -/
def daysBeforeMonth (year month : Nat) : Nat :=
  (List.range (month - 1)).foldl (fun days m => days + daysInMonth year (m + 1)) 0

/-- The days from 1970-01-01 to the date. -/
def dayNumber (d : Date) : Int :=
  (daysBeforeYear d.year + daysBeforeMonth d.year d.month + (d.day - 1) : Nat) -
    daysBeforeYear 1970

end Date

/-- A date and a time of day as a clock shows them. -/
structure CivilTime where
  date : Date
  hour : Nat
  minute : Nat
  second : Nat
  deriving DecidableEq, Repr

namespace CivilTime

/-- The date exists and the clock can show the time. -/
def Valid (t : CivilTime) : Prop :=
  t.date.Valid ∧ t.hour < 24 ∧ t.minute < 60 ∧ t.second ≤ 60

instance (t : CivilTime) : Decidable t.Valid := by
  unfold Valid
  exact inferInstance

/-- The instant at which a clock that is `offset` seconds ahead of UTC shows the time. -/
def instant? (t : CivilTime) (offset : Int) : Option Instant :=
  if t.Valid then
    let seconds := t.date.dayNumber * secondsPerDay + t.hour * 3600 + t.minute * 60
    if t.second = 60 then Instant.of? (seconds + 59 - offset) nanosPerSecond
    else Instant.of? (seconds + t.second - offset) 0
  else none

end CivilTime
end Autoresponder
