/-!
# Days and moments

- `Date`, `Moment`: a day of the calendar, and a time of day on it.
- `Date.ordinal`: the place of a day among all days.
- `Moment.isSame`: when two moments are one. Those with a distance from universal
  time are compared there.
-/

namespace CssColor

/-- A day. -/
structure Date where
  year : Nat
  month : Nat
  day : Nat
  deriving DecidableEq, Repr

/-- A moment of a day, with its distance from universal time in minutes if it is known. -/
structure Moment where
  date : Date
  hour : Nat
  minute : Nat
  second : Nat
  microsecond : Nat
  offset : Option Int
  deriving DecidableEq, Repr

/-- Whether a year has a 29th of February. -/
def isLeapYear (year : Nat) : Bool :=
  year % 4 == 0 && (year % 100 != 0 || year % 400 == 0)

/-- The count of days of a month. -/
def monthDays (year month : Nat) : Nat :=
  if month = 2 then (if isLeapYear year then 29 else 28)
  else if month = 4 ∨ month = 6 ∨ month = 9 ∨ month = 11 then 30
  else 31

/-- The place of a day among all days, the first day of the year 1 being 1. -/
def Date.ordinal (d : Date) : Nat :=
  let past := d.year - 1
  let months := (List.range (d.month - 1)).map fun m => monthDays d.year (m + 1)
  past * 365 + past / 4 - past / 100 + past / 400 + months.foldl (· + ·) 0 + d.day

namespace Moment

/-- The time of a moment in microseconds, as its clock shows it. -/
def clockTime (m : Moment) : Int :=
  ((((m.date.ordinal * 24 + m.hour) * 60 + m.minute) * 60 + m.second) * 1000000 + m.microsecond : Nat)

/-- The time of a moment in microseconds of universal time, if its distance from that is known. -/
def universalTime? (m : Moment) : Option Int :=
  m.offset.map fun minutes => m.clockTime - minutes * 60000000

/-- Whether two moments are one: both show the same time and no distance from universal time, or
both fall on the same universal time. -/
def isSame (m n : Moment) : Bool :=
  m.universalTime? == n.universalTime? && (m.offset.isSome || m.clockTime == n.clockTime)

end Moment

end CssColor
