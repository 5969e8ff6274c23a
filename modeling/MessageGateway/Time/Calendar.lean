/-!
# Calendar dates

The proleptic Gregorian calendar, as a count of days since the start of 1970. Years are counted
from March within eras of 400 years, so that the leap day is the last day of its year.

## Main definitions

* `Date`: year, month and day
* `Date.daysInMonth`, `Date.IsValid`: which dates exist
* `Date.toDays`, `Date.ofDays`: dates as day counts
-/

namespace MessageGateway

/-- A day of the Gregorian calendar. -/
structure Date where
  /-- The year; year 0 is the year before year 1. -/
  year : Int
  /-- The month, from 1. -/
  month : Nat
  /-- The day of the month, from 1. -/
  day : Nat
  deriving DecidableEq, Repr

namespace Date

/-- Every fourth year has a leap day, except centuries not divisible by 400. -/
def isLeapYear (year : Int) : Bool :=
  year % 4 == 0 && (year % 100 != 0 || year % 400 == 0)

/-- The number of days of a month. -/
def daysInMonth (year : Int) (month : Nat) : Nat :=
  if month = 2 then (if isLeapYear year then 29 else 28)
  else if month = 4 ∨ month = 6 ∨ month = 9 ∨ month = 11 then 30 else 31

/-- The date exists: its month and its day are in range. -/
def isValid (d : Date) : Bool :=
  1 ≤ d.month && d.month ≤ 12 && 1 ≤ d.day && d.day ≤ daysInMonth d.year d.month

/-- Days from the start of an era to the start of its year `y`, both in March. -/
def daysBeforeYear (y : Int) : Int :=
  365 * y + y / 4 - y / 100

/-- Days from the first of March to the first of the `m`-th month after it. -/
def daysBeforeMonth (m : Int) : Int :=
  (153 * m + 2) / 5

/-- Days since the start of 1970. -/
def toDays (d : Date) : Int :=
  let m := (d.month : Int)
  let y := if m ≤ 2 then d.year - 1 else d.year
  let fromMarch := if m ≤ 2 then m + 9 else m - 3
  y / 400 * 146097 + daysBeforeYear (y % 400) + daysBeforeMonth fromMarch + d.day - 1 - 719468

/-- The date so many days after the start of 1970. -/
def ofDays (days : Int) : Date :=
  let z := days + 719468
  let e := z % 146097
  let y := (e - e / 1460 + e / 36524 - e / 146096) / 365
  let n := e - daysBeforeYear y
  let m := (5 * n + 2) / 153
  let month := if m < 10 then m + 3 else m - 9
  { year := z / 146097 * 400 + y + (if month ≤ 2 then 1 else 0)
    month := month.toNat
    day := (n - daysBeforeMonth m + 1).toNat }

end Date

end MessageGateway
