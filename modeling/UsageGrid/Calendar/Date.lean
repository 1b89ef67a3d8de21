/-!
# Dates

A date is a day of the Gregorian calendar, extended to all years between `-262143` and `262142`.
Besides year, month and day it is known by its place in the year (`Date.ordinal`), by its weekday,
and by the week it falls in (`Date.isoWeek`, `Date.weekFrom`); `ofOrdinal?`, `ofIsoWeek?` and
`ofWeek?` lead back.
-/

namespace UsageGrid.Calendar

/-! ## 1. Years and months -/

def isLeap (year : Int) : Bool :=
  year % 4 == 0 && (year % 100 != 0 || year % 400 == 0)

def daysInMonth (year : Int) (month : Nat) : Nat :=
  if month = 2 then if isLeap year then 29 else 28
  else if month = 4 ∨ month = 6 ∨ month = 9 ∨ month = 11 then 30
  else 31

def daysInYear (year : Int) : Nat := if isLeap year then 366 else 365

/-- The days of a year before a month. -/
def daysBefore (year : Int) : Nat → Nat
  | 0 => 0
  | 1 => 0
  | m + 2 => daysBefore year (m + 1) + daysInMonth year (m + 1)

def firstYear : Int := -262143
def lastYear : Int := 262142

/-- The numbers that name a day. -/
def IsDay (year : Int) (month day : Nat) : Prop :=
  (firstYear ≤ year ∧ year ≤ lastYear) ∧ (1 ≤ month ∧ month ≤ 12) ∧
    (1 ≤ day ∧ day ≤ daysInMonth year month)

instance (y : Int) (m d : Nat) : Decidable (IsDay y m d) :=
  inferInstanceAs (Decidable (_ ∧ _))

structure Date where
  year : Int
  month : Nat
  day : Nat
  isDay : IsDay year month day
deriving DecidableEq

inductive Weekday where
  | monday
  | tuesday
  | wednesday
  | thursday
  | friday
  | saturday
  | sunday
deriving Repr, DecidableEq

namespace Weekday

def all : List Weekday :=
  [.monday, .tuesday, .wednesday, .thursday, .friday, .saturday, .sunday]

/-- Days after Monday. -/
def number : Weekday → Nat
  | .monday => 0
  | .tuesday => 1
  | .wednesday => 2
  | .thursday => 3
  | .friday => 4
  | .saturday => 5
  | .sunday => 6

/-- The weekday a number of days after Monday. -/
def ofNumber (n : Nat) : Weekday := all.getD (n % 7) .monday

/-- Days from the last `e` up to this weekday. -/
def since (d e : Weekday) : Nat := (d.number + 7 - e.number) % 7

end Weekday

namespace Date

/-! ## 2. Days of the year -/

def ofYmd? (year : Int) (month day : Nat) : Option Date :=
  if h : IsDay year month day then some ⟨year, month, day, h⟩ else none

/-- The place of the day in its year, counted from one. -/
def ordinal (d : Date) : Nat := daysBefore d.year d.month + d.day

/-- The month that a day of the year falls in: the last of the first `months` that begins before
    it. -/
def monthOf (year : Int) (ordinal : Nat) : Nat → Nat
  | 0 => 0
  | m + 1 => if daysBefore year (m + 1) < ordinal then m + 1 else monthOf year ordinal m

/-- The day at a place of the year. -/
def ofOrdinal? (year : Int) (ordinal : Nat) : Option Date :=
  let month := monthOf year ordinal 12
  ofYmd? year month (ordinal - daysBefore year month)

/-! ## 3. Weeks -/

/-- Days from the first of January of year 1, a Monday, to the first of January of a year. -/
def daysToYear (year : Int) : Int :=
  let p := year - 1
  365 * p + p / 4 - p / 100 + p / 400

def firstWeekday (year : Int) : Weekday :=
  Weekday.ofNumber (daysToYear year % 7).toNat

def weekday (d : Date) : Weekday :=
  Weekday.ofNumber ((daysToYear d.year % 7).toNat + d.ordinal + 6)

/-- The number of the week where weeks begin on `start` and week 1 with the first such day. -/
def weekFrom (d : Date) (start : Weekday) : Nat :=
  (d.ordinal + 6 - d.weekday.since start) / 7

/-- The week by its Thursday: the year that the Thursday falls in, and its place there. -/
def isoWeek (d : Date) : Int × Nat :=
  let thursday : Int := (d.ordinal : Int) + 3 - d.weekday.number
  if thursday < 1 then
    (d.year - 1, ((thursday + daysInYear (d.year - 1) - 1) / 7 + 1).toNat)
  else if (daysInYear d.year : Int) < thursday then (d.year + 1, 1)
  else (d.year, ((thursday - 1) / 7 + 1).toNat)

/-- The weeks of a year: 53 if it begins or ends with a Thursday. -/
def isoWeeks (year : Int) : Nat :=
  let first := firstWeekday year
  if first = .thursday ∨ (first = .wednesday ∧ isLeap year) then 53 else 52

/-- The day of a week of the year, weeks counted by their Thursdays. -/
def ofIsoWeek? (year : Int) (week : Nat) (weekday : Weekday) : Option Date :=
  if week = 0 ∨ isoWeeks year < week then none
  else
    -- week 1 holds the fourth of January
    let fourth := Weekday.ofNumber ((firstWeekday year).number + 3)
    let ordinal : Int := 4 + 7 * ((week : Int) - 1) + weekday.number - fourth.number
    if ordinal < 1 then ofOrdinal? (year - 1) (ordinal + daysInYear (year - 1)).toNat
    else if (daysInYear year : Int) < ordinal then
      ofOrdinal? (year + 1) (ordinal - daysInYear year).toNat
    else ofOrdinal? year ordinal.toNat

/-- The day of a week of the year, weeks counted from the first `start`. -/
def ofWeek? (year : Int) (week : Nat) (weekday start : Weekday) : Option Date :=
  let ordinal : Int :=
    1 + start.since (firstWeekday year) + 7 * ((week : Int) - 1) + weekday.since start
  if ordinal < 1 ∨ (daysInYear year : Int) < ordinal then none else ofOrdinal? year ordinal.toNat

def quarter (d : Date) : Nat := (d.month - 1) / 3 + 1

end Date

end UsageGrid.Calendar
