import UsageGrid.Calendar.Date

/-!
# The fields of a date

What a text says about a date is gathered field by field. A field lies in its range and has one
value: saying it twice is no fault, contradicting it is (`Fields.set?`). From the fields a date is
made, in the first of five ways for which the fields suffice, and every other field must agree with
that date (`Fields.toDate?`).
-/

namespace UsageGrid.Calendar

/-- Weekdays are counted from Monday, the twelve hours of a half from zero. -/
inductive Slot where
  | year
  | century
  | yearOfCentury
  | isoYear
  | isoYearOfCentury
  | quarter
  | month
  | day
  | weekFromSunday
  | weekFromMonday
  | isoWeek
  | weekday
  | ordinal
  | half
  | hourOfHalf
  | minute
  | second
  | nanosecond
  | timestamp
  | offset
deriving Repr, DecidableEq

/-- The least and the greatest value of a field. -/
def Slot.range : Slot → Int × Int
  | .year | .isoYear | .offset => (-(Nat.pow 2 31), Nat.pow 2 31 - 1)
  | .century => (0, Nat.pow 2 31 - 1)
  | .yearOfCentury | .isoYearOfCentury => (0, 99)
  | .quarter => (1, 4)
  | .month => (1, 12)
  | .day => (1, 31)
  | .weekFromSunday | .weekFromMonday => (0, 53)
  | .isoWeek => (1, 53)
  | .weekday => (0, 6)
  | .ordinal => (1, 366)
  | .half => (0, 1)
  | .hourOfHalf => (0, 11)
  | .minute => (0, 59)
  | .second => (0, 60)
  | .nanosecond => (0, 999999999)
  | .timestamp => (-(Nat.pow 2 63), Nat.pow 2 63 - 1)

/-- The fields said so far. -/
structure Fields where
  entries : List (Slot × Int) := []
deriving Repr, DecidableEq

namespace Fields

def get? (f : Fields) (s : Slot) : Option Int := f.entries.lookup s

/-- Says a field. -/
def set? (f : Fields) (s : Slot) (v : Int) : Option Fields :=
  if s.range.1 ≤ v ∧ v ≤ s.range.2 then
    match f.get? s with
    | some old => if old = v then some f else none
    | none => some ⟨(s, v) :: f.entries⟩
  else none

/-- Says several fields. -/
def setAll? (f : Fields) : List (Slot × Int) → Option Fields
  | [] => some f
  | (s, v) :: rest => (f.set? s v).bind (·.setAll? rest)

/-! ## 1. The year -/

/-- The year from what is said of it and of its two halves: nothing may be said at all; two digits
    alone mean a year from 1970 to 2069; the outer `none` is a contradiction or a century alone. -/
def fullYear? : Option Int → Option Int → Option Int → Option (Option Int)
  | y, none, none => some y
  | some y, c, r =>
    if 0 ≤ y ∧ c.all (· = y / 100) ∧ r.all (· = y % 100) then some (some y) else none
  | none, some c, some r => if c * 100 + r < Nat.pow 2 31 then some (some (c * 100 + r)) else none
  | none, none, some r => some (some (if r < 70 then 2000 + r else 1900 + r))
  | none, some _, none => none

/-! ## 2. Agreement -/

/-- A field is not said, or has this value. -/
def agrees (f : Fields) (s : Slot) (v : Int) : Bool := (f.get? s).all (· == v)

/-- Two digits of a year; a year before zero has none. -/
def agreesDigits (f : Fields) (s : Slot) (year v : Int) : Bool :=
  if 0 ≤ year then f.agrees s v else (f.get? s).isNone

def agreesYmd (f : Fields) (d : Date) : Bool :=
  f.agrees .year d.year && f.agreesDigits .century d.year (d.year / 100)
    && f.agreesDigits .yearOfCentury d.year (d.year % 100)
    && f.agrees .month d.month && f.agrees .day d.day

def agreesIsoWeek (f : Fields) (d : Date) : Bool :=
  let (y, w) := d.isoWeek
  f.agrees .isoYear y && f.agreesDigits .isoYearOfCentury y (y % 100) && f.agrees .isoWeek w
    && f.agrees .weekday d.weekday.number

def agreesOrdinal (f : Fields) (d : Date) : Bool :=
  f.agrees .ordinal d.ordinal && f.agrees .weekFromSunday (d.weekFrom .sunday)
    && f.agrees .weekFromMonday (d.weekFrom .monday)

/-! ## 3. The date -/

def weekday? (f : Fields) : Option Weekday :=
  (f.get? .weekday).map fun n => Weekday.ofNumber n.toNat

/-- The date of the first way for which the fields suffice, the year and the year of the week
    given. -/
def candidate? (f : Fields) (year isoYear : Option Int) : Option Date :=
  match year, f.get? .month, f.get? .day with
  | some y, some m, some d => Date.ofYmd? y m.toNat d.toNat
  | _, _, _ =>
    match year, f.get? .ordinal with
    | some y, some o => Date.ofOrdinal? y o.toNat
    | _, _ =>
      match year, f.get? .weekFromSunday, f.weekday? with
      | some y, some w, some d => Date.ofWeek? y w.toNat d .sunday
      | _, _, _ =>
        match year, f.get? .weekFromMonday, f.weekday? with
        | some y, some w, some d => Date.ofWeek? y w.toNat d .monday
        | _, _, _ =>
          match isoYear, f.get? .isoWeek, f.weekday? with
          | some y, some w, some d => Date.ofIsoWeek? y w.toNat d
          | _, _, _ => none

/-- The date that the fields describe. -/
def toDate? (f : Fields) : Option Date := do
  let year ← fullYear? (f.get? .year) (f.get? .century) (f.get? .yearOfCentury)
  let isoYear ← fullYear? (f.get? .isoYear) none (f.get? .isoYearOfCentury)
  let d ← f.candidate? year isoYear
  guard (f.agreesYmd d && f.agreesIsoWeek d && f.agreesOrdinal d && f.agrees .quarter d.quarter)
  pure d

end Fields

end UsageGrid.Calendar
