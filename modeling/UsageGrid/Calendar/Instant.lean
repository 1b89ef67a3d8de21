import UsageGrid.Calendar.Date

/-!
# Instants

An instant is counted in nanoseconds from the beginning of the year 1970. As text it is a date, the
time of the day and the offset, which is always zero (`Instant.text`). The fraction of the second
has as few groups of three digits as hold it.
-/

namespace UsageGrid.Calendar

/-! ## 1. Days counted through -/

namespace Date

/-- The year that a day falls in, days counted from the first of January of year 1. Four hundred
    years have 146097 days, so that the mean year gives the year or one beside it. -/
def yearOfDay (n : Int) : Int :=
  let y := n * 400 / 146097 + 1
  if n < daysToYear y then y - 1
  else if daysToYear (y + 1) ≤ n then y + 1
  else y

/-- The date of a day. -/
def ofDay? (n : Int) : Option Date :=
  let y := yearOfDay n
  ofOrdinal? y ((n - daysToYear y).toNat + 1)

end Date

/-- The day that instants are counted from. -/
def epoch : Int := Date.daysToYear 1970

/-! ## 2. Instants -/

structure Instant where
  nanoseconds : Nat
deriving Repr, DecidableEq

namespace Instant

/-- A number in at least as many digits. -/
def digits (width n : Nat) : String :=
  let ds := Nat.toDigits 10 n
  String.ofList (List.replicate (width - ds.length) '0' ++ ds)

def seconds (t : Instant) : Nat := t.nanoseconds / Nat.pow 10 9

def milliseconds (t : Instant) : Nat := t.nanoseconds / Nat.pow 10 6

/-- The fraction of the second behind a point, unless there is none. -/
def fraction (t : Instant) : String :=
  let n := t.nanoseconds % Nat.pow 10 9
  if n = 0 then ""
  else if n % Nat.pow 10 6 = 0 then "." ++ digits 3 (n / Nat.pow 10 6)
  else if n % Nat.pow 10 3 = 0 then "." ++ digits 6 (n / Nat.pow 10 3)
  else "." ++ digits 9 n

def dateText (t : Instant) : String :=
  match Date.ofDay? (epoch + (t.seconds / 86400 : Nat)) with
  | some d => digits 4 d.year.toNat ++ "-" ++ digits 2 d.month ++ "-" ++ digits 2 d.day
  | none => ""

def timeText (t : Instant) : String :=
  let s := t.seconds % 86400
  digits 2 (s / 3600) ++ ":" ++ digits 2 (s / 60 % 60) ++ ":" ++ digits 2 (s % 60) ++ t.fraction

/-- The instant as text. -/
def text (t : Instant) : String := t.dateText ++ "T" ++ t.timeText ++ "+00:00"

end Instant

end UsageGrid.Calendar
