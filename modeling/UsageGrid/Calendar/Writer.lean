import UsageGrid.Calendar.Format
import UsageGrid.Calendar.Names

/-!
# Writing a date by a format

A date is written item by item. A number is padded to its width; a year that has not four digits
at most gets a sign. A date has no time of day, so an item that asks for one cannot be written.
-/

namespace UsageGrid.Calendar

namespace Writer

/-- Filled up in front to a width. -/
def fill (c : Char) (width : Nat) (cs : List Char) : List Char :=
  List.replicate (width - cs.length) c ++ cs

/-- A number from zero on. -/
def unsigned (width : Nat) (padding : Padding) (n : Nat) : List Char :=
  let ds := Nat.toDigits 10 n
  match padding with
  | .none => ds
  | .zero => fill '0' width ds
  | .blank => fill ' ' width ds

/-- A number with its sign; the zeros stand behind it, the blanks in front. -/
def signed (width : Nat) (padding : Padding) (n : Int) : List Char :=
  let sign := if n < 0 then '-' else '+'
  let ds := Nat.toDigits 10 n.natAbs
  match padding with
  | .none => sign :: ds
  | .zero => sign :: fill '0' width ds
  | .blank => fill ' ' (width + 1) (sign :: ds)

def year (padding : Padding) (y : Int) : List Char :=
  if 0 ≤ y ∧ y < 10000 then unsigned 4 padding y.toNat else signed 4 padding y

/-- A number of a date. -/
def number? (d : Date) (padding : Padding) : Quantity → Option (List Char)
  | .year => some (year padding d.year)
  | .century => some (unsigned 2 padding (d.year / 100).toNat)
  | .yearOfCentury => some (unsigned 2 padding (d.year % 100).toNat)
  | .isoYear => some (year padding d.isoWeek.1)
  | .isoYearOfCentury => some (unsigned 2 padding (d.isoWeek.1 % 100).toNat)
  | .quarter => some (unsigned 1 padding d.quarter)
  | .month => some (unsigned 2 padding d.month)
  | .day => some (unsigned 2 padding d.day)
  | .weekFromSunday => some (unsigned 2 padding (d.weekFrom .sunday))
  | .weekFromMonday => some (unsigned 2 padding (d.weekFrom .monday))
  | .isoWeek => some (unsigned 2 padding d.isoWeek.2)
  | .daysFromSunday => some (unsigned 1 padding (d.weekday.since .sunday))
  | .daysFromMonday => some (unsigned 1 padding (d.weekday.number + 1))
  | .ordinal => some (unsigned 3 padding d.ordinal)
  | _ => none

/-- The name at a place of a list. -/
def name? (names : List Name) (long : Bool) (i : Nat) : Option (List Char) :=
  names[i]?.map fun n => (if long then n.long else n.short).toList

def item? (d : Date) : Item → Option (List Char)
  | .literal text => some text
  | .space text => some text
  | .number q padding => number? d padding q
  | .month long => name? monthNames long (d.month - 1)
  | .weekday long => name? weekdayNames long d.weekday.number
  | _ => none

end Writer

/-- The date as a format writes it. -/
def Format.writeDate? (d : Date) : Format → Option (List Char)
  | [] => some []
  | i :: rest => do pure ((← Writer.item? d i) ++ (← Format.writeDate? d rest))

end UsageGrid.Calendar
