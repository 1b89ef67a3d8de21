import UsageGrid.Json.Basic
import UsageGrid.Decimal.Reader

/-!
# Numbers in JSON text

A number without point and exponent is whole while it fits 64 bits, signed or not; any other
number is floating. A floating number is found in two roundings: its digits are gathered into a
64-bit significand, digits past that width counting only as places, and the significand is then
multiplied or divided by a power of ten. So a number of many digits may come out one unit away
from the nearest.
-/

namespace UsageGrid.Json

/-- The parts of a number as they stand in the text. -/
structure NumberText where
  negative : Bool := false
  whole : List Char := []
  fraction : Option (List Char) := none
  exponent : Option (Bool × List Char) := none

/-- The largest significand. -/
def significandMax : Nat := Nat.pow 2 64 - 1

/-- Digits gathered into a significand until one more would not fit, and how many were left. -/
def gather (start : Nat) : List Char → Nat × Nat
  | [] => (start, 0)
  | c :: rest =>
    let next := 10 * start + Decimal.digitValue c
    if next ≤ significandMax then gather next rest else (start, rest.length + 1)

/-- The greatest power of ten that is a finite number. -/
def greatestPower : Nat := 308

/-- The number nearest to `10 ^ n`. -/
def powerOfTen (n : Nat) : Option Binary64 :=
  Binary64.ofDecimal? false 1 n

/-- Division by the greatest power, again and again until nothing is left of the number. -/
def divideOften : Nat → Binary64 → Option Binary64
  | 0, x => some x
  | times + 1, x =>
    if x.mantissa = 0 then some x
    else ((powerOfTen greatestPower).bind x.div?).bind (divideOften times)

/-- Division by `10 ^ power`, in steps of at most the greatest power. -/
def divideByPower (x : Binary64) (power : Nat) : Option Binary64 := do
  let times := (power - 1) / greatestPower
  let y ← divideOften times x
  y.div? (← powerOfTen (power - greatestPower * times))

/-- The significand times a power of ten, each step rounded; nothing past the largest number. -/
def scaledByPower (x : Binary64) (exponent : Int) : Option Binary64 :=
  if exponent < 0 then divideByPower x (-exponent).toNat
  else if x.mantissa = 0 then some x
  else if exponent ≤ greatestPower then (powerOfTen exponent.toNat).bind x.mul?
  else none

/-- The floating number of significand and exponent. -/
def floatOfParts (negative : Bool) (significand : Nat) (exponent : Int) : Option Json := do
  let x ← Binary64.ofInt? significand
  let y ← scaledByPower x exponent
  pure (.float (if negative then y.neg else y))

/-- A number without point and exponent. -/
def wholeNumber (negative : Bool) (digits : List Char) : Option Json :=
  let (significand, dropped) := gather 0 digits
  if dropped ≠ 0 then floatOfParts negative significand dropped
  else if !negative then some (.int significand)
  else if significand = 0 ∨ Nat.pow 2 63 < significand then floatOfParts true significand 0
  else some (.int (-significand))

/-- The value of a number; nothing if it is out of range. -/
def NumberText.value? (t : NumberText) : Option Json :=
  match t.fraction, t.exponent with
  | none, none => wholeNumber t.negative t.whole
  | fraction, exponent =>
    let (significand, wholeDropped) := gather 0 t.whole
    let places := fraction.getD []
    let (significand, placesDropped) := gather significand places
    let scale : Int := wholeDropped - (places.length - placesDropped : Nat)
    let shift : Int := match exponent with
      | none => 0
      | some (down, digits) =>
        let n : Int := Decimal.natOfDigits digits
        if down then -n else n
    floatOfParts t.negative significand (scale + shift)

/-- The exponent has left 32 bits in a number other than zero: it is out of range at once. -/
def NumberText.overflows (t : NumberText) : Bool :=
  match t.exponent with
  | some (false, digits) =>
    decide (Nat.pow 2 31 ≤ Decimal.natOfDigits digits)
      && !(t.whole ++ t.fraction.getD []).all (· == '0')
  | _ => false

end UsageGrid.Json
