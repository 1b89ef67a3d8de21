/-!
# Finite binary64 numbers, exactly

Values, rates and literals are IEEE 754 double-precision numbers, and none of them is ever infinite
or not a number. The type holds the finite ones in canonical form and computes in exact integer
arithmetic:

* `Binary64.round?` is the binary64 number nearest to a fraction, a half going to the even
  mantissa, and nothing where the fraction is too large; every operation is `round?` of the exact
  result;
* `Binary64.signedAt` reads a number as a whole multiple of a power of two, which is what two
  numbers are compared and added by.
-/

namespace UsageGrid

/-- The pairs `(m, e)` that stand for `m · 2 ^ e` in canonical form. -/
def Binary64.Canonical (mantissa : Nat) (exponent : Int) : Prop :=
  mantissa < Nat.pow 2 53 ∧ (Nat.pow 2 52 ≤ mantissa ∨ exponent = -1074) ∧
    -1074 ≤ exponent ∧ exponent ≤ 971

instance (m : Nat) (e : Int) : Decidable (Binary64.Canonical m e) :=
  inferInstanceAs (Decidable (_ ∧ _))

/-- The finite number `± mantissa · 2 ^ exponent`. Zero has both signs. -/
structure Binary64 where
  negative : Bool
  mantissa : Nat
  exponent : Int
  canonical : Binary64.Canonical mantissa exponent
deriving DecidableEq

namespace Binary64

/-! ## 1. Rounding -/

def zero : Binary64 := ⟨false, 0, -1074, by decide⟩

instance : Inhabited Binary64 := ⟨zero⟩

/-- The whole number nearest to `num / den`, a half going to the even one. -/
def roundDiv (num den : Nat) : Nat :=
  let q := num / den
  let r := num % den
  if 2 * r < den then q
  else if den < 2 * r then q + 1
  else if q % 2 = 0 then q else q + 1

/-- `num / den` over `2 ^ e`, again as a fraction. -/
def scaled (num den : Nat) (e : Int) : Nat × Nat :=
  if 0 ≤ e then (num, den * Nat.pow 2 e.toNat) else (num * Nat.pow 2 (-e).toNat, den)

/-- The exponent at which `num / den` has a mantissa of 53 bits, or the least one. -/
def exponentOf (num den : Nat) : Int :=
  if num = 0 then -1074 else
  let e := max (-1074) ((Nat.log2 num : Int) - Nat.log2 den - 53)
  let (n, d) := scaled num den e
  if Nat.pow 2 53 ≤ n / d then e + 1 else e

/-- The number nearest to `± num / den`, for a positive `den`; nothing past the largest. -/
def round? (negative : Bool) (num den : Nat) : Option Binary64 :=
  let e := exponentOf num den
  let (n, d) := scaled num den e
  let q := roundDiv n d
  if h : Canonical q e then some ⟨negative, q, e, h⟩
  else if h : Canonical (q / 2) (e + 1) then some ⟨negative, q / 2, e + 1, h⟩
  else none

/-- The number nearest to a whole number. -/
def ofInt? (n : Int) : Option Binary64 :=
  round? (n < 0) n.natAbs 1

/-- The number nearest to `± digits · 10 ^ scale`. Scales far outside the range are decided
    without forming the power. -/
def ofDecimal? (negative : Bool) (digits : Nat) (scale : Int) : Option Binary64 :=
  if digits = 0 then some { zero with negative }
  else if 400 < scale then none
  else if scale + Nat.log2 digits < -400 then some { zero with negative }
  else if 0 ≤ scale then round? negative (digits * Nat.pow 10 scale.toNat) 1
  else round? negative digits (Nat.pow 10 (-scale).toNat)

/-! ## 2. Arithmetic -/

def neg (x : Binary64) : Binary64 := { x with negative := !x.negative }

def abs (x : Binary64) : Binary64 := { x with negative := false }

/-- `mantissa · 2 ^ exponent` as a fraction. -/
def magnitude (x : Binary64) : Nat × Nat :=
  if 0 ≤ x.exponent then (x.mantissa * Nat.pow 2 x.exponent.toNat, 1)
  else (x.mantissa, Nat.pow 2 (-x.exponent).toNat)

/-- The number as a multiple of `2 ^ e`, for an `e` not above its exponent. -/
def signedAt (x : Binary64) (e : Int) : Int :=
  let m : Int := x.mantissa * Nat.pow 2 (x.exponent - e).toNat
  if x.negative then -m else m

def mul? (x y : Binary64) : Option Binary64 :=
  round? (x.negative != y.negative) (x.magnitude.1 * y.magnitude.1)
    (x.magnitude.2 * y.magnitude.2)

/-- The quotient, for a divisor other than zero. -/
def div? (x y : Binary64) : Option Binary64 :=
  round? (x.negative != y.negative) (x.magnitude.1 * y.magnitude.2)
    (x.magnitude.2 * y.magnitude.1)

/-- The sum; a sum that is exactly zero is negative only if both terms are. -/
def add? (x y : Binary64) : Option Binary64 :=
  let e := min x.exponent y.exponent
  let s := x.signedAt e + y.signedAt e
  let negative := if s = 0 then x.negative && y.negative else decide (s < 0)
  if 0 ≤ e then round? negative (s.natAbs * Nat.pow 2 e.toNat) 1
  else round? negative s.natAbs (Nat.pow 2 (-e).toNat)

/-! ## 3. Order and whole numbers -/

/-- The order of the values; the two zeros are equal. -/
def cmp (x y : Binary64) : Ordering :=
  let e := min x.exponent y.exponent
  compare (x.signedAt e) (y.signedAt e)

/-- The value as a whole number, if it is one. -/
def toInt? (x : Binary64) : Option Int :=
  let (n, d) := x.magnitude
  if n % d = 0 then some (if x.negative then -(n / d : Nat) else (n / d : Nat)) else none

/-- The whole number nearest to the value, a half going to the even one. -/
def nearestInt (x : Binary64) : Int :=
  let q : Int := roundDiv x.magnitude.1 x.magnitude.2
  if x.negative then -q else q

/-- Equal as values: the two zeros count as one. -/
def sameValue (x y : Binary64) : Bool :=
  x.cmp y == .eq

end Binary64

end UsageGrid
