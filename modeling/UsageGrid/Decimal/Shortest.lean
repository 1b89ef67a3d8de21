import UsageGrid.Decimal.Binary64

/-!
# The shortest decimal that reads back

A number is written with the fewest digits from which it can be read again, and of two such
decimals with the one nearer to it. `shortest` tries 1, 2, … 17 digits: on each grid only the two
neighbours of the number can read back best. What it finds reads back because it is tested for that
(`readsBack_of_find`).
-/

namespace UsageGrid.Decimal

/-- Which of two decimals at the same distance is taken. -/
inductive Tie where
  | even
  | up
deriving Repr, DecidableEq

/-- The positive decimal `digits · 10 ^ scale`. -/
structure Digits where
  digits : Nat
  scale : Int
deriving Repr, DecidableEq

/-- Reading the decimal gives the number `x`, sign apart. -/
def Digits.readsBack (d : Digits) (x : Binary64) : Bool :=
  Binary64.ofDecimal? x.negative d.digits d.scale == some x

/-- `num / den` over `10 ^ scale`, again as a fraction. -/
def overPower (num den : Nat) (scale : Int) : Nat × Nat :=
  if 0 ≤ scale then (num, den * Nat.pow 10 scale.toNat) else (num * Nat.pow 10 (-scale).toNat, den)

/-- The scale of the first digit of `num / den`: `10 ^ p ≤ num / den < 10 ^ (p + 1)`, for a
    positive fraction of binary64. The start is at most two below. -/
def leadingScale (num den : Nat) : Int :=
  let start := ((Nat.log2 num : Int) - Nat.log2 den - 1) * 30103 / 100000 - 1
  let fits (p : Int) := let (n, d) := overPower num den p; decide (d ≤ n)
  if fits (start + 3) then start + 3
  else if fits (start + 2) then start + 2
  else if fits (start + 1) then start + 1
  else start

/-- The neighbour of `x` on the grid `10 ^ scale` that reads back, the nearer one if both do. -/
def onGrid? (tie : Tie) (x : Binary64) (scale : Int) : Option Digits :=
  let (n, d) := overPower x.magnitude.1 x.magnitude.2 scale
  let below : Digits := ⟨n / d, scale⟩
  let above : Digits := ⟨n / d + 1, scale⟩
  match below.readsBack x, above.readsBack x with
  | true, true =>
    let rest := 2 * (n % d)
    if rest < d then some below
    else if d < rest then some above
    else match tie with
      | .up => some above
      | .even => if n / d % 2 = 0 then some below else some above
  | true, false => some below
  | false, true => some above
  | false, false => none

/-- Tries the grids of `n + 1`, `n + 2`, … digits below the leading scale `p`. -/
def find? (tie : Tie) (x : Binary64) (p : Int) : Nat → Nat → Option Digits
  | 0, _ => none
  | tries + 1, n =>
    match onGrid? tie x (p - n) with
    | some d => some d
    | none => find? tie x p tries (n + 1)

/-- Digits without zeros at the end. -/
def Digits.stripZeros : Nat → Digits → Digits
  | 0, d => d
  | n + 1, d => if d.digits % 10 = 0 then Digits.stripZeros n ⟨d.digits / 10, d.scale + 1⟩ else d

/-- The exact value of a number, as a decimal of many digits. -/
def exact (x : Binary64) : Digits :=
  if 0 ≤ x.exponent then ⟨x.mantissa * Nat.pow 2 x.exponent.toNat, 0⟩
  else ⟨x.mantissa * Nat.pow 5 (-x.exponent).toNat, x.exponent⟩

/-- The shortest decimal of a number other than zero. -/
def shortest (tie : Tie) (x : Binary64) : Digits :=
  match find? tie x (leadingScale x.magnitude.1 x.magnitude.2) 17 0 with
  | some d => d.stripZeros 20
  | none => exact x

theorem readsBack_of_onGrid {tie : Tie} {x : Binary64} {scale : Int} {d : Digits}
    (h : onGrid? tie x scale = some d) : d.readsBack x = true := by
  unfold onGrid? at h
  grind

/-- **A decimal found on a grid reads back.** -/
theorem readsBack_of_find {tie : Tie} {x : Binary64} {p : Int} {d : Digits} :
    ∀ {tries n : Nat}, find? tie x p tries n = some d → d.readsBack x = true
  | 0, _, h => by simp [find?] at h
  | tries + 1, n, h => by
      unfold find? at h
      split at h
      · rename_i d' hd
        cases h
        exact readsBack_of_onGrid hd
      · exact readsBack_of_find h

end UsageGrid.Decimal
