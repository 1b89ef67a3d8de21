import Mathlib.Algebra.Order.Field.Power
import Mathlib.Tactic.FieldSimp
import Mathlib.Tactic.Linarith
import Mathlib.Tactic.NormNum
import Mathlib.Tactic.Positivity
import Mathlib.Tactic.Ring
import Mathlib.Tactic.GCongr
import UsageGrid.Decimal.Binary64
import UsageGrid.Decimal.Shortest

/-!
# Rounding, as rational numbers

What the operations on binary64 numbers do to the values. A value is a rational number (`toRat`,
without its sign `size`):

* a fraction is rounded to a number no more than half a unit of its last place away (`size_near`),
  and to some number as long as it is below the `limit` of the range (`round?_isSome`);
* a product and a sum are rounded so (`mul?_near`, `add?_near`), and numbers are compared by their
  values (`cmp_eq`).
-/

namespace UsageGrid.Binary64

/-- The value without its sign. -/
def size (x : Binary64) : ℚ := x.mantissa * 2 ^ x.exponent

/-- The value. -/
def toRat (x : Binary64) : ℚ := if x.negative then -x.size else x.size

/-! ## 1. The exponent of a fraction -/

theorem cast_two_pow (k : Nat) : ((Nat.pow 2 k : Nat) : ℚ) = 2 ^ (k : Int) := by
  rw [Nat.pow_eq, Nat.cast_pow, zpow_natCast, Nat.cast_two]

section

variable {num den : Nat}

theorem scaled_pos (num : Nat) (hden : 0 < den) (e : Int) : 0 < (scaled num den e).2 := by
  unfold scaled
  split
  · exact Nat.mul_pos hden (Nat.two_pow_pos _)
  · exact hden

/-- The fraction over a power of two. -/
theorem scaled_div (num den : Nat) (e : Int) :
    ((scaled num den e).1 : ℚ) / (scaled num den e).2 = (num / den : ℚ) / 2 ^ e := by
  unfold scaled
  by_cases he : 0 ≤ e
  · obtain ⟨k, rfl⟩ := Int.eq_ofNat_of_zero_le he
    rw [if_pos he, Int.toNat_natCast, Nat.cast_mul, cast_two_pow, div_div]
  · obtain ⟨k, hk⟩ := Int.eq_ofNat_of_zero_le (show 0 ≤ -e by omega)
    obtain rfl : e = -(k : Int) := by omega
    rw [if_neg he, Int.neg_neg, Int.toNat_natCast, Nat.cast_mul, cast_two_pow, zpow_neg,
      div_inv_eq_mul, div_mul_eq_mul_div]

/-- A fraction lies within a factor of two of the power of two that its logarithms tell. -/
theorem log2_bounds (hnum : num ≠ 0) (hden : 0 < den) :
    (2 : ℚ) ^ ((Nat.log2 num : Int) - Nat.log2 den - 1) < num / den ∧
      (num / den : ℚ) < 2 ^ ((Nat.log2 num : Int) - Nat.log2 den + 1) := by
  have hn : ((2 ^ Nat.log2 num : Nat) : ℚ) ≤ num := by exact_mod_cast Nat.log2_self_le hnum
  have hn' : (num : ℚ) < (2 ^ (Nat.log2 num + 1) : Nat) := by
    exact_mod_cast Nat.lt_log2_self
  have hd : ((2 ^ Nat.log2 den : Nat) : ℚ) ≤ den := by
    exact_mod_cast Nat.log2_self_le hden.ne'
  have hd' : (den : ℚ) < (2 ^ (Nat.log2 den + 1) : Nat) := by
    exact_mod_cast Nat.lt_log2_self
  have hpos : (0 : ℚ) < den := by exact_mod_cast hden
  push_cast at hn hn' hd hd'
  constructor
  · rw [lt_div_iff₀ hpos]
    calc (2 : ℚ) ^ ((Nat.log2 num : Int) - Nat.log2 den - 1) * den
        < 2 ^ ((Nat.log2 num : Int) - Nat.log2 den - 1) * 2 ^ (Nat.log2 den + 1) := by gcongr
      _ = 2 ^ Nat.log2 num := by
          rw [← zpow_natCast, ← zpow_natCast, ← zpow_add₀ two_ne_zero]
          congr 1
          push_cast
          ring
      _ ≤ num := hn
  · rw [div_lt_iff₀ hpos]
    calc (num : ℚ) < 2 ^ (Nat.log2 num + 1) := hn'
      _ = 2 ^ ((Nat.log2 num : Int) - Nat.log2 den + 1) * 2 ^ Nat.log2 den := by
          rw [← zpow_natCast, ← zpow_natCast, ← zpow_add₀ two_ne_zero]
          congr 1
          push_cast
          ring
      _ ≤ 2 ^ ((Nat.log2 num : Int) - Nat.log2 den + 1) * den := by gcongr

theorem lt_div_iff_cast {n d k : Nat} (hd : 0 < d) : k ≤ n / d ↔ (k : ℚ) ≤ n / d := by
  rw [Nat.le_div_iff_mul_le hd, le_div_iff₀ (by exact_mod_cast hd)]
  exact_mod_cast Iff.rfl

theorem exponentOf_ge (num den : Nat) : -1074 ≤ exponentOf num den := by
  unfold exponentOf
  split
  · exact Int.le_refl _
  · dsimp only
    split <;> omega

/-- The mantissa has no more than 53 bits. -/
theorem div_lt_exponentOf (num : Nat) (hden : 0 < den) :
    (num / den : ℚ) < 2 ^ (53 + exponentOf num den) := by
  by_cases hnum : num = 0
  · subst hnum
    simp only [Nat.cast_zero, zero_div]
    positivity
  · obtain ⟨-, hhi⟩ := log2_bounds hnum hden
    have htop (e : Int) (he : (Nat.log2 num : Int) - Nat.log2 den + 1 ≤ 53 + e) :
        (num / den : ℚ) < 2 ^ (53 + e) := hhi.trans_le (zpow_le_zpow_right₀ one_le_two he)
    unfold exponentOf
    rw [if_neg hnum]
    dsimp only
    split
    · exact htop _ (by omega)
    · rename_i hfits
      rw [lt_div_iff_cast (scaled_pos _ hden _), scaled_div, not_le] at hfits
      rwa [div_lt_iff₀ (by positivity), cast_two_pow, ← zpow_add₀ two_ne_zero] at hfits

/-- The mantissa has 53 bits, unless the exponent is the least one. -/
theorem exponentOf_le_div (hden : 0 < den) (h : exponentOf num den ≠ -1074) :
    (2 : ℚ) ^ (52 + exponentOf num den) ≤ num / den := by
  by_cases hnum : num = 0
  · exact absurd (by simp [exponentOf, hnum]) h
  · obtain ⟨hlo, -⟩ := log2_bounds hnum hden
    revert h
    unfold exponentOf
    rw [if_neg hnum]
    dsimp only
    split
    · rename_i hfits
      intro _
      rw [lt_div_iff_cast (scaled_pos _ hden _), scaled_div, le_div_iff₀ (by positivity),
        cast_two_pow, ← zpow_add₀ two_ne_zero] at hfits
      exact (zpow_le_zpow_right₀ one_le_two (by omega)).trans hfits
    · intro h
      exact (zpow_le_zpow_right₀ one_le_two (by omega)).trans hlo.le

theorem exponentOf_lt {k : Int} (hden : 0 < den) (hk : (num / den : ℚ) < 2 ^ k)
    (hleast : -1074 ≤ k - 53) : exponentOf num den ≤ k - 53 := by
  by_cases h : exponentOf num den = -1074
  · omega
  · have hlt := (exponentOf_le_div hden h).trans_lt hk
    have := (zpow_lt_zpow_iff_right₀ one_lt_two).1 hlt
    omega

/-! ## 2. Rounding -/

theorem roundDiv_bounds {n d : Nat} (hd : 0 < d) :
    2 * n ≤ 2 * d * roundDiv n d + d ∧ 2 * d * roundDiv n d ≤ 2 * n + d := by
  have hn : d * (n / d) + n % d = n := Nat.div_add_mod n d
  have hr : n % d < d := Nat.mod_lt n hd
  have hsucc : 2 * d * (n / d + 1) = 2 * (d * (n / d)) + 2 * d := by
    rw [Nat.mul_succ, Nat.mul_assoc]
  have hmul : 2 * d * (n / d) = 2 * (d * (n / d)) := Nat.mul_assoc _ _ _
  unfold roundDiv
  dsimp only
  split
  · omega
  · split
    · omega
    · split <;> omega

theorem roundDiv_near {n d : Nat} (hd : 0 < d) :
    |(roundDiv n d : ℚ) - n / d| ≤ 1 / 2 := by
  obtain ⟨hlo, hhi⟩ := roundDiv_bounds (n := n) hd
  have hpos : (0 : ℚ) < d := by exact_mod_cast hd
  have hlo' : 2 * (n : ℚ) ≤ 2 * d * roundDiv n d + d := by exact_mod_cast hlo
  have hhi' : 2 * (d : ℚ) * roundDiv n d ≤ 2 * n + d := by exact_mod_cast hhi
  have hn : (n : ℚ) = n / d * d := (div_mul_cancel₀ _ hpos.ne').symm
  rw [abs_le]
  constructor <;> nlinarith

/-- The mantissa before it is brought into canonical form. -/
def rounded (num den : Nat) : Nat :=
  roundDiv (scaled num den (exponentOf num den)).1 (scaled num den (exponentOf num den)).2

theorem rounded_near (num : Nat) (hden : 0 < den) :
    |rounded num den * 2 ^ exponentOf num den - (num / den : ℚ)|
      ≤ 2 ^ (exponentOf num den - 1) := by
  have hpos : (0 : ℚ) < 2 ^ exponentOf num den := by positivity
  have h := roundDiv_near (n := (scaled num den (exponentOf num den)).1)
    (scaled_pos num hden (exponentOf num den))
  rw [scaled_div] at h
  calc |(rounded num den : ℚ) * 2 ^ exponentOf num den - num / den|
      = |(rounded num den : ℚ) - num / den / 2 ^ exponentOf num den|
          * 2 ^ exponentOf num den := by
        rw [← abs_of_pos hpos, ← abs_mul, sub_mul, abs_of_pos hpos, div_mul_cancel₀ _ hpos.ne']
    _ ≤ 1 / 2 * 2 ^ exponentOf num den := by gcongr; exact h
    _ = 2 ^ (exponentOf num den - 1) := by
        rw [zpow_sub_one₀ two_ne_zero]
        ring

theorem rounded_le (num : Nat) (hden : 0 < den) : rounded num den ≤ 2 ^ 53 := by
  have hd := scaled_pos num hden (exponentOf num den)
  have hlt := div_lt_exponentOf num hden
  rw [zpow_add₀ two_ne_zero, ← div_lt_iff₀ (by positivity), ← scaled_div,
    div_lt_iff₀ (by exact_mod_cast hd)] at hlt
  have hlt' : (scaled num den (exponentOf num den)).1
      < 2 ^ 53 * (scaled num den (exponentOf num den)).2 := by exact_mod_cast hlt
  obtain ⟨-, hhi⟩ := roundDiv_bounds (n := (scaled num den (exponentOf num den)).1) hd
  unfold rounded
  generalize (scaled num den (exponentOf num den)).1 = n at *
  generalize (scaled num den (exponentOf num den)).2 = d at *
  by_contra hgt
  have : 2 * d * (2 ^ 53 + 1) ≤ 2 * d * roundDiv n d :=
    Nat.mul_le_mul_left _ (Nat.succ_le_of_lt (Nat.not_le.1 hgt))
  omega

theorem rounded_ge (hden : 0 < den) (h : exponentOf num den ≠ -1074) :
    2 ^ 52 ≤ rounded num den := by
  have hd := scaled_pos num hden (exponentOf num den)
  have hle := exponentOf_le_div hden h
  rw [zpow_add₀ two_ne_zero, ← le_div_iff₀ (by positivity), ← scaled_div,
    le_div_iff₀ (by exact_mod_cast hd)] at hle
  have hle' : 2 ^ 52 * (scaled num den (exponentOf num den)).2
      ≤ (scaled num den (exponentOf num den)).1 := by exact_mod_cast hle
  obtain ⟨hlo, -⟩ := roundDiv_bounds (n := (scaled num den (exponentOf num den)).1) hd
  unfold rounded
  generalize (scaled num den (exponentOf num den)).1 = n at *
  generalize (scaled num den (exponentOf num den)).2 = d at *
  by_contra hlt
  have : 2 * d * roundDiv n d + 2 * d ≤ 2 * d * 2 ^ 52 := by
    rw [← Nat.mul_succ]
    exact Nat.mul_le_mul_left _ (Nat.succ_le_of_lt (Nat.not_le.1 hlt))
  omega

/-- What comes of rounding has the value of the mantissa before, whichever form that takes. -/
theorem round?_eq_some {negative : Bool} {x : Binary64} (hden : 0 < den)
    (h : round? negative num den = some x) :
    x.negative = negative ∧ x.size = rounded num den * 2 ^ exponentOf num den := by
  have hle := rounded_le num hden
  have hge := exponentOf_ge num den
  unfold round? at h
  dsimp only at h
  split at h
  · cases h
    exact ⟨rfl, rfl⟩
  · split at h
    · rename_i hbig
      cases h
      refine ⟨rfl, ?_⟩
      -- only the mantissa past 53 bits is halved
      have heq : rounded num den = 2 ^ 53 := by
        have := hbig.2.1
        have hpow : Nat.pow 2 52 = 2 ^ 52 := rfl
        unfold rounded at hle ⊢
        omega
      unfold size
      show ((rounded num den / 2 : Nat) : ℚ) * 2 ^ (exponentOf num den + 1) = _
      rw [heq, zpow_add_one₀ two_ne_zero]
      norm_num
      ring
    · cases h

theorem exponentOf_le_of_round? {negative : Bool} {x : Binary64}
    (h : round? negative num den = some x) : exponentOf num den ≤ 971 := by
  unfold round? at h
  dsimp only at h
  split at h
  · rename_i hc
    exact hc.2.2.2
  · split at h
    · rename_i hc
      have := hc.2.2.2
      omega
    · cases h

/-- **Rounding moves a number by no more than half a unit of its last place.** -/
theorem size_near {negative : Bool} {x : Binary64} (hden : 0 < den)
    (h : round? negative num den = some x) :
    |x.size - num / den| ≤ 2 ^ (exponentOf num den - 1) := by
  rw [(round?_eq_some hden h).2]
  exact rounded_near num hden

/-- Past the least numbers this is a part of the number itself. -/
theorem size_near_mul {negative : Bool} {x : Binary64} (hden : 0 < den)
    (h : round? negative num den = some x) (hleast : (2 : ℚ) ^ (-1022 : Int) ≤ num / den) :
    |x.size - num / den| ≤ num / den * 2 ^ (-53 : Int) := by
  have hunit : (2 : ℚ) ^ (52 + exponentOf num den) ≤ num / den := by
    by_cases hexp : exponentOf num den = -1074
    · rw [hexp]
      exact hleast
    · exact exponentOf_le_div hden hexp
  refine (size_near hden h).trans ?_
  calc (2 : ℚ) ^ (exponentOf num den - 1)
      = 2 ^ (52 + exponentOf num den) * 2 ^ (-53 : Int) := by
        rw [← zpow_add₀ two_ne_zero]
        congr 1
        ring
    _ ≤ num / den * 2 ^ (-53 : Int) := by gcongr

/-- **Rounding does not pass a number of the grid** that lies less than half a unit below. -/
theorem size_le_of_lt {negative : Bool} {x : Binary64} (hden : 0 < den)
    (h : round? negative num den = some x) {m : Nat} {e : Int} (he : exponentOf num den ≤ e)
    (hlt : (num / den : ℚ) < m * 2 ^ e + 2 ^ (exponentOf num den - 1)) : x.size ≤ m * 2 ^ e := by
  have hnear := (abs_le.1 (size_near hden h)).2
  rw [(round?_eq_some hden h).2] at hnear ⊢
  -- both are multiples of the unit at which the number is rounded
  obtain ⟨k, hk⟩ := Int.eq_ofNat_of_zero_le (sub_nonneg.2 he)
  have hgrid : (m : ℚ) * 2 ^ e = (m * 2 ^ k : Nat) * 2 ^ exponentOf num den := by
    rw [show e = k + exponentOf num den by omega, zpow_add₀ two_ne_zero, zpow_natCast]
    push_cast
    ring
  have hhalf : (2 : ℚ) ^ exponentOf num den = 2 * 2 ^ (exponentOf num den - 1) := by
    rw [← zpow_one_add₀ two_ne_zero]
    congr 1
    ring
  rw [hgrid] at hlt ⊢
  have hpos : (0 : ℚ) < 2 ^ exponentOf num den := by positivity
  have hsucc : (rounded num den : ℚ) * 2 ^ exponentOf num den
      < ((m * 2 ^ k : Nat) + 1 : ℚ) * 2 ^ exponentOf num den := by linarith
  have hlt' : rounded num den < m * 2 ^ k + 1 := by
    exact_mod_cast lt_of_mul_lt_mul_right hsucc hpos.le
  gcongr
  exact_mod_cast Nat.lt_succ_iff.1 hlt'

/-- Half a unit past the largest number, `2 ^ 1024 - 2 ^ 970`: from there on nothing is near. -/
def limit : ℚ := (2 ^ 54 - 1) * 2 ^ (970 : Int)

theorem limit_lt : limit < 2 ^ (1024 : Int) := by
  have : (2 : ℚ) ^ (1024 : Int) = 2 ^ 54 * 2 ^ (970 : Int) := by
    rw [← zpow_natCast, ← zpow_add₀ two_ne_zero]
    rfl
  rw [this]
  unfold limit
  gcongr
  exact sub_one_lt _

theorem two_le_limit : 2 ≤ limit := by
  have hunit : (1 : ℚ) ≤ 2 ^ (970 : Int) := one_le_zpow₀ one_le_two (by decide)
  have hpart : (2 : ℚ) ≤ (2 ^ 54 - 1) * 1 := by norm_num
  exact hpart.trans (mul_le_mul_of_nonneg_left hunit (by norm_num))

/-- The carry leads out of the range only from the greatest exponent, and that is past the limit. -/
theorem exponentOf_ne_of_carry (hden : 0 < den) (h : (num / den : ℚ) < limit)
    (hcarry : rounded num den = 2 ^ 53) : exponentOf num den ≠ 971 := by
  intro htop
  have hnear := (abs_le.1 (rounded_near num hden)).2
  have hunit : (2 : ℚ) ^ (971 : Int) = 2 * 2 ^ (970 : Int) := zpow_one_add₀ two_ne_zero 970
  have hhalf : (971 : Int) - 1 = 970 := rfl
  rw [htop, hcarry, hhalf, hunit] at hnear
  unfold limit at h
  generalize (2 : ℚ) ^ (970 : Int) = u at hnear h
  push_cast at hnear
  linarith

/-- **Below the limit every number is rounded to one in the range.** -/
theorem round?_isSome (negative : Bool) (hden : 0 < den) (h : (num / den : ℚ) < limit) :
    ∃ x, round? negative num den = some x := by
  have hge := exponentOf_ge num den
  have hle := rounded_le num hden
  have hexp : exponentOf num den ≤ 971 :=
    exponentOf_lt (k := 1024) hden (h.trans limit_lt) (by norm_num)
  unfold round?
  by_cases hcarry : rounded num den = 2 ^ 53
  · have hne := exponentOf_ne_of_carry hden h hcarry
    have hsecond : Canonical (rounded num den / 2) (exponentOf num den + 1) := by
      rw [hcarry]
      exact ⟨by decide, .inl (by decide), by omega, by omega⟩
    have hfirst : ¬ Canonical (rounded num den) (exponentOf num den) := by
      rw [hcarry]
      exact fun hc => absurd hc.1 (by decide)
    unfold rounded at hfirst hsecond
    dsimp only
    rw [dif_neg hfirst, dif_pos hsecond]
    exact ⟨_, rfl⟩
  · have hfirst : Canonical (rounded num den) (exponentOf num den) := by
      refine ⟨by have hpow : Nat.pow 2 53 = 2 ^ 53 := rfl; omega, ?_, hge, hexp⟩
      by_cases hleast : exponentOf num den = -1074
      · exact .inr hleast
      · exact .inl (rounded_ge hden hleast)
    unfold rounded at hfirst
    dsimp only
    rw [dif_pos hfirst]
    exact ⟨_, rfl⟩

end

/-! ## 3. Arithmetic -/

theorem size_nonneg (x : Binary64) : 0 ≤ x.size := by
  unfold size
  positivity

theorem size_lt_limit (x : Binary64) : x.size < limit := by
  have hm : (x.mantissa : ℚ) ≤ 2 ^ 53 - 1 := by
    have : x.mantissa + 1 ≤ 2 ^ 53 := x.canonical.1
    have : (x.mantissa : ℚ) + 1 ≤ 2 ^ 53 := by exact_mod_cast this
    linarith
  have hexp : (2 : ℚ) ^ x.exponent ≤ 2 * 2 ^ (970 : Int) := by
    rw [← zpow_one_add₀ two_ne_zero]
    exact zpow_le_zpow_right₀ one_le_two x.canonical.2.2.2
  have hpos : (0 : ℚ) < 2 ^ (970 : Int) := by positivity
  unfold size limit
  generalize (2 : ℚ) ^ (970 : Int) = u at hexp hpos
  calc (x.mantissa : ℚ) * 2 ^ x.exponent ≤ (2 ^ 53 - 1) * (2 * u) := by gcongr
    _ < (2 ^ 54 - 1) * u := by linarith

theorem magnitude_pos (x : Binary64) : 0 < x.magnitude.2 := by
  unfold magnitude
  split
  · exact Nat.one_pos
  · exact Nat.two_pow_pos _

theorem magnitude_div (x : Binary64) : (x.magnitude.1 : ℚ) / x.magnitude.2 = x.size := by
  unfold magnitude size
  by_cases he : 0 ≤ x.exponent
  · rw [if_pos he]
    dsimp only
    rw [Nat.cast_mul, cast_two_pow, Int.toNat_of_nonneg he, Nat.cast_one, div_one]
  · rw [if_neg he]
    dsimp only
    rw [cast_two_pow, Int.toNat_of_nonneg (by omega), zpow_neg, div_inv_eq_mul]

theorem cast_magnitude_mul (x y : Binary64) :
    ((x.magnitude.1 * y.magnitude.1 : Nat) : ℚ) / (x.magnitude.2 * y.magnitude.2 : Nat)
      = x.size * y.size := by
  rw [Nat.cast_mul, Nat.cast_mul, mul_div_mul_comm, magnitude_div, magnitude_div]

theorem div?_isSome {x y : Binary64} (hy : 0 < y.size) (h : x.size / y.size < limit) :
    ∃ z, x.div? y = some z := by
  have hpos : 0 < y.magnitude.1 := by
    rw [← magnitude_div] at hy
    by_contra h0
    rw [Nat.eq_zero_of_not_pos h0] at hy
    simp at hy
  refine round?_isSome _ (Nat.mul_pos x.magnitude_pos hpos) ?_
  rwa [Nat.cast_mul, Nat.cast_mul, mul_div_mul_comm, magnitude_div, ← inv_div, magnitude_div,
    ← div_eq_mul_inv]

theorem toRat_mul (x y : Binary64) : x.toRat * y.toRat
    = if x.negative != y.negative then -(x.size * y.size) else x.size * y.size := by
  unfold toRat
  cases x.negative <;> cases y.negative <;> simp

/-- Numbers with one sign are as near to each other as their sizes. -/
theorem toRat_near {x : Binary64} {negative : Bool} (h : x.negative = negative) (v : ℚ) :
    |x.toRat - (if negative then -v else v)| = |x.size - v| := by
  unfold toRat
  rw [h]
  cases negative with
  | false => rfl
  | true => rw [if_pos rfl, if_pos rfl, neg_sub_neg, abs_sub_comm]

/-- **A product below a power of two is rounded by at most half a unit.** -/
theorem mul?_near {x y z : Binary64} (h : x.mul? y = some z) {k : Int}
    (hk : x.size * y.size < 2 ^ k) (hleast : -1074 ≤ k - 53) :
    |z.toRat - x.toRat * y.toRat| ≤ 2 ^ (k - 54) := by
  have hden : 0 < x.magnitude.2 * y.magnitude.2 := Nat.mul_pos x.magnitude_pos y.magnitude_pos
  have hnear := size_near hden h
  have hexp := exponentOf_lt hden (by rwa [cast_magnitude_mul]) hleast
  rw [cast_magnitude_mul] at hnear
  rw [toRat_mul, toRat_near (round?_eq_some hden h).1]
  exact hnear.trans (zpow_le_zpow_right₀ one_le_two (by omega))

theorem mul?_isSome {x y : Binary64} (h : x.size * y.size < limit) : ∃ z, x.mul? y = some z :=
  round?_isSome _ (Nat.mul_pos x.magnitude_pos y.magnitude_pos) (by rwa [cast_magnitude_mul])

/-- A number as a whole multiple of a power of two. -/
theorem signedAt_mul_zpow (x : Binary64) {e : Int} (he : e ≤ x.exponent) :
    (x.signedAt e : ℚ) * 2 ^ e = x.toRat := by
  have hsize : (((x.mantissa : Int) * Nat.pow 2 (x.exponent - e).toNat : Int) : ℚ) * 2 ^ e
      = x.size := by
    unfold size
    rw [Int.cast_mul, Int.cast_natCast, Int.cast_natCast, cast_two_pow, mul_assoc,
      ← zpow_add₀ two_ne_zero]
    congr 2
    omega
  unfold signedAt toRat
  cases x.negative with
  | false => exact hsize
  | true => rw [if_pos rfl, if_pos rfl, Int.cast_neg, neg_mul, hsize]

/-- The two numbers as multiples of the smaller of their units. -/
theorem add_signedAt (x y : Binary64) :
    ((x.signedAt (min x.exponent y.exponent) + y.signedAt (min x.exponent y.exponent) : Int) : ℚ)
      * 2 ^ min x.exponent y.exponent = x.toRat + y.toRat := by
  rw [Int.cast_add, add_mul, signedAt_mul_zpow x (Int.min_le_left _ _),
    signedAt_mul_zpow y (Int.min_le_right _ _)]

/-- A sum is a fraction with a sign that is rounded. -/
theorem add?_eq (x y : Binary64) : ∃ negative num den, 0 < den ∧
    x.add? y = round? negative num den ∧
    x.toRat + y.toRat = if negative then -(num / den : ℚ) else num / den := by
  have hsum := add_signedAt x y
  unfold add?
  dsimp only
  generalize x.signedAt _ + y.signedAt _ = s at hsum ⊢
  generalize min x.exponent y.exponent = e at hsum ⊢
  have hsigned (v : ℚ) (hv : v = (s.natAbs : ℚ) * 2 ^ e) :
      x.toRat + y.toRat
        = if (if s = 0 then x.negative && y.negative else decide (s < 0)) then -v else v := by
    rw [← hsum, hv, Nat.cast_natAbs, Int.cast_abs]
    by_cases h0 : s = 0
    · simp [h0]
    · rw [if_neg h0]
      by_cases hneg : s < 0
      · have : (s : ℚ) < 0 := by exact_mod_cast hneg
        simp [hneg, abs_of_neg this]
      · have : (0 : ℚ) ≤ s := by exact_mod_cast not_lt.1 hneg
        simp [hneg, abs_of_nonneg this]
  by_cases he : 0 ≤ e
  · rw [if_pos he]
    refine ⟨_, _, 1, Nat.one_pos, rfl, hsigned _ ?_⟩
    rw [Nat.cast_mul, cast_two_pow, Int.toNat_of_nonneg he, Nat.cast_one, div_one]
  · rw [if_neg he]
    refine ⟨_, _, Nat.pow 2 (-e).toNat, Nat.two_pow_pos _, rfl, hsigned _ ?_⟩
    rw [cast_two_pow, Int.toNat_of_nonneg (by omega), zpow_neg, div_inv_eq_mul]

/-- **A sum below a power of two is rounded by at most half a unit.** -/
theorem add?_near {x y z : Binary64} (h : x.add? y = some z) {k : Int}
    (hk : |x.toRat + y.toRat| < 2 ^ k) (hleast : -1074 ≤ k - 53) :
    |z.toRat - (x.toRat + y.toRat)| ≤ 2 ^ (k - 54) := by
  obtain ⟨negative, num, den, hden, heq, hsum⟩ := add?_eq x y
  rw [heq] at h
  have hpos : (0 : ℚ) ≤ num / den := by positivity
  have hsize : |x.toRat + y.toRat| = num / den := by
    rw [hsum]
    cases negative <;> simp [abs_of_nonneg hpos]
  rw [hsum, toRat_near (round?_eq_some hden h).1]
  rw [hsize] at hk
  have hexp := exponentOf_lt hden hk hleast
  exact (size_near hden h).trans (zpow_le_zpow_right₀ one_le_two (by omega))

theorem add?_isSome {x y : Binary64} (h : |x.toRat + y.toRat| < limit) :
    ∃ z, x.add? y = some z := by
  obtain ⟨negative, num, den, hden, heq, hsum⟩ := add?_eq x y
  have hpos : (0 : ℚ) ≤ num / den := by positivity
  rw [heq]
  refine round?_isSome _ hden ?_
  rw [hsum] at h
  cases negative <;> simpa [abs_of_nonneg hpos] using h

/-- **Numbers are compared by their values.** -/
theorem cmp_eq (x y : Binary64) : x.cmp y = compare x.toRat y.toRat := by
  have hpos : (0 : ℚ) < 2 ^ min x.exponent y.exponent := by positivity
  rw [← signedAt_mul_zpow x (Int.min_le_left x.exponent y.exponent),
    ← signedAt_mul_zpow y (Int.min_le_right x.exponent y.exponent)]
  unfold cmp
  dsimp only
  generalize x.signedAt _ = a
  generalize y.signedAt _ = b
  rcases lt_trichotomy a b with hab | hab | hab
  · have : (a : ℚ) < b := by exact_mod_cast hab
    rw [compare_lt_iff_lt.2 hab, compare_lt_iff_lt.2 (by gcongr)]
  · rw [hab, compare_eq_iff_eq.2 rfl, compare_eq_iff_eq.2 rfl]
  · have : (b : ℚ) < a := by exact_mod_cast hab
    rw [compare_gt_iff_gt.2 hab, compare_gt_iff_gt.2 (by gcongr)]

end UsageGrid.Binary64

/-!
## How near the shortest decimal is

The decimal that a number is written as rounds to the number, or is its exact value; so it is never
far from it, not even at the end of the range (`shortest_near`).
-/

namespace UsageGrid.Decimal

open Binary64

def Digits.toRat (d : Digits) : ℚ := d.digits * 10 ^ d.scale

theorem Digits.stripZeros_toRat (n : Nat) (d : Digits) : (d.stripZeros n).toRat = d.toRat := by
  induction n generalizing d with
  | zero => rfl
  | succ n ih =>
    unfold Digits.stripZeros
    split
    · rename_i hzero
      rw [ih]
      have hd : d.digits = d.digits / 10 * 10 :=
        (Nat.div_mul_cancel (Nat.dvd_of_mod_eq_zero hzero)).symm
      unfold Digits.toRat
      conv_rhs => rw [hd]
      rw [zpow_add_one₀ (by norm_num)]
      push_cast
      ring
    · rfl

theorem exact_toRat (x : Binary64) : (exact x).toRat = x.size := by
  unfold exact Digits.toRat size
  by_cases he : 0 ≤ x.exponent
  · rw [if_pos he]
    dsimp only
    rw [Nat.cast_mul, cast_two_pow, Int.toNat_of_nonneg he, zpow_zero, mul_one]
  · rw [if_neg he]
    obtain ⟨k, hk⟩ := Int.eq_ofNat_of_zero_le (show 0 ≤ -x.exponent by omega)
    obtain hk' : x.exponent = -(k : Int) := by omega
    have hten : (10 : ℚ) ^ k = 2 ^ k * 5 ^ k := by
      rw [← mul_pow]
      norm_num
    dsimp only
    rw [hk, Int.toNat_natCast, hk', zpow_neg, zpow_neg, zpow_natCast, zpow_natCast, hten]
    push_cast [Nat.pow_eq]
    field_simp

/-- A decimal that reads back is within half a unit of the last place of its number. -/
theorem Digits.near_of_readsBack {d : Digits} {x : Binary64} (hx : x.mantissa ≠ 0)
    (h : d.readsBack x = true) : |d.toRat - x.size| ≤ 2 ^ (970 : Int) := by
  have hround {num den : Nat} (hden : 0 < den) (hr : round? x.negative num den = some x) :
      |(num / den : ℚ) - x.size| ≤ 2 ^ (970 : Int) := by
    rw [abs_sub_comm]
    refine (size_near hden hr).trans (zpow_le_zpow_right₀ one_le_two ?_)
    have := exponentOf_le_of_round? hr
    omega
  have hzero : some { zero with negative := x.negative } ≠ some x := fun h =>
    hx (Option.some.inj h ▸ rfl)
  have h := eq_of_beq h
  unfold ofDecimal? at h
  split at h
  · exact absurd h hzero
  · split at h
    · cases h
    · split at h
      · exact absurd h hzero
      · split at h
        · rename_i hscale
          have := hround Nat.one_pos h
          unfold Digits.toRat
          rwa [Nat.cast_mul, Nat.cast_one, div_one, Nat.pow_eq, Nat.cast_pow, Nat.cast_ofNat,
            ← zpow_natCast, Int.toNat_of_nonneg hscale] at this
        · have := hround (Nat.pow_pos (by decide)) h
          unfold Digits.toRat
          rwa [Nat.cast_pow, Nat.cast_ofNat, ← zpow_natCast, Int.toNat_of_nonneg (by omega),
            zpow_neg, div_inv_eq_mul] at this

/-- **The shortest decimal is within half a unit of the greatest numbers.** -/
theorem shortest_near (tie : Tie) {x : Binary64} (hx : x.mantissa ≠ 0) :
    |(shortest tie x).toRat - x.size| ≤ 2 ^ (970 : Int) := by
  unfold shortest
  split
  · rename_i d hd
    rw [Digits.stripZeros_toRat]
    exact Digits.near_of_readsBack hx (readsBack_of_find hd)
  · rw [exact_toRat, sub_self, abs_zero]
    positivity

/-- A number other than zero is not written as zero. -/
theorem shortest_digits (tie : Tie) {x : Binary64} (hx : x.mantissa ≠ 0) :
    (shortest tie x).digits ≠ 0 := by
  have hzero (d : Digits) (h : d.digits = 0) : d.readsBack x = false := by
    unfold Digits.readsBack ofDecimal?
    rw [if_pos h, beq_eq_false_iff_ne]
    exact fun h => hx (Option.some.inj h ▸ rfl)
  have hpos : 0 < (shortest tie x).toRat := by
    unfold shortest
    split
    · rename_i d hd
      rw [Digits.stripZeros_toRat]
      have hd0 : d.digits ≠ 0 := fun h0 => by
        have := readsBack_of_find hd
        rw [hzero d h0] at this
        cases this
      unfold Digits.toRat
      have : (0 : ℚ) < d.digits := by exact_mod_cast Nat.pos_of_ne_zero hd0
      positivity
    · rw [exact_toRat]
      have : (0 : ℚ) < x.mantissa := by exact_mod_cast Nat.pos_of_ne_zero hx
      unfold size
      positivity
  intro h0
  unfold Digits.toRat at hpos
  rw [h0] at hpos
  simp at hpos

end UsageGrid.Decimal
