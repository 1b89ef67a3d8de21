import UsageGrid.Library.Stored
import UsageGrid.Proofs.Decimal.Rounding

/-!
# Success rates

A rate is a binary64 number, and so is nine tenths of one: each use rounds. All the same a rate stays
between zero and one, and as near to the rate in exact arithmetic as a rounding or two
(`IsRate.after`): what a step is wrong by, the next one takes a tenth off. A failure leaves less than
one (`toRat_decayed_lt_one`), and a success leaves one where it is (`rateAfter_one`).
-/

namespace UsageGrid.StoredDefinition

open Binary64

/-- The rate after another use, in exact arithmetic. -/
def exactRate (rate : ℚ) (success : Bool) : ℚ :=
  if success then 9 / 10 * rate + 1 / 10 else 9 / 10 * rate

/-- As far as a rate may be from the one in exact arithmetic. -/
def rateError : ℚ := 2 ^ (-48 : Int)

/-- A number that stands for a rate. -/
structure IsRate (x : Binary64) (rate : ℚ) : Prop where
  sign : x.negative = false
  le_one : x.toRat ≤ 1
  near : |x.toRat - rate| ≤ rateError

/-! ## 1. The tenths -/

theorem tenths_nine : tenths 9 = ⟨false, 8106479329266893, -53, by decide⟩ := by decide +kernel

theorem tenths_one : tenths 1 = ⟨false, 7205759403792794, -56, by decide⟩ := by decide +kernel

theorem one_eq : one = ⟨false, 2 ^ 52, -52, by decide⟩ := by decide +kernel

theorem toRat_one : one.toRat = 1 := by
  rw [one_eq]
  norm_num [toRat, size]

theorem toRat_of_sign {x : Binary64} (h : x.negative = false) : x.toRat = x.size := by
  unfold toRat
  rw [h]
  rfl

theorem toRat_nonneg {x : Binary64} (h : x.negative = false) : 0 ≤ x.toRat :=
  toRat_of_sign h ▸ x.size_nonneg

theorem size_tenths_nine : (tenths 9).size = 8106479329266893 * 2 ^ (-53 : Int) := by
  rw [tenths_nine]
  norm_num [size]

theorem size_tenths_one : (tenths 1).size = 7205759403792794 * 2 ^ (-56 : Int) := by
  rw [tenths_one]
  norm_num [size]

theorem sign_tenths_nine : (tenths 9).negative = false := by rw [tenths_nine]

theorem sign_tenths_one : (tenths 1).negative = false := by rw [tenths_one]

/-! ## 2. A failure -/

section

variable {x : Binary64} (hsign : x.negative = false) (hle : x.toRat ≤ 1)

include hsign hle

/-- Nine tenths of a rate, rounded: not more than nine tenths of one. -/
theorem decayed_facts : (decayed x).negative = false ∧
    (decayed x).toRat ≤ (tenths 9).size ∧
    |(decayed x).toRat - x.toRat * (tenths 9).size| ≤ 2 ^ (-54 : Int) := by
  have hx : x.size ≤ 1 := toRat_of_sign hsign ▸ hle
  have hproduct : x.size * (tenths 9).size ≤ (tenths 9).size :=
    mul_le_of_le_one_left (size_nonneg _) hx
  have hnine : (tenths 9).size < 2 ^ (0 : Int) := by
    rw [size_tenths_nine]
    norm_num
  obtain ⟨y, hy⟩ : ∃ y, x.mul? (tenths 9) = some y := by
    refine mul?_isSome ((hproduct.trans_lt hnine).trans_le (le_trans ?_ two_le_limit))
    norm_num
  have hden : 0 < x.magnitude.2 * (tenths 9).magnitude.2 :=
    Nat.mul_pos x.magnitude_pos (tenths 9).magnitude_pos
  have hexp := exponentOf_lt hden
    (by rw [cast_magnitude_mul]; exact hproduct.trans_lt hnine) (by norm_num)
  have hysign : y.negative = false := by
    rw [(round?_eq_some hden hy).1, hsign, sign_tenths_nine]
    rfl
  have hysize : y.size ≤ (8106479329266893 : Nat) * 2 ^ (-53 : Int) := by
    refine size_le_of_lt hden hy hexp ?_
    rw [cast_magnitude_mul]
    have hpos : (0 : ℚ) < 2 ^ (exponentOf (x.magnitude.1 * (tenths 9).magnitude.1)
      (x.magnitude.2 * (tenths 9).magnitude.2) - 1) := by positivity
    have hnat : ((8106479329266893 : Nat) : ℚ) = 8106479329266893 := by norm_num
    rw [hnat, ← size_tenths_nine]
    linarith
  have hdecayed : decayed x = y := by rw [decayed, hy]; rfl
  rw [hdecayed]
  refine ⟨hysign, ?_, ?_⟩
  · rw [toRat_of_sign hysign, size_tenths_nine]
    exact_mod_cast hysize
  · have hnear := mul?_near hy (hproduct.trans_lt hnine) (by norm_num)
    rwa [toRat_of_sign sign_tenths_nine] at hnear

/-- **After a failure a rate is less than one.** -/
theorem toRat_decayed_lt_one : (decayed x).toRat < 1 := by
  refine (decayed_facts hsign hle).2.1.trans_lt ?_
  rw [size_tenths_nine]
  norm_num

/-! ## 3. A success -/

theorem increased_pos : 0 < (decayed x).toRat + (tenths 1).toRat := by
  have hdecayed := toRat_nonneg (decayed_facts hsign hle).1
  have htenth : 0 < (tenths 1).size := by
    rw [size_tenths_one]
    norm_num
  rw [toRat_of_sign sign_tenths_one]
  linarith

/-- The two tenths are a little more than one together. -/
theorem increased_le : (decayed x).toRat + (tenths 1).toRat ≤ 1 + 2 ^ (-55 : Int) := by
  rw [toRat_of_sign sign_tenths_one]
  refine (add_le_add (decayed_facts hsign hle).2.1 le_rfl).trans (le_of_eq ?_)
  rw [size_tenths_nine, size_tenths_one]
  norm_num

theorem abs_increased_lt : |(decayed x).toRat + (tenths 1).toRat| < 2 ^ (1 : Int) := by
  rw [abs_of_pos (increased_pos hsign hle)]
  refine (increased_le hsign hle).trans_lt ?_
  norm_num

omit hsign hle in
/-- What is that little more than one is rounded to one. -/
theorem size_round_le_one {num den : Nat} {z : Binary64} (hden : 0 < den)
    (hround : round? false num den = some z) (hle : (num / den : ℚ) ≤ 1 + 2 ^ (-55 : Int)) :
    z.size ≤ 1 := by
  have hexp : exponentOf num den ≤ -52 :=
    exponentOf_lt (k := 1) hden (hle.trans_lt (by norm_num)) (by norm_num)
  have hone : ((2 ^ 52 : Nat) : ℚ) * 2 ^ (-52 : Int) = 1 := by norm_num
  have hsize : z.size ≤ (2 ^ 52 : Nat) * 2 ^ (-52 : Int) := by
    refine size_le_of_lt hden hround hexp ?_
    rw [hone]
    -- either the last place has the weight it has from one on, or the number is less than one
    by_cases htop : exponentOf num den = -52
    · rw [htop]
      refine hle.trans_lt ?_
      norm_num
    · have hlt : (num / den : ℚ) < 2 ^ (0 : Int) :=
        (div_lt_exponentOf num hden).trans_le
          (zpow_le_zpow_right₀ one_le_two (by omega))
      have hlt' : (2 : ℚ) ^ (0 : Int) = 1 := zpow_zero 2
      have hhalf : (0 : ℚ) < 2 ^ (exponentOf num den - 1) := by positivity
      linarith
  exact hsize.trans hone.le

/-- The sum is rounded as a fraction that is not negative. -/
theorem exists_round_increased {z : Binary64} (hz : (decayed x).add? (tenths 1) = some z) :
    ∃ num den, 0 < den ∧ round? false num den = some z ∧
      (decayed x).toRat + (tenths 1).toRat = (num / den : ℚ) := by
  have hpos := increased_pos hsign hle
  obtain ⟨negative, num, den, hden, heq, hvalue⟩ := add?_eq (decayed x) (tenths 1)
  have hnonneg : (0 : ℚ) ≤ num / den := by positivity
  cases negative with
  | true =>
    rw [if_pos rfl] at hvalue
    linarith
  | false => exact ⟨num, den, hden, heq.symm.trans hz, hvalue⟩

/-- A tenth more, rounded: not more than one. -/
theorem succeeded_facts : (rateAfter x true).negative = false ∧ (rateAfter x true).toRat ≤ 1 ∧
    |(rateAfter x true).toRat - ((decayed x).toRat + (tenths 1).size)| ≤ 2 ^ (-53 : Int) := by
  have habs := abs_increased_lt hsign hle
  obtain ⟨z, hz⟩ : ∃ z, (decayed x).add? (tenths 1) = some z := by
    refine add?_isSome (habs.trans_le (le_trans ?_ two_le_limit))
    norm_num
  obtain ⟨num, den, hden, hround, hvalue⟩ := exists_round_increased hsign hle hz
  have hafter : rateAfter x true = z := by
    unfold rateAfter
    rw [if_pos rfl, hz]
    rfl
  have hzsign : z.negative = false := (round?_eq_some hden hround).1
  rw [hafter]
  refine ⟨hzsign, ?_, ?_⟩
  · rw [toRat_of_sign hzsign]
    exact size_round_le_one hden hround (hvalue ▸ increased_le hsign hle)
  · have hnear := add?_near hz habs (by norm_num)
    rwa [toRat_of_sign sign_tenths_one] at hnear

end

/-! ## 4. Any use -/

theorem isRate_one : IsRate one 1 where
  sign := by rw [one_eq]
  le_one := toRat_one.le
  near := by
    rw [toRat_one, sub_self, abs_zero]
    unfold rateError
    positivity

theorem IsRate.nonneg {x : Binary64} {rate : ℚ} (h : IsRate x rate) : 0 ≤ x.toRat :=
  toRat_nonneg h.sign

theorem near_tenths_nine : |(tenths 9).size - 9 / 10| ≤ 2 ^ (-54 : Int) := by
  rw [size_tenths_nine, abs_le]
  norm_num

theorem near_tenths_one : |(tenths 1).size - 1 / 10| ≤ 2 ^ (-56 : Int) := by
  rw [size_tenths_one, abs_le]
  norm_num

/-- What a rate is wrong by is less by a tenth after a failure, but for the rounding. -/
theorem IsRate.near_decayed {x : Binary64} {rate : ℚ} (h : IsRate x rate) :
    |(decayed x).toRat - 9 / 10 * rate| ≤ 9 / 10 * rateError + 2 ^ (-53 : Int) := by
  obtain ⟨-, -, hround⟩ := decayed_facts h.sign h.le_one
  have hsplit : (decayed x).toRat - 9 / 10 * rate
      = ((decayed x).toRat - x.toRat * (tenths 9).size)
        + (x.toRat * ((tenths 9).size - 9 / 10) + 9 / 10 * (x.toRat - rate)) := by ring
  have hnine : |x.toRat * ((tenths 9).size - 9 / 10)| ≤ 1 * 2 ^ (-54 : Int) := by
    rw [abs_mul]
    exact mul_le_mul (abs_le.2 ⟨by linarith [h.nonneg], h.le_one⟩) near_tenths_nine
      (abs_nonneg _) zero_le_one
  have hbefore : |9 / 10 * (x.toRat - rate)| ≤ 9 / 10 * rateError := by
    rw [abs_mul, abs_of_pos (by norm_num)]
    exact mul_le_mul_of_nonneg_left h.near (by norm_num)
  have htwo : (2 : ℚ) ^ (-53 : Int) = 2 ^ (-54 : Int) + 1 * 2 ^ (-54 : Int) := by norm_num
  have hinner := (abs_add_le (x.toRat * ((tenths 9).size - 9 / 10))
    (9 / 10 * (x.toRat - rate))).trans (add_le_add hnine hbefore)
  rw [hsplit, htwo]
  refine (abs_add_le _ _).trans ((add_le_add hround hinner).trans (le_of_eq ?_))
  ring

/-- **A rate stays a rate, and near the exact one.** -/
theorem IsRate.after {x : Binary64} {rate : ℚ} (h : IsRate x rate) (success : Bool) :
    IsRate (rateAfter x success) (exactRate rate success) := by
  have hfailed := h.near_decayed
  cases success with
  | false =>
    refine ⟨(decayed_facts h.sign h.le_one).1, (toRat_decayed_lt_one h.sign h.le_one).le,
      hfailed.trans ?_⟩
    norm_num [rateError]
  | true =>
    obtain ⟨hsign, hle, hnear⟩ := succeeded_facts h.sign h.le_one
    refine ⟨hsign, hle, ?_⟩
    have hsplit : (rateAfter x true).toRat - exactRate rate true
        = ((rateAfter x true).toRat - ((decayed x).toRat + (tenths 1).size))
          + (((decayed x).toRat - 9 / 10 * rate) + ((tenths 1).size - 1 / 10)) := by
      unfold exactRate
      rw [if_pos rfl]
      ring
    rw [hsplit]
    refine (abs_add_le _ _).trans ?_
    have hinner := (abs_add_le ((decayed x).toRat - 9 / 10 * rate) ((tenths 1).size - 1 / 10)).trans
      (add_le_add hfailed near_tenths_one)
    refine (add_le_add hnear hinner).trans ?_
    norm_num [rateError]

/-- **A rate of one stays there when there is another success.** -/
theorem rateAfter_one : rateAfter one true = one := by decide +kernel

end UsageGrid.StoredDefinition
