import Mathlib.Algebra.Group.Nat.Defs
import UsageGrid.Json.Typed
import UsageGrid.Table

/-!
# Whole numbers among the binary64 numbers

A number whose value is whole is known by that value, the sign of zero aside
(`sameValue_of_toInt?`). A whole number of at most 53 bits is such a value exactly (`ofInt?_exact`).
So nothing is lost where a value of a table is written without a point (`asFloat_number`).
-/

namespace UsageGrid.Binary64

/-! ## 1. Multiples of a power of two -/

/-- A number as a multiple of a smaller power of two. -/
theorem signedAt_mul (x : Binary64) {e f : Int} (hfe : f ≤ e) (he : e ≤ x.exponent) :
    x.signedAt f = x.signedAt e * (2 ^ (e - f).toNat : Nat) := by
  have hsplit : (x.exponent - f).toNat = (x.exponent - e).toNat + (e - f).toNat := by omega
  have hpow : (Nat.pow 2 (x.exponent - f).toNat : Int)
      = (Nat.pow 2 (x.exponent - e).toNat : Int) * (2 ^ (e - f).toNat : Nat) := by
    rw [hsplit]
    exact_mod_cast Nat.pow_add 2 _ _
  unfold signedAt
  rw [hpow, ← Int.mul_assoc]
  cases x.negative with
  | false => rfl
  | true => exact (Int.neg_mul _ _).symm

/-- The value of a whole number as a multiple of a power of two that is not above one. -/
theorem signedAt_of_toInt? {x : Binary64} {n : Int} (h : x.toInt? = some n) {e : Int}
    (he : e ≤ x.exponent) (h0 : e ≤ 0) : x.signedAt e = n * (2 ^ (-e).toNat : Nat) := by
  unfold toInt? magnitude at h
  by_cases hexp : 0 ≤ x.exponent
  · have hone : x.signedAt 0 = n := by
      rw [if_pos hexp] at h
      simp only [Nat.mod_one, if_true, Nat.div_one, Option.some.injEq] at h
      unfold signedAt
      rw [Int.sub_zero, ← h]
      cases x.negative <;> simp
    rw [x.signedAt_mul h0 hexp, hone, Int.zero_sub]
  · have hdown : x.signedAt x.exponent = n * (2 ^ (-x.exponent).toNat : Nat) := by
      rw [if_neg hexp] at h
      by_cases hdvd : x.mantissa % Nat.pow 2 (-x.exponent).toNat = 0
      · simp only [if_pos hdvd, Option.some.injEq] at h
        have hm : (x.mantissa : Int)
            = (x.mantissa / Nat.pow 2 (-x.exponent).toNat : Nat)
              * (2 ^ (-x.exponent).toNat : Nat) := by
          exact_mod_cast (Nat.div_mul_cancel (Nat.dvd_of_mod_eq_zero hdvd)).symm
        unfold signedAt
        rw [Int.sub_self, ← h]
        cases x.negative with
        | false => simpa using hm
        | true => simpa [Int.neg_mul] using hm
      · simp only [if_neg hdvd] at h
        cases h
    have hsplit : (2 ^ (-x.exponent).toNat : Nat) * 2 ^ (x.exponent - e).toNat
        = 2 ^ (-e).toNat := by
      rw [← Nat.pow_add]
      congr 1
      omega
    rw [x.signedAt_mul he (Int.le_refl _), hdown, Int.mul_assoc]
    congr 1
    exact_mod_cast hsplit

/-- **A number is known by its value if that is whole.** -/
theorem sameValue_of_toInt? {x y : Binary64} {n : Int} (hx : x.toInt? = some n)
    (hy : y.toInt? = some n) : x.sameValue y = true := by
  have hle : min x.exponent y.exponent ≤ x.exponent := Int.min_le_left _ _
  have hle' : min x.exponent y.exponent ≤ y.exponent := Int.min_le_right _ _
  obtain ⟨f, hf, hf0⟩ : ∃ f, f ≤ min x.exponent y.exponent ∧ f ≤ 0 :=
    ⟨min (min x.exponent y.exponent) 0, Int.min_le_left _ _, Int.min_le_right _ _⟩
  have hpos : ((2 ^ (min x.exponent y.exponent - f).toNat : Nat) : Int) ≠ 0 :=
    Int.natCast_ne_zero.2 (Nat.ne_of_gt (Nat.two_pow_pos _))
  have hsame : x.signedAt (min x.exponent y.exponent) = y.signedAt (min x.exponent y.exponent) := by
    apply Int.eq_of_mul_eq_mul_right hpos
    rw [← x.signedAt_mul hf hle, ← y.signedAt_mul hf hle',
      signedAt_of_toInt? hx (Int.le_trans hf hle) hf0,
      signedAt_of_toInt? hy (Int.le_trans hf hle') hf0]
  unfold sameValue cmp
  dsimp only
  rw [hsame, Std.ReflOrd.compare_self]
  rfl

theorem sameValue_refl (x : Binary64) : x.sameValue x = true := by
  unfold sameValue cmp
  dsimp only
  rw [Std.ReflOrd.compare_self]
  rfl

/-! ## 2. Whole numbers of 53 bits -/

theorem roundDiv_one (n : Nat) : roundDiv n 1 = n := by
  simp [roundDiv, Nat.mod_one]

/-- A positive number of 53 bits has its leading bit at `log2`. -/
theorem exponentOf_one {k : Nat} (h0 : k ≠ 0) (h : k < 2 ^ 53) :
    exponentOf k 1 = (Nat.log2 k : Int) - 52 := by
  have hlog : Nat.log2 k < 53 := (Nat.log2_lt h0).2 h
  have hone : Nat.log2 1 = 0 := by decide
  have hmax : max (-1074) ((Nat.log2 k : Int) - (0 : Nat) - 53) = (Nat.log2 k : Int) - 53 := by omega
  have hneg : ¬ 0 ≤ (Nat.log2 k : Int) - 53 := by omega
  have hshift : (-((Nat.log2 k : Int) - 53)).toNat = 53 - Nat.log2 k := by omega
  have hbits : Nat.pow 2 53 ≤ k * Nat.pow 2 (53 - Nat.log2 k) := by
    calc Nat.pow 2 53 = 2 ^ Nat.log2 k * 2 ^ (53 - Nat.log2 k) := by
          rw [← Nat.pow_add, Nat.add_sub_cancel' (Nat.le_of_lt hlog)]
      _ ≤ k * Nat.pow 2 (53 - Nat.log2 k) := Nat.mul_le_mul_right _ (Nat.log2_self_le h0)
  unfold exponentOf scaled
  rw [if_neg h0, hone, hmax]
  dsimp only
  rw [if_neg hneg, hshift]
  dsimp only
  rw [Nat.div_one, if_pos hbits]
  omega

/-- Moved up to 53 bits a positive number is a mantissa. -/
theorem canonical_shifted {k : Nat} (h0 : k ≠ 0) (h : k < 2 ^ 53) :
    Canonical (k * 2 ^ (52 - Nat.log2 k)) ((Nat.log2 k : Int) - 52) := by
  have hlog : Nat.log2 k < 53 := (Nat.log2_lt h0).2 h
  refine ⟨?_, .inl ?_, by omega, by omega⟩
  · calc k * 2 ^ (52 - Nat.log2 k) < 2 ^ (Nat.log2 k + 1) * 2 ^ (52 - Nat.log2 k) :=
          Nat.mul_lt_mul_of_pos_right Nat.lt_log2_self (Nat.two_pow_pos _)
      _ = Nat.pow 2 53 := by
          rw [← Nat.pow_add]
          congr 1
          omega
  · calc Nat.pow 2 52 = 2 ^ Nat.log2 k * 2 ^ (52 - Nat.log2 k) := by
          rw [← Nat.pow_add]
          congr 1
          omega
      _ ≤ k * 2 ^ (52 - Nat.log2 k) := Nat.mul_le_mul_right _ (Nat.log2_self_le h0)

theorem round?_one {k : Nat} (h0 : k ≠ 0) (h : k < 2 ^ 53) (negative : Bool) :
    round? negative k 1 = some ⟨negative, _, _, canonical_shifted h0 h⟩ := by
  have hlog : Nat.log2 k < 53 := (Nat.log2_lt h0).2 h
  have hscaled : scaled k 1 ((Nat.log2 k : Int) - 52) = (k * 2 ^ (52 - Nat.log2 k), 1) := by
    unfold scaled
    by_cases htop : 0 ≤ (Nat.log2 k : Int) - 52
    · have : Nat.log2 k = 52 := by omega
      rw [if_pos htop, this]
      simp
    · have hshift : (-((Nat.log2 k : Int) - 52)).toNat = 52 - Nat.log2 k := by omega
      rw [if_neg htop, hshift]
      rfl
  unfold round?
  rw [exponentOf_one h0 h]
  dsimp only
  rw [hscaled]
  dsimp only
  rw [roundDiv_one, dif_pos (canonical_shifted h0 h)]

/-- A mantissa that has been moved up by as many bits as the exponent says. -/
theorem toInt?_shifted {x : Binary64} {k s : Nat} (hm : x.mantissa = k * 2 ^ s)
    (he : x.exponent = -(s : Int)) :
    x.toInt? = some (if x.negative then -(k : Int) else k) := by
  have hmagnitude : x.magnitude = (k * 2 ^ s, 2 ^ s) := by
    unfold magnitude
    rw [hm, he]
    by_cases hs : s = 0
    · subst hs
      simp
    · have hneg : ¬ 0 ≤ -(s : Int) := by omega
      rw [if_neg hneg, Int.neg_neg, Int.toNat_natCast]
      rfl
  unfold toInt?
  rw [hmagnitude]
  dsimp only
  rw [if_pos (Nat.mul_mod_left _ _), Nat.mul_div_cancel _ (Nat.two_pow_pos _)]

/-- **A whole number of 53 bits is a binary64 number.** -/
theorem ofInt?_exact {n : Int} (h : n.natAbs < 2 ^ 53) :
    ∃ x, ofInt? n = some x ∧ x.toInt? = some n := by
  by_cases h0 : n.natAbs = 0
  · have : n = 0 := Int.natAbs_eq_zero.1 h0
    subst this
    exact ⟨zero, by decide +kernel, by decide +kernel⟩
  · have hlog : Nat.log2 n.natAbs < 53 := (Nat.log2_lt h0).2 h
    have hsign : (if decide (n < 0) = true then -(n.natAbs : Int) else n.natAbs) = n := by
      simp only [decide_eq_true_eq]
      split <;> omega
    refine ⟨_, round?_one h0 h _, (toInt?_shifted rfl ?_).trans (congrArg some hsign)⟩
    dsimp only
    omega

end UsageGrid.Binary64

namespace UsageGrid.Table

/-- **The value of a table is read back as it was**, whichever way it is written. -/
theorem asFloat_number (x : Binary64) :
    ∃ y, Json.asFloat (number x) = .ok y ∧ y.sameValue x = true := by
  unfold number
  cases hx : x.toInt? with
  | none => exact ⟨x, rfl, x.sameValue_refl⟩
  | some n =>
    dsimp only
    by_cases hn : n.natAbs < wholeBound
    · have hbound : n.natAbs < 2 ^ 53 := by
        unfold wholeBound at hn
        omega
      obtain ⟨y, hy, hvalue⟩ := Binary64.ofInt?_exact hbound
      refine ⟨y, ?_, Binary64.sameValue_of_toInt? hvalue hx⟩
      rw [if_pos hn]
      unfold Json.asFloat
      dsimp only
      rw [hy]
    · rw [if_neg hn]
      exact ⟨x, rfl, x.sameValue_refl⟩

end UsageGrid.Table
