import UsageGrid.Json.Number
import UsageGrid.Decimal.Layout
import UsageGrid.Proofs.Decimal.Digits
import UsageGrid.Proofs.Decimal.Rounding

/-!
# Numbers in JSON text, written and read

A floating number is written as digits with a point or an exponent. These are the parts of a number
text (`numberOf`), and the text is their spelling (`toList_render`). Reading gathers the digits and
multiplies by a power of ten, rounding twice; so what is read need not be the number that was
written, but it is a number (`value?_numberOf`), since what is written stays below the limit of the
range by more than the two roundings can add.
-/

namespace UsageGrid.Json

open Decimal Binary64

/-! ## 1. The spelling of a number -/

namespace NumberText

/-- The exponent as it is written. -/
def exponentChars : Option (Bool × List Char) → List Char
  | none => []
  | some (down, digits) => 'e' :: (if down then '-' else '+') :: digits

def chars (t : NumberText) : List Char :=
  (if t.negative then ['-'] else []) ++ t.whole
    ++ (match t.fraction with
      | none => []
      | some digits => '.' :: digits)
    ++ exponentChars t.exponent

/-- What an exponent adds to the power of ten. -/
def shift : Option (Bool × List Char) → Int
  | none => 0
  | some (down, digits) => if down then -(natOfDigits digits : Int) else natOfDigits digits

/-- The number that the digits stand for, without the sign. -/
def toRat (t : NumberText) : ℚ :=
  natOfDigits (t.whole ++ t.fraction.getD [])
    * 10 ^ (shift t.exponent - (t.fraction.getD []).length)

/-- The parts are digits where there must be some, a zero leads only alone, and the exponent stays
    in its bounds. -/
structure WellSpelled (t : NumberText) : Prop where
  whole : t.whole = ['0'] ∨ ∃ c rest, t.whole = c :: rest ∧ c ≠ '0'
  wholeDigits : ∀ c ∈ t.whole, isDigit c = true
  fraction : ∀ digits ∈ t.fraction, digits ≠ [] ∧ ∀ c ∈ digits, isDigit c = true
  exponent : ∀ e ∈ t.exponent, e.2 ≠ [] ∧ (∀ c ∈ e.2, isDigit c = true) ∧
    (e.1 = false → natOfDigits e.2 < 2 ^ 31)

end NumberText

/-! ## 2. The parts of a floating number -/

def positionalText (negative : Bool) (digits : List Char) (point : Int) : NumberText :=
  if point ≤ 0 then ⟨negative, ['0'], some (zeros (-point).toNat ++ digits), none⟩
  else if digits.length ≤ point then
    ⟨negative, digits ++ zeros (point - digits.length).toNat, some ['0'], none⟩
  else ⟨negative, digits.take point.toNat, some (digits.drop point.toNat), none⟩

def exponentOfPoint (point : Int) : Bool × List Char :=
  if 1 ≤ point then (false, Nat.toDigits 10 (point - 1).toNat)
  else (true, Nat.toDigits 10 (1 - point).toNat)

def scientificText (negative : Bool) (digits : List Char) (point : Int) : NumberText :=
  match digits with
  | d :: e :: rest => ⟨negative, [d], some (e :: rest), some (exponentOfPoint point)⟩
  | digits => ⟨negative, digits, none, some (exponentOfPoint point)⟩

/-- The parts of the written form of a number. -/
def numberOf (x : Binary64) : NumberText :=
  if x.mantissa = 0 then ⟨x.negative, ['0'], some ['0'], none⟩
  else
    let d := shortest Layout.json.tie x
    let digits := Nat.toDigits 10 d.digits
    let point := d.scale + digits.length
    if Layout.json.isPositional point then positionalText x.negative digits point
    else scientificText x.negative digits point

theorem toList_toString (n : Nat) : (toString n).toList = Nat.toDigits 10 n := by
  show (Nat.repr n).toList = _
  unfold Nat.repr
  rw [String.toList_ofList]

theorem toList_toString_int (n : Int) :
    (toString n).toList = (if n < 0 then ['-'] else []) ++ Nat.toDigits 10 n.natAbs := by
  cases n with
  | ofNat k =>
    have hpos : ¬ Int.ofNat k < 0 := Int.not_lt.2 (Int.natCast_nonneg k)
    rw [if_neg hpos]
    exact toList_toString k
  | negSucc k =>
    have hneg : Int.negSucc k < 0 := Int.negSucc_lt_zero k
    rw [if_pos hneg]
    show ("-" ++ Nat.repr (k + 1)).toList = _
    rw [String.toList_append]
    exact congrArg ('-' :: ·) (toList_toString (k + 1))

theorem exponentChars_point (point : Int) :
    NumberText.exponentChars (some (exponentOfPoint point))
      = 'e' :: (if 1 ≤ point then ['+'] else []) ++ (toString (point - 1)).toList := by
  rw [toList_toString_int]
  unfold exponentOfPoint
  by_cases h : 1 ≤ point
  · have hpos : ¬ point - 1 < 0 := by omega
    have habs : (point - 1).natAbs = (point - 1).toNat := by omega
    rw [if_pos h, if_pos h, if_neg hpos, habs]
    rfl
  · have hneg : point - 1 < 0 := by omega
    have habs : (point - 1).natAbs = (1 - point).toNat := by omega
    rw [if_neg h, if_neg h, if_pos hneg, habs]
    rfl

theorem chars_positionalText (negative : Bool) (digits : List Char) (point : Int) :
    (positionalText negative digits point).chars
      = (if negative then ['-'] else []) ++ positional Layout.json digits point := by
  unfold positionalText positional NumberText.chars
  by_cases hpoint : point ≤ 0
  · rw [if_pos hpoint, if_pos hpoint]
    simp [NumberText.exponentChars]
  · rw [if_neg hpoint, if_neg hpoint]
    by_cases hlength : digits.length ≤ point
    · rw [if_pos hlength, if_pos hlength]
      simp [NumberText.exponentChars, Layout.json]
    · rw [if_neg hlength, if_neg hlength]
      simp [NumberText.exponentChars]

theorem chars_scientificText (negative : Bool) (digits : List Char) (point : Int) :
    (scientificText negative digits point).chars
      = (if negative then ['-'] else []) ++ scientific digits point := by
  have hexponent := exponentChars_point point
  unfold scientificText scientific NumberText.chars
  split <;> simp [hexponent]

/-- **A number is written as the spelling of its parts.** -/
theorem toList_render (x : Binary64) : (Layout.json.render x).toList = (numberOf x).chars := by
  unfold Layout.render numberOf
  dsimp only
  by_cases hx : x.mantissa = 0
  · rw [if_pos hx, if_pos hx, String.toList_ofList]
    simp [NumberText.chars, NumberText.exponentChars, Layout.json]
  · rw [if_neg hx, if_neg hx, String.toList_ofList]
    generalize (shortest Layout.json.tie x).scale + _ = point
    by_cases hpoint : Layout.json.isPositional point = true
    · rw [if_pos hpoint, if_pos hpoint, chars_positionalText]
    · rw [if_neg hpoint, if_neg hpoint, chars_scientificText]

/-! ## 3. The parts are well spelled -/

theorem isDigit_of_mem_zeros {n : Nat} {c : Char} (h : c ∈ zeros n) : isDigit c = true := by
  rw [List.eq_of_mem_replicate h]
  decide

section

variable {digits : List Char} (hhead : ∃ c rest, digits = c :: rest ∧ c ≠ '0')
  (hdigits : ∀ c ∈ digits, isDigit c = true) (negative : Bool) (point : Int)

include hhead hdigits

theorem wellSpelled_positionalText : (positionalText negative digits point).WellSpelled := by
  obtain ⟨c, rest, rfl, hc⟩ := hhead
  have hzero : ∀ d ∈ ['0'], isDigit d = true := List.forall_mem_singleton.2 (by decide)
  unfold positionalText
  split
  · refine ⟨.inl rfl, hzero, ?_, fun _ h => nomatch h⟩
    rintro _ ⟨⟩
    refine ⟨by simp, fun d hd => ?_⟩
    rcases List.mem_append.1 hd with hz | hd
    · exact isDigit_of_mem_zeros hz
    · exact hdigits d hd
  · split
    · refine ⟨.inr ⟨c, _, List.cons_append, hc⟩, fun d hd => ?_, ?_, fun _ h => nomatch h⟩
      · rcases List.mem_append.1 hd with hd | hz
        · exact hdigits d hd
        · exact isDigit_of_mem_zeros hz
      · rintro _ ⟨⟩
        exact ⟨by simp, hzero⟩
    · rename_i hpos hlength
      obtain ⟨k, hk⟩ : ∃ k, point.toNat = k + 1 := ⟨point.toNat - 1, by omega⟩
      refine ⟨.inr ⟨c, rest.take k, by rw [hk, List.take_succ_cons], hc⟩,
        fun d hd => hdigits d (List.mem_of_mem_take hd), ?_, fun _ h => nomatch h⟩
      rintro _ ⟨⟩
      refine ⟨fun hnil => ?_, fun d hd => hdigits d (List.mem_of_mem_drop hd)⟩
      have := List.drop_eq_nil_iff.1 hnil
      omega

/-- The exponent is small, since the number is in the range. -/
theorem wellSpelled_scientificText (hpoint : point ≤ 2 ^ 31) :
    (scientificText negative digits point).WellSpelled := by
  have hexponent : ∀ e ∈ some (exponentOfPoint point), e.2 ≠ [] ∧
      (∀ c ∈ e.2, isDigit c = true) ∧ (e.1 = false → natOfDigits e.2 < 2 ^ 31) := by
    rintro _ ⟨⟩
    unfold exponentOfPoint
    split
    · refine ⟨Nat.toDigits_ne_nil, fun c hc => isDigit_of_mem_toDigits hc, fun _ => ?_⟩
      rw [natOfDigits_toDigits]
      omega
    · exact ⟨Nat.toDigits_ne_nil, fun c hc => isDigit_of_mem_toDigits hc, fun h => nomatch h⟩
  obtain ⟨c, rest, rfl, hc⟩ := hhead
  cases rest with
  | nil => exact ⟨.inr ⟨c, [], rfl, hc⟩, hdigits, fun _ h => (nomatch h), hexponent⟩
  | cons e rest =>
    refine ⟨.inr ⟨c, [], rfl, hc⟩, ?_, ?_, hexponent⟩
    · intro d hd
      rw [List.mem_singleton.1 hd]
      exact hdigits c List.mem_cons_self
    · rintro _ ⟨⟩
      exact ⟨List.cons_ne_nil _ _, fun d hd => hdigits d (List.mem_cons_of_mem c hd)⟩

end

/-! ## 4. The value of the parts -/

theorem natOfDigits_append_zeros (digits : List Char) (n : Nat) :
    natOfDigits (digits ++ zeros n) = natOfDigits digits * 10 ^ n := by
  have hzeros := natOfDigits_zeros n []
  rw [List.append_nil] at hzeros
  have hlength : (zeros n).length = n := List.length_replicate
  rw [natOfDigits_append, hlength]
  show _ + natOfDigits (List.replicate n '0') = _
  rw [hzeros]
  rfl

theorem toRat_positionalText (negative : Bool) (digits : List Char) (point : Int) :
    (positionalText negative digits point).toRat
      = natOfDigits digits * 10 ^ (point - digits.length) := by
  unfold positionalText
  split
  · have hzeros : natOfDigits ('0' :: (zeros (-point).toNat ++ digits)) = natOfDigits digits :=
      natOfDigits_zeros _ digits
    have hlength : (zeros (-point).toNat ++ digits).length = (-point).toNat + digits.length := by
      rw [List.length_append]
      congr 1
      exact List.length_replicate
    unfold NumberText.toRat
    dsimp only [Option.getD_some, List.singleton_append, NumberText.shift]
    rw [hzeros, hlength]
    congr 2
    omega
  · split
    · rename_i hlength
      obtain ⟨k, hk⟩ := Int.eq_ofNat_of_zero_le (Int.sub_nonneg_of_le hlength)
      have hzeros : natOfDigits (digits ++ zeros k ++ ['0'])
          = natOfDigits digits * 10 ^ (k + 1) := by
        rw [List.append_assoc, ← natOfDigits_append_zeros]
        congr 2
        exact List.replicate_succ'.symm
      unfold NumberText.toRat
      dsimp only [Option.getD_some, NumberText.shift, List.length_singleton]
      rw [hk, Int.toNat_natCast, hzeros]
      push_cast
      rw [zpow_natCast, pow_succ, zpow_neg_one]
      field_simp
    · unfold NumberText.toRat
      dsimp only [Option.getD_some, NumberText.shift]
      rw [List.take_append_drop, List.length_drop]
      congr 2
      omega

theorem shift_exponentOfPoint (point : Int) :
    NumberText.shift (some (exponentOfPoint point)) = point - 1 := by
  by_cases h : 1 ≤ point
  · have hparts : exponentOfPoint point = (false, Nat.toDigits 10 (point - 1).toNat) := if_pos h
    rw [hparts]
    show (natOfDigits _ : Int) = _
    rw [natOfDigits_toDigits]
    omega
  · have hparts : exponentOfPoint point = (true, Nat.toDigits 10 (1 - point).toNat) := if_neg h
    rw [hparts]
    show -(natOfDigits _ : Int) = _
    rw [natOfDigits_toDigits]
    omega

theorem toRat_scientificText (negative : Bool) {digits : List Char} (h : digits ≠ [])
    (point : Int) :
    (scientificText negative digits point).toRat
      = natOfDigits digits * 10 ^ (point - digits.length) := by
  have hshift := shift_exponentOfPoint point
  unfold scientificText NumberText.toRat
  split
  · rename_i d e rest
    dsimp only [Option.getD_some, List.singleton_append]
    rw [hshift]
    congr 2
    rw [List.length_cons, List.length_cons, List.length_cons]
    omega
  · rename_i hshort
    obtain ⟨d, rfl⟩ : ∃ d, digits = [d] := by
      cases digits with
      | nil => exact absurd rfl h
      | cons d rest =>
        cases rest with
        | nil => exact ⟨d, rfl⟩
        | cons e rest => exact absurd rfl (hshort d e rest)
    dsimp only [Option.getD_none]
    rw [List.append_nil, hshift, List.length_nil, List.length_singleton]
    congr 2
    omega

/-- **The parts of a number have the value of its shortest decimal.** -/
theorem toRat_numberOf {x : Binary64} (hx : x.mantissa ≠ 0) :
    (numberOf x).toRat = (shortest Layout.json.tie x).toRat := by
  have hvalue (d : Digits) : (natOfDigits (Nat.toDigits 10 d.digits) : ℚ)
      * 10 ^ (d.scale + (Nat.toDigits 10 d.digits).length - (Nat.toDigits 10 d.digits).length)
      = d.toRat := by
    unfold Digits.toRat
    rw [natOfDigits_toDigits, add_sub_cancel_right]
  unfold numberOf
  rw [if_neg hx]
  dsimp only
  split
  · rw [toRat_positionalText, hvalue]
  · rw [toRat_scientificText _ Nat.toDigits_ne_nil, hvalue]

/-! ## 5. Reading the digits -/

/-- Gathered digits make up no more than all of them. -/
theorem gather_le (start : Nat) (digits : List Char) :
    (gather start digits).1 * 10 ^ (gather start digits).2
        ≤ start * 10 ^ digits.length + natOfDigits digits ∧
      (start ≤ significandMax → (gather start digits).1 ≤ significandMax) ∧
      (gather start digits).2 ≤ digits.length := by
  rw [← foldl_digits]
  induction digits generalizing start with
  | nil => simp [gather]
  | cons c rest ih =>
    unfold gather
    dsimp only
    split
    · rename_i hfits
      obtain ⟨hle, hmax, hlength⟩ := ih (10 * start + digitValue c)
      exact ⟨hle, fun _ => hmax hfits, Nat.le_succ_of_le hlength⟩
    · refine ⟨?_, id, Nat.le_refl _⟩
      rw [foldl_digits, List.length_cons]
      exact Nat.le_add_right _ _

/-- Few enough digits are gathered all. -/
theorem gather_eq {start : Nat} {digits : List Char}
    (h : start * 10 ^ digits.length + natOfDigits digits ≤ significandMax) :
    gather start digits = (start * 10 ^ digits.length + natOfDigits digits, 0) := by
  rw [← foldl_digits] at h ⊢
  induction digits generalizing start with
  | nil => rfl
  | cons c rest ih =>
    have hnext : 10 * start + digitValue c ≤ significandMax := by
      rw [List.foldl_cons, foldl_digits] at h
      have : (10 * start + digitValue c) * 1 ≤ (10 * start + digitValue c) * 10 ^ rest.length :=
        Nat.mul_le_mul_left _ (Nat.pow_pos (by decide))
      omega
    unfold gather
    dsimp only
    rw [if_pos hnext]
    exact ih h

/-! ## 6. Two roundings -/

/-- By how much one rounding can enlarge a number. -/
def growth : ℚ := 1 + 2 ^ (-53 : Int)

theorem growth_pos : 0 < growth := by
  unfold growth
  positivity

theorem limit_eq : limit = ((18014398509481983 * 2 ^ 970 : Nat) : ℚ) := by
  have hunits : (2 : ℚ) ^ 54 - 1 = (18014398509481983 : Nat) := by norm_num
  unfold limit
  rw [hunits, Nat.cast_mul, Nat.cast_pow, ← zpow_natCast, Nat.cast_two]
  rfl

theorem round?_growth {negative : Bool} {num den : Nat} {x : Binary64} (hden : 0 < den)
    (h : round? negative num den = some x) (hone : (1 : ℚ) ≤ num / den) :
    x.size ≤ num / den * growth ∧ num / den * (1 - 2 ^ (-53 : Int)) ≤ x.size := by
  have hleast : (2 : ℚ) ^ (-1022 : Int) ≤ 1 := zpow_le_one_of_nonpos₀ one_le_two (by norm_num)
  have hnear := abs_le.1 (size_near_mul hden h (hleast.trans hone))
  unfold growth
  constructor <;> linarith [hnear.1, hnear.2]

theorem ofInt?_isSome {n : Nat} (hn : n ≤ significandMax) :
    ∃ x, ofInt? n = some x ∧ x.size ≤ n * growth ∧ (n = 0 → x.mantissa = 0) := by
  by_cases h0 : n = 0
  · subst h0
    refine ⟨zero, by decide +kernel, ?_, fun _ => rfl⟩
    simp [size, zero]
  · have hone : (1 : ℚ) ≤ (n : ℚ) / (1 : Nat) := by
      rw [Nat.cast_one, div_one]
      exact_mod_cast Nat.one_le_iff_ne_zero.2 h0
    have hlimit : ((n : Nat) : ℚ) / (1 : Nat) < limit := by
      rw [Nat.cast_one, div_one, limit_eq]
      have : significandMax < 18014398509481983 * 2 ^ 970 := by decide +kernel
      exact_mod_cast Nat.lt_of_le_of_lt hn this
    obtain ⟨x, hx⟩ := round?_isSome (decide ((n : Int) < 0)) Nat.one_pos hlimit
    have hsize := (round?_growth Nat.one_pos hx hone).1
    rw [Nat.cast_one, div_one] at hsize
    exact ⟨x, hx, hsize, fun h => absurd h h0⟩

theorem pow_ten_le {m n : Nat} (h : m ≤ n) : 10 ^ m ≤ 10 ^ n := Nat.pow_le_pow_right (by decide) h

theorem powerOfTen_isSome {n : Nat} (hn : n ≤ greatestPower) :
    ∃ x, powerOfTen n = some x ∧ x.size ≤ 10 ^ n * growth ∧ (n ≠ 0 → 1 ≤ x.size) := by
  have hone : (1 : ℚ) ≤ ((1 * Nat.pow 10 n : Nat) : ℚ) / (1 : Nat) := by
    rw [Nat.cast_one, div_one, Nat.one_mul]
    exact_mod_cast Nat.one_le_pow n 10 (by decide)
  have hlimit : ((1 * Nat.pow 10 n : Nat) : ℚ) / (1 : Nat) < limit := by
    rw [Nat.cast_one, div_one, Nat.one_mul, limit_eq]
    have : 10 ^ greatestPower < 18014398509481983 * 2 ^ 970 := by decide +kernel
    exact_mod_cast Nat.lt_of_le_of_lt (pow_ten_le hn) this
  obtain ⟨x, hx⟩ := round?_isSome false Nat.one_pos hlimit
  obtain ⟨hhi, hlo⟩ := round?_growth Nat.one_pos hx hone
  have hvalue : ((1 * Nat.pow 10 n : Nat) : ℚ) / (1 : Nat) = 10 ^ n := by
    rw [Nat.cast_one, div_one, Nat.one_mul]
    exact_mod_cast rfl
  rw [hvalue] at hhi hlo
  have hpower : powerOfTen n = some x := by
    unfold powerOfTen ofDecimal?
    have hhigh : ¬ (400 : Int) < n := by unfold greatestPower at hn; omega
    have hlow : ¬ (n : Int) + Nat.log2 1 < -400 := by omega
    rw [if_neg (by decide), if_neg hhigh, if_neg hlow, if_pos (Int.natCast_nonneg n),
      Int.toNat_natCast]
    exact hx
  refine ⟨x, hpower, hhi, fun hn0 => le_trans ?_ hlo⟩
  have hten : (10 : ℚ) ≤ 10 ^ n := le_self_pow₀ (by norm_num) hn0
  calc (1 : ℚ) ≤ 10 * (1 - 2 ^ (-53 : Int)) := by norm_num
    _ ≤ 10 ^ n * (1 - 2 ^ (-53 : Int)) := by gcongr

theorem div?_powerOfTen (x : Binary64) {n : Nat} (hn : n ≤ greatestPower) (hn0 : n ≠ 0) :
    ∃ p y, powerOfTen n = some p ∧ x.div? p = some y := by
  obtain ⟨p, hp, -, hone⟩ := powerOfTen_isSome hn
  have hone := hone hn0
  obtain ⟨y, hy⟩ := div?_isSome (x := x) (lt_of_lt_of_le one_pos hone)
    ((div_le_self x.size_nonneg hone).trans_lt x.size_lt_limit)
  exact ⟨p, y, hp, hy⟩

theorem divideOften_isSome (times : Nat) (x : Binary64) : ∃ y, divideOften times x = some y := by
  induction times generalizing x with
  | zero => exact ⟨x, rfl⟩
  | succ times ih =>
    unfold divideOften
    split
    · exact ⟨x, rfl⟩
    · obtain ⟨p, y, hp, hy⟩ := div?_powerOfTen x (Nat.le_refl greatestPower) (by decide)
      rw [hp, Option.bind_some, hy]
      exact ih y

theorem divideByPower_isSome (x : Binary64) {power : Nat} (h : power ≠ 0) :
    ∃ y, divideByPower x power = some y := by
  obtain ⟨y, hy⟩ := divideOften_isSome ((power - 1) / greatestPower) x
  have hrest : power - greatestPower * ((power - 1) / greatestPower) ≤ greatestPower := by
    unfold greatestPower
    omega
  have hrest0 : power - greatestPower * ((power - 1) / greatestPower) ≠ 0 := by
    unfold greatestPower
    omega
  obtain ⟨p, z, hp, hz⟩ := div?_powerOfTen y hrest hrest0
  refine ⟨z, ?_⟩
  unfold divideByPower
  dsimp only
  rw [hy, hp]
  exact hz

/-- Past the greatest power the value alone is beyond the limit. -/
theorem limit_le {significand n : Nat} (hone : 1 ≤ significand) (hn : greatestPower < n) :
    limit ≤ significand * (10 : ℚ) ^ n := by
  have hpow : 18014398509481983 * 2 ^ 970 ≤ significand * 10 ^ n := by
    have hgreatest : 18014398509481983 * 2 ^ 970 ≤ 10 ^ 309 := by decide +kernel
    have hn : 309 ≤ n := hn
    calc 18014398509481983 * 2 ^ 970 ≤ 10 ^ n := hgreatest.trans (pow_ten_le hn)
      _ = 1 * 10 ^ n := (Nat.one_mul _).symm
      _ ≤ significand * 10 ^ n := Nat.mul_le_mul_right _ hone
  rw [limit_eq]
  exact_mod_cast hpow

/-- A number can be scaled up if that leaves room for two roundings. -/
theorem scaledByPower_isSome {x : Binary64} {significand : Nat} {exponent : Int}
    (hsize : x.size ≤ significand * growth) (hzero : significand = 0 → x.mantissa = 0)
    (h : significand * (10 : ℚ) ^ exponent * growth ^ 2 < limit) :
    ∃ y, scaledByPower x exponent = some y := by
  unfold scaledByPower
  split
  · exact divideByPower_isSome x (by omega)
  rename_i hexp
  obtain ⟨n, rfl⟩ := Int.eq_ofNat_of_zero_le (Int.not_lt.1 hexp)
  rw [zpow_natCast] at h
  split
  · exact ⟨x, rfl⟩
  rename_i hm
  split
  · rename_i hgreatest
    obtain ⟨p, hp, hpsize, -⟩ := powerOfTen_isSome (n := n) (by exact_mod_cast hgreatest)
    rw [Int.toNat_natCast, hp, Option.bind_some]
    refine mul?_isSome (lt_of_le_of_lt ?_ h)
    calc x.size * p.size ≤ significand * growth * (10 ^ n * growth) := by
          have := growth_pos
          gcongr
          exact p.size_nonneg
      _ = significand * 10 ^ n * growth ^ 2 := by ring
  · rename_i hgreatest
    have hone : 1 ≤ significand := Nat.one_le_iff_ne_zero.2 fun h0 => hm (hzero h0)
    have hlimit := limit_le hone (n := n) (by exact_mod_cast Int.not_le.1 hgreatest)
    have hgrowth : (1 : ℚ) ≤ growth ^ 2 := one_le_pow₀ (by unfold growth; norm_num)
    have hgrown : significand * (10 : ℚ) ^ n * 1 ≤ significand * 10 ^ n * growth ^ 2 := by gcongr
    linarith

/-- **A significand with a power of ten is a number, if two roundings stay below the limit.** -/
theorem floatOfParts_isSome (negative : Bool) {significand : Nat} {exponent : Int}
    (hmax : significand ≤ significandMax)
    (h : significand * (10 : ℚ) ^ exponent * growth ^ 2 < limit) :
    ∃ x, floatOfParts negative significand exponent = some (.float x) := by
  obtain ⟨x, hx, hsize, hzero⟩ := ofInt?_isSome hmax
  obtain ⟨y, hy⟩ := scaledByPower_isSome hsize hzero h
  unfold floatOfParts
  rw [hx]
  show ∃ z, (scaledByPower x exponent >>= _) = _
  rw [hy]
  exact ⟨_, rfl⟩

/-! ## 7. What is read of a written number -/

/-- Where the whole part is short, nothing but digits at the end is left out. -/
theorem value?_isSome {t : NumberText} (hwhole : natOfDigits t.whole ≤ significandMax)
    (hform : t.fraction ≠ none ∨ t.exponent ≠ none) (h : t.toRat * growth ^ 2 < limit) :
    ∃ x, t.value? = some (.float x) := by
  obtain ⟨negative, whole, fraction, exponent⟩ := t
  have hgather : gather 0 whole = (natOfDigits whole, 0) := by
    have h0 : 0 * 10 ^ whole.length + natOfDigits whole ≤ significandMax := by
      rwa [Nat.zero_mul, Nat.zero_add]
    have := gather_eq h0
    rwa [Nat.zero_mul, Nat.zero_add] at this
  obtain ⟨hle, hmax, hlength⟩ := gather_le (natOfDigits whole) (fraction.getD [])
  have hvalue : NumberText.value? ⟨negative, whole, fraction, exponent⟩
      = floatOfParts negative (gather (natOfDigits whole) (fraction.getD [])).1
          (0 - ((fraction.getD []).length - (gather (natOfDigits whole) (fraction.getD [])).2 : Nat)
            + NumberText.shift exponent) := by
    unfold NumberText.value?
    dsimp only
    split
    · exact absurd hform (by simp)
    · rw [hgather]
      rcases exponent with _ | ⟨down, digits⟩
      · rfl
      · rfl
  rw [hvalue]
  refine floatOfParts_isSome negative (hmax hwhole) (lt_of_le_of_lt ?_ h)
  rw [← natOfDigits_append] at hle
  generalize gather (natOfDigits whole) (fraction.getD []) = gathered at hle hlength
  -- a digit that is left out is one place less
  have hexp : (0 - ((fraction.getD []).length - gathered.2 : Nat) + NumberText.shift exponent : Int)
      = gathered.2 + (NumberText.shift exponent - (fraction.getD []).length) := by omega
  unfold NumberText.toRat
  dsimp only
  rw [hexp, zpow_add₀ (by norm_num), ← mul_assoc, zpow_natCast]
  have hle' : (gathered.1 : ℚ) * 10 ^ gathered.2 ≤ natOfDigits (whole ++ fraction.getD []) := by
    exact_mod_cast hle
  gcongr

/-- Without leading zeros a number is at least the power of ten of its first digit. -/
theorem pow_toDigits_le {n : Nat} (hn : 0 < n) :
    (10 : ℚ) ^ (((Nat.toDigits 10 n).length : Int) - 1) ≤ n := by
  have hlength : 1 ≤ (Nat.toDigits 10 n).length := List.length_pos_of_ne_nil Nat.toDigits_ne_nil
  have hfirst : 10 ^ ((Nat.toDigits 10 n).length - 1) ≤ n := by
    rcases Nat.eq_zero_or_pos ((Nat.toDigits 10 n).length - 1) with h0 | hpos
    · rw [h0]
      omega
    · by_contra hlt
      have := (Nat.length_toDigits_le_iff (by decide) hpos).2 (Nat.not_le.1 hlt)
      omega
  have hcast : ((Nat.toDigits 10 n).length : Int) - 1
      = ((Nat.toDigits 10 n).length - 1 : Nat) := by omega
  rw [hcast, zpow_natCast]
  exact_mod_cast hfirst

theorem limit_add_le : limit + 2 ^ (970 : Int) ≤ (10 : ℚ) ^ (400 : Int) := by
  have hbig : 18014398509481983 * 2 ^ 970 + 2 ^ 970 ≤ 10 ^ 400 := by decide +kernel
  have hcast : (2 : ℚ) ^ (970 : Int) = ((2 ^ 970 : Nat) : ℚ) := by
    rw [Nat.cast_pow, ← zpow_natCast, Nat.cast_two]
    rfl
  have hcast' : (10 : ℚ) ^ (400 : Int) = ((10 ^ 400 : Nat) : ℚ) := by
    rw [Nat.cast_pow, ← zpow_natCast, Nat.cast_ofNat]
    rfl
  rw [limit_eq, hcast, hcast', ← Nat.cast_add]
  exact Nat.cast_le.2 hbig

/-- The point of a number in the range is not far to the right. -/
theorem point_le {x : Binary64} (hx : x.mantissa ≠ 0) :
    (shortest Layout.json.tie x).scale
      + (Nat.toDigits 10 (shortest Layout.json.tie x).digits).length ≤ 400 := by
  have hnear := (abs_le.1 (shortest_near Layout.json.tie hx)).2
  have hdigits := shortest_digits Layout.json.tie hx
  have hlimit := x.size_lt_limit
  generalize shortest Layout.json.tie x = d at hnear hdigits ⊢
  by_contra hfar
  -- the first digit alone is past the range
  have hfirst := pow_toDigits_le (Nat.pos_of_ne_zero hdigits)
  have hpower : (10 : ℚ) ^ (400 : Int) ≤ d.toRat := by
    calc (10 : ℚ) ^ (400 : Int)
        ≤ 10 ^ (((Nat.toDigits 10 d.digits).length : Int) - 1 + d.scale) :=
          zpow_le_zpow_right₀ (by norm_num) (by omega)
      _ = 10 ^ (((Nat.toDigits 10 d.digits).length : Int) - 1) * 10 ^ d.scale :=
          zpow_add₀ (by norm_num) _ _
      _ ≤ d.toRat := by
          unfold Digits.toRat
          gcongr
  linarith [limit_add_le]

/-- **The parts of a written number are well spelled.** -/
theorem wellSpelled_numberOf (x : Binary64) : (numberOf x).WellSpelled := by
  by_cases hx : x.mantissa = 0
  · have hzero : ∀ c ∈ ['0'], isDigit c = true := List.forall_mem_singleton.2 (by decide)
    unfold numberOf
    rw [if_pos hx]
    refine ⟨.inl rfl, hzero, ?_, fun _ h => nomatch h⟩
    rintro _ ⟨⟩
    exact ⟨List.cons_ne_nil _ _, hzero⟩
  · have hpoint := point_le hx
    have hhead := head?_toDigits (shortest_digits Layout.json.tie hx)
    have hdigits : ∀ c ∈ Nat.toDigits 10 (shortest Layout.json.tie x).digits, isDigit c = true :=
      fun _ => isDigit_of_mem_toDigits
    unfold numberOf
    rw [if_neg hx]
    dsimp only
    generalize (shortest Layout.json.tie x).scale + _ = point at hpoint ⊢
    have hcons : ∃ c rest, Nat.toDigits 10 (shortest Layout.json.tie x).digits = c :: rest ∧
        c ≠ '0' := by
      cases hds : Nat.toDigits 10 (shortest Layout.json.tie x).digits with
      | nil => exact absurd hds Nat.toDigits_ne_nil
      | cons c rest => exact ⟨c, rest, rfl, fun h => hhead (by rw [hds, h]; rfl)⟩
    split
    · exact wellSpelled_positionalText hcons hdigits _ _
    · exact wellSpelled_scientificText hcons hdigits _ _ (by omega)

theorem length_whole_numberOf (x : Binary64) : (numberOf x).whole.length ≤ 16 := by
  by_cases hx : x.mantissa = 0
  · unfold numberOf
    rw [if_pos hx]
    exact Nat.le_of_ble_eq_true rfl
  · unfold numberOf
    rw [if_neg hx]
    dsimp only
    generalize (shortest Layout.json.tie x).scale + _ = point
    generalize Nat.toDigits 10 (shortest Layout.json.tie x).digits = digits
    split
    · rename_i hpositional
      have hpoint : point ≤ 16 := by
        simp only [Layout.isPositional, Layout.json, Bool.and_eq_true] at hpositional
        exact of_decide_eq_true hpositional.2
      unfold positionalText
      split
      · exact Nat.le_of_ble_eq_true rfl
      · split
        · rename_i hlength
          have hzeros : (zeros (point - digits.length).toNat).length
              = (point - digits.length).toNat := List.length_replicate
          dsimp only
          rw [List.length_append, hzeros]
          omega
        · dsimp only
          rw [List.length_take]
          omega
    · unfold scientificText
      split
      · exact Nat.le_of_ble_eq_true rfl
      · rename_i hshort
        dsimp only
        match digits, hshort with
        | [], _ => exact Nat.zero_le _
        | [d], _ => exact Nat.le_of_ble_eq_true rfl
        | d :: e :: rest, hshort => exact absurd rfl (hshort d e rest)

theorem whole_numberOf_le (x : Binary64) : natOfDigits (numberOf x).whole ≤ significandMax := by
  have hlt := natOfDigits_lt (wellSpelled_numberOf x).wholeDigits
  have hle : 10 ^ (numberOf x).whole.length ≤ 10 ^ 16 := pow_ten_le (length_whole_numberOf x)
  have hmax : 10 ^ 16 ≤ significandMax := by decide +kernel
  omega

/-- A number is written with a point or an exponent. -/
theorem form_numberOf (x : Binary64) :
    (numberOf x).fraction ≠ none ∨ (numberOf x).exponent ≠ none := by
  unfold numberOf
  split
  · exact .inl nofun
  · dsimp only
    split
    · unfold positionalText
      split
      · exact .inl nofun
      · split <;> exact .inl nofun
    · unfold scientificText
      split <;> exact .inr nofun

/-- The number that is read where a number was written. -/
def reread? (x : Binary64) : Option Binary64 :=
  match (numberOf x).value? with
  | some (.float y) => some y
  | _ => none

/-- The three greatest numbers are read too, though two roundings could lead past the limit. -/
theorem reread?_greatest (negative : Bool) (k : Fin 3) (h : Canonical (2 ^ 53 - 1 - k) 971) :
    (reread? ⟨negative, 2 ^ 53 - 1 - k, 971, h⟩).isSome = true := by
  revert k
  cases negative <;> decide +kernel

theorem size_le_of_not_greatest {x : Binary64}
    (h : ¬ (2 ^ 53 - 4 < x.mantissa ∧ x.exponent = 971)) :
    x.size ≤ (2 ^ 53 - 4) * (2 * 2 ^ (970 : Int)) := by
  have hm : x.mantissa < 2 ^ 53 := x.canonical.1
  have hexp : x.exponent ≤ 971 := x.canonical.2.2.2
  have hpos : (0 : ℚ) < 2 ^ (970 : Int) := by positivity
  unfold size
  by_cases he : x.exponent = 971
  · have hle : (x.mantissa : ℚ) ≤ 2 ^ 53 - 4 := by
      have : x.mantissa + 4 ≤ 2 ^ 53 := by omega
      have : (x.mantissa : ℚ) + 4 ≤ 2 ^ 53 := by exact_mod_cast this
      linarith
    rw [he, ← zpow_one_add₀ two_ne_zero]
    exact mul_le_mul_of_nonneg_right hle (by positivity)
  · have hle : (x.mantissa : ℚ) ≤ 2 ^ 53 := by exact_mod_cast hm.le
    have hpower : (2 : ℚ) ^ x.exponent ≤ 2 ^ (970 : Int) :=
      zpow_le_zpow_right₀ one_le_two (by omega)
    generalize (2 : ℚ) ^ (970 : Int) = u at hpos hpower ⊢
    calc (x.mantissa : ℚ) * 2 ^ x.exponent ≤ 2 ^ 53 * u := by gcongr
      _ ≤ (2 ^ 53 - 4) * (2 * u) := by linarith

theorem value?_numberOf_isSome (x : Binary64) : ∃ y, (numberOf x).value? = some (.float y) := by
  by_cases htop : 2 ^ 53 - 4 < x.mantissa ∧ x.exponent = 971
  · have hsome : (reread? x).isSome = true := by
      obtain ⟨negative, m, e, hc⟩ := x
      obtain ⟨hm, rfl⟩ := htop
      have hlt : m < 2 ^ 53 := hc.1
      have hm : 2 ^ 53 - 4 < m := hm
      obtain ⟨k, hk, rfl⟩ : ∃ k, k < 3 ∧ m = 2 ^ 53 - 1 - k := ⟨2 ^ 53 - 1 - m, by omega, by omega⟩
      exact reread?_greatest negative ⟨k, hk⟩ hc
    unfold reread? at hsome
    split at hsome
    · rename_i y hy
      exact ⟨y, hy⟩
    · cases hsome
  · refine value?_isSome (whole_numberOf_le x) (form_numberOf x) ?_
    by_cases hx : x.mantissa = 0
    · have hzero : (numberOf x).toRat = 0 := by
        unfold numberOf NumberText.toRat
        rw [if_pos hx]
        simp [natOfDigits, digitValue]
      rw [hzero, zero_mul]
      exact x.size_nonneg.trans_lt x.size_lt_limit
    · have hnear := (abs_le.1 (shortest_near Layout.json.tie hx)).2
      have hsize := size_le_of_not_greatest htop
      have hpos : (0 : ℚ) < 2 ^ (970 : Int) := by positivity
      have hgrowth : (2 ^ 54 - 7) * growth ^ 2 < 2 ^ 54 - 1 := by
        unfold growth
        norm_num
      rw [toRat_numberOf hx]
      unfold limit
      generalize (2 : ℚ) ^ (970 : Int) = u at hnear hsize hpos ⊢
      calc (shortest Layout.json.tie x).toRat * growth ^ 2
          ≤ ((2 ^ 54 - 7) * u) * growth ^ 2 := by
            gcongr
            linarith
        _ = (2 ^ 54 - 7) * growth ^ 2 * u := by ring
        _ < (2 ^ 54 - 1) * u := by gcongr

/-- The number that is read where a number was written, which may be a neighbour of it. -/
def rereadFloat (x : Binary64) : Binary64 := (reread? x).getD x

/-- **What is written of a number is read as a number.** -/
theorem value?_numberOf (x : Binary64) : (numberOf x).value? = some (.float (rereadFloat x)) := by
  obtain ⟨y, hy⟩ := value?_numberOf_isSome x
  unfold rereadFloat reread?
  rw [hy]
  rfl

/-! ## 8. Whole numbers -/

/-- The parts of a whole number. -/
def wholeText (n : Int) : NumberText :=
  { negative := decide (n < 0), whole := Nat.toDigits 10 n.natAbs }

/-- A whole number that a text can hold. -/
def IsWhole64 (n : Int) : Prop := -2 ^ 63 ≤ n ∧ n < 2 ^ 64

theorem chars_wholeText (n : Int) : (wholeText n).chars = (toString n).toList := by
  rw [toList_toString_int]
  unfold wholeText NumberText.chars
  by_cases h : n < 0
  · simp [h, NumberText.exponentChars]
  · simp [h, NumberText.exponentChars]

theorem wellSpelled_wholeText (n : Int) : (wholeText n).WellSpelled := by
  refine ⟨?_, fun _ => isDigit_of_mem_toDigits, fun _ h => (nomatch h),
    fun _ h => (nomatch h)⟩
  unfold wholeText
  by_cases h0 : n.natAbs = 0
  · rw [h0]
    exact .inl rfl
  · have hhead := head?_toDigits h0
    cases hds : Nat.toDigits 10 n.natAbs with
    | nil => exact absurd hds Nat.toDigits_ne_nil
    | cons c rest => exact .inr ⟨c, rest, rfl, fun h => hhead (by rw [hds, h]; rfl)⟩

/-- **A whole number of 64 bits is read as it was written.** -/
theorem value?_wholeText {n : Int} (h : IsWhole64 n) : (wholeText n).value? = some (.int n) := by
  obtain ⟨hlo, hhi⟩ := h
  have hpow64 : Nat.pow 2 64 = 2 ^ 64 := rfl
  have hpow63 : Nat.pow 2 63 = 2 ^ 63 := rfl
  have hgather : gather 0 (Nat.toDigits 10 n.natAbs) = (n.natAbs, 0) := by
    have hmax : 0 * 10 ^ (Nat.toDigits 10 n.natAbs).length
        + natOfDigits (Nat.toDigits 10 n.natAbs) ≤ significandMax := by
      rw [Nat.zero_mul, Nat.zero_add, natOfDigits_toDigits]
      unfold significandMax
      omega
    have := gather_eq hmax
    rwa [Nat.zero_mul, Nat.zero_add, natOfDigits_toDigits] at this
  show wholeNumber (decide (n < 0)) (Nat.toDigits 10 n.natAbs) = _
  unfold wholeNumber
  rw [hgather]
  dsimp only
  rw [if_neg (by simp)]
  by_cases hneg : n < 0
  · have hsmall : ¬ (n.natAbs = 0 ∨ Nat.pow 2 63 < n.natAbs) := by omega
    have habs : -(n.natAbs : Int) = n := by omega
    rw [if_neg (by simp [hneg]), if_neg hsmall, habs]
  · have habs : (n.natAbs : Int) = n := by omega
    rw [if_pos (by simp [hneg]), habs]

end UsageGrid.Json
