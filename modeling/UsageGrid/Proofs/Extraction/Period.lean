import UsageGrid.Extraction.Cleaning
import UsageGrid.Proofs.Decimal.Digits
import UsageGrid.Proofs.Outcome
import UsageGrid.Proofs.Text.Parts

/-!
# Months in writing

A month is normalized if it is written as its first day in ten characters, `YYYY-MM-01`
(`IsNormalized`).

* A month is normalized if and only if its year has four digits at most and no sign
  (`isNormalized_monthStart`), and calendar years range further than that.
* A year and a month that are put together are read once more. That goes well if and only if the
  year has four digits, so the same is true of them (`isNormalized_combine`).
* What a text is converted to is written from the year and the month that are read from it
  (`apply_period_eq_ok`, `apply_year_eq_ok`, `apply_month_eq_ok`).
-/

namespace UsageGrid.Extraction

open Rules UsageGrid.Calendar UsageGrid.Decimal

/-! ## 1. Normalized dates -/

/-- Four digits, two that name a month, and the first day. -/
def IsNormalized (date : String) : Prop :=
  ∃ year month, date.toList = year ++ '-' :: month ++ ['-', '0', '1'] ∧
    (year.length = 4 ∧ year.all isDigit) ∧ (month.length = 2 ∧ month.all isDigit) ∧
    1 ≤ natOfDigits month ∧ natOfDigits month ≤ 12

theorem toList_zeroFilled (width n : Nat) : (zeroFilled width n).toList = filled width n := by
  have hsign : ¬ (n : Int) < 0 := by omega
  unfold zeroFilled filled
  simp only [if_neg hsign, Int.natAbs_natCast, List.nil_append, List.length_nil, Nat.sub_zero,
    String.toList_ofList]

theorem toList_zeroFilled_neg (width : Nat) {n : Int} (h : n < 0) :
    (zeroFilled width n).toList = '-' :: filled (width - 1) n.natAbs := by
  unfold zeroFilled filled
  simp only [if_pos h, List.length_singleton, List.singleton_append, String.toList_ofList]

/-- What is normalized and begins with a year begins with one of four digits. -/
theorem year_of_isNormalized {date : String} {y : Int} {rest : List Char} (h : IsNormalized date)
    (hdate : date.toList = (zeroFilled 4 y).toList ++ rest) : 0 ≤ y ∧ y ≤ 9999 := by
  obtain ⟨year, month, hnormal, ⟨hlength, hdigits⟩, -⟩ := h
  rw [hdate] at hnormal
  constructor
  · -- a sign is no digit
    refine Int.not_lt.1 fun hneg => ?_
    rw [toList_zeroFilled_neg 4 hneg] at hnormal
    cases year with
    | nil => cases hlength
    | cons c cs =>
      have hc : c = '-' := (List.cons.inj hnormal).1.symm
      rw [hc] at hdigits
      exact absurd hdigits (by simp [isDigit])
  · -- a fifth digit stands where the dash belongs
    refine Int.not_lt.1 fun hlarge => ?_
    obtain ⟨n, rfl⟩ : ∃ n : Nat, y = n := ⟨y.toNat, by omega⟩
    have hlong : 4 < (filled 4 n).length := length_filled_gt (by decide) (by omega)
    have hfifth : (year ++ '-' :: month ++ ['-', '0', '1'])[4]? = some '-' := by
      rw [List.append_assoc, List.getElem?_append_right (by omega), hlength]
      rfl
    rw [← hnormal, toList_zeroFilled, List.getElem?_append_left hlong,
      List.getElem?_eq_getElem hlong, Option.some.injEq] at hfifth
    have := isDigit_filled (hfifth ▸ List.getElem_mem hlong)
    exact absurd this (by decide)

/-- **The first day of a month is normalized if and only if the year has four digits.** -/
theorem isNormalized_monthStart {y : Int} {m : Nat} (hm : 1 ≤ m ∧ m ≤ 12) :
    IsNormalized (monthStart y m) ↔ 0 ≤ y ∧ y ≤ 9999 := by
  have hlist : (monthStart y m).toList
      = (zeroFilled 4 y).toList ++ '-' :: (zeroFilled 2 m).toList ++ ['-', '0', '1'] := by
    simp [monthStart]
  constructor
  · intro h
    rw [List.append_assoc] at hlist
    exact year_of_isNormalized h hlist
  · rintro ⟨h0, h9⟩
    obtain ⟨n, rfl⟩ : ∃ n : Nat, y = n := ⟨y.toNat, by omega⟩
    rw [toList_zeroFilled, toList_zeroFilled] at hlist
    refine ⟨_, _, hlist, ⟨length_filled (by decide) (by omega), all_isDigit_filled _ _⟩,
      ⟨length_filled (by decide) (by omega), all_isDigit_filled _ _⟩, ?_⟩
    rw [natOfDigits_filled]
    exact hm

/-! ## 2. Years and months that are put together -/

theorem dropPointZero_eq_self {cs : List Char} (h : '.' ∉ cs) : dropPointZero cs = cs := by
  unfold dropPointZero Text.dropEnd?
  cases hrest : Text.dropStart? ['.', '0'].reverse cs.reverse with
  | none => rfl
  | some rest =>
    have hsplit := Text.dropStart?_eq_some.1 hrest
    refine absurd (List.mem_reverse.1 ?_) h
    rw [hsplit]
    simp

theorem dot_not_mem {cs : List Char} (h : ∀ c ∈ cs, isDigit c = true) : '.' ∉ cs :=
  fun hmem => absurd (h _ hmem) (by decide)

/-- The text of a year is read as that year if it has four digits, and not at all otherwise. -/
theorem parseYear_zeroFilled (y : Int) :
    parseYear (zeroFilled 4 y) none = if 0 ≤ y ∧ y ≤ 9999 then .ok y else .error .notAYear := by
  have hplain : plainYear? (Text.trimChars (zeroFilled 4 y).toList)
      = if 0 ≤ y ∧ y ≤ 9999 then some y else none := by
    by_cases hneg : y < 0
    · have hclean : ∀ c ∈ '-' :: filled 3 y.natAbs, Text.isBlank c = false ∧ c ≠ '.' := by
        intro c hc
        rcases List.mem_cons.1 hc with rfl | hc
        · exact ⟨by decide, by decide⟩
        · exact ⟨isBlank_of_isDigit (isDigit_filled hc),
            fun he => absurd (he ▸ hc) (dot_not_mem fun _ => isDigit_filled)⟩
      rw [toList_zeroFilled_neg 4 hneg, Text.trimChars_eq_self fun c hc => (hclean c hc).1,
        if_neg (by omega)]
      unfold plainYear?
      rw [dropPointZero_eq_self fun hdot => (hclean _ hdot).2 rfl]
      simp [isDigit]
    · obtain ⟨n, rfl⟩ : ∃ n : Nat, y = n := ⟨y.toNat, by omega⟩
      rw [toList_zeroFilled,
        Text.trimChars_eq_self fun c hc => isBlank_of_isDigit (isDigit_filled hc)]
      unfold plainYear?
      rw [dropPointZero_eq_self (dot_not_mem fun _ => isDigit_filled)]
      simp only [all_isDigit_filled, Bool.not_true, Bool.false_eq_true, if_false]
      by_cases hlarge : n < 10 ^ 4
      · rw [if_pos (length_filled (by decide) hlarge), if_pos (by omega), natOfDigits_filled]
      · have hlong : 4 < (filled 4 n).length := length_filled_gt (by decide) (by omega)
        rw [if_neg (by omega), if_neg (by omega), if_neg (by omega)]
  unfold parseYear
  dsimp only
  rw [hplain]
  by_cases hy : 0 ≤ y ∧ y ≤ 9999
  · rw [if_pos hy, if_pos hy]
  · rw [if_neg hy, if_neg hy]

theorem plainCount?_eq {cs : List Char} (h : cs.head? ≠ some '+') :
    plainCount? cs =
      if cs ≠ [] ∧ cs.all isDigit ∧ natOfDigits cs < Nat.pow 2 32 then some (natOfDigits cs)
      else none := by
  unfold plainCount?
  cases cs with
  | nil => rfl
  | cons c rest =>
    have hc : c ≠ '+' := fun he => h (congrArg some he)
    simp [hc]

theorem plainCount?_filled {width n : Nat} (hn : n < Nat.pow 2 32) :
    plainCount? (filled width n) = some n := by
  have hne : filled width n ≠ [] := fun he =>
    absurd (List.append_eq_nil_iff.1 he).2 Nat.toDigits_ne_nil
  have hplus : (filled width n).head? ≠ some '+' := fun he =>
    absurd (isDigit_filled (List.mem_of_mem_head? he)) (by decide)
  rw [plainCount?_eq hplus, natOfDigits_filled, if_pos ⟨hne, all_isDigit_filled _ _, hn⟩]

/-- The text of a month is read as that month. -/
theorem parseMonth_zeroFilled {m : Nat} (hm : 1 ≤ m ∧ m ≤ 12) :
    parseMonth (zeroFilled 2 m) none = .ok m := by
  unfold parseMonth plainMonth
  dsimp only
  rw [toList_zeroFilled, Text.trimChars_eq_self fun c hc => isBlank_of_isDigit (isDigit_filled hc),
    dropPointZero_eq_self (dot_not_mem fun _ => isDigit_filled),
    plainCount?_filled (by rw [Nat.pow_eq]; omega)]
  dsimp only
  rw [if_pos hm]

theorem combine_zeroFilled (y : Int) {m : Nat} (hm : 1 ≤ m ∧ m ≤ 12) :
    combine (zeroFilled 4 y) (zeroFilled 2 m)
      = if 0 ≤ y ∧ y ≤ 9999 then monthStart y m
        else zeroFilled 4 y ++ "-" ++ zeroFilled 2 m := by
  unfold combine
  rw [parseYear_zeroFilled, parseMonth_zeroFilled hm]
  by_cases hy : 0 ≤ y ∧ y ≤ 9999
  · rw [if_pos hy, if_pos hy]
  · rw [if_neg hy, if_neg hy]

/-- **A year and a month that are put together are normalized if and only if the year has four
    digits.** -/
theorem isNormalized_combine {y : Int} {m : Nat} (hm : 1 ≤ m ∧ m ≤ 12) :
    IsNormalized (combine (zeroFilled 4 y) (zeroFilled 2 m)) ↔ 0 ≤ y ∧ y ≤ 9999 := by
  rw [combine_zeroFilled y hm]
  by_cases hy : 0 ≤ y ∧ y ≤ 9999
  · rw [if_pos hy]
    exact isNormalized_monthStart hm
  · have hlist : (zeroFilled 4 y ++ "-" ++ zeroFilled 2 m).toList
        = (zeroFilled 4 y).toList ++ '-' :: (zeroFilled 2 m).toList := by simp
    rw [if_neg hy]
    exact ⟨fun h => year_of_isNormalized h hlist, fun h => absurd h hy⟩

/-! ## 3. What is read -/

/-- The day that a text names; a pattern has to bring the year. -/
def dayOf? (text : String) : Option String → Option Date
  | some p => if mentionsYear p then readPartial? text p else none
  | none => defaultPatterns.findSome? (readPartial? text)

theorem apply_period_eq_ok {text : String} {pattern : Option String} {v : String}
    (h : (Conversion.period pattern).apply text = .ok v) :
    ∃ day, dayOf? text pattern = some day ∧ v = monthStart day.year day.month := by
  unfold Conversion.apply parsePeriod at h
  unfold dayOf?
  cases pattern with
  | none =>
    dsimp only at h ⊢
    cases hday : defaultPatterns.findSome? (readPartial? text) with
    | none => rw [hday] at h; cases h
    | some day =>
      rw [hday] at h
      cases h
      exact ⟨day, rfl, rfl⟩
  | some p =>
    dsimp only at h ⊢
    cases hyear : mentionsYear p with
    | false => rw [hyear] at h; cases h
    | true =>
      rw [hyear] at h
      cases hday : readPartial? text p with
      | none => rw [hday] at h; cases h
      | some day =>
        rw [hday] at h
        cases h
        exact ⟨day, rfl, rfl⟩

theorem apply_year_eq_ok {text : String} {pattern : Option String} {v : String}
    (h : (Conversion.year pattern).apply text = .ok v) :
    ∃ y, parseYear text pattern = .ok y ∧ v = zeroFilled 4 y := by
  unfold Conversion.apply at h
  obtain ⟨y, hy, rfl⟩ := map_eq_ok.1 h
  exact ⟨y, hy, rfl⟩

theorem apply_month_eq_ok {text : String} {pattern : Option String} {v : String}
    (h : (Conversion.month pattern).apply text = .ok v) :
    ∃ m : Nat, parseMonth text pattern = .ok m ∧ v = zeroFilled 2 m := by
  unfold Conversion.apply at h
  obtain ⟨k, hk, rfl⟩ := map_eq_ok.1 h
  obtain ⟨m, hm, hk⟩ := bind_eq_ok.1 hk
  cases hk
  exact ⟨m, hm, rfl⟩

theorem monthOfName?_range {cs : List Char} {m : Nat} (h : monthOfName? cs = some m) :
    1 ≤ m ∧ m ≤ 12 := by
  unfold monthOfName? at h
  cases hname : readName? monthNames true cs with
  | none => rw [hname] at h; cases h
  | some found =>
    obtain ⟨i, rest⟩ := found
    obtain ⟨⟨j, name, after⟩, hshort, hfound⟩ := Option.map_eq_some_iff.1 hname
    obtain ⟨⟨n, k⟩, hmem, hplace⟩ := List.exists_of_findSome?_eq_some hshort
    obtain ⟨tail, -, hplace⟩ := Option.map_eq_some_iff.1 hplace
    have hlt : k < 12 := List.snd_lt_of_mem_zipIdx hmem
    have hij : i = k := by
      cases hplace
      exact (congrArg Prod.fst hfound).symm
    rw [hname] at h
    cases rest with
    | nil => cases h; omega
    | cons c cs => cases h

theorem parseMonth_range {text : String} {pattern : Option String} {m : Nat}
    (h : parseMonth text pattern = .ok m) : 1 ≤ m ∧ m ≤ 12 := by
  unfold parseMonth at h
  cases pattern with
  | some p =>
    dsimp only at h
    cases hday : readPartial? text p with
    | none => rw [hday] at h; cases h
    | some day =>
      rw [hday] at h
      cases h
      exact day.isDay.2.1
  | none =>
    dsimp only [plainMonth] at h
    cases hcount : plainCount? (dropPointZero (Text.trimChars text.toList)) with
    | some n =>
      rw [hcount] at h
      dsimp only at h
      by_cases hn : 1 ≤ n ∧ n ≤ 12
      · rw [if_pos hn] at h
        cases h
        exact hn
      · rw [if_neg hn] at h
        cases h
    | none =>
      rw [hcount] at h
      dsimp only at h
      cases hname : monthOfName? (Text.trimChars text.toList) with
      | none => rw [hname] at h; cases h
      | some n =>
        rw [hname] at h
        cases h
        exact monthOfName?_range hname

end UsageGrid.Extraction
