import UsageGrid.Calendar.Fields

/-!
# What fields say of a date

Fields that are said one after the other are said all together (`setAll?_append`, `mem_setAll?`),
and they can be said if they lie in their ranges and do not contradict each other (`exists_setAll?`).
The date they describe bears them out (`toDate?_year`, `toDate?_month`); year, month and day alone
describe their date (`toDate?_ymd`). No date is described without a year and without a place in it
(`toDate?_hasYear`, `toDate?_hasPlace`).
-/

namespace UsageGrid.Calendar

theorem daysInMonth_le (year : Int) (month : Nat) : daysInMonth year month ≤ 31 := by
  unfold daysInMonth
  split
  · split <;> omega
  · split <;> omega

namespace Fields

variable {f g : Fields} {s t : Slot} {v w : Int} {l : List (Slot × Int)} {d : Date}

/-! ## 1. Saying fields -/

/-- The field can have this value. -/
def InRange (p : Slot × Int) : Prop := p.1.range.1 ≤ p.2 ∧ p.2 ≤ p.1.range.2

@[simp] theorem get?_empty (s : Slot) : ({} : Fields).get? s = none := rfl

/-- What is said when a field has been said: that field, and what was said before. -/
theorem mem_set? (h : f.set? s v = some g) :
    g.get? t = some w ↔ f.get? t = some w ∨ (t = s ∧ w = v) := by
  unfold set? at h
  split at h
  · cases hold : f.get? s with
    | some old =>
      simp only [hold] at h
      split at h
      · rename_i hv
        cases h
        subst hv
        constructor
        · exact .inl
        · rintro (h | ⟨rfl, rfl⟩)
          · exact h
          · exact hold
      · cases h
    | none =>
      simp only [hold, Option.some.injEq] at h
      subst h
      unfold get? at hold ⊢
      rw [List.lookup_cons]
      by_cases hts : t = s
      · subst hts
        simp [hold, eq_comm]
      · rw [beq_eq_false_iff_ne.2 hts]
        simp [hts]
  · cases h

theorem setAll?_cons_eq_some :
    f.setAll? ((s, v) :: l) = some g ↔ ∃ f', f.set? s v = some f' ∧ f'.setAll? l = some g :=
  Option.bind_eq_some_iff

theorem setAll?_append (f : Fields) (a b : List (Slot × Int)) :
    f.setAll? (a ++ b) = (f.setAll? a).bind (·.setAll? b) := by
  induction a generalizing f with
  | nil => rfl
  | cons p a ih =>
    obtain ⟨s, v⟩ := p
    rw [List.cons_append, setAll?, setAll?, Option.bind_assoc]
    exact Option.bind_congr fun f' _ => ih f'

/-- **What is said in the end is what was said.** -/
theorem mem_setAll? (h : f.setAll? l = some g) :
    g.get? t = some w ↔ f.get? t = some w ∨ (t, w) ∈ l := by
  induction l generalizing f with
  | nil =>
    cases h
    simp
  | cons p l ih =>
    obtain ⟨s, v⟩ := p
    obtain ⟨f', hset, h⟩ := setAll?_cons_eq_some.1 h
    rw [ih h, mem_set? hset, List.mem_cons, Prod.mk.injEq, or_assoc]

theorem exists_set? (hrange : InRange (s, v)) (hsaid : ∀ w, f.get? s = some w → w = v) :
    ∃ f', f.set? s v = some f' := by
  unfold set?
  rw [if_pos (show _ ∧ _ from hrange)]
  cases hold : f.get? s with
  | none => exact ⟨_, rfl⟩
  | some old =>
    dsimp only
    rw [if_pos (hsaid old hold)]
    exact ⟨_, rfl⟩

/-- **Fields can be said together if they lie in their ranges and agree.** -/
theorem exists_setAll? (hrange : ∀ p ∈ l, InRange p)
    (hsaid : ∀ p ∈ l, ∀ w, f.get? p.1 = some w → w = p.2)
    (hagree : ∀ p ∈ l, ∀ q ∈ l, p.1 = q.1 → p.2 = q.2) : ∃ g, f.setAll? l = some g := by
  induction l generalizing f with
  | nil => exact ⟨f, rfl⟩
  | cons p l ih =>
    obtain ⟨s, v⟩ := p
    obtain ⟨f', hset⟩ := exists_set? (hrange _ List.mem_cons_self) (hsaid _ List.mem_cons_self)
    obtain ⟨g, hg⟩ := ih (f := f') (fun p hp => hrange p (List.mem_cons_of_mem _ hp))
      (fun p hp w hw => by
        rcases (mem_set? hset).1 hw with hw | ⟨hs, rfl⟩
        · exact hsaid p (List.mem_cons_of_mem _ hp) w hw
        · exact hagree _ List.mem_cons_self p (List.mem_cons_of_mem _ hp) hs.symm)
      (fun p hp q hq => hagree p (List.mem_cons_of_mem _ hp) q (List.mem_cons_of_mem _ hq))
    exact ⟨g, setAll?_cons_eq_some.2 ⟨f', hset, hg⟩⟩

/-! ## 2. The date they describe -/

theorem agrees_iff : f.agrees s v = true ↔ ∀ w, f.get? s = some w → w = v := by
  unfold agrees
  cases f.get? s with
  | none => simp
  | some w => simp

/-- A date is described in one of five ways, and bears out year, month and day. -/
theorem toDate?_eq_some (h : f.toDate? = some d) :
    ∃ year isoYear,
      fullYear? (f.get? .year) (f.get? .century) (f.get? .yearOfCentury) = some year ∧
      fullYear? (f.get? .isoYear) none (f.get? .isoYearOfCentury) = some isoYear ∧
      f.candidate? year isoYear = some d ∧ f.agreesYmd d = true := by
  unfold toDate? at h
  obtain ⟨year, hyear, h⟩ := Option.bind_eq_some_iff.1 h
  obtain ⟨isoYear, hiso, h⟩ := Option.bind_eq_some_iff.1 h
  obtain ⟨d', hd, h⟩ := Option.bind_eq_some_iff.1 h
  obtain ⟨_, hguard, h⟩ := Option.bind_eq_some_iff.1 h
  cases h
  refine ⟨year, isoYear, hyear, hiso, hd, ?_⟩
  cases hagrees : f.agreesYmd d with
  | true => rfl
  | false =>
    rw [hagrees] at hguard
    cases hguard

theorem toDate?_year (h : f.toDate? = some d) (hy : f.get? .year = some v) : d.year = v := by
  obtain ⟨-, -, -, -, -, hagrees⟩ := toDate?_eq_some h
  unfold agreesYmd at hagrees
  simp only [Bool.and_eq_true] at hagrees
  exact (agrees_iff.1 hagrees.1.1.1.1 v hy).symm

theorem toDate?_month (h : f.toDate? = some d) (hm : f.get? .month = some v) :
    (d.month : Int) = v := by
  obtain ⟨-, -, -, -, -, hagrees⟩ := toDate?_eq_some h
  unfold agreesYmd at hagrees
  simp only [Bool.and_eq_true] at hagrees
  exact (agrees_iff.1 hagrees.1.2 v hm).symm

theorem year_of_ofYmd? {y : Int} {m n : Nat} (h : Date.ofYmd? y m n = some d) : d.year = y := by
  unfold Date.ofYmd? at h
  split at h
  · cases h
    rfl
  · cases h

/-- Two digits of a year, with month and day, describe a date from 1970 to 2069. -/
theorem toDate?_yearOfCentury {m n : Int} (h : f.toDate? = some d) (hy : f.get? .year = none)
    (hc : f.get? .century = none) (hr : f.get? .yearOfCentury = some v)
    (hm : f.get? .month = some m) (hd : f.get? .day = some n) :
    d.year = if v < 70 then 2000 + v else 1900 + v := by
  obtain ⟨year, isoYear, hyear, -, hcandidate, -⟩ := toDate?_eq_some h
  rw [hy, hc, hr] at hyear
  cases hyear
  unfold candidate? at hcandidate
  rw [hm, hd] at hcandidate
  exact year_of_ofYmd? hcandidate

/-- **Year, month and day alone describe their date.** -/
theorem toDate?_ymd (h : ∀ s v, f.get? s = some v ↔
      (s, v) ∈ [(Slot.year, d.year), (.month, (d.month : Int)), (.day, (d.day : Int))]) :
    f.toDate? = some d := by
  have hyear : f.get? .year = some d.year := (h _ _).2 (by simp)
  have hmonth : f.get? .month = some (d.month : Int) := (h _ _).2 (by simp)
  have hday : f.get? .day = some (d.day : Int) := (h _ _).2 (by simp)
  have hnone : ∀ s, s ≠ .year → s ≠ .month → s ≠ .day → f.get? s = none := by
    intro s hy hm hd
    refine Option.eq_none_iff_forall_ne_some.2 fun v hv => ?_
    have := (h s v).1 hv
    simp [hy, hm, hd] at this
  have hcandidate : f.candidate? (some d.year) none = some d := by
    unfold candidate?
    rw [hmonth, hday]
    exact dif_pos d.isDay
  have hymd : f.agreesYmd d = true := by
    unfold agreesYmd agreesDigits agrees
    simp [hyear, hmonth, hday, hnone]
  have hweek : f.agreesIsoWeek d = true := by
    unfold agreesIsoWeek agreesDigits agrees
    simp [hnone]
  have hplace : f.agreesOrdinal d = true := by
    unfold agreesOrdinal agrees
    simp [hnone]
  have hquarter : f.agrees .quarter d.quarter = true := by
    unfold agrees
    simp [hnone]
  unfold toDate?
  rw [hyear, hnone .century (by decide) (by decide) (by decide),
    hnone .yearOfCentury (by decide) (by decide) (by decide),
    hnone .isoYear (by decide) (by decide) (by decide),
    hnone .isoYearOfCentury (by decide) (by decide) (by decide)]
  show (f.candidate? (some d.year) none).bind _ = _
  rw [hcandidate, Option.bind_some, hymd, hweek, hplace, hquarter]
  rfl

/-- Year, month and day lie in their ranges. -/
theorem inRange_ymd (d : Date) :
    ∀ p ∈ [(Slot.year, d.year), (.month, (d.month : Int)), (.day, (d.day : Int))], InRange p := by
  obtain ⟨⟨hfirst, hlast⟩, hmonth, hday⟩ := d.isDay
  have hdays := daysInMonth_le d.year d.month
  unfold firstYear at hfirst
  unfold lastYear at hlast
  have hpow : (Nat.pow 2 31 : Int) = 2147483648 := rfl
  simp only [List.forall_mem_cons, InRange, Slot.range, hpow]
  refine ⟨⟨?_, ?_⟩, ⟨?_, ?_⟩, ⟨?_, ?_⟩, by simp⟩ <;> omega

/-- **Year, month and day can be said together**, however often, and describe their date. -/
theorem exists_setAll?_ymd (h : ∀ s v, (s, v) ∈ l ↔
      (s, v) ∈ [(Slot.year, d.year), (.month, (d.month : Int)), (.day, (d.day : Int))]) :
    ∃ f, setAll? {} l = some f ∧ f.toDate? = some d := by
  have hagree : ∀ p ∈ [(Slot.year, d.year), (.month, (d.month : Int)), (.day, (d.day : Int))],
      ∀ q ∈ [(Slot.year, d.year), (.month, (d.month : Int)), (.day, (d.day : Int))],
      p.1 = q.1 → p.2 = q.2 := by
    simp
  obtain ⟨f, hf⟩ := exists_setAll? (f := {}) (fun p hp => inRange_ymd d p ((h _ _).1 hp))
    (fun p _ w hw => nomatch hw)
    (fun p hp q hq => hagree p ((h _ _).1 hp) q ((h _ _).1 hq))
  refine ⟨f, hf, toDate?_ymd fun s v => ?_⟩
  rw [mem_setAll? hf, h, get?_empty]
  simp only [reduceCtorEq, false_or]

/-- A date is described by its year, or by the year of its week, or by two digits of one. -/
theorem toDate?_hasYear (h : f.toDate? = some d) :
    ∃ s ∈ [Slot.year, .yearOfCentury, .isoYear, .isoYearOfCentury], ∃ v, f.get? s = some v := by
  obtain ⟨year, isoYear, hyear, hiso, hcandidate, -⟩ := toDate?_eq_some h
  refine Classical.byContradiction fun hnone => ?_
  have hget : ∀ s ∈ [Slot.year, .yearOfCentury, .isoYear, .isoYearOfCentury], f.get? s = none :=
    fun s hs => Option.eq_none_iff_forall_ne_some.2 fun v hv => hnone ⟨s, hs, v, hv⟩
  rw [hget .year (by simp), hget .yearOfCentury (by simp)] at hyear
  rw [hget .isoYear (by simp), hget .isoYearOfCentury (by simp)] at hiso
  cases hiso
  cases hc : f.get? .century with
  | none =>
    rw [hc] at hyear
    cases hyear
    unfold candidate? at hcandidate
    simp at hcandidate
  | some c =>
    rw [hc] at hyear
    cases hyear

/-- A date is described by its month, its place in the year, or its week. -/
theorem toDate?_hasPlace (h : f.toDate? = some d) :
    ∃ s ∈ [Slot.month, .ordinal, .weekFromSunday, .weekFromMonday, .isoWeek],
      ∃ v, f.get? s = some v := by
  obtain ⟨year, isoYear, -, -, hcandidate, -⟩ := toDate?_eq_some h
  refine Classical.byContradiction fun hnone => ?_
  have hget : ∀ s ∈ [Slot.month, .ordinal, .weekFromSunday, .weekFromMonday, .isoWeek],
      f.get? s = none :=
    fun s hs => Option.eq_none_iff_forall_ne_some.2 fun v hv => hnone ⟨s, hs, v, hv⟩
  unfold candidate? at hcandidate
  rw [hget .month (by simp), hget .ordinal (by simp), hget .weekFromSunday (by simp),
    hget .weekFromMonday (by simp), hget .isoWeek (by simp)] at hcandidate
  cases year <;> cases isoYear <;> cases hcandidate

end Fields

end UsageGrid.Calendar
