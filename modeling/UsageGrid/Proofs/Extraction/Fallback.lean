import Mathlib.Data.List.Induction
import UsageGrid.Proofs.Extraction.Cleaning

/-!
# What stands in for a value

What becomes of a raw value, said without a run:

* a raw value is good with a value (`IsGood`), or it cannot be used, for one of four reasons
  (`IsBad`);
* a good value is kept; for any other the default stands in, else the latest good value before it,
  else the action decides (`Becomes`).

A run makes of each raw value what becomes of it, in order, up to the first error
(`cleanAll_becomes`). Only good values are remembered, and a blank cell has a value only where
something stands in for it or it is passed on.
-/

namespace UsageGrid.Extraction.Cleaning

open Rules

variable {c : Cleaning} {before raws : List Raw} {raw : Raw}

/-! ## 1. Good and bad -/

/-- What a pattern, if there is one, leaves of a text. -/
inductive Leaves : Option Pattern → String → String → Prop
  | all (whole : String) : Leaves none whole whole
  | part {p : Pattern} {whole text : String} (h : p.extract whole = some text) :
      Leaves (some p) whole text

/-- The raw value is not blank, something is left of it, and the conversion accepts that. -/
def IsGood (c : Cleaning) (raw : Raw) (v : String) : Prop :=
  ∃ whole text, raw.text = some whole ∧ Leaves c.params.pattern whole text ∧ text ≠ "" ∧
    c.conversion.apply text = .ok v

/-- The raw value cannot be used, and why. -/
inductive IsBad (c : Cleaning) (raw : Raw) : Reason → Prop
  | blank (hraw : raw.text = none) : IsBad c raw .blankCell
  | noMatch {whole : String} {p : Pattern} (hraw : raw.text = some whole)
      (hp : c.params.pattern = some p) (hno : p.extract whole = none) :
      IsBad c raw (.noMatch p.source)
  | nothingLeft {whole : String} (hraw : raw.text = some whole)
      (hleft : Leaves c.params.pattern whole "") : IsBad c raw .nothingLeft
  | rejected {whole text : String} {e : PeriodError} (hraw : raw.text = some whole)
      (hleft : Leaves c.params.pattern whole text) (hne : text ≠ "")
      (he : c.conversion.apply text = .error e) : IsBad c raw (.period e)

theorem taken_eq_ok {p : Option Pattern} {whole text : String} :
    taken p whole = .ok text ↔ Leaves p whole text := by
  unfold taken
  cases p with
  | none =>
    dsimp only
    rw [Except.ok.injEq]
    constructor
    · rintro rfl
      exact .all whole
    · rintro ⟨⟩
      rfl
  | some q =>
    dsimp only
    constructor
    · intro h
      cases hq : q.extract whole with
      | none => rw [hq] at h; cases h
      | some t =>
        rw [hq] at h
        cases h
        exact .part hq
    · rintro (_ | hq)
      rw [hq]

theorem taken_eq_error {p : Option Pattern} {whole : String} {reason : Reason} :
    taken p whole = .error reason ↔
      ∃ q, p = some q ∧ q.extract whole = none ∧ .noMatch q.source = reason := by
  unfold taken
  cases p with
  | none => simp
  | some q => cases hq : q.extract whole <;> simp [hq]

/-- What is left of a raw value is converted. -/
theorem attempt_of_leaves {whole text : String} (hraw : raw.text = some whole)
    (hleft : Leaves c.params.pattern whole text) (hne : text ≠ "") :
    c.attempt raw = (c.conversion.apply text).mapError .period := by
  have hkept : text.isEmpty = false := by simpa using hne
  unfold attempt
  rw [hraw]
  dsimp only
  rw [taken_eq_ok.2 hleft, ok_bind, hkept]
  rfl

theorem IsGood.attempt_eq {v : String} (h : c.IsGood raw v) : c.attempt raw = .ok v := by
  obtain ⟨whole, text, hraw, hleft, hne, hv⟩ := h
  rw [attempt_of_leaves hraw hleft hne, hv]
  rfl

theorem IsBad.attempt_eq {reason : Reason} (h : c.IsBad raw reason) :
    c.attempt raw = .error reason := by
  cases h with
  | blank hraw =>
    unfold attempt
    rw [hraw]
  | noMatch hraw hp hno =>
    unfold attempt
    rw [hraw]
    dsimp only
    rw [taken_eq_error.2 ⟨_, hp, hno, rfl⟩, error_bind]
  | nothingLeft hraw hleft =>
    unfold attempt
    rw [hraw]
    dsimp only
    rw [taken_eq_ok.2 hleft]
    rfl
  | rejected hraw hleft hne he =>
    rw [attempt_of_leaves hraw hleft hne, he]
    rfl

/-- A raw value is good or bad. -/
theorem isGood_or_isBad (c : Cleaning) (raw : Raw) :
    (∃ v, c.IsGood raw v) ∨ ∃ reason, c.IsBad raw reason := by
  cases hraw : raw.text with
  | none => exact .inr ⟨_, .blank hraw⟩
  | some whole =>
    cases htaken : taken c.params.pattern whole with
    | error reason =>
      obtain ⟨q, hq, hno, rfl⟩ := taken_eq_error.1 htaken
      exact .inr ⟨_, .noMatch hraw hq hno⟩
    | ok text =>
      have hleft := taken_eq_ok.1 htaken
      by_cases hempty : text = ""
      · exact .inr ⟨_, .nothingLeft hraw (hempty ▸ hleft)⟩
      · cases hv : c.conversion.apply text with
        | ok v => exact .inl ⟨v, whole, text, hraw, hleft, hempty, hv⟩
        | error e => exact .inr ⟨_, .rejected hraw hleft hempty hv⟩

theorem attempt_eq_ok_iff {v : String} : c.attempt raw = .ok v ↔ c.IsGood raw v := by
  refine ⟨fun h => ?_, IsGood.attempt_eq⟩
  rcases isGood_or_isBad c raw with ⟨w, hgood⟩ | ⟨reason, hbad⟩
  · rw [hgood.attempt_eq, Except.ok.injEq] at h
    exact h ▸ hgood
  · rw [hbad.attempt_eq] at h
    cases h

theorem attempt_eq_error_iff {reason : Reason} :
    c.attempt raw = .error reason ↔ c.IsBad raw reason := by
  refine ⟨fun h => ?_, IsBad.attempt_eq⟩
  rcases isGood_or_isBad c raw with ⟨v, hgood⟩ | ⟨r, hbad⟩
  · rw [hgood.attempt_eq] at h
    cases h
  · rw [hbad.attempt_eq, Except.error.injEq] at h
    exact h ▸ hbad

/-- The raw value is good with no value. -/
theorem not_isGood_iff : (∀ v, ¬ c.IsGood raw v) ↔ ∃ reason, c.IsBad raw reason := by
  constructor
  · intro h
    rcases isGood_or_isBad c raw with ⟨v, hgood⟩ | hbad
    · exact absurd hgood (h v)
    · exact hbad
  · rintro ⟨reason, hbad⟩ v hgood
    have := hgood.attempt_eq.symm.trans hbad.attempt_eq
    cases this

/-! ## 2. The latest good value -/

/-- The value is that of the latest good raw value. -/
def IsLatest (c : Cleaning) (before : List Raw) (v : String) : Prop :=
  ∃ earlier r later, before = earlier ++ r :: later ∧ c.IsGood r v ∧
    ∀ x ∈ later, ∀ w, ¬ c.IsGood x w

theorem isLatest_concat {v : String} :
    c.IsLatest (before ++ [raw]) v ↔
      c.IsGood raw v ∨ (∀ w, ¬ c.IsGood raw w) ∧ c.IsLatest before v := by
  constructor
  · rintro ⟨earlier, r, later, hsplit, hgood, hlater⟩
    rcases List.eq_nil_or_concat later with rfl | ⟨later, x, rfl⟩
    · obtain ⟨-, hr⟩ := List.append_inj' hsplit rfl
      cases hr
      exact .inl hgood
    · rw [List.concat_eq_append] at hsplit hlater
      rw [← List.cons_append, ← List.append_assoc] at hsplit
      obtain ⟨rfl, hx⟩ := List.append_inj' hsplit rfl
      cases hx
      exact .inr ⟨hlater raw (List.mem_append_right _ List.mem_cons_self), earlier, r, later, rfl,
        hgood, fun x hx => hlater x (List.mem_append_left _ hx)⟩
  · rintro (hgood | ⟨hbad, earlier, r, later, rfl, hgood, hlater⟩)
    · exact ⟨before, raw, [], rfl, hgood, fun x hx => nomatch hx⟩
    · refine ⟨earlier, r, later ++ [raw], by simp, hgood, fun x hx => ?_⟩
      rcases List.mem_append.1 hx with hx | hx
      · exact hlater x hx
      · rw [List.mem_singleton.1 hx]
        exact hbad

/-- What is remembered is the latest good value. -/
theorem lastGood_eq_some_iff {v : String} : c.lastGood before = some v ↔ c.IsLatest before v := by
  induction before using List.reverseRecOn with
  | nil =>
    rw [lastGood_nil]
    constructor
    · rintro ⟨⟩
    · rintro ⟨earlier, r, later, hsplit, -⟩
      cases earlier <;> cases hsplit
  | append_singleton before raw ih =>
    rw [lastGood_concat, isLatest_concat, ← ih]
    rcases isGood_or_isBad c raw with ⟨w, hgood⟩ | ⟨reason, hbad⟩
    · have hnot : ¬ ∀ w, ¬ c.IsGood raw w := fun h => h w hgood
      rw [hgood.attempt_eq, ← attempt_eq_ok_iff, hgood.attempt_eq]
      simp [Except.toOption, hnot]
    · have hall := not_isGood_iff.2 ⟨reason, hbad⟩
      rw [hbad.attempt_eq]
      simp [Except.toOption, hall]

/-! ## 3. What becomes of a raw value -/

/-- Nothing is remembered, or it must not be used. -/
def HasNoLast (c : Cleaning) (before : List Raw) : Prop :=
  c.params.lastAsDefault = true → ∀ x ∈ before, ∀ w, ¬ c.IsGood x w

/-- What becomes of a raw value that comes after others: its value, the value of what stands in for
    it, nothing, or an error. -/
inductive Becomes (c : Cleaning) (before : List Raw) (raw : Raw) :
    Except ExtractionError (Option String) → Prop
  | good {v : String} (h : c.IsGood raw v) : Becomes c before raw (.ok (some v))
  | default {reason : Reason} {d : Scalar} {v : String} (hbad : c.IsBad raw reason)
      (hd : c.params.default = some d) (hv : c.conversion.apply d.shown = .ok v) :
      Becomes c before raw (.ok (some v))
  | invalidDefault {reason : Reason} {d : Scalar} {e : PeriodError} (hbad : c.IsBad raw reason)
      (hd : c.params.default = some d) (he : c.conversion.apply d.shown = .error e) :
      Becomes c before raw (.error (.invalidDefault c.area c.role d.shown e))
  | last {reason : Reason} {v : String} (hbad : c.IsBad raw reason)
      (hd : c.params.default = none) (hlast : c.params.lastAsDefault = true)
      (hv : c.IsLatest before v) : Becomes c before raw (.ok (some v))
  | skip {reason : Reason} (hbad : c.IsBad raw reason) (hd : c.params.default = none)
      (hlast : c.HasNoLast before) (haction : c.params.onError = .skip) :
      Becomes c before raw (.ok none)
  | pass {reason : Reason} (hbad : c.IsBad raw reason) (hd : c.params.default = none)
      (hlast : c.HasNoLast before) (haction : c.params.onError = .pass) :
      Becomes c before raw (.ok (some (raw.text.getD "")))
  | fatal {reason : Reason} (hbad : c.IsBad raw reason) (hd : c.params.default = none)
      (hlast : c.HasNoLast before) (haction : c.params.onError = .fail ∨ c.params.onError = .stop) :
      Becomes c before raw
        (.error (.cell c.area c.role raw.location (raw.text.getD "") reason c.params.onError))

theorem lastGood_eq_none_iff : c.lastGood before = none ↔ ∀ x ∈ before, ∀ w, ¬ c.IsGood x w := by
  unfold lastGood
  rw [List.getLast?_eq_none_iff, List.filterMap_eq_nil_iff]
  constructor
  · intro h x hx w hgood
    have := h x hx
    rw [hgood.attempt_eq] at this
    cases this
  · intro h x hx
    obtain ⟨reason, hbad⟩ := not_isGood_iff.1 (h x hx)
    rw [hbad.attempt_eq]
    rfl

/-- Where nothing is remembered, the action decides. -/
theorem fallback_of_hasNoLast (hd : c.params.default = none) (hlast : c.HasNoLast before)
    (reason : Reason) : c.fallback (c.lastGood before) raw reason = c.act raw reason := by
  unfold fallback
  rw [hd]
  dsimp only
  cases hflag : c.params.lastAsDefault with
  | false => rfl
  | true => rw [lastGood_eq_none_iff.2 (hlast hflag)]

theorem Becomes.outcome_eq {r : Except ExtractionError (Option String)}
    (h : c.Becomes before raw r) : c.outcome before raw = r := by
  unfold outcome
  cases h with
  | good h => rw [h.attempt_eq]
  | default hbad hd hv =>
    rw [hbad.attempt_eq]
    unfold fallback
    simp only [hd, hv]
  | invalidDefault hbad hd he =>
    rw [hbad.attempt_eq]
    unfold fallback
    simp only [hd, he]
  | last hbad hd hlast hv =>
    rw [hbad.attempt_eq]
    unfold fallback
    simp only [hd, hlast, lastGood_eq_some_iff.2 hv]
  | skip hbad hd hlast haction =>
    rw [hbad.attempt_eq]
    dsimp only
    rw [fallback_of_hasNoLast hd hlast, act, haction]
  | pass hbad hd hlast haction =>
    rw [hbad.attempt_eq]
    dsimp only
    rw [fallback_of_hasNoLast hd hlast, act, haction]
  | fatal hbad hd hlast haction =>
    rw [hbad.attempt_eq]
    dsimp only
    rw [fallback_of_hasNoLast hd hlast, act]
    rcases haction with haction | haction <;> rw [haction]

/-- Something becomes of every raw value. -/
theorem exists_becomes (c : Cleaning) (before : List Raw) (raw : Raw) :
    ∃ r, c.Becomes before raw r := by
  rcases isGood_or_isBad c raw with ⟨v, hgood⟩ | ⟨reason, hbad⟩
  · exact ⟨_, .good hgood⟩
  · cases hd : c.params.default with
    | some d =>
      cases hv : c.conversion.apply d.shown with
      | ok v => exact ⟨_, .default hbad hd hv⟩
      | error e => exact ⟨_, .invalidDefault hbad hd hv⟩
    | none =>
      by_cases hlast : c.HasNoLast before
      · cases haction : c.params.onError with
        | skip => exact ⟨_, .skip hbad hd hlast haction⟩
        | pass => exact ⟨_, .pass hbad hd hlast haction⟩
        | fail => exact ⟨_, .fatal hbad hd hlast (.inl haction)⟩
        | stop => exact ⟨_, .fatal hbad hd hlast (.inr haction)⟩
      · obtain ⟨hflag, hsome⟩ := Classical.not_imp.1 hlast
        rw [← lastGood_eq_none_iff] at hsome
        obtain ⟨v, hv⟩ := Option.ne_none_iff_exists'.1 hsome
        exact ⟨_, .last hbad hd hflag (lastGood_eq_some_iff.1 hv)⟩

theorem becomes_iff {r : Except ExtractionError (Option String)} :
    c.Becomes before raw r ↔ c.outcome before raw = r := by
  refine ⟨Becomes.outcome_eq, ?_⟩
  rintro rfl
  obtain ⟨r, hr⟩ := exists_becomes c before raw
  rwa [hr.outcome_eq]

/-- A value of a blank cell is that of the default, the latest good one, or the empty text that is
    passed on. -/
theorem Becomes.of_blank {v : String} (h : c.Becomes before raw (.ok (some v)))
    (hblank : raw.text = none) :
    (∃ d, c.params.default = some d ∧ c.conversion.apply d.shown = .ok v) ∨
      (c.params.lastAsDefault = true ∧ c.IsLatest before v) ∨
      (c.params.onError = .pass ∧ v = "") := by
  cases h with
  | good h =>
    obtain ⟨whole, text, hraw, -⟩ := h
    rw [hblank] at hraw
    cases hraw
  | default _ hd hv => exact .inl ⟨_, hd, hv⟩
  | last _ _ hlast hv => exact .inr (.inl ⟨hlast, hv⟩)
  | pass _ _ _ haction =>
    rw [hblank]
    exact .inr (.inr ⟨haction, rfl⟩)

/-! ## 4. A run -/

/-- A run fails with the error of the first raw value that does. -/
theorem cleanAll_eq_error {e : ExtractionError} :
    c.cleanAll (c.lastGood before) raws = .error e ↔
      ∃ n, ∃ h : n < raws.length, c.outcome (before ++ raws.take n) raws[n] = .error e ∧
        ∀ m (hm : m < n), ∃ v, c.outcome (before ++ raws.take m) raws[m] = .ok v := by
  -- what has been cleaned joins the raw values before
  induction raws generalizing before with
  | nil =>
    rw [cleanAll]
    constructor
    · rintro ⟨⟩
    · rintro ⟨n, h, -⟩
      exact absurd h (Nat.not_lt_zero n)
  | cons raw rest ih =>
    rw [cleanAll_cons, bind_eq_error]
    simp only [map_eq_error, ih, List.append_assoc, List.singleton_append]
    constructor
    · rintro (he | ⟨v, hv, n, h, he, hbefore⟩)
      · exact ⟨0, Nat.succ_pos _, by simpa using he, fun m hm => absurd hm (Nat.not_lt_zero m)⟩
      · refine ⟨n + 1, Nat.succ_lt_succ h, he, fun m hm => ?_⟩
        cases m with
        | zero => exact ⟨v, by simpa using hv⟩
        | succ m => exact hbefore m (Nat.lt_of_succ_lt_succ hm)
    · rintro ⟨n, h, he, hbefore⟩
      cases n with
      | zero => exact .inl (by simpa using he)
      | succ n =>
        obtain ⟨v, hv⟩ := hbefore 0 (Nat.succ_pos n)
        refine .inr ⟨v, by simpa using hv, n, Nat.lt_of_succ_lt_succ h, he, fun m hm => ?_⟩
        exact hbefore (m + 1) (Nat.succ_lt_succ hm)

/-- **Each raw value becomes what it becomes after those before it, up to the first error.** -/
theorem cleanAll_becomes (c : Cleaning) (raws : List Raw) :
    (∀ vs, c.cleanAll none raws = .ok vs ↔
      vs.length = raws.length ∧ ∀ n (h : n < raws.length) (h' : n < vs.length),
        c.Becomes (raws.take n) raws[n] (.ok vs[n])) ∧
    (∀ e, c.cleanAll none raws = .error e ↔
      ∃ n, ∃ h : n < raws.length, c.Becomes (raws.take n) raws[n] (.error e) ∧
        ∀ m (hm : m < n), ∃ v, c.Becomes (raws.take m) raws[m] (.ok v)) ∧
    ∀ vs, c.cleanAll none raws = .ok vs → ∀ n (h : n < raws.length) (h' : n < vs.length),
      raws[n].text = none → ∀ v, vs[n] = some v →
        (∃ d, c.params.default = some d ∧ c.conversion.apply d.shown = .ok v) ∨
        (c.params.lastAsDefault = true ∧ c.IsLatest (raws.take n) v) ∨
        (c.params.onError = .pass ∧ v = "") := by
  have hok : ∀ vs, c.cleanAll none raws = .ok vs ↔
      vs.length = raws.length ∧ ∀ n (h : n < raws.length) (h' : n < vs.length),
        c.Becomes (raws.take n) raws[n] (.ok vs[n]) := by
    intro vs
    simp only [becomes_iff]
    exact @cleanAll_eq_ok c [] raws vs
  refine ⟨hok, fun e => ?_, fun vs hvs n h h' hblank v hv => ?_⟩
  · simp only [becomes_iff]
    exact @cleanAll_eq_error c [] raws e
  · have hbecomes := ((hok vs).1 hvs).2 n h h'
    rw [hv] at hbecomes
    exact hbecomes.of_blank hblank

end UsageGrid.Extraction.Cleaning
