import UsageGrid.Proofs.Outcome
import UsageGrid.Extraction.Cleaning

/-!
# Cleaning, raw value by raw value

Cleaning goes through the raw values of a source once and carries the last good value along. What
becomes of one raw value can be said without the run: it depends on that value and on those before
it only (`Cleaning.outcome`), and the run succeeds if and only if each of them does
(`Cleaning.cleanAll_eq_ok`). Where values are not passed on as they stand, a value that comes out has
been converted (`Cleaning.outcome_eq_some`).
-/

namespace UsageGrid.Extraction.Cleaning

/-! ## 1. One raw value -/

/-- The last good value of several raw values. -/
def lastGood (c : Cleaning) (before : List Raw) : Option String :=
  (before.filterMap fun raw => (c.attempt raw).toOption).getLast?

/-- What becomes of a raw value that comes after others. -/
def outcome (c : Cleaning) (before : List Raw) (raw : Raw) :
    Except ExtractionError (Option String) :=
  match c.attempt raw with
  | .ok v => .ok (some v)
  | .error reason => c.fallback (c.lastGood before) raw reason

@[simp] theorem lastGood_nil (c : Cleaning) : c.lastGood [] = none := rfl

theorem lastGood_concat (c : Cleaning) (before : List Raw) (raw : Raw) :
    c.lastGood (before ++ [raw]) = ((c.attempt raw).toOption <|> c.lastGood before) := by
  unfold lastGood
  rw [List.filterMap_append]
  cases h : c.attempt raw with
  | ok v => simp [h, Except.toOption]
  | error reason => simp [h, Except.toOption]

/-- Cleaning carries the last good value. -/
theorem clean_lastGood (c : Cleaning) (before : List Raw) (raw : Raw) :
    c.clean (c.lastGood before) raw = (c.lastGood (before ++ [raw]), c.outcome before raw) := by
  rw [lastGood_concat]
  unfold clean outcome
  cases c.attempt raw with
  | ok v => rfl
  | error reason => rfl

/-! ## 2. All of them -/

theorem cleanAll_cons (c : Cleaning) (before : List Raw) (raw : Raw) (rest : List Raw) :
    c.cleanAll (c.lastGood before) (raw :: rest)
      = (c.outcome before raw >>= fun v =>
          (c.cleanAll (c.lastGood (before ++ [raw])) rest).map (v :: ·)) := by
  rw [cleanAll, clean_lastGood]
  rfl

/-- **All raw values are cleaned if and only if each can be**, given those before it. -/
theorem cleanAll_eq_ok {c : Cleaning} {before raws : List Raw} {vs : List (Option String)} :
    c.cleanAll (c.lastGood before) raws = .ok vs ↔
      vs.length = raws.length ∧ ∀ n (h : n < raws.length) (h' : n < vs.length),
        c.outcome (before ++ raws.take n) raws[n] = .ok vs[n] := by
  -- what has been cleaned joins the raw values before
  induction raws generalizing before vs with
  | nil =>
    rw [cleanAll, Except.ok.injEq]
    constructor
    · rintro rfl
      exact ⟨rfl, fun n h => absurd h (Nat.not_lt_zero n)⟩
    · rintro ⟨hlen, -⟩
      exact (List.length_eq_zero_iff.1 hlen).symm
  | cons raw rest ih =>
    rw [cleanAll_cons, bind_eq_ok]
    constructor
    · rintro ⟨v, hv, h⟩
      obtain ⟨vs, hvs, rfl⟩ := map_eq_ok.1 h
      obtain ⟨hlen, hall⟩ := ih.1 hvs
      refine ⟨congrArg (· + 1) hlen, fun n h h' => ?_⟩
      cases n with
      | zero => rw [List.take_zero, List.append_nil]; exact hv
      | succ n =>
        have := hall n (Nat.lt_of_succ_lt_succ h) (Nat.lt_of_succ_lt_succ h')
        rwa [List.append_assoc, List.singleton_append] at this
    · rintro ⟨hlen, hall⟩
      cases vs with
      | nil => cases hlen
      | cons v vs =>
        have hv := hall 0 (Nat.succ_pos _) (Nat.succ_pos _)
        rw [List.take_zero, List.append_nil] at hv
        refine ⟨v, hv, map_eq_ok.2 ⟨vs, ih.2 ⟨Nat.succ.inj hlen, fun n h h' => ?_⟩, rfl⟩⟩
        have := hall (n + 1) (Nat.succ_lt_succ h) (Nat.succ_lt_succ h')
        rwa [List.take_succ_cons, ← List.singleton_append, ← List.append_assoc] at this

/-- The same of raw values that are given by their numbers. -/
theorem cleanAll_range {c : Cleaning} {raw : Nat → Raw} {m : Nat} {vs : List (Option String)} :
    c.cleanAll none ((List.range m).map raw) = .ok vs ↔
      (∀ n < m, ∃ v, c.outcome ((List.range n).map raw) (raw n) = .ok v) ∧
      vs = (List.range m).map fun n =>
        (c.outcome ((List.range n).map raw) (raw n)).toOption.join := by
  have htake : ∀ n < m, ((List.range m).map raw).take n = (List.range n).map raw := by
    intro n hn
    rw [← List.map_take, List.take_range, Nat.min_eq_left (Nat.le_of_lt hn)]
  rw [← lastGood_nil c, cleanAll_eq_ok]
  simp only [List.length_map, List.length_range, List.nil_append, List.getElem_map,
    List.getElem_range]
  constructor
  · rintro ⟨hlen, hall⟩
    refine ⟨fun n hn => ⟨vs[n], ?_⟩, List.ext_getElem (by simp [hlen]) fun n hn _ => ?_⟩
    · have := hall n hn (hlen ▸ hn)
      rwa [htake n hn] at this
    · have hm : n < m := hlen ▸ hn
      have := hall n hm hn
      rw [htake n hm] at this
      rw [List.getElem_map, List.getElem_range, this]
      rfl
  · rintro ⟨hall, rfl⟩
    refine ⟨by simp, fun n hn _ => ?_⟩
    obtain ⟨v, hv⟩ := hall n hn
    rw [htake n hn, List.getElem_map, List.getElem_range, hv]
    rfl

/-! ## 3. What is converted -/

theorem attempt_eq_ok {c : Cleaning} {raw : Raw} {v : String} (h : c.attempt raw = .ok v) :
    ∃ whole text, raw.text = some whole ∧ taken c.params.pattern whole = .ok text ∧
      c.conversion.apply text = .ok v := by
  unfold attempt at h
  cases hraw : raw.text with
  | none => rw [hraw] at h; cases h
  | some whole =>
    rw [hraw] at h
    obtain ⟨text, htext, h⟩ := bind_eq_ok.1 h
    refine ⟨whole, text, rfl, htext, ?_⟩
    cases hempty : text.isEmpty with
    | true =>
      rw [hempty] at h
      exact absurd h throw_bind_ne_ok
    | false =>
      rw [hempty] at h
      exact mapError_eq_ok.1 h

theorem lastGood_eq_some {c : Cleaning} {before : List Raw} {v : String}
    (h : c.lastGood before = some v) : ∃ raw ∈ before, c.attempt raw = .ok v := by
  obtain ⟨raw, hraw, hgood⟩ := List.mem_filterMap.1 (List.mem_of_getLast? h)
  exact ⟨raw, hraw, toOption_eq_some.1 hgood⟩

/-- What an action lets through is what is passed on. -/
theorem act_eq_some {c : Cleaning} {raw : Raw} {reason : Reason} {v : String}
    (h : c.act raw reason = .ok (some v)) : c.params.onError = .pass := by
  unfold act at h
  cases haction : c.params.onError with
  | pass => rfl
  | fail | skip | stop =>
    rw [haction] at h
    cases h

/-- What stands in is the default, converted, or the last good value. -/
theorem fallback_eq_some {c : Cleaning} (hpass : c.params.onError ≠ .pass) {last : Option String}
    {raw : Raw} {reason : Reason} {v : String} (h : c.fallback last raw reason = .ok (some v)) :
    (∃ s, c.params.default = some s ∧ c.conversion.apply s.shown = .ok v) ∨ last = some v := by
  unfold fallback at h
  cases hdefault : c.params.default with
  | some s =>
    rw [hdefault] at h
    dsimp only at h
    cases hv : c.conversion.apply s.shown with
    | error e => rw [hv] at h; cases h
    | ok w =>
      rw [hv] at h
      cases h
      exact .inl ⟨s, rfl, hv⟩
  | none =>
    rw [hdefault] at h
    dsimp only at h
    split at h
    · cases h
      exact .inr rfl
    · exact absurd (act_eq_some h) hpass

/-- **A value that is not passed on as it stands has been converted**: it is that of the raw value
    or of one before, or it is made of the default. -/
theorem outcome_eq_some {c : Cleaning} (hpass : c.params.onError ≠ .pass) {before : List Raw}
    {raw : Raw} {v : String} (h : c.outcome before raw = .ok (some v)) :
    c.attempt raw = .ok v ∨ (∃ r ∈ before, c.attempt r = .ok v) ∨
      ∃ s, c.params.default = some s ∧ c.conversion.apply s.shown = .ok v := by
  unfold outcome at h
  cases hattempt : c.attempt raw with
  | ok w =>
    rw [hattempt] at h
    cases h
    exact .inl rfl
  | error reason =>
    rw [hattempt] at h
    rcases fallback_eq_some hpass h with hdefault | hlast
    · exact .inr (.inr hdefault)
    · exact .inr (.inl (lastGood_eq_some hlast))

end UsageGrid.Extraction.Cleaning
