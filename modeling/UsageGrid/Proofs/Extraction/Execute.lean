import UsageGrid.Extraction.Filter
import UsageGrid.Proofs.Extraction.Area

/-!
# Where the records of a document come from

Every record that a document finds in a grid is that of a pair of one of its areas, under the names
that the aliases give it (`mem_execute`). What the record of a pair is made of
(`recordAt_eq_some`) is then known of all of them.
-/

namespace UsageGrid.Extraction

open Rules

/-! ## 1. What is found -/

theorem mem_of_gather {α β ε : Type} {find : α → Except ε (Option β)} {xs : List α} {ys : List β}
    (h : gather find xs = .ok ys) {y : β} (hy : y ∈ ys) : ∃ x ∈ xs, find x = .ok (some y) := by
  induction xs generalizing ys with
  | nil =>
    cases h
    exact absurd hy List.not_mem_nil
  | cons x rest ih =>
    obtain ⟨found, hfound, h⟩ := bind_eq_ok.1 h
    obtain ⟨more, hmore, h⟩ := bind_eq_ok.1 h
    cases h
    rcases List.mem_append.1 hy with hy | hy
    · rw [Option.mem_toList.1 hy] at hfound
      exact ⟨x, List.mem_cons_self, hfound⟩
    · obtain ⟨z, hz, hfind⟩ := ih hmore hy
      exact ⟨z, List.mem_cons_of_mem x hz, hfind⟩

/-- A record that is kept is renamed and nothing else. -/
theorem judge_eq_some {d : Definition} {r r' : Record} (h : judge d r = .ok (some r')) :
    r' = canonical d r := by
  unfold judge at h
  by_cases hskip : isSkipped d r = true
  · rw [if_pos hskip] at h
    cases h
  · rw [if_neg hskip] at h
    dsimp only at h
    by_cases havailable : isAvailable d (canonical d r).metric = true
    · rw [if_pos havailable] at h
      cases h
      rfl
    · rw [if_neg havailable] at h
      cases haction : d.onMetricCheckFailed with
      | pass =>
        rw [haction] at h
        cases h
        rfl
      | fail | skip | stop =>
        rw [haction] at h
        cases h

theorem mem_evaluateAreas {g : Grid} {areas : List Area} {i : Nat} {rs : List Record}
    (h : evaluateAreas g i areas = .ok rs) {r : Record} (hr : r ∈ rs) :
    ∃ j, ∃ a ∈ areas, ∃ found, evaluateArea j a g = .ok found ∧ r ∈ found := by
  induction areas generalizing i rs with
  | nil =>
    cases h
    exact absurd hr List.not_mem_nil
  | cons a rest ih =>
    obtain ⟨found, hfound, h⟩ := bind_eq_ok.1 h
    obtain ⟨more, hmore, h⟩ := bind_eq_ok.1 h
    cases h
    rcases List.mem_append.1 hr with hr | hr
    · exact ⟨i, a, List.mem_cons_self, found, hfound, hr⟩
    · obtain ⟨j, b, hb, hrest⟩ := ih hmore hr
      exact ⟨j, b, List.mem_cons_of_mem a hb, hrest⟩

theorem mem_evaluateArea {i : Nat} {a : Area} {g : Grid} (ha : a.WellFormed) {rs : List Record}
    (h : evaluateArea i a g = .ok rs) {r : Record} (hr : r ∈ rs) :
    ∃ o l, recordAt i a g o l = some r := by
  by_cases hempty : laneCount a g = 0 ∨ observationCount a g = 0
  · have : (shapeOf a g).isEmpty = true := (isEmpty_shapeOf ha).2 hempty
    unfold evaluateArea at h
    dsimp only at h
    rw [if_pos this] at h
    cases h
    exact absurd hr List.not_mem_nil
  · obtain ⟨hlanes, hobservations⟩ := not_or.1 hempty
    rw [((evaluateArea_eq_ok ha hlanes hobservations i).1 h).2] at hr
    obtain ⟨⟨o, l⟩, -, hat⟩ := List.mem_filterMap.1 hr
    exact ⟨o, l, hat⟩

/-- **Every record of a document is that of a pair of one of its areas**, after the aliases. -/
theorem mem_execute {d : Definition} (hd : d.WellFormed) {g : Grid} {rs : List Record}
    (h : execute d g = .ok rs) {r : Record} (hr : r ∈ rs) :
    ∃ a ∈ d.areas, ∃ i o l s, recordAt i a g o l = some s ∧ r = canonical d s := by
  obtain ⟨found, hfound, h⟩ := bind_eq_ok.1 h
  obtain ⟨s, hs, hjudge⟩ := mem_of_gather h hr
  obtain ⟨i, a, ha, of, hof, hmem⟩ := mem_evaluateAreas hfound hs
  obtain ⟨o, l, hat⟩ := mem_evaluateArea (hd.areas a ha) hof hmem
  exact ⟨a, ha, i, o, l, s, hat, judge_eq_some hjudge⟩

/-! ## 2. What the record of a pair is made of -/

theorem mapM_named {α κ β : Type} {name : α → κ} {value : α → Option β} {xs : List α}
    {ys : List (κ × β)} (h : xs.mapM (fun x => (value x).map (name x, ·)) = some ys) :
    ys.map (·.1) = xs.map name := by
  induction xs generalizing ys with
  | nil =>
    cases h
    rfl
  | cons x rest ih =>
    rw [List.mapM_cons] at h
    obtain ⟨y, hy, h⟩ := Option.bind_eq_some_iff.1 h
    obtain ⟨more, hmore, h⟩ := Option.bind_eq_some_iff.1 h
    obtain ⟨v, -, rfl⟩ := Option.map_eq_some_iff.1 hy
    cases h
    rw [List.map_cons, List.map_cons, ih hmore]

/-- The record of a pair takes its date from the date of the area, and its title identifiers and
    dimensions have the names that the area gives them. -/
theorem recordAt_eq_some {i : Nat} {a : Area} {g : Grid} {o l : Nat} {r : Record}
    (h : recordAt i a g o l = some r) :
    (∃ d, a.date? = some d ∧ dateAt i a g o l d = some r.date) ∧
    (∃ ids, r.titleIds = Record.orderTitleIds ids) ∧
    r.dimensions.map (·.1) = a.dimensions.map (·.name) := by
  unfold recordAt at h
  simp only [Option.bind_eq_bind, Option.bind_eq_some_iff, Option.pure_def,
    Option.some.injEq] at h
  obtain ⟨e, -, metric, -, d, hd, date, hdate, title, -, organization, -, ids, -, dims, hdims,
    value, -, rfl⟩ := h
  exact ⟨⟨d, hd, hdate⟩, ⟨ids, rfl⟩, mapM_named hdims⟩

end UsageGrid.Extraction
