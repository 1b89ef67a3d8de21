import UsageGrid.Proofs.Rules.WellFormed
import UsageGrid.Proofs.Extraction.Reference

/-!
# How far an area reaches

In a well-formed area the sources that bound the lanes and observations are those that are read
(`mem_sourcesOf`): a metric and a date come from one place each. So the shape that an
evaluation works with has the lanes and observations of the reference (`starts_shapeOf`,
`observations_shapeOf`), and no reading uses more raw values than its source has
(`used_le_count`).
-/

namespace UsageGrid.Rules.Area

/-! ## 1. Metric and date -/

def metricOf : HeaderRole → Option Extractor
  | .metric e => some e
  | .date _ => none

def dateOf : HeaderRole → Option DateExtractor
  | .metric _ => none
  | .date d => some d

/-- Every place that a metric comes from. -/
def metrics (a : Area) : List Extractor := a.headers.roles.filterMap metricOf ++ a.metric.toList

/-- Every place that a date comes from. -/
def dates (a : Area) : List DateExtractor := a.headers.roles.filterMap dateOf ++ a.date.toList

theorem head?_metrics (a : Area) : a.metrics.head? = a.metric? := by
  unfold metrics metric?
  rw [List.head?_append, List.head?_filterMap, Option.head?_toList, Option.orElse_eq_orElse,
    Option.orElse_eq_or]
  rfl

theorem head?_dates (a : Area) : a.dates.head? = a.date? := by
  have hpick : a.headerDate? = a.headers.roles.findSome? dateOf := by
    unfold headerDate?
    congr 1
    funext r
    cases r <;> rfl
  unfold dates date?
  rw [List.head?_append, List.head?_filterMap, Option.head?_toList, Option.orElse_eq_orElse,
    Option.orElse_eq_or, hpick]

theorem length_metrics (a : Area) : a.metrics.length = a.sourceCount .metric a.metric.isSome := by
  unfold metrics sourceCount
  rw [List.length_append, List.length_filterMap_eq_countP]
  congr 1
  · apply List.countP_congr
    intro r _
    cases r with
    | metric e => simp [metricOf, HeaderRole.role]
    | date d => simp [metricOf, HeaderRole.role]
  · cases a.metric <;> rfl

theorem length_dates (a : Area) : a.dates.length = a.sourceCount .date a.date.isSome := by
  unfold dates sourceCount
  rw [List.length_append, List.length_filterMap_eq_countP]
  congr 1
  · apply List.countP_congr
    intro r _
    cases r with
    | metric e => simp [dateOf, HeaderRole.role]
    | date d => simp [dateOf, HeaderRole.role]
  · cases a.date <;> rfl

theorem eq_toList_of_length_one {α : Type} {l : List α} (h : l.length = 1) :
    l = l.head?.toList := by
  obtain ⟨x, rfl⟩ := List.length_eq_one_iff.1 h
  rfl

/-- The metric of a well-formed area comes from one place. -/
theorem WellFormed.metrics_eq {a : Area} (h : a.WellFormed) : a.metrics = a.metric?.toList := by
  rw [← head?_metrics]
  exact eq_toList_of_length_one (a.length_metrics.trans h.metricOnce)

theorem WellFormed.dates_eq {a : Area} (h : a.WellFormed) : a.dates = a.date?.toList := by
  rw [← head?_dates]
  exact eq_toList_of_length_one (a.length_dates.trans h.dateOnce)

theorem WellFormed.exists_metric {a : Area} (h : a.WellFormed) : ∃ e, a.metric? = some e := by
  obtain ⟨e, he⟩ := List.length_eq_one_iff.1 (a.length_metrics.trans h.metricOnce)
  exact ⟨e, by rw [← head?_metrics, he]; rfl⟩

theorem WellFormed.exists_date {a : Area} (h : a.WellFormed) : ∃ d, a.date? = some d := by
  obtain ⟨d, hd⟩ := List.length_eq_one_iff.1 (a.length_dates.trans h.dateOnce)
  exact ⟨d, by rw [← head?_dates, hd]; rfl⟩

end UsageGrid.Rules.Area

namespace UsageGrid.Extraction

open Rules

/-! ## 2. The sources are those that are read -/

/-- The sources of the metrics and dates, wherever they come from. -/
theorem mem_headerSources {a : Area} {s : Source} :
    (s ∈ a.headers.roles.flatMap HeaderRole.sources ∨ s ∈ a.metric.toList.map (·.source)
      ∨ s ∈ a.date.toList.flatMap DateExtractor.sources) ↔
    (s ∈ a.metrics.map (·.source) ∨ s ∈ a.dates.flatMap DateExtractor.sources) := by
  have hroles : s ∈ a.headers.roles.flatMap HeaderRole.sources ↔
      s ∈ (a.headers.roles.filterMap Area.metricOf).map (·.source) ∨
      s ∈ (a.headers.roles.filterMap Area.dateOf).flatMap DateExtractor.sources := by
    simp only [List.mem_flatMap, List.mem_map, List.mem_filterMap]
    constructor
    · rintro ⟨r, hr, hs⟩
      cases r with
      | metric e => exact .inl ⟨e, ⟨_, hr, rfl⟩, (List.mem_singleton.1 hs).symm⟩
      | date d => exact .inr ⟨d, ⟨_, hr, rfl⟩, hs⟩
    · rintro (⟨e, ⟨r, hr, he⟩, rfl⟩ | ⟨d, ⟨r, hr, hd⟩, hs⟩)
      · cases r with
        | metric e' => cases he; exact ⟨_, hr, List.mem_singleton.2 rfl⟩
        | date d => cases he
      · cases r with
        | metric e => cases hd
        | date d' => cases hd; exact ⟨_, hr, hs⟩
  unfold Area.metrics Area.dates
  rw [hroles, List.map_append, List.flatMap_append, List.mem_append, List.mem_append]
  exact or_or_or_comm

theorem sources_ofDate (d : DateExtractor) :
    (Reading.ofDate d).map (·.source) = d.sources := by
  unfold Reading.ofDate DateExtractor.sources
  cases d.origin with
  | direct s => rfl
  | composed parts => rfl

/-- **What bounds the shape of an area is what the area reads.** -/
theorem mem_sourcesOf {a : Area} (h : a.WellFormed) {s : Source} :
    s ∈ sourcesOf a ↔ s ∈ (readings a).map (·.source) := by
  -- the area looks at every place, a reading at the first: in a well-formed area there is only one
  have hdates : (a.date?.toList.flatMap Reading.ofDate).map (·.source)
      = a.dates.flatMap DateExtractor.sources := by
    rw [h.dates_eq, List.map_flatMap]
    congr 1
    funext d
    exact sources_ofDate d
  have hmetrics : (a.metric?.toList.map Reading.metric).map (·.source)
      = a.metrics.map (·.source) := by
    rw [h.metrics_eq, List.map_map]
    rfl
  have hheader := mem_headerSources (a := a) (s := s)
  rw [← or_assoc] at hheader
  unfold sourcesOf readings
  simp only [List.map_append, List.mem_append, hdates, hmetrics, List.map_map]
  exact or_congr (or_congr (or_congr (or_congr hheader Iff.rfl) Iff.rfl) Iff.rfl) Iff.rfl

/-! ## 3. Counts -/

theorem cells_eq (r : Range) (g : Grid) :
    cells r g = (List.range (count g r)).map (r.coord.move r.direction) :=
  g.walk_eq_map_move r.coord r.direction r.maxCount

theorem length_cells (r : Range) (g : Grid) : (cells r g).length = count g r := by
  rw [cells_eq, List.length_map, List.length_range]

theorem le_foldl_min {l : List Nat} {m n : Nat} :
    m ≤ l.foldl min n ↔ m ≤ n ∧ ∀ x ∈ l, m ≤ x := by
  induction l generalizing n with
  | nil => simp
  | cons x rest ih => rw [List.foldl_cons, ih, Nat.le_min, List.forall_mem_cons, and_assoc]

/-- The least of several numbers does not depend on their order. -/
theorem foldl_min_congr {l l' : List Nat} (h : ∀ x, x ∈ l ↔ x ∈ l') (n : Nat) :
    l.foldl min n = l'.foldl min n := by
  have hle : ∀ m, m ≤ l.foldl min n ↔ m ≤ l'.foldl min n := by
    intro m
    simp only [le_foldl_min, h]
  exact Nat.le_antisymm ((hle _).1 (Nat.le_refl _)) ((hle _).2 (Nat.le_refl _))

/-- The length of a source if it is a range on an axis. -/
def lengthOn (axis : Axis) (a : Area) (g : Grid) (s : Source) : Option Nat :=
  (rangedLength? s g a.headers.dataDirection).bind fun p => if p.1 = axis then some p.2 else none

theorem bounded_eq_foldl (axis : Axis) (a : Area) (g : Grid) (n : Nat) :
    bounded axis a g n = ((sourcesOf a).filterMap (lengthOn axis a g)).foldl min n := by
  rw [List.foldl_filterMap]
  unfold bounded
  congr 1
  funext m s
  unfold lengthOn
  cases rangedLength? s g a.headers.dataDirection with
  | none => rfl
  | some p =>
    show (if p.1 = axis then min m p.2 else m) = _
    by_cases hp : p.1 = axis
    · simp [hp]
    · simp [hp]

theorem lengthOn_eq_some {axis : Axis} {a : Area} {g : Grid} {s : Source} {x : Nat} :
    lengthOn axis a g s = some x ↔
      ∃ r, s.range? = some r ∧ axisOf (.range r) a.headers.dataDirection = axis ∧
        count g r = x := by
  cases s with
  | cell c => simp [lengthOn, rangedLength?, Source.range?]
  | range r => simp [lengthOn, rangedLength?, Source.range?, length_cells]
  | value v => simp [lengthOn, rangedLength?, Source.range?]

theorem mem_lengths {axis : Axis} {a : Area} (h : a.WellFormed) {g : Grid} {x : Nat} :
    x ∈ (sourcesOf a).filterMap (lengthOn axis a g) ↔
      ∃ r ∈ rangesOf a, axisOf (.range r) a.headers.dataDirection = axis ∧ count g r = x := by
  unfold rangesOf
  simp only [List.mem_filterMap, lengthOn_eq_some, mem_sourcesOf h, List.mem_map]
  constructor
  · rintro ⟨_, ⟨reading, hr, rfl⟩, r, hrange, haxis, hx⟩
    exact ⟨r, ⟨reading, hr, hrange⟩, haxis, hx⟩
  · rintro ⟨r, ⟨reading, hr, hrange⟩, haxis, hx⟩
    exact ⟨_, ⟨reading, hr, rfl⟩, r, hrange, haxis, hx⟩

theorem axisOf_range (r : Range) (a : Area) :
    axisOf (.range r) a.headers.dataDirection = if runsAcross a r then .lane else .observation :=
  rfl

theorem bounded_lane {a : Area} (h : a.WellFormed) (g : Grid) :
    bounded .lane a g (count g a.headers.dataCells) = laneCount a g := by
  rw [bounded_eq_foldl]
  apply foldl_min_congr
  intro x
  simp only [mem_lengths h, List.mem_map, List.mem_filter, axisOf_range, and_assoc]
  refine exists_congr fun r => and_congr_right fun _ => and_congr_left fun _ => ?_
  cases runsAcross a r <;> decide

theorem bounded_observation {a : Area} (h : a.WellFormed) (g : Grid) :
    bounded .observation a g (g.toEdge a.headers.dataCells.coord a.headers.dataDirection)
      = observationCount a g := by
  rw [bounded_eq_foldl]
  apply foldl_min_congr
  intro x
  simp only [mem_lengths h, List.mem_map, List.mem_filter, axisOf_range, and_assoc]
  refine exists_congr fun r => and_congr_right fun _ => and_congr_left fun _ => ?_
  cases runsAcross a r <;> decide

theorem laneCount_le (a : Area) (g : Grid) : laneCount a g ≤ count g a.headers.dataCells :=
  (le_foldl_min.1 (Nat.le_refl (laneCount a g))).1

theorem observationCount_le (a : Area) (g : Grid) :
    observationCount a g ≤ g.toEdge a.headers.dataCells.coord a.headers.dataDirection :=
  (le_foldl_min.1 (Nat.le_refl (observationCount a g))).1

/-! ## 4. Shape -/

theorem starts_shapeOf {a : Area} (h : a.WellFormed) (g : Grid) :
    (shapeOf a g).starts = (List.range (laneCount a g)).map
      (a.headers.dataCells.coord.move a.headers.dataCells.direction) := by
  show (cells a.headers.dataCells g).take (bounded .lane a g (cells a.headers.dataCells g).length)
    = _
  rw [length_cells, bounded_lane h, cells_eq, ← List.map_take, List.take_range,
    Nat.min_eq_left (laneCount_le a g)]

theorem observations_shapeOf {a : Area} (h : a.WellFormed) {g : Grid} (hlanes : laneCount a g ≠ 0) :
    (shapeOf a g).observations = observationCount a g := by
  have hpos : 0 < count g a.headers.dataCells :=
    Nat.lt_of_lt_of_le (Nat.pos_of_ne_zero hlanes) (laneCount_le a g)
  obtain ⟨n, hn⟩ := Nat.exists_eq_succ_of_ne_zero (Nat.ne_of_gt hpos)
  have hcells : cells a.headers.dataCells g = a.headers.dataCells.coord
      :: ((List.range n).map Nat.succ).map
        (a.headers.dataCells.coord.move a.headers.dataCells.direction) := by
    rw [cells_eq, hn, List.range_succ_eq_map, List.map_cons, Coord.move_zero]
  rw [← bounded_observation h]
  unfold shapeOf
  rw [hcells]
  show bounded .observation a g (g.walk _ _ none).length = _
  rw [Grid.walk_eq_map_move, List.length_map, List.length_range]
  rfl

/-- There is nothing to read if and only if there are no lanes or no observations. -/
theorem isEmpty_shapeOf {a : Area} (h : a.WellFormed) {g : Grid} :
    (shapeOf a g).isEmpty = true ↔ laneCount a g = 0 ∨ observationCount a g = 0 := by
  have hstarts : (shapeOf a g).starts.isEmpty = true ↔ laneCount a g = 0 := by
    rw [starts_shapeOf h, List.isEmpty_iff, List.map_eq_nil_iff, List.range_eq_nil]
  unfold Shape.isEmpty
  rw [Bool.or_eq_true, hstarts, beq_iff_eq]
  by_cases hlanes : laneCount a g = 0
  · simp [hlanes]
  · rw [observations_shapeOf h hlanes]

/-! ## 5. The raw values that are used -/

/-- A range that is read has a cell for each of its values that is used. -/
theorem used_le_count {a : Area} {g : Grid} {r : Reading} (hr : r ∈ readings a) {x : Range}
    (hx : r.source.range? = some x) : r.used a g ≤ count g x := by
  have hmem : x ∈ rangesOf a := List.mem_filterMap.2 ⟨r, hr, hx⟩
  unfold Reading.used
  rw [hx]
  show (if runsAcross a x then laneCount a g else observationCount a g) ≤ _
  by_cases hacross : runsAcross a x = true
  · rw [if_pos hacross]
    refine (le_foldl_min.1 (Nat.le_refl (laneCount a g))).2 _ (List.mem_map.2 ⟨x, ?_, rfl⟩)
    exact List.mem_filter.2 ⟨hmem, hacross⟩
  · rw [if_neg hacross]
    refine (le_foldl_min.1 (Nat.le_refl (observationCount a g))).2 _ (List.mem_map.2 ⟨x, ?_, rfl⟩)
    exact List.mem_filter.2 ⟨hmem, by simpa using hacross⟩

/-- The raw values that an evaluation takes of a source are those with the first numbers. -/
theorem take_resolve {a : Area} (h : a.WellFormed) {g : Grid} (hlanes : laneCount a g ≠ 0)
    {r : Reading} (hr : r ∈ readings a) :
    (resolve r.source g).take ((shapeOf a g).count (axisOf r.source a.headers.dataDirection))
      = (List.range (r.used a g)).map (rawNo g r.source) := by
  cases hs : r.source with
  | cell c =>
    have hused : r.used a g = 1 := by unfold Reading.used; rw [hs]; rfl
    rw [hused]
    rfl
  | value v =>
    have hused : r.used a g = 1 := by unfold Reading.used; rw [hs]; rfl
    rw [hused]
    rfl
  | range x =>
    have hused : r.used a g = if runsAcross a x then laneCount a g else observationCount a g := by
      unfold Reading.used
      rw [hs]
      rfl
    have hle : r.used a g ≤ count g x := used_le_count hr (by rw [hs]; rfl)
    have hcount : (shapeOf a g).count (axisOf (.range x) a.headers.dataDirection)
        = if runsAcross a x then laneCount a g else observationCount a g := by
      rw [axisOf_range]
      by_cases hacross : runsAcross a x = true
      · rw [if_pos hacross, if_pos hacross]
        show (shapeOf a g).starts.length = _
        rw [starts_shapeOf h, List.length_map, List.length_range]
      · rw [if_neg hacross, if_neg hacross]
        exact observations_shapeOf h hlanes
    show ((cells x g).map (rawAt g)).take _ = _
    rw [hcount, ← hused, cells_eq, List.map_map, ← List.map_take, List.take_range,
      Nat.min_eq_left hle]
    rfl

end UsageGrid.Extraction
