import UsageGrid.Proofs.Extraction.Execute
import UsageGrid.Proofs.Rules.Definition
import UsageGrid.Rules.Example

/-!
# What is kept of records

Records are judged one by one, without regard to the others:

* `judge_eq_ok`: a record is kept or dropped (`IsKept`), unless it is a reason to fail (`Offends`);
* `judge_eq_error`: with what error it is one.

So what is kept of several records is a part of them, in their order, under new names
(`postProcess_eq_ok`), and where that fails, the first record that is a reason to fail is named
(`postProcess_eq_error`). Aliases need no second step, and so nothing more comes of a second time
(`postProcess_perRecord`).
-/

namespace UsageGrid.Extraction

open Rules

variable {d : Definition} {r : Record}

/-! ## 1. Conditions -/

/-- Nothing about the record is to be skipped: its metric under neither name, nor its title. -/
structure IsWanted (d : Definition) (r : Record) : Prop where
  metric : r.metric ∉ d.metricsToSkip
  canonicalMetric : d.canonicalMetric r.metric ∉ d.metricsToSkip
  title : ∀ t ∈ r.title, t ∉ d.titlesToSkip

/-- The metric of the record, after the aliases, is one of the available ones, if these are listed. -/
def IsListed (d : Definition) (r : Record) : Prop :=
  ∀ l ∈ d.availableMetrics, d.canonicalMetric r.metric ∈ l

/-- The record is wanted, and its metric is listed, or need not be. -/
def IsKept (d : Definition) (r : Record) : Prop :=
  IsWanted d r ∧ (IsListed d r ∨ d.onMetricCheckFailed = .pass)

/-- The record is wanted, but its metric is not listed, and that is not to be passed over. -/
def Offends (d : Definition) (r : Record) : Prop :=
  IsWanted d r ∧ ¬ IsListed d r ∧ d.onMetricCheckFailed.isFatal = true

/-- What is said of a record that offends. -/
def complaint (d : Definition) (r : Record) : ExtractionError :=
  .metricCheck (d.canonicalMetric r.metric) (d.availableMetrics.getD []) d.onMetricCheckFailed

theorem isSkipped_eq_false : isSkipped d r = false ↔ IsWanted d r := by
  have htitle : r.title.any d.titlesToSkip.contains = false ↔ ∀ t ∈ r.title, t ∉ d.titlesToSkip := by
    cases r.title <;> simp
  unfold isSkipped
  rw [Bool.or_eq_false_iff, Bool.or_eq_false_iff, htitle]
  simp only [List.contains_eq_mem, decide_eq_false_iff_not]
  exact ⟨fun ⟨⟨hm, hc⟩, ht⟩ => ⟨hm, hc, ht⟩, fun h => ⟨⟨h.metric, h.canonicalMetric⟩, h.title⟩⟩

theorem isAvailable_eq_true : isAvailable d (canonical d r).metric = true ↔ IsListed d r := by
  unfold isAvailable IsListed
  cases d.availableMetrics with
  | none => simp
  | some l => simp [canonical]

/-- A record that is kept is no reason to fail. -/
theorem IsKept.not_offends (h : IsKept d r) : ¬ Offends d r := by
  rintro ⟨-, hlisted, hfatal⟩
  rw [h.2.resolve_left hlisted] at hfatal
  cases hfatal

instance : DecidablePred (IsWanted d) := fun _ => decidable_of_iff _ isSkipped_eq_false

instance : DecidablePred (IsListed d) := fun _ => decidable_of_iff _ isAvailable_eq_true

instance : DecidablePred (IsKept d) := fun r =>
  inferInstanceAs (Decidable (IsWanted d r ∧ (IsListed d r ∨ d.onMetricCheckFailed = .pass)))

/-! ## 2. One record -/

/-- A record comes to nothing, to itself under new names, or to an error. -/
theorem judge_cases (d : Definition) (r : Record) :
    Offends d r ∧ ¬ IsKept d r ∧ judge d r = .error (complaint d r) ∨
    ¬ Offends d r ∧ IsKept d r ∧ judge d r = .ok (some (canonical d r)) ∨
    ¬ Offends d r ∧ ¬ IsKept d r ∧ judge d r = .ok none := by
  unfold judge
  by_cases hwanted : IsWanted d r
  · rw [if_neg (by rw [isSkipped_eq_false.2 hwanted]; exact Bool.false_ne_true)]
    dsimp only
    by_cases hlisted : IsListed d r
    · rw [if_pos (isAvailable_eq_true.2 hlisted)]
      exact .inr (.inl ⟨fun h => h.2.1 hlisted, ⟨hwanted, .inl hlisted⟩, rfl⟩)
    · rw [if_neg fun h => hlisted (isAvailable_eq_true.1 h)]
      have hkept : IsKept d r ↔ d.onMetricCheckFailed = .pass :=
        ⟨fun h => h.2.resolve_left hlisted, fun h => ⟨hwanted, .inr h⟩⟩
      have hoffends : Offends d r ↔ d.onMetricCheckFailed.isFatal = true :=
        ⟨fun h => h.2.2, fun h => ⟨hwanted, hlisted, h⟩⟩
      rw [hkept, hoffends]
      unfold complaint
      cases d.onMetricCheckFailed with
      | fail | stop => exact .inl ⟨rfl, nofun, rfl⟩
      | pass => exact .inr (.inl ⟨nofun, rfl, rfl⟩)
      | skip => exact .inr (.inr ⟨nofun, nofun, rfl⟩)
  · have hskipped : isSkipped d r = true :=
      Bool.of_not_eq_false fun h => hwanted (isSkipped_eq_false.1 h)
    rw [if_pos hskipped]
    exact .inr (.inr ⟨fun h => hwanted h.1, fun h => hwanted h.1, rfl⟩)

theorem judge_eq_ok {o : Option Record} :
    judge d r = .ok o ↔ ¬ Offends d r ∧ o = if IsKept d r then some (canonical d r) else none := by
  rcases judge_cases d r with ⟨ho, hk, h⟩ | ⟨ho, hk, h⟩ | ⟨ho, hk, h⟩
  · simp [h, ho]
  · simp [h, ho, hk, eq_comm]
  · simp [h, ho, hk, eq_comm]

theorem judge_eq_error {e : ExtractionError} :
    judge d r = .error e ↔ Offends d r ∧ e = complaint d r := by
  rcases judge_cases d r with ⟨ho, hk, h⟩ | ⟨ho, hk, h⟩ | ⟨ho, hk, h⟩
  · simp [h, ho, eq_comm]
  · simp [h, ho]
  · simp [h, ho]

/-! ## 3. All records -/

/-- Of several things the first that fails says how. -/
theorem gather_eq_error {α β ε : Type} {find : α → Except ε (Option β)} {xs : List α} {e : ε} :
    gather find xs = .error e ↔
      ∃ before x after, xs = before ++ x :: after ∧ (∀ b ∈ before, ∃ o, find b = .ok o) ∧
        find x = .error e := by
  induction xs with
  | nil => simp [gather]
  | cons x rest ih =>
    rw [gather, bind_eq_error]
    constructor
    · rintro (hx | ⟨o, ho, h⟩)
      · exact ⟨[], x, rest, rfl, fun _ hb => absurd hb List.not_mem_nil, hx⟩
      · rcases bind_eq_error.1 h with h | ⟨_, -, h⟩
        · obtain ⟨before, y, after, rfl, hbefore, hy⟩ := ih.1 h
          exact ⟨x :: before, y, after, rfl, List.forall_mem_cons.2 ⟨⟨o, ho⟩, hbefore⟩, hy⟩
        · cases h
    · rintro ⟨before, y, after, hxs, hbefore, hy⟩
      cases before with
      | nil =>
        obtain ⟨rfl, -⟩ := List.cons.inj hxs
        exact .inl hy
      | cons b before =>
        obtain ⟨rfl, rfl⟩ := List.cons.inj hxs
        obtain ⟨⟨o, ho⟩, hbefore⟩ := List.forall_mem_cons.1 hbefore
        exact .inr ⟨o, ho, bind_eq_error.2 (.inl (ih.2 ⟨before, y, after, rfl, hbefore, hy⟩))⟩

/-- **The records that are kept are a part of all, in their order, under new names.** -/
theorem postProcess_eq_ok {records out : List Record} :
    postProcess d records = .ok out ↔
      (∀ r ∈ records, ¬ Offends d r) ∧ out = (records.filter (IsKept d)).map (canonical d) := by
  have hmade : (records.filterMap fun r => if IsKept d r then some (canonical d r) else none)
      = (records.filter (IsKept d)).map (canonical d) := by
    rw [← List.filterMap_eq_map, List.filterMap_filter]
    simp
  rw [← hmade]
  exact gather_eq_ok fun _ _ _ => judge_eq_ok

/-- **The first record that offends is complained of.** -/
theorem postProcess_eq_error {records : List Record} {e : ExtractionError} :
    postProcess d records = .error e ↔
      ∃ before r after, records = before ++ r :: after ∧ (∀ b ∈ before, ¬ Offends d b) ∧
        Offends d r ∧ e = complaint d r := by
  have hpasses (b : Record) : (∃ o, judge d b = .ok o) ↔ ¬ Offends d b := by
    simp only [judge_eq_ok, exists_and_left, exists_eq, and_true]
  unfold postProcess
  rw [gather_eq_error]
  simp only [hpasses, judge_eq_error]

theorem postProcess_append {xs ys xs' ys' : List Record} (hx : postProcess d xs = .ok xs')
    (hy : postProcess d ys = .ok ys') : postProcess d (xs ++ ys) = .ok (xs' ++ ys') := by
  obtain ⟨hxs, rfl⟩ := postProcess_eq_ok.1 hx
  obtain ⟨hys, rfl⟩ := postProcess_eq_ok.1 hy
  refine postProcess_eq_ok.2 ⟨fun r hr => (List.mem_append.1 hr).elim (hxs r) (hys r), ?_⟩
  rw [List.filter_append, List.map_append]

/-! ## 4. A second time -/

section

variable (hd : d.WellFormed)

include hd

theorem canonicalMetric_canonicalMetric (name : String) :
    d.canonicalMetric (d.canonicalMetric name) = d.canonicalMetric name :=
  renamed_renamed hd.metricAliases name

theorem canonical_canonical (r : Record) : canonical d (canonical d r) = canonical d r := by
  have hdimensions : ∀ p : String × String, (d.canonicalDimension (d.canonicalDimension p.1), p.2)
      = (d.canonicalDimension p.1, p.2) := fun p =>
    congrArg (·, p.2) (renamed_renamed hd.dimensionAliases p.1)
  unfold canonical
  simp only [canonicalMetric_canonicalMetric hd, List.map_map, Function.comp_def, hdimensions]

theorem isWanted_canonical (h : IsWanted d r) : IsWanted d (canonical d r) where
  metric := h.canonicalMetric
  canonicalMetric := by
    show d.canonicalMetric (d.canonicalMetric r.metric) ∉ d.metricsToSkip
    rw [canonicalMetric_canonicalMetric hd]
    exact h.canonicalMetric
  title := h.title

theorem isListed_canonical : IsListed d (canonical d r) ↔ IsListed d r := by
  show (∀ l ∈ d.availableMetrics, d.canonicalMetric (d.canonicalMetric r.metric) ∈ l) ↔ _
  rw [canonicalMetric_canonicalMetric hd]
  rfl

theorem isKept_canonical (h : IsKept d r) : IsKept d (canonical d r) :=
  ⟨isWanted_canonical hd h.1, h.2.imp (isListed_canonical hd).2 id⟩

/-- What has been kept is kept as it is. -/
theorem postProcess_postProcess {records out : List Record} (h : postProcess d records = .ok out) :
    postProcess d out = .ok out := by
  obtain ⟨-, rfl⟩ := postProcess_eq_ok.1 h
  have hkept : ∀ r ∈ (records.filter (IsKept d)).map (canonical d),
      IsKept d r ∧ canonical d r = r := by
    intro r hr
    obtain ⟨s, hs, rfl⟩ := List.mem_map.1 hr
    have hs : IsKept d s := of_decide_eq_true (List.mem_filter.1 hs).2
    exact ⟨isKept_canonical hd hs, canonical_canonical hd s⟩
  refine postProcess_eq_ok.2 ⟨fun r hr => (hkept r hr).1.not_offends, ?_⟩
  rw [List.filter_eq_self.2 fun r hr => decide_eq_true (hkept r hr).1]
  exact (List.map_congr_left fun r hr => (hkept r hr).2).trans (List.map_id _) |>.symm

end

/-- **Post-processing judges each record on its own**: it keeps those that are wanted and listed, or
    need not be, in their order and with nothing changed but names; it fails exactly where a record
    offends, with the first of these; what it makes of two lists it makes of them together; and what
    it has made, it makes of that again. -/
theorem postProcess_perRecord {v : Json} {d : Definition} (hd : Definition.ofJson v = .ok d) :
    (∀ records out, postProcess d records = .ok out ↔
      (∀ r ∈ records, ¬ Offends d r) ∧ out = (records.filter (IsKept d)).map (canonical d)) ∧
    (∀ records e, postProcess d records = .error e ↔
      ∃ before r after, records = before ++ r :: after ∧ (∀ b ∈ before, ¬ Offends d b) ∧
        Offends d r ∧ e = complaint d r) ∧
    (∀ xs ys xs' ys', postProcess d xs = .ok xs' → postProcess d ys = .ok ys' →
      postProcess d (xs ++ ys) = .ok (xs' ++ ys')) ∧
    (∀ records out, postProcess d records = .ok out → postProcess d out = .ok out) := by
  have hwf : d.WellFormed := definition_codec.sound v .root d hd
  refine ⟨fun _ _ => postProcess_eq_ok, fun _ _ => postProcess_eq_error,
    fun _ _ _ _ => postProcess_append, fun _ _ => postProcess_postProcess hwf⟩

/-- Records with three metrics, the second of which the example document renames, while it lists no
    visits. -/
def exampleRecords : List Record :=
  ["Views", "Clicks", "Visits"].map fun metric =>
    { metric, date := "2021-01-01", dimensions := [("Platform", "p")], value := .zero }

/-- The example document keeps the first two of these, and keeps them again. -/
theorem exampleRecords_kept :
    ∃ d out, Definition.ofJson exampleDocument = .ok d ∧ postProcess d exampleRecords = .ok out ∧
      out.map (·.metric) = ["Views", "Link Clicks"] ∧ postProcess d out = .ok out := by
  have hrun : ((Definition.ofJson exampleDocument).toOption.any fun d =>
      (postProcess d exampleRecords).toOption.any fun out =>
        out.map (·.metric) == ["Views", "Link Clicks"]) = true := by decide +kernel
  obtain ⟨d, hd, hrun⟩ := exists_ok_of_any hrun
  obtain ⟨out, hout, hmetrics⟩ := exists_ok_of_any hrun
  exact ⟨d, out, hd, hout, beq_iff_eq.1 hmetrics,
    (postProcess_perRecord hd).2.2.2 exampleRecords out hout⟩

end UsageGrid.Extraction
