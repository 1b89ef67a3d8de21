import UsageGrid.Proofs.Extraction.Fields
import UsageGrid.Proofs.Rules.Definition

/-!
# The records of an area are those of the reference

A pair of an observation and a lane makes the record that the reference gives it
(`recordOf_eq_ok`). So an evaluation returns the records of the reference, and it returns some if
and only if all readings succeed and the data cells that count are numeric (`evaluateArea_eq_ok`).
-/

namespace UsageGrid.Extraction

open Rules

/-! ## 1. The values of a pair -/

section Pair

variable {i : Nat} {a : Area} {g : Grid} {o l : Nat} (ho : o < observationCount a g)
  (hl : l < laneCount a g)

include ho hl

theorem dateField_at (d : DateExtractor) : (dateField i a g d).at o l = dateAt i a g o l d := by
  unfold dateField dateAt
  cases d.origin with
  | direct s => exact series_at _ i ho hl
  | composed parts =>
    show ((Reading.year d parts.year).series i a g).at o l >>= _ = _
    rw [series_at _ i ho hl]
    congr 1
    funext year
    show ((Reading.month d parts.month).series i a g).at o l >>= _ = _
    rw [series_at _ i ho hl]

theorem valueAt?_eq (r : Option Reading) :
    valueAt? o l (r.map fun r => .plain (r.series i a g)) = optionalAt i a g o l r := by
  cases r with
  | none => rfl
  | some r =>
    show ((r.series i a g).at o l).map some = (r.valueAt i a g o l).map some
    rw [series_at r i ho hl]

theorem valuesAt_eq {α κ : Type} (name : α → κ) (reading : α → Reading) (xs : List α) :
    valuesAt o l (xs.map fun x => (name x, .plain ((reading x).series i a g)))
      = xs.mapM fun x => ((reading x).valueAt i a g o l).map (name x, ·) := by
  induction xs with
  | nil => rfl
  | cons x rest ih =>
    rw [List.mapM_cons, ← ih]
    show ((reading x).series i a g).at o l >>= _ = _
    rw [series_at _ i ho hl]
    cases (reading x).valueAt i a g o l <;> rfl

/-- The record that fields make is made of the values of their readings. -/
theorem recordAt_fieldsRead (e : Extractor) (d : DateExtractor) (x : Binary64) :
    (fieldsRead i a g e d).recordAt o l x = (do
      pure {
        metric := ← (Reading.metric e).valueAt i a g o l
        date := ← dateAt i a g o l d
        title := ← optionalAt i a g o l (a.title.map .title)
        organization := ← optionalAt i a g o l (a.organization.map .organization)
        titleIds := Record.orderTitleIds (← a.titleIds.mapM fun t =>
          ((Reading.titleId t).valueAt i a g o l).map (t.kind, ·))
        dimensions := ← a.dimensions.mapM fun x =>
          ((Reading.dimension x).valueAt i a g o l).map (x.name, ·)
        value := x }) := by
  have hmetric : (fieldsRead i a g e d).metric.at o l = (Reading.metric e).valueAt i a g o l :=
    series_at _ i ho hl
  have hdate : (fieldsRead i a g e d).date.at o l = dateAt i a g o l d := dateField_at ho hl d
  have htitle : valueAt? o l (fieldsRead i a g e d).title
      = optionalAt i a g o l (a.title.map .title) := valueAt?_eq ho hl _
  have horg : valueAt? o l (fieldsRead i a g e d).organization
      = optionalAt i a g o l (a.organization.map .organization) := valueAt?_eq ho hl _
  have hids : valuesAt o l (fieldsRead i a g e d).titleIds = a.titleIds.mapM fun t =>
      ((Reading.titleId t).valueAt i a g o l).map (t.kind, ·) := valuesAt_eq ho hl _ _ _
  have hdims : valuesAt o l (fieldsRead i a g e d).dimensions = a.dimensions.mapM fun x =>
      ((Reading.dimension x).valueAt i a g o l).map (x.name, ·) := valuesAt_eq ho hl _ _ _
  unfold Fields.recordAt
  rw [hmetric, hdate, htitle, horg, hids, hdims]

variable {e : Extractor} {d : DateExtractor} (he : a.metric? = some e) (hd : a.date? = some d)

include he hd

/-- The record of a pair is that of its fields with the number of its data cell. -/
theorem recordAt_eq :
    recordAt i a g o l = ((fieldsRead i a g e d).recordAt o l .zero).bind fun r =>
      (numberIn g (dataCell a o l)).map fun x => { r with value := x } := by
  rw [recordAt_fieldsRead ho hl]
  unfold recordAt
  rw [he, hd]
  simp only [Option.bind_eq_bind, Option.pure_def, Option.bind_some, Option.bind_assoc]
  refine Option.bind_congr fun m _ => Option.bind_congr fun date _ => ?_
  refine Option.bind_congr fun title _ => Option.bind_congr fun organization _ => ?_
  refine Option.bind_congr fun ids _ => Option.bind_congr fun dimensions _ => ?_
  cases numberIn g (dataCell a o l) <;> rfl

/-! ## 2. Pairs that are skipped -/

omit ho hl he hd in
theorem isSome_bind {α β : Type} {x : Option α} {f : α → Option β} {P : Prop}
    (h : ∀ a, (f a).isSome = true ↔ P) : (x.bind f).isSome = true ↔ x.isSome = true ∧ P := by
  cases x with
  | none => simp
  | some a => simp [h]

omit ho hl he hd in
theorem isSome_mapM {α β : Type} {f : α → Option β} {xs : List α} :
    (xs.mapM f).isSome = true ↔ ∀ x ∈ xs, (f x).isSome = true := by
  induction xs with
  | nil => simp
  | cons x rest ih =>
    rw [List.mapM_cons, List.forall_mem_cons, ← ih]
    cases f x with
    | none => simp
    | some y => cases rest.mapM f <;> simp

omit ho hl he hd in
theorem isSome_dateAt (d : DateExtractor) :
    (dateAt i a g o l d).isSome = true ↔
      ∀ r ∈ Reading.ofDate d, (r.valueAt i a g o l).isSome = true := by
  unfold dateAt Reading.ofDate
  cases d.origin with
  | direct s => simp
  | composed parts =>
    simp only [List.forall_mem_cons, List.not_mem_nil, false_implies, implies_true, and_true]
    cases (Reading.year d parts.year).valueAt i a g o l with
    | none => simp
    | some year => cases (Reading.month d parts.month).valueAt i a g o l <;> simp

omit ho hl he hd in
theorem isSome_optionalAt (r : Option Reading) :
    (optionalAt i a g o l r).isSome = true ↔ ∀ x ∈ r, (x.valueAt i a g o l).isSome = true := by
  cases r with
  | none => simp [optionalAt]
  | some r => simp [optionalAt]

omit ho hl he hd in
theorem not_isSkipped :
    ¬ IsSkipped i a g o l ↔ ∀ r ∈ readings a, (r.valueAt i a g o l).isSome = true := by
  unfold IsSkipped
  constructor
  · intro h r hr
    rw [Option.isSome_iff_ne_none]
    exact fun hnone => h ⟨r, hr, hnone⟩
  · rintro h ⟨r, hr, hnone⟩
    have := h r hr
    rw [hnone] at this
    cases this

/-- The fields of a pair make a record if and only if no value of the pair is left out. -/
theorem isSome_fieldsRead (x : Binary64) :
    ((fieldsRead i a g e d).recordAt o l x).isSome = true ↔ ¬ IsSkipped i a g o l := by
  have hids : (a.titleIds.mapM fun t =>
      ((Reading.titleId t).valueAt i a g o l).map (t.kind, ·)).isSome = true ↔
      ∀ t ∈ a.titleIds, ((Reading.titleId t).valueAt i a g o l).isSome = true := by
    simp only [isSome_mapM, Option.isSome_map]
  have hdims : (a.dimensions.mapM fun x =>
      ((Reading.dimension x).valueAt i a g o l).map (x.name, ·)).isSome = true ↔
      ∀ x ∈ a.dimensions, ((Reading.dimension x).valueAt i a g o l).isSome = true := by
    simp only [isSome_mapM, Option.isSome_map]
  have hsteps : ((fieldsRead i a g e d).recordAt o l x).isSome = true ↔
      ((Reading.metric e).valueAt i a g o l).isSome = true ∧ (dateAt i a g o l d).isSome = true ∧
      (optionalAt i a g o l (a.title.map .title)).isSome = true ∧
      (optionalAt i a g o l (a.organization.map .organization)).isSome = true ∧
      (∀ t ∈ a.titleIds, ((Reading.titleId t).valueAt i a g o l).isSome = true) ∧
      (∀ x ∈ a.dimensions, ((Reading.dimension x).valueAt i a g o l).isSome = true) ∧ True := by
    rw [recordAt_fieldsRead ho hl, ← hids, ← hdims]
    exact isSome_bind fun _ => isSome_bind fun _ => isSome_bind fun _ => isSome_bind fun _ =>
      isSome_bind fun _ => isSome_bind fun _ => by simp
  rw [hsteps, not_isSkipped, forall_readings he hd, isSome_dateAt, isSome_optionalAt,
    isSome_optionalAt]
  constructor
  · rintro ⟨hm, hdate, ht, horg, hi, hx, -⟩
    exact ⟨hm, hdate, ht, hi, hx, horg⟩
  · rintro ⟨hm, hdate, ht, hi, hx, horg⟩
    exact ⟨hm, hdate, ht, horg, hi, hx, trivial⟩

/-- **A pair makes a record if and only if no value of it is left out and its data cell holds a
    number.** -/
theorem isSome_recordAt :
    (recordAt i a g o l).isSome = true ↔
      ¬ IsSkipped i a g o l ∧ (numberIn g (dataCell a o l)).isSome = true := by
  rw [recordAt_eq ho hl he hd, ← isSome_fieldsRead ho hl he hd .zero]
  exact isSome_bind fun r => by rw [Option.isSome_map]

end Pair

/-! ## 3. The record of a pair -/

theorem numberAt_eq_ok {i : Nat} {g : Grid} {c : Coord} {x : Option Binary64} :
    numberAt i g c = .ok x ↔ IsNumeric g c ∧ x = numberIn g c := by
  have hok : ∀ y, IsNumeric g c →
      ((Except.ok y : Except ExtractionError (Option Binary64)) = .ok x ↔
        IsNumeric g c ∧ x = y) := by
    intro y hy
    rw [Except.ok.injEq]
    exact ⟨fun h => ⟨hy, h.symm⟩, fun h => h.2.symm⟩
  unfold numberAt numberIn
  cases hc : g.get? c with
  | none => exact hok _ (fun s hs => by rw [hc] at hs; cases hs)
  | some cell =>
    cases cell with
    | blank => exact hok _ (fun s hs => by rw [hc] at hs; cases hs)
    | number y => exact hok _ (fun s hs => by rw [hc] at hs; cases hs)
    | text t =>
      dsimp only
      cases ht : parseNumber t with
      | some y =>
        refine hok _ (fun s hs => ?_)
        rw [hc] at hs
        cases hs
        rw [ht]
        rfl
      | none =>
        constructor
        · intro h
          cases h
        · rintro ⟨h, -⟩
          have := h t hc
          rw [ht] at this
          cases this

theorem cell_eq_move (s : Shape) {g : Grid} {start : Coord} {n : Nat}
    (h : n < g.toEdge start s.direction) : s.cell start n = some (start.move s.direction n) := by
  induction n with
  | zero => rw [Coord.move_zero]; rfl
  | succ n ih =>
    show (s.cell start n).bind _ = _
    rw [ih (Nat.lt_of_succ_lt h)]
    exact Grid.step_move h

/-- The data cell of a pair is that of the reference. -/
theorem cell_eq_dataCell {a : Area} (h : a.WellFormed) {g : Grid} {o l : Nat}
    (ho : o < observationCount a g) (hl : l < laneCount a g) :
    (shapeOf a g).cell (a.headers.dataCells.coord.move a.headers.dataCells.direction l) o
      = some (dataCell a o l) := by
  have hlane : l < g.toEdge a.headers.dataCells.coord a.headers.dataCells.direction :=
    Nat.lt_of_lt_of_le hl (Nat.le_trans (laneCount_le a g) (g.walkLength_le_toEdge _ _ _))
  have hedge : o < g.toEdge (a.headers.dataCells.coord.move a.headers.dataCells.direction l)
      (shapeOf a g).direction := by
    show o < g.toEdge _ a.headers.dataDirection
    rw [Grid.toEdge_move h.headers.lanes hlane]
    exact Nat.lt_of_lt_of_le ho (observationCount_le a g)
  exact cell_eq_move _ hedge

/-- **The record of a pair.** -/
theorem recordOf_eq_ok {i : Nat} {a : Area} {g : Grid} {o l : Nat} (h : a.WellFormed)
    {e : Extractor} {d : DateExtractor} (he : a.metric? = some e) (hd : a.date? = some d)
    (ho : o < observationCount a g) (hl : l < laneCount a g) {r : Option Record} :
    recordOf (scopeOf i a g) (fieldsRead i a g e d) o l
        (a.headers.dataCells.coord.move a.headers.dataCells.direction l) = .ok r ↔
      (¬ IsSkipped i a g o l → IsNumeric g (dataCell a o l)) ∧ r = recordAt i a g o l := by
  have hcell : (scopeOf i a g).shape.cell _ o = _ := cell_eq_dataCell h ho hl
  have hsome := isSome_fieldsRead (i := i) ho hl he hd .zero
  rw [recordAt_eq ho hl he hd]
  unfold recordOf
  rw [hcell]
  cases hrecord : (fieldsRead i a g e d).recordAt o l .zero with
  -- where a value is left out the data cell is not looked at, and may hold anything
  | none =>
    rw [hrecord] at hsome
    show Except.ok none = .ok r ↔ _ ∧ r = none
    rw [Except.ok.injEq]
    exact ⟨fun hr => ⟨fun hskip => absurd (hsome.2 hskip) (by decide), hr.symm⟩,
      fun hr => hr.2.symm⟩
  | some made =>
    rw [hrecord] at hsome
    show (numberAt i g (dataCell a o l)).map _ = .ok r ↔ _
    rw [map_eq_ok_of fun _ => numberAt_eq_ok]
    simp only [hsome.1 rfl, not_false_iff, true_implies, Option.bind_some]

/-! ## 4. All records -/

/-- What is found for several things is found if and only if each comes out well. -/
theorem gather_eq_ok {α β ε : Type} {find : α → Except ε (Option β)} {P : α → Prop}
    {v : α → Option β} {xs : List α}
    (hfind : ∀ x ∈ xs, ∀ y, find x = .ok y ↔ P x ∧ y = v x) {ys : List β} :
    gather find xs = .ok ys ↔ (∀ x ∈ xs, P x) ∧ ys = xs.filterMap v := by
  induction xs generalizing ys with
  | nil =>
    rw [gather, Except.ok.injEq]
    exact ⟨fun h => ⟨fun x hx => absurd hx List.not_mem_nil, h.symm⟩, fun h => h.2.symm⟩
  | cons x rest ih =>
    have hcons : (x :: rest).filterMap v = (v x).toList ++ rest.filterMap v := by
      rw [List.filterMap_cons]
      cases v x <;> rfl
    rw [hcons, List.forall_mem_cons]
    exact bind_eq_ok_of (hfind x List.mem_cons_self) fun _ =>
      map_eq_ok_of fun _ => ih fun z hz => hfind z (List.mem_cons_of_mem x hz)

theorem mem_pairs {observations lanes : Nat} {p : Nat × Nat} :
    p ∈ pairs observations lanes ↔ p.1 < observations ∧ p.2 < lanes := by
  unfold pairs
  simp only [List.mem_flatMap, List.mem_map, List.mem_range]
  constructor
  · rintro ⟨o, ho, l, hl, rfl⟩
    exact ⟨ho, hl⟩
  · rintro ⟨ho, hl⟩
    exact ⟨p.1, ho, p.2, hl, rfl⟩

theorem forall_pairs {observations lanes : Nat} {P : Nat → Nat → Prop} :
    (∀ p ∈ pairs observations lanes, P p.1 p.2) ↔ ∀ o < observations, ∀ l < lanes, P o l := by
  constructor
  · exact fun h o ho l hl => h (o, l) (mem_pairs.2 ⟨ho, hl⟩)
  · exact fun h p hp => h p.1 (mem_pairs.1 hp).1 p.2 (mem_pairs.1 hp).2

/-- The pairs of an evaluation are those of the reference, each with the start of its lane. -/
theorem pairs_shapeOf {a : Area} (h : a.WellFormed) {g : Grid} (hlanes : laneCount a g ≠ 0) :
    (shapeOf a g).pairs = (pairs (observationCount a g) (laneCount a g)).map fun p =>
      (p.1, p.2, a.headers.dataCells.coord.move a.headers.dataCells.direction p.2) := by
  unfold Shape.pairs pairs
  rw [observations_shapeOf h hlanes, starts_shapeOf h, List.map_flatMap]
  congr 1
  funext o
  apply List.ext_getElem
  · simp
  · intro n hn hn'
    simp

/-- **What an evaluation of an area that has lanes and observations returns**, and when. -/
theorem evaluateArea_eq_ok {a : Area} (h : a.WellFormed) {g : Grid} (hlanes : laneCount a g ≠ 0)
    (hobservations : observationCount a g ≠ 0) (i : Nat) {rs : List Record} :
    evaluateArea i a g = .ok rs ↔
      ((∀ r ∈ readings a, r.Succeeds i a g) ∧
        ∀ o < observationCount a g, ∀ l < laneCount a g,
          ¬ IsSkipped i a g o l → IsNumeric g (dataCell a o l)) ∧
      rs = recordsOf i a g := by
  obtain ⟨e, he⟩ := h.exists_metric
  obtain ⟨d, hd⟩ := h.exists_date
  have hempty : (shapeOf a g).isEmpty = false := by
    rw [← Bool.not_eq_true, isEmpty_shapeOf h]
    exact fun hor => hor.elim hlanes hobservations
  have hpairs : ∀ rs,
      gather (fun x => recordOf (scopeOf i a g) (fieldsRead i a g e d) x.1 x.2.1 x.2.2)
        (shapeOf a g).pairs = .ok rs ↔
      (∀ o < observationCount a g, ∀ l < laneCount a g,
        ¬ IsSkipped i a g o l → IsNumeric g (dataCell a o l)) ∧ rs = recordsOf i a g := by
    intro rs
    rw [pairs_shapeOf h hlanes, gather_eq_ok (v := fun x => recordAt i a g x.1 x.2.1)
      (P := fun x => ¬ IsSkipped i a g x.1 x.2.1 → IsNumeric g (dataCell a x.1 x.2.1)) ?_,
      List.forall_mem_map, List.filterMap_map, ← forall_pairs]
    · rfl
    · intro x hx y
      obtain ⟨p, hp, rfl⟩ := List.mem_map.1 hx
      exact recordOf_eq_ok h he hd (mem_pairs.1 hp).1 (mem_pairs.1 hp).2
  unfold evaluateArea
  dsimp only
  rw [hempty]
  exact bind_eq_ok_of (fun _ => fieldsOf_eq_ok h hlanes he hd) hpairs

/-- **The records of an area of a document that is read.** There are none where there is no lane or
    no observation. Otherwise an evaluation returns records if and only if no reading ends it and
    every data cell that counts is blank or holds a number; and these are the records of the pairs,
    one for each pair that is not skipped and whose data cell holds a number. -/
theorem evaluateArea_reference {v : Json} {d : Definition} {a : Area}
    (hd : Definition.ofJson v = .ok d) (ha : a ∈ d.areas) (i : Nat) (g : Grid) :
    (laneCount a g = 0 ∨ observationCount a g = 0 → evaluateArea i a g = .ok []) ∧
    (laneCount a g ≠ 0 → observationCount a g ≠ 0 →
      ((∃ rs, evaluateArea i a g = .ok rs) ↔
        (∀ r ∈ readings a, r.Succeeds i a g) ∧
        ∀ o < observationCount a g, ∀ l < laneCount a g,
          ¬ IsSkipped i a g o l → IsNumeric g (dataCell a o l)) ∧
      (∀ rs, evaluateArea i a g = .ok rs → rs = recordsOf i a g) ∧
      ∀ o < observationCount a g, ∀ l < laneCount a g,
        ((recordAt i a g o l).isSome = true ↔
          ¬ IsSkipped i a g o l ∧ (numberIn g (dataCell a o l)).isSome = true)) := by
  have h : a.WellFormed := (definition_codec.sound _ _ _ hd).areas a ha
  constructor
  · intro hempty
    have : (shapeOf a g).isEmpty = true := (isEmpty_shapeOf h).2 hempty
    unfold evaluateArea
    dsimp only
    rw [if_pos this]
    rfl
  · intro hlanes hobservations
    obtain ⟨e, he⟩ := h.exists_metric
    obtain ⟨date, hdate⟩ := h.exists_date
    refine ⟨?_, ?_, fun o ho l hl => isSome_recordAt ho hl he hdate⟩
    · simp only [evaluateArea_eq_ok h hlanes hobservations, exists_eq_right]
    · exact fun rs hrs => ((evaluateArea_eq_ok h hlanes hobservations i).1 hrs).2

/-- The grid of the report that the example document describes; one of its cells is blank. -/
def exampleGrid : Grid :=
  Grid.ofTextRows [["", "Jan-21", "Feb-21"], ["Views", "4", "5"], ["Clicks", "1", ""]]

/-- The example document has two lanes and two observations, and finds three records. -/
theorem exampleGrid_records :
    ∃ d a, Definition.ofJson exampleDocument = .ok d ∧ a ∈ d.areas ∧
      laneCount a exampleGrid = 2 ∧ observationCount a exampleGrid = 2 ∧
      evaluateArea 0 a exampleGrid = .ok (recordsOf 0 a exampleGrid) ∧
      (recordsOf 0 a exampleGrid).length = 3 := by
  have hrun : (match Definition.ofJson exampleDocument with
      | .ok d => d.areas.any fun a => laneCount a exampleGrid == 2
          && observationCount a exampleGrid == 2 && (evaluateArea 0 a exampleGrid).isOk
          && (recordsOf 0 a exampleGrid).length == 3
      | .error _ => false) = true := by decide +kernel
  cases hd : Definition.ofJson exampleDocument with
  | error e => rw [hd] at hrun; cases hrun
  | ok d =>
    rw [hd] at hrun
    obtain ⟨a, ha, hall⟩ := List.any_eq_true.1 hrun
    simp only [Bool.and_eq_true, beq_iff_eq] at hall
    obtain ⟨⟨⟨hlanes, hobservations⟩, hok⟩, hlength⟩ := hall
    have hspec := (evaluateArea_reference hd ha 0 exampleGrid).2 (by omega) (by omega)
    cases hrs : evaluateArea 0 a exampleGrid with
    | error e => rw [hrs] at hok; cases hok
    | ok rs =>
      refine ⟨d, a, rfl, ha, hlanes, hobservations, ?_, hlength⟩
      rw [hspec.2.1 rs hrs] at hrs
      exact hrs

end UsageGrid.Extraction
