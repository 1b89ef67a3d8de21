import UsageGrid.Proofs.Outcome
import UsageGrid.Proofs.Rules.Definition
import UsageGrid.Proofs.Rules.Transpose
import UsageGrid.Extraction.Filter

/-!
# Extraction does not tell rows from columns

A transposed definition finds the same records in the transposed grid, and where it fails, it fails
with the same error at the transposed place (`execute_transpose`). No step of an evaluation breaks
the symmetry: each is shown to give for transposed arguments what it gives for the others, with
every address in its result transposed.
-/

namespace UsageGrid

/-- The error with row and column exchanged in the place that it names. -/
def ExtractionError.transpose : ExtractionError → ExtractionError
  | .cell area role location content reason action =>
    .cell area role (location.map Coord.transpose) content reason action
  | .notANumber area place content => .notANumber area place.transpose content
  | .invalidDefault area role default e => .invalidDefault area role default e
  | .metricCheck metric available action => .metricCheck metric available action

namespace Extraction

open Rules

/-! ## 1. Raw values -/

def Raw.transpose (r : Raw) : Raw := { r with location := r.location.map Coord.transpose }

theorem rawAt_transpose (g : Grid) (c : Coord) :
    rawAt g.transpose c.transpose = (rawAt g c).transpose := by
  unfold rawAt
  rw [Grid.get?_transpose]
  rfl

theorem cells_transpose (r : Range) (g : Grid) :
    cells r.transpose g.transpose = (cells r g).map Coord.transpose :=
  g.walk_transpose r.coord r.direction r.maxCount

theorem resolve_transpose (s : Source) (g : Grid) :
    resolve s.transpose g.transpose = (resolve s g).map Raw.transpose := by
  cases s with
  | cell c => exact congrArg (fun r => [r]) (rawAt_transpose g c)
  | range r =>
    show (cells r.transpose g.transpose).map _ = ((cells r g).map (rawAt g)).map _
    rw [cells_transpose, List.map_map, List.map_map]
    exact List.map_congr_left fun c _ => rawAt_transpose g c
  | value v => rfl

theorem axisOf_transpose (s : Source) (d : Direction) :
    axisOf s.transpose d.transpose = axisOf s d := by
  cases s with
  | cell c => rfl
  | range r =>
    show (if r.direction.transpose.isPerpendicular d.transpose then _ else _) = _
    rw [isPerpendicular_transpose]
    rfl
  | value v => rfl

theorem rangedLength?_transpose (s : Source) (g : Grid) (d : Direction) :
    rangedLength? s.transpose g.transpose d.transpose = rangedLength? s g d := by
  unfold rangedLength?
  rw [range?_transpose, Option.map_map, axisOf_transpose]
  congr 1
  funext r
  show (_, (cells r.transpose g.transpose).length) = _
  rw [cells_transpose, List.length_map]

/-! ## 2. Cleaning -/

namespace Cleaning

theorem act_transpose (c : Cleaning) (raw : Raw) (reason : Reason) :
    c.act raw.transpose reason = (c.act raw reason).mapError ExtractionError.transpose := by
  unfold act
  cases c.params.onError <;> rfl

theorem fallback_transpose (c : Cleaning) (last : Option String) (raw : Raw) (reason : Reason) :
    c.fallback last raw.transpose reason
      = (c.fallback last raw reason).mapError ExtractionError.transpose := by
  unfold fallback
  cases c.params.default with
  | some d =>
    dsimp only
    cases c.conversion.apply d.shown <;> rfl
  | none =>
    dsimp only
    split
    · rfl
    · exact c.act_transpose raw reason

/-- The last good value does not depend on where it stands. -/
theorem clean_transpose (c : Cleaning) (last : Option String) (raw : Raw) :
    c.clean last raw.transpose = ((c.clean last raw).1,
      (c.clean last raw).2.mapError ExtractionError.transpose) := by
  have hattempt : c.attempt raw.transpose = c.attempt raw := rfl
  unfold clean
  rw [hattempt]
  cases c.attempt raw with
  | ok v => rfl
  | error reason =>
    dsimp only
    rw [fallback_transpose]

theorem cleanAll_transpose (c : Cleaning) (last : Option String) (raws : List Raw) :
    c.cleanAll last (raws.map Raw.transpose)
      = (c.cleanAll last raws).mapError ExtractionError.transpose := by
  induction raws generalizing last with
  | nil => rfl
  | cons raw rest ih =>
    rw [List.map_cons, cleanAll, cleanAll, clean_transpose]
    refine bind_mapError fun v => ?_
    rw [ih]
    exact bind_mapError fun vs => rfl

end Cleaning

/-! ## 3. Shape -/

theorem sourcesOf_transpose (a : Area) :
    sourcesOf a.transpose = (sourcesOf a).map Source.transpose := by
  have hroles : a.transpose.headers.roles.flatMap HeaderRole.sources
      = (a.headers.roles.flatMap HeaderRole.sources).map Source.transpose := by
    show (a.headers.roles.map HeaderRole.transpose).flatMap _ = _
    rw [List.flatMap_map, List.map_flatMap]
    congr 1
    funext r
    exact r.sources_transpose
  have hdate : a.transpose.date.toList.flatMap DateExtractor.sources
      = (a.date.toList.flatMap DateExtractor.sources).map Source.transpose := by
    show (a.date.map DateExtractor.transpose).toList.flatMap _ = _
    cases a.date with
    | none => rfl
    | some d => simp [d.sources_transpose]
  have hoption : ∀ e : Option Extractor, (e.map Extractor.transpose).toList.map (·.source)
      = (e.toList.map (·.source)).map Source.transpose := by
    intro e
    cases e <;> rfl
  have hids : a.transpose.titleIds.map (·.extractor.source)
      = (a.titleIds.map (·.extractor.source)).map Source.transpose := by
    show (a.titleIds.map TitleId.transpose).map _ = _
    rw [List.map_map, List.map_map]
    rfl
  have hdimensions : a.transpose.dimensions.map (·.extractor.source)
      = (a.dimensions.map (·.extractor.source)).map Source.transpose := by
    show (a.dimensions.map Dimension.transpose).map _ = _
    rw [List.map_map, List.map_map]
    rfl
  unfold sourcesOf
  simp only [List.map_append]
  rw [hroles, hdate, hids, hdimensions]
  show _ ++ (a.metric.map Extractor.transpose).toList.map _ ++ _
    ++ (a.title.map Extractor.transpose).toList.map _ ++ _ ++ _
    ++ (a.organization.map Extractor.transpose).toList.map _ = _
  rw [hoption, hoption, hoption]

theorem bounded_transpose (axis : Axis) (a : Area) (g : Grid) (n : Nat) :
    bounded axis a.transpose g.transpose n = bounded axis a g n := by
  unfold bounded
  rw [sourcesOf_transpose, List.foldl_map]
  congr 1
  funext m s
  have hranged : rangedLength? s.transpose g.transpose a.transpose.headers.dataDirection
      = rangedLength? s g a.headers.dataDirection := rangedLength?_transpose s g _
  rw [hranged]

/-- The shape with every lane at the transposed place. -/
def Shape.transpose (s : Shape) : Shape where
  direction := s.direction.transpose
  starts := s.starts.map Coord.transpose
  observations := s.observations

theorem shapeOf_transpose (a : Area) (g : Grid) :
    shapeOf a.transpose g.transpose = (shapeOf a g).transpose := by
  have hcells : cells a.transpose.headers.dataCells g.transpose
      = (cells a.headers.dataCells g).map Coord.transpose :=
    cells_transpose a.headers.dataCells g
  unfold shapeOf Shape.transpose
  dsimp only
  rw [hcells, bounded_transpose, bounded_transpose, List.length_map, List.map_take]
  congr 2
  cases cells a.headers.dataCells g with
  | nil => rfl
  | cons c rest =>
    show (g.transpose.walk c.transpose a.headers.dataDirection.transpose none).length = _
    rw [Grid.walk_transpose, List.length_map]

theorem isEmpty_transpose (s : Shape) : s.transpose.isEmpty = s.isEmpty := by
  unfold Shape.isEmpty
  show ((s.starts.map Coord.transpose).isEmpty || _) = _
  rw [List.isEmpty_map]
  rfl

theorem count_transpose (s : Shape) (x : Axis) : s.transpose.count x = s.count x := by
  cases x with
  | broadcast => rfl
  | lane => exact List.length_map _
  | observation => rfl

theorem cell_transpose (s : Shape) (start : Coord) (n : Nat) :
    s.transpose.cell start.transpose n = (s.cell start n).map Coord.transpose := by
  induction n with
  | zero => rfl
  | succ n ih =>
    show (s.transpose.cell start.transpose n).bind _ = _
    rw [ih]
    show _ = ((s.cell start n).bind fun c => c.step s.direction).map Coord.transpose
    cases s.cell start n with
    | none => rfl
    | some c => exact step_transpose c s.direction

/-! ## 4. Fields -/

namespace Scope

def transpose (x : Scope) : Scope := ⟨x.area, x.grid.transpose, x.shape.transpose⟩

theorem series_transpose (x : Scope) (role : String) (s : Source) (p : Params) (c : Conversion) :
    x.transpose.series role s.transpose p c
      = (x.series role s p c).mapError ExtractionError.transpose := by
  show (Cleaning.cleanAll ⟨x.area, role, p, c⟩ none ((resolve s.transpose x.grid.transpose).take
      (x.shape.transpose.count (axisOf s.transpose x.shape.direction.transpose))) >>= fun values =>
    pure (Series.mk (axisOf s.transpose x.shape.direction.transpose) values)) = _
  rw [resolve_transpose, axisOf_transpose, count_transpose, ← List.map_take,
    Cleaning.cleanAll_transpose]
  exact bind_mapError fun values => rfl

theorem text_transpose (x : Scope) (role : String) (e : Extractor) :
    x.transpose.text role e.transpose
      = (x.text role e).mapError ExtractionError.transpose := by
  unfold text
  rw [← map_mapError, ← series_transpose]
  rfl

theorem text?_transpose (x : Scope) (role : String) (e : Option Extractor) :
    x.transpose.text? role (e.map Extractor.transpose)
      = (x.text? role e).mapError ExtractionError.transpose := by
  cases e with
  | none => rfl
  | some e =>
    show (x.transpose.text role e.transpose).map some = ((x.text role e).map some).mapError _
    rw [text_transpose, map_mapError]

theorem part_transpose (x : Scope) (role : String) (p : DatePart) (outer : Option String)
    (conversion : Option String → Conversion) :
    x.transpose.part role p.transpose outer conversion
      = (x.part role p outer conversion).mapError ExtractionError.transpose :=
  x.series_transpose role p.source p.params (conversion (p.format <|> outer))

theorem date_transpose (x : Scope) (d : DateExtractor) :
    x.transpose.date d.transpose = (x.date d).mapError ExtractionError.transpose := by
  unfold date DateExtractor.transpose
  cases d.origin with
  | direct s =>
    show (x.transpose.series "date" s.transpose d.params (.period d.format)).map Field.plain = _
    rw [series_transpose, map_mapError]
  | composed parts =>
    show (x.transpose.part "date.year" parts.year.transpose d.format .year >>= fun year =>
      x.transpose.part "date.month" parts.month.transpose d.format .month >>= fun month =>
        pure (Field.composed year month)) = _
    rw [part_transpose]
    refine bind_mapError fun year => ?_
    rw [part_transpose]
    exact bind_mapError fun month => rfl

theorem titleIds_transpose (x : Scope) (ts : List TitleId) :
    x.transpose.titleIds (ts.map TitleId.transpose)
      = (x.titleIds ts).mapError ExtractionError.transpose := by
  induction ts with
  | nil => rfl
  | cons t rest ih =>
    show (x.transpose.text ("title_id " ++ t.kind.name) t.extractor.transpose >>= fun f =>
      x.transpose.titleIds (rest.map TitleId.transpose) >>= fun fs => pure ((t.kind, f) :: fs)) = _
    rw [text_transpose, ih]
    exact bind_mapError fun f => bind_mapError fun fs => rfl

theorem dimensions_transpose (x : Scope) (ds : List Dimension) :
    x.transpose.dimensions (ds.map Dimension.transpose)
      = (x.dimensions ds).mapError ExtractionError.transpose := by
  induction ds with
  | nil => rfl
  | cons d rest ih =>
    show (x.transpose.text ("dimension '" ++ d.name ++ "'") d.extractor.transpose >>= fun f =>
      x.transpose.dimensions (rest.map Dimension.transpose) >>= fun fs =>
        pure ((d.name, f) :: fs)) = _
    rw [text_transpose, ih]
    exact bind_mapError fun f => bind_mapError fun fs => rfl

end Scope

theorem headerMetric?_transpose (a : Area) :
    a.transpose.headerMetric? = a.headerMetric?.map Extractor.transpose := by
  show (a.headers.roles.map HeaderRole.transpose).findSome? _ = _
  unfold Area.headerMetric?
  rw [List.findSome?_map, List.map_findSome?]
  congr 1
  funext r
  cases r <;> rfl

theorem headerDate?_transpose (a : Area) :
    a.transpose.headerDate? = a.headerDate?.map DateExtractor.transpose := by
  show (a.headers.roles.map HeaderRole.transpose).findSome? _ = _
  unfold Area.headerDate?
  rw [List.findSome?_map, List.map_findSome?]
  congr 1
  funext r
  cases r <;> rfl

/-- **The fields hold the same values.** -/
theorem fieldsOf_transpose (x : Scope) (a : Area) :
    fieldsOf x.transpose a.transpose
      = (fieldsOf x a).mapError ExtractionError.transpose := by
  have hmetric : (a.transpose.headerMetric? <|> a.transpose.metric)
      = (a.headerMetric? <|> a.metric).map Extractor.transpose := by
    rw [headerMetric?_transpose]
    cases a.headerMetric? <;> rfl
  have hdate : (a.transpose.headerDate? <|> a.transpose.date)
      = (a.headerDate? <|> a.date).map DateExtractor.transpose := by
    rw [headerDate?_transpose]
    cases a.headerDate? <;> rfl
  unfold fieldsOf
  rw [hmetric, hdate]
  cases (a.headerMetric? <|> a.metric) with
  | none => rfl
  | some e =>
    show (x.transpose.text "metric" e.transpose >>= _) = _
    rw [Scope.text_transpose]
    refine bind_mapError fun metric => ?_
    cases (a.headerDate? <|> a.date) with
    | none => rfl
    | some d =>
      show (x.transpose.date d.transpose >>= fun date =>
        x.transpose.text? "title" (a.title.map Extractor.transpose) >>= fun title =>
        x.transpose.titleIds (a.titleIds.map TitleId.transpose) >>= fun titleIds =>
        x.transpose.dimensions (a.dimensions.map Dimension.transpose) >>= fun dimensions =>
        x.transpose.text? "organization" (a.organization.map Extractor.transpose)
          >>= fun organization =>
            pure (some (Fields.mk metric date title titleIds dimensions organization))) = _
      rw [Scope.date_transpose, Scope.text?_transpose, Scope.titleIds_transpose,
        Scope.dimensions_transpose, Scope.text?_transpose]
      exact bind_mapError fun date => bind_mapError fun title => bind_mapError fun titleIds =>
        bind_mapError fun dimensions => bind_mapError fun organization => rfl

/-! ## 5. Records -/

theorem numberAt_transpose (area : Nat) (g : Grid) (c : Coord) :
    numberAt area g.transpose c.transpose
      = (numberAt area g c).mapError ExtractionError.transpose := by
  unfold numberAt
  rw [Grid.get?_transpose]
  cases g.get? c with
  | none => rfl
  | some cell =>
    cases cell with
    | blank => rfl
    | number x => rfl
    | text s =>
      dsimp only
      cases parseNumber s <;> rfl

theorem recordOf_transpose (x : Scope) (f : Fields) (o l : Nat) (start : Coord) :
    recordOf x.transpose f o l start.transpose
      = (recordOf x f o l start).mapError ExtractionError.transpose := by
  have hcell : x.transpose.shape.cell start.transpose o
      = (x.shape.cell start o).map Coord.transpose := cell_transpose x.shape start o
  unfold recordOf
  rw [hcell]
  cases f.recordAt o l .zero with
  | none => rfl
  | some r =>
    cases x.shape.cell start o with
    | none => rfl
    | some c =>
      show (numberAt x.area x.grid.transpose c.transpose).map _ = _
      rw [numberAt_transpose, map_mapError]

theorem pairs_transpose (s : Shape) :
    s.transpose.pairs = s.pairs.map fun (o, l, c) => (o, l, c.transpose) := by
  show (List.range s.observations).flatMap (fun o =>
    (s.starts.map Coord.transpose).zipIdx.map fun p => (o, p.2, p.1)) = _
  unfold Shape.pairs
  rw [List.map_flatMap]
  congr 1
  funext o
  rw [List.zipIdx_map, List.map_map, List.map_map]
  rfl

/-- What is found elsewhere under translated errors. -/
theorem gather_mapError {α α' β ε ε' : Type} {find : α → Except ε (Option β)}
    {find' : α' → Except ε' (Option β)} {m : α → α'} {t : ε → ε'}
    (h : ∀ x, find' (m x) = (find x).mapError t) (xs : List α) :
    gather find' (xs.map m) = (gather find xs).mapError t := by
  induction xs with
  | nil => rfl
  | cons x rest ih =>
    rw [List.map_cons, gather, gather, h, ih]
    exact bind_mapError fun found => bind_mapError fun more => rfl

/-- **An area has the same records.** -/
theorem evaluateArea_transpose (i : Nat) (a : Area) (g : Grid) :
    evaluateArea i a.transpose g.transpose
      = (evaluateArea i a g).mapError ExtractionError.transpose := by
  unfold evaluateArea
  dsimp only
  rw [shapeOf_transpose, isEmpty_transpose]
  cases (shapeOf a g).isEmpty with
  | true => rfl
  | false =>
    show (fieldsOf (Scope.transpose ⟨i, g, shapeOf a g⟩) a.transpose >>= _) = _
    rw [fieldsOf_transpose]
    refine bind_mapError fun f => ?_
    cases f with
    | none => rfl
    | some f =>
      show gather _ (shapeOf a g).transpose.pairs = _
      rw [pairs_transpose]
      exact gather_mapError (fun x => recordOf_transpose ⟨i, g, shapeOf a g⟩ f x.1 x.2.1 x.2.2) _

theorem evaluateAreas_transpose (g : Grid) (i : Nat) (areas : List Area) :
    evaluateAreas g.transpose i (areas.map Area.transpose)
      = (evaluateAreas g i areas).mapError ExtractionError.transpose := by
  induction areas generalizing i with
  | nil => rfl
  | cons a rest ih =>
    rw [List.map_cons, evaluateAreas, evaluateAreas, evaluateArea_transpose, ih]
    exact bind_mapError fun records => bind_mapError fun more => rfl

/-- A record is judged without its place. -/
theorem judge_transpose (d : Definition) (r : Record) :
    judge d.transpose r = (judge d r).mapError ExtractionError.transpose := by
  have hsame : judge d.transpose r = judge d r := rfl
  rw [hsame]
  unfold judge
  cases isSkipped d r with
  | true => rfl
  | false =>
    dsimp only
    cases isAvailable d (canonical d r).metric with
    | true => rfl
    | false => cases d.onMetricCheckFailed <;> rfl

theorem postProcess_transpose (d : Definition) (records : List Record) :
    postProcess d.transpose records
      = (postProcess d records).mapError ExtractionError.transpose := by
  have h := gather_mapError (m := id) (judge_transpose d) records
  rwa [List.map_id] at h

/-- **Extraction does not tell rows from columns**: if a definition is one that is read, so is the
    transposed one, and in the transposed grid it finds the same records, or fails with the same
    error at the transposed place. -/
theorem execute_transpose {v : Json} {d : Definition} (hd : Definition.ofJson v = .ok d)
    (g : Grid) :
    Definition.ofJson d.transpose.toJson = .ok d.transpose ∧
    execute d.transpose g.transpose
      = (execute d g).mapError ExtractionError.transpose := by
  have hwf : d.transpose.WellFormed := (definition_codec.sound _ _ _ hd).transpose
  refine ⟨definition_codec.complete _ _ hwf, ?_⟩
  show (evaluateAreas g.transpose 0 (d.areas.map Area.transpose) >>= _) = _
  rw [evaluateAreas_transpose]
  exact bind_mapError fun records => postProcess_transpose d records

/-- A report with a cell that holds no number. -/
def spoiltGrid : Grid :=
  Grid.ofTextRows [["", "Jan-21", "Feb-21"], ["Views", "4", "n/a"]]

/-- The example document fails in that cell, and transposed in the transposed one. -/
theorem spoiltGrid_fails :
    ∃ d, Definition.ofJson exampleDocument = .ok d ∧
      Definition.ofJson d.transpose.toJson = .ok d.transpose ∧
      execute d spoiltGrid = .error (.notANumber 0 ⟨1, 2⟩ "n/a") ∧
      execute d.transpose spoiltGrid.transpose = .error (.notANumber 0 ⟨2, 1⟩ "n/a") := by
  have hrun : (match Definition.ofJson exampleDocument with
      | .ok d => match execute d spoiltGrid with
        | .ok _ => false
        | .error e => decide (e = .notANumber 0 ⟨1, 2⟩ "n/a")
      | .error _ => false) = true := by decide +kernel
  cases hd : Definition.ofJson exampleDocument with
  | error e => rw [hd] at hrun; cases hrun
  | ok d =>
    rw [hd] at hrun
    dsimp only at hrun
    obtain ⟨hread, hsame⟩ := execute_transpose hd spoiltGrid
    cases hfail : execute d spoiltGrid with
    | ok rs => rw [hfail] at hrun; cases hrun
    | error e =>
      rw [hfail] at hrun
      obtain rfl := of_decide_eq_true hrun
      rw [hfail] at hsame
      exact ⟨d, rfl, hread, hfail, hsame⟩

end Extraction

end UsageGrid
