import UsageGrid.Extraction.Area
import UsageGrid.Proofs.Grid.Walk
import UsageGrid.Proofs.Extraction.Cleaning

/-!
# What an area says of a grid

The records of an area, said without an evaluation: every value is addressed directly.

* An area has `readings`; the raw values of a reading are numbered (`rawNo`), and each becomes
  something by itself (`Reading.outcome`).
* `laneCount` and `observationCount` say how far the area reaches. A reading uses as many raw values
  as its source has room for (`Reading.used`), and a pair of an observation and a lane looks at one
  of them (`Reading.index`).
* The pair has a data cell (`dataCell`) and makes a record (`recordAt`), unless one of its values is
  left out (`IsSkipped`) or the data cell is blank.
-/

namespace UsageGrid.Rules.Area

/-- Where the metric comes from. -/
def metric? (a : Area) : Option Extractor := a.headerMetric? <|> a.metric

/-- Where the date comes from. -/
def date? (a : Area) : Option DateExtractor := a.headerDate? <|> a.date

end UsageGrid.Rules.Area

namespace UsageGrid.Extraction

open Rules

/-! ## 1. Readings -/

/-- A source, and what becomes of its raw values. -/
structure Reading where
  role : String
  source : Source
  params : Params
  conversion : Conversion

namespace Reading

def text (role : String) (e : Extractor) : Reading := ⟨role, e.source, e.params, .text⟩

def metric (e : Extractor) : Reading := .text "metric" e
def title (e : Extractor) : Reading := .text "title" e
def titleId (t : TitleId) : Reading := .text ("title_id " ++ t.kind.name) t.extractor
def dimension (d : Dimension) : Reading := .text ("dimension '" ++ d.name ++ "'") d.extractor
def organization (e : Extractor) : Reading := .text "organization" e

def date (d : DateExtractor) (s : Source) : Reading := ⟨"date", s, d.params, .period d.format⟩

/-- The parts of a composed date have the format of the whole where they have none. -/
def year (d : DateExtractor) (p : DatePart) : Reading :=
  ⟨"date.year", p.source, p.params, .year (p.format <|> d.format)⟩

def month (d : DateExtractor) (p : DatePart) : Reading :=
  ⟨"date.month", p.source, p.params, .month (p.format <|> d.format)⟩

def ofDate (d : DateExtractor) : List Reading :=
  match d.origin with
  | .direct s => [.date d s]
  | .composed parts => [.year d parts.year, .month d parts.month]

end Reading

/-- All that an area reads. -/
def readings (a : Area) : List Reading :=
  a.metric?.toList.map .metric ++ a.date?.toList.flatMap Reading.ofDate ++ a.title.toList.map .title
    ++ a.titleIds.map .titleId ++ a.dimensions.map .dimension
    ++ a.organization.toList.map .organization

/-! ## 2. Lanes and observations -/

/-- The number of cells of a range. -/
def count (g : Grid) (r : Range) : Nat := g.walkLength r.coord r.direction r.maxCount

/-- The ranges that an area reads. -/
def rangesOf (a : Area) : List Range := (readings a).filterMap (·.source.range?)

def runsAcross (a : Area) (r : Range) : Bool :=
  r.direction.isPerpendicular a.headers.dataDirection

/-- The data cells in the grid, and no more than any range across the data has cells. -/
def laneCount (a : Area) (g : Grid) : Nat :=
  (((rangesOf a).filter (runsAcross a)).map (count g)).foldl min (count g a.headers.dataCells)

/-- The cells from the first data cell to the edge, and no more than any range along the data has
    cells. -/
def observationCount (a : Area) (g : Grid) : Nat :=
  (((rangesOf a).filter fun r => !runsAcross a r).map (count g)).foldl min
    (g.toEdge a.headers.dataCells.coord a.headers.dataDirection)

/-! ## 3. The values of a reading -/

/-- The raw value of a source with a number. -/
def rawNo (g : Grid) : Source → Nat → Raw
  | .cell c, _ => rawAt g c
  | .range r, n => rawAt g (r.coord.move r.direction n)
  | .value v, _ => ⟨none, some v.shown⟩

namespace Reading

/-- What becomes of the raw value with a number. -/
def outcome (r : Reading) (i : Nat) (g : Grid) (n : Nat) : Except ExtractionError (Option String) :=
  Cleaning.outcome ⟨i, r.role, r.params, r.conversion⟩ ((List.range n).map (rawNo g r.source))
    (rawNo g r.source n)

/-- How many raw values are used. -/
def used (r : Reading) (a : Area) (g : Grid) : Nat :=
  match r.source.range? with
  | some x => if runsAcross a x then laneCount a g else observationCount a g
  | none => 1

/-- The number of the value that belongs to an observation of a lane. -/
def index (r : Reading) (a : Area) (observation lane : Nat) : Nat :=
  match r.source.range? with
  | some x => if runsAcross a x then lane else observation
  | none => 0

/-- No raw value that is used ends the evaluation. -/
def Succeeds (r : Reading) (i : Nat) (a : Area) (g : Grid) : Prop :=
  ∀ n < r.used a g, ∃ v, r.outcome i g n = .ok v

/-- The value for an observation of a lane; none where it is left out. -/
def valueAt (r : Reading) (i : Nat) (a : Area) (g : Grid) (observation lane : Nat) :
    Option String :=
  (r.outcome i g (r.index a observation lane)).toOption.join

end Reading

/-! ## 4. Records -/

section Records

variable (i : Nat) (a : Area) (g : Grid) (observation lane : Nat)

/-- The data cell of an observation in a lane. -/
def dataCell : Coord :=
  (a.headers.dataCells.coord.move a.headers.dataCells.direction lane).move
    a.headers.dataDirection observation

/-- The number in a cell. -/
def numberIn (c : Coord) : Option Binary64 :=
  match g.get? c with
  | some (.number x) => some x
  | some (.text s) => parseNumber s
  | some .blank | none => none

/-- The cell is blank, or it holds a number. -/
def IsNumeric (c : Coord) : Prop :=
  ∀ s, g.get? c = some (.text s) → (parseNumber s).isSome = true

/-- A value of the pair is left out. -/
def IsSkipped : Prop :=
  ∃ r ∈ readings a, r.valueAt i a g observation lane = none

def dateAt (d : DateExtractor) : Option String :=
  match d.origin with
  | .direct s => (Reading.date d s).valueAt i a g observation lane
  | .composed parts => do
    let year ← (Reading.year d parts.year).valueAt i a g observation lane
    let month ← (Reading.month d parts.month).valueAt i a g observation lane
    pure (combine year month)

/-- The value of a reading that an area need not have. -/
def optionalAt : Option Reading → Option (Option String)
  | none => some none
  | some r => (r.valueAt i a g observation lane).map some

/-- The record of a pair. -/
def recordAt : Option Record := do
  pure {
    metric := ← (Reading.metric (← a.metric?)).valueAt i a g observation lane
    date := ← dateAt i a g observation lane (← a.date?)
    title := ← optionalAt i a g observation lane (a.title.map .title)
    organization := ← optionalAt i a g observation lane (a.organization.map .organization)
    titleIds := Record.orderTitleIds (← a.titleIds.mapM fun t =>
      ((Reading.titleId t).valueAt i a g observation lane).map (t.kind, ·))
    dimensions := ← a.dimensions.mapM fun d =>
      ((Reading.dimension d).valueAt i a g observation lane).map (d.name, ·)
    value := ← numberIn g (dataCell a observation lane) }

/-- Each observation with each lane, observation by observation. -/
def pairs (observations lanes : Nat) : List (Nat × Nat) :=
  (List.range observations).flatMap fun o => (List.range lanes).map fun l => (o, l)

/-- The records of all pairs. -/
def recordsOf : List Record :=
  (pairs (observationCount a g) (laneCount a g)).filterMap fun (o, l) => recordAt i a g o l

end Records

end UsageGrid.Extraction
