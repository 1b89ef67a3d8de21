import UsageGrid.Extraction.Cleaning
import UsageGrid.Extraction.Number
import UsageGrid.Rules.Area
import UsageGrid.Decimal.Binary64
import UsageGrid.Rules.Role

/-!
# The records of an area

Every source of an area is resolved and cleaned once, in the order of the document, which gives a
`Series` on one of three axes. How many lanes and observations there are, the data cells and all
ranges say together (`Shape`). Then each pair of an observation and a lane makes at most one record:
none where something has been left out or the data cell is blank.
-/

/-!
## Records

A record is one normalised observation: a value, what it counts, and the month it belongs to, with
everything else the area says about it.
-/

namespace UsageGrid

structure Record where
  metric : String
  date : String
  title : Option String := none
  /-- In the order of the kinds. -/
  titleIds : List (Rules.TitleIdKind × String) := []
  /-- In the order of the document. -/
  dimensions : List (String × String) := []
  organization : Option String := none
  value : Binary64
deriving DecidableEq

namespace Record

/-- Title identifiers in the order of their kinds; of several of one kind the last counts. -/
def orderTitleIds (ids : List (Rules.TitleIdKind × String)) : List (Rules.TitleIdKind × String) :=
  Rules.TitleIdKind.all.filterMap fun k => (ids.reverse.lookup k).map fun v => (k, v)

end Record

end UsageGrid

namespace UsageGrid.Extraction

open Rules

/-! ## 1. Series -/

/-- The values of a source; `none` where one is left out. -/
structure Series where
  axis : Axis
  values : List (Option String)

/-- The value that belongs to an observation of a lane. -/
def Series.at (s : Series) (observation lane : Nat) : Option String :=
  let i := match s.axis with
    | .broadcast => 0
    | .lane => lane
    | .observation => observation
  s.values[i]?.join

/-- The values of a field: those of a source, or of two that make a date together. -/
inductive Field where
  | plain (s : Series)
  | composed (year month : Series)

def Field.at (f : Field) (observation lane : Nat) : Option String :=
  match f with
  | .plain s => s.at observation lane
  | .composed year month => do
    pure (combine (← year.at observation lane) (← month.at observation lane))

/-! ## 2. Shape -/

/-- The lanes by their first cells, and how many observations each has. -/
structure Shape where
  direction : Direction
  starts : List Coord
  observations : Nat

/-- The sources that an area reads, those of the header roles first. -/
def sourcesOf (a : Area) : List Source :=
  a.headers.roles.flatMap HeaderRole.sources
    ++ a.metric.toList.map (·.source)
    ++ a.date.toList.flatMap DateExtractor.sources
    ++ a.title.toList.map (·.source)
    ++ a.titleIds.map (·.extractor.source)
    ++ a.dimensions.map (·.extractor.source)
    ++ a.organization.toList.map (·.source)

/-- The bound that the ranges on an axis put on a count. -/
def bounded (axis : Axis) (a : Area) (g : Grid) (count : Nat) : Nat :=
  (sourcesOf a).foldl (fun n s =>
    match rangedLength? s g a.headers.dataDirection with
    | some (x, len) => if x = axis then min n len else n
    | none => n) count

def shapeOf (a : Area) (g : Grid) : Shape :=
  let starts := cells a.headers.dataCells g
  let observations := match starts with
    | [] => 0
    | c :: _ => (g.walk c a.headers.dataDirection none).length
  { direction := a.headers.dataDirection
    starts := starts.take (bounded .lane a g starts.length)
    observations := bounded .observation a g observations }

/-- Nothing to read. -/
def Shape.isEmpty (s : Shape) : Bool := s.starts.isEmpty || s.observations == 0

/-- The most values that are used of a source. -/
def Shape.count (s : Shape) : Axis → Nat
  | .broadcast => 1
  | .lane => s.starts.length
  | .observation => s.observations

/-- The cell of an observation in the lane that begins at a cell. -/
def Shape.cell (s : Shape) (start : Coord) : Nat → Option Coord
  | 0 => some start
  | n + 1 => (s.cell start n).bind fun c => c.step s.direction

/-! ## 3. Fields -/

/-- What is read where: an area by its number, its grid and its shape. -/
structure Scope where
  area : Nat
  grid : Grid
  shape : Shape

namespace Scope

def series (x : Scope) (role : String) (s : Source) (p : Params) (c : Conversion) :
    Except ExtractionError Series := do
  let axis := axisOf s x.shape.direction
  let raws := (resolve s x.grid).take (x.shape.count axis)
  pure ⟨axis, ← Cleaning.cleanAll ⟨x.area, role, p, c⟩ none raws⟩

def text (x : Scope) (role : String) (e : Extractor) : Except ExtractionError Field :=
  (x.series role e.source e.params .text).map .plain

/-- A field that the area need not have. -/
def text? (x : Scope) (role : String) : Option Extractor → Except ExtractionError (Option Field)
  | none => .ok none
  | some e => (x.text role e).map some

/-- A part of a composed date; it has the format of the whole where it has none of its own. -/
def part (x : Scope) (role : String) (p : DatePart) (outer : Option String)
    (conversion : Option String → Conversion) : Except ExtractionError Series :=
  x.series role p.source p.params (conversion (p.format <|> outer))

def date (x : Scope) (d : DateExtractor) : Except ExtractionError Field :=
  match d.origin with
  | .direct s => (x.series "date" s d.params (.period d.format)).map .plain
  | .composed parts => do
    let year ← x.part "date.year" parts.year d.format .year
    let month ← x.part "date.month" parts.month d.format .month
    pure (.composed year month)

def titleIds (x : Scope) : List TitleId → Except ExtractionError (List (TitleIdKind × Field))
  | [] => .ok []
  | t :: rest => do
    let f ← x.text ("title_id " ++ t.kind.name) t.extractor
    pure ((t.kind, f) :: (← x.titleIds rest))

def dimensions (x : Scope) : List Dimension → Except ExtractionError (List (String × Field))
  | [] => .ok []
  | d :: rest => do
    let f ← x.text ("dimension '" ++ d.name ++ "'") d.extractor
    pure ((d.name, f) :: (← x.dimensions rest))

end Scope

/-- The fields of an area. -/
structure Fields where
  metric : Field
  date : Field
  title : Option Field
  titleIds : List (TitleIdKind × Field)
  dimensions : List (String × Field)
  organization : Option Field

/-- The fields in the order of the document; none without a metric or a date. -/
def fieldsOf (x : Scope) (a : Area) : Except ExtractionError (Option Fields) := do
  match a.headerMetric? <|> a.metric with
  | none => pure none
  | some m =>
    let metric ← x.text "metric" m
    match a.headerDate? <|> a.date with
    | none => pure none
    | some d =>
      pure (some {
        metric
        date := ← x.date d
        title := ← x.text? "title" a.title
        titleIds := ← x.titleIds a.titleIds
        dimensions := ← x.dimensions a.dimensions
        organization := ← x.text? "organization" a.organization })

/-! ## 4. Records -/

/-- A field that the area need not have. -/
def valueAt? (observation lane : Nat) : Option Field → Option (Option String)
  | none => some none
  | some f => (f.at observation lane).map some

/-- The values of named fields, all of them. -/
def valuesAt {α : Type} (observation lane : Nat) : List (α × Field) → Option (List (α × String))
  | [] => some []
  | (a, f) :: rest => do
    let v ← f.at observation lane
    pure ((a, v) :: (← valuesAt observation lane rest))

/-- All of a record but its value; nothing where a field has been left out. -/
def Fields.recordAt (f : Fields) (observation lane : Nat) (value : Binary64) : Option Record := do
  pure {
    metric := ← f.metric.at observation lane
    date := ← f.date.at observation lane
    title := ← valueAt? observation lane f.title
    organization := ← valueAt? observation lane f.organization
    titleIds := Record.orderTitleIds (← valuesAt observation lane f.titleIds)
    dimensions := ← valuesAt observation lane f.dimensions
    value }

/-- The number in a data cell; nothing in a blank one or outside the grid. -/
def numberAt (area : Nat) (g : Grid) (c : Coord) : Except ExtractionError (Option Binary64) :=
  match g.get? c with
  | none | some .blank => .ok none
  | some (.number x) => .ok (some x)
  | some (.text s) =>
    match parseNumber s with
    | some x => .ok (some x)
    | none => .error (.notANumber area c s)

/-- The record of a pair, if there is one. A data cell is looked at only where no field has been
    left out. -/
def recordOf (x : Scope) (f : Fields) (observation lane : Nat) (start : Coord) :
    Except ExtractionError (Option Record) :=
  match f.recordAt observation lane .zero, x.shape.cell start observation with
  | some r, some c => (numberAt x.area x.grid c).map fun v => v.map fun v => { r with value := v }
  | _, _ => .ok none

/-- What is found for each of several things, up to the first error. -/
def gather {α β ε : Type} (find : α → Except ε (Option β)) : List α → Except ε (List β)
  | [] => .ok []
  | a :: rest => do
    let found ← find a
    let more ← gather find rest
    pure (found.toList ++ more)

/-- Each observation with each lane and its first cell, observation by observation. -/
def Shape.pairs (s : Shape) : List (Nat × Nat × Coord) :=
  (List.range s.observations).flatMap fun o => s.starts.zipIdx.map fun (c, l) => (o, l, c)

/-- The records of an area, given its number. -/
def evaluateArea (index : Nat) (a : Area) (g : Grid) : Except ExtractionError (List Record) := do
  let shape := shapeOf a g
  if shape.isEmpty then pure []
  else
    let x : Scope := ⟨index, g, shape⟩
    match ← fieldsOf x a with
    | none => pure []
    | some f => gather (fun (o, l, c) => recordOf x f o l c) shape.pairs

end UsageGrid.Extraction
