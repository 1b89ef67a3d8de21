import UsageGrid.Extraction.Error
import UsageGrid.Grid.Walk
import UsageGrid.Rules.Source

/-!
# From raw values to values

The raw values of one source are cleaned in the order of their walk. A value is taken out by the
pattern and converted for its role (`Cleaning.attempt`). Where that fails, the default stands in,
else the last value that could be used, else the action decides (`Cleaning.fallback`). Only the last
good value is carried from one raw value to the next.
-/

/-!
## Raw values

A source is resolved against a grid before anything is extracted from it: one cell or a value of the
document gives one raw value, a range one for each cell of its walk. How the values line up with
those of an area says their axis.
-/

namespace UsageGrid.Extraction

open Rules

/-- One value for all, one for each lane, or one for each observation along the lanes. -/
inductive Axis where
  | broadcast
  | lane
  | observation
deriving Repr, DecidableEq

/-- A value as it stands in the grid; nothing in a blank cell or outside. -/
structure Raw where
  location : Option Coord
  text : Option String
deriving Repr, DecidableEq

/-- The cells of a range. -/
def cells (r : Range) (g : Grid) : List Coord := g.walk r.coord r.direction r.maxCount

/-- The axis of a source where data run in a direction. -/
def axisOf (s : Source) (data : Direction) : Axis :=
  match s with
  | .range r => if r.direction.isPerpendicular data then .lane else .observation
  | _ => .broadcast

def rawAt (g : Grid) (c : Coord) : Raw := ⟨some c, (g.get? c).bind Cell.content?⟩

/-- The raw values of a source, in the order of its walk. -/
def resolve (s : Source) (g : Grid) : List Raw :=
  match s with
  | .cell c => [rawAt g c]
  | .range r => (cells r g).map (rawAt g)
  | .value v => [⟨none, some v.shown⟩]

/-- The axis of a range and the number of its cells. -/
def rangedLength? (s : Source) (g : Grid) (data : Direction) : Option (Axis × Nat) :=
  s.range?.map fun r => (axisOf s data, (cells r g).length)

/-! ## Cleaning -/

/-- What a role makes of a text. -/
inductive Conversion where
  | text
  | period (format : Option String)
  | year (format : Option String)
  | month (format : Option String)
deriving Repr, DecidableEq

def Conversion.apply (c : Conversion) (text : String) : Except PeriodError String :=
  match c with
  | .text => .ok text
  | .period format => parsePeriod text format
  | .year format => (parseYear text format).map (zeroFilled 4)
  | .month format => (parseMonth text format).map fun m => zeroFilled 2 m

/-- How the values of one source are cleaned, and how errors name them. -/
structure Cleaning where
  area : Nat
  role : String
  params : Params
  conversion : Conversion

namespace Cleaning

/-- What the pattern takes from a text. -/
def taken (p : Option Pattern) (text : String) : Except Reason String :=
  match p with
  | none => .ok text
  | some p =>
    match p.extract text with
    | some t => .ok t
    | none => .error (.noMatch p.source)

/-- The value of a raw value, if it can be used. -/
def attempt (c : Cleaning) (raw : Raw) : Except Reason String :=
  match raw.text with
  | none => .error .blankCell
  | some text => do
    let text ← taken c.params.pattern text
    if text.isEmpty then throw .nothingLeft
    (c.conversion.apply text).mapError .period

/-- What the action makes of a raw value: its text, nothing, or an error. -/
def act (c : Cleaning) (raw : Raw) (reason : Reason) : Except ExtractionError (Option String) :=
  match c.params.onError with
  | .skip => .ok none
  | .pass => .ok (some (raw.text.getD ""))
  | action =>
    .error (.cell c.area c.role raw.location (raw.text.getD "") reason action)

/-- What stands in for a raw value that cannot be used. -/
def fallback (c : Cleaning) (last : Option String) (raw : Raw) (reason : Reason) :
    Except ExtractionError (Option String) :=
  match c.params.default with
  | some d =>
    match c.conversion.apply d.shown with
    | .ok v => .ok (some v)
    | .error e => .error (.invalidDefault c.area c.role d.shown e)
  | none =>
    match c.params.lastAsDefault, last with
    | true, some v => .ok (some v)
    | _, _ => c.act raw reason

/-- Cleans one raw value: the last good value from then on, and the outcome, which is `none` for a
    value that is left out. -/
def clean (c : Cleaning) (last : Option String) (raw : Raw) :
    Option String × Except ExtractionError (Option String) :=
  match c.attempt raw with
  | .ok v => (some v, .ok (some v))
  | .error reason => (last, c.fallback last raw reason)

/-- Cleans raw values in turn, up to the first error. -/
def cleanAll (c : Cleaning) (last : Option String) :
    List Raw → Except ExtractionError (List (Option String))
  | [] => .ok []
  | raw :: rest => do
    let (last, outcome) := c.clean last raw
    let v ← outcome
    let vs ← cleanAll c last rest
    pure (v :: vs)

end Cleaning

end UsageGrid.Extraction
