import UsageGrid.Dataflow.Error
import UsageGrid.Library.Basic
import UsageGrid.RowCheck

/-!
# Reports

A report is what has been made of a file: its table, the definition that was applied and where that
came from, and the rows that do not pass the check.
-/

namespace UsageGrid

/-- Where a definition came from: a file, the library, or a proposer. A proposed one may have been
    stored. -/
inductive Origin where
  | provided (path : String)
  | stored (id : String)
  | proposed (savedAs : Option String)
deriving Repr, DecidableEq

structure Report where
  table : Table
  definition : Definition
  origin : Origin
  rowErrors : List (Nat × List String)
  gridHeight : Nat
  gridWidth : Nat

inductive ReportError where
  | grid (e : GridError)
  | rules (e : RuleError)
  | library (e : LibraryError)
  | dataflow (e : DataflowError)
  | noDefinition (reason : String)
  | file (cause : Directory.Cause)

def ReportError.message : ReportError → String
  | .grid e => "Grid error: " ++ e.message
  | .rules e => "Rule document error: " ++ e.message
  | .library e => "Registry error: " ++ e.message
  | .dataflow e => "Runtime error: " ++ e.message
  | .noDefinition reason => "No usable definition: " ++ reason
  | .file cause => "IO error: " ++ cause.message

namespace Report

/-- What is asked for. -/
structure Options where
  /-- The rule document to use, in place of any other. -/
  rulesPath : Option String := none
  /-- The platform whose stored definitions are tried first. -/
  platform : Option String := none
  /-- What the proposer is told. -/
  note : Option String := none
  skipCheck : Bool := false
  ignoreStored : Bool := false
  doNotSave : Bool := false
deriving Repr, DecidableEq

end Report

namespace Origin

def toJson : Origin → Json
  | .provided path => .object [("source", .string "provided"), ("path", .string path)]
  | .stored id => .object [("source", .string "registry"), ("id", .string id)]
  | .proposed savedAs =>
    .object [("source", .string "proposed"), ("saved_as", .ofOption .string savedAs)]

end Origin

def Report.toJson (r : Report) : Json :=
  .object [
    ("table", r.table.toJson),
    ("definition", r.definition.toJson),
    ("origin", r.origin.toJson),
    ("grid_height", .int r.gridHeight),
    ("grid_width", .int r.gridWidth)]

end UsageGrid
