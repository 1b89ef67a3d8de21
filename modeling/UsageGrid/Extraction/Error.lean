import UsageGrid.Extraction.Period
import UsageGrid.Rules.Params
import UsageGrid.Text.Quoted

/-!
# Why an evaluation fails

Every error ends the evaluation of the whole document. It names the area, what was extracted, and
the content that could not be used.
-/

namespace UsageGrid

namespace Extraction

/-- Why a raw value cannot be used. -/
inductive Reason where
  | blankCell
  | noMatch (pattern : String)
  | nothingLeft
  | period (e : PeriodError)
deriving Repr, DecidableEq

def Reason.message : Reason → String
  | .blankCell => "blank cell"
  | .noMatch pattern => "does not match regex '" ++ pattern ++ "'"
  | .nothingLeft => "nothing left after regex"
  | .period e => e.message

/-- A place in the grid, or none for a value of the document itself. -/
def locationLabel : Option Coord → String
  | some c => c.label
  | none => "literal"

end Extraction

inductive ExtractionError where
  | cell (area : Nat) (role : String) (location : Option Coord) (content : String)
      (reason : Extraction.Reason) (action : Rules.Action)
  | notANumber (area : Nat) (place : Coord) (content : String)
  | invalidDefault (area : Nat) (role default : String) (e : Extraction.PeriodError)
  | metricCheck (metric : String) (available : List String) (action : Rules.Action)
deriving Repr, DecidableEq

namespace ExtractionError

def message : ExtractionError → String
  | .cell area role location content reason action =>
    "area " ++ toString area ++ ", " ++ role ++ " at " ++ Extraction.locationLabel location ++ ": "
      ++ reason.message ++ " (cell content: " ++ Text.quoted content ++ ", on_validation_error: "
      ++ action.name ++ ")"
  | .notANumber area place content =>
    "area " ++ toString area ++ ", value at " ++ place.label ++ ": not a number (cell content: "
      ++ Text.quoted content ++ ")"
  | .invalidDefault area role default e =>
    "area " ++ toString area ++ ", " ++ role ++ ": default " ++ Text.quoted default
      ++ " is not usable: " ++ e.message
  | .metricCheck metric available action =>
    "metric check failed: '" ++ metric ++ "' is not one of the available metrics ["
      ++ ", ".intercalate available ++ "] (on_metric_check_failed: " ++ action.name ++ ")"

end ExtractionError

end UsageGrid
