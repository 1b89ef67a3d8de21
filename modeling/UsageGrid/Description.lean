import UsageGrid.Json.Typed
import UsageGrid.Rules.Role

/-!
# What a report contains

Whoever hands in a report says beforehand what it should contain: the months it covers, how fine
its counts are, and the names to expect in it. A yes-or-no answer may also be written as 1 or 0.
-/

namespace UsageGrid

/-- How fine the counts of a report are. -/
inductive Granularity where
  | monthly
  | daily
  | other
deriving Repr, DecidableEq

namespace Granularity

def name : Granularity → String
  | .monthly => "monthly"
  | .daily => "daily"
  | .other => "other"

def words : List (String × Granularity) := [monthly, daily, other].map fun g => (g.name, g)

end Granularity

structure Description where
  beginMonth : String
  endMonth : String
  english : Bool
  titleReport : Bool
  granularity : Granularity
  titleIds : List Rules.TitleIdKind := []
  metrics : List String := []
  dimensions : List String := []
deriving Repr, DecidableEq

namespace Description

open Json

/-- Yes or no, as a boolean or as a whole number. -/
def asFlag : Typed Bool
  | .bool b => .ok b
  | .int 0 => .ok false
  | .int 1 => .ok true
  | .int n =>
    if isInt64 n then misfit (.other ("expected a boolean or 0/1, found " ++ toString n))
    else misfit (.noShape "Flag")
  | _ => misfit (.noShape "Flag")

def asTexts : Typed (List String) := asList asString

def asTitleIds : Typed (List Rules.TitleIdKind) := asList (asWord Rules.TitleIdKind.words)

def record : Json.Record :=
  ⟨"DataDescriptionData", [
    .of "begin_month_year" asString,
    .of "end_month_year" asString,
    .of "english" asFlag,
    .of "title_report" asFlag,
    .of "granularity" (asWord Granularity.words),
    .ofDefault "title_identifiers" asTitleIds (.array []),
    .ofDefault "metrics" asTexts (.array []),
    .ofDefault "dimensions" asTexts (.array [])]⟩

/-- The description that a value holds. -/
def read : Typed Description := fun v => do
  let values ← record.read v
  pure {
    beginMonth := ← values.get "begin_month_year" asString
    endMonth := ← values.get "end_month_year" asString
    english := ← values.get "english" asFlag
    titleReport := ← values.get "title_report" asFlag
    granularity := ← values.get "granularity" (asWord Granularity.words)
    titleIds := ← values.get "title_identifiers" asTitleIds
    metrics := ← values.get "metrics" asTexts
    dimensions := ← values.get "dimensions" asTexts }

def toJson (d : Description) : Json :=
  .object [
    ("begin_month_year", .string d.beginMonth),
    ("end_month_year", .string d.endMonth),
    ("english", .bool d.english),
    ("title_report", .bool d.titleReport),
    ("granularity", .string d.granularity.name),
    ("title_identifiers", .ofTexts (d.titleIds.map (·.name))),
    ("metrics", .ofTexts d.metrics),
    ("dimensions", .ofTexts d.dimensions)]

end Description

end UsageGrid
