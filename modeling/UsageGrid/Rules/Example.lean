import UsageGrid.Json.Basic

/-!
# An example document

The rule document of a small report with a month per column:

```text
       | Jan-21 | Feb-21
Views  |   4    |   5
Clicks |   1    |   0
```
-/

namespace UsageGrid.Rules

def exampleCoord (row col : Int) : Json := .object [("row", .int row), ("col", .int col)]

def exampleRange (row col : Int) (direction : String) : Json :=
  .object [("coord", exampleCoord row col), ("direction", .string direction)]

/-- The area of the report. -/
def exampleArea : Json :=
  .object [
    ("data_headers", .object [
      ("roles", .array [.object [
        ("source", exampleRange 0 1 "right"),
        ("extract_params", .object [("on_validation_error", .string "fail")]),
        ("date_pattern", .string "%b-%y"),
        ("role", .string "date")]]),
      ("data_cells", exampleRange 1 1 "right"),
      ("data_direction", .string "down")]),
    ("metrics", .object [("source", exampleRange 1 0 "down"), ("role", .string "metric")]),
    ("dimensions", .array [.object [
      ("name", .string "Platform"),
      ("source", .object [("value", .string "Example Platform")]),
      ("role", .string "dimension")]]),
    ("kind", .string "non_counter.generic")]

/-- The document as it is shown, keys in order. -/
def exampleDocument : Json :=
  Json.canonical <| .object [
    ("parser_name", .string "example_monthly_columns"),
    ("platforms", .array [.string "Example Platform"]),
    ("metrics_to_skip", .array []),
    ("titles_to_skip", .array []),
    ("available_metrics", .array [.string "Views", .string "Link Clicks"]),
    ("on_metric_check_failed", .string "skip"),
    ("metric_aliases", .array [.array [.string "Clicks", .string "Link Clicks"]]),
    ("dimension_aliases", .array []),
    ("areas", .array [exampleArea]),
    ("heuristics", .object [("conds", .array []), ("kind", .string "and")]),
    ("kind", .string "non_counter.generic")]

end UsageGrid.Rules
