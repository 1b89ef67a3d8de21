import UsageGrid.Extraction.Area
import UsageGrid.Rules.Definition

/-!
# What a document makes of its records

After all areas have been evaluated, records of metrics and titles to skip are dropped, metrics and
dimensions renamed, and the metrics checked against the available ones. Each record is judged on its
own (`judge`).
-/

namespace UsageGrid.Extraction

open Rules

/-- A metric is skipped under its own name and under its alias. -/
def isSkipped (d : Definition) (r : Record) : Bool :=
  d.metricsToSkip.contains r.metric || d.metricsToSkip.contains (d.canonicalMetric r.metric)
    || r.title.any d.titlesToSkip.contains

/-- The record after the aliases. -/
def canonical (d : Definition) (r : Record) : Record :=
  { r with
    metric := d.canonicalMetric r.metric
    dimensions := r.dimensions.map fun (n, v) => (d.canonicalDimension n, v) }

/-- A metric that may occur: any one where no list is given. -/
def isAvailable (d : Definition) (metric : String) : Bool :=
  d.availableMetrics.all (·.contains metric)

/-- The record as it is kept, or none. -/
def judge (d : Definition) (r : Record) : Except ExtractionError (Option Record) :=
  if isSkipped d r then .ok none
  else
    let r := canonical d r
    if isAvailable d r.metric then .ok (some r)
    else match d.onMetricCheckFailed with
      | .skip => .ok none
      | .pass => .ok (some r)
      | action => .error (.metricCheck r.metric (d.availableMetrics.getD []) action)

/-- The records that are kept, up to the first error. -/
def postProcess (d : Definition) (records : List Record) : Except ExtractionError (List Record) :=
  gather (judge d) records

/-- The records of several areas, counted from `i`. -/
def evaluateAreas (g : Grid) (i : Nat) : List Area → Except ExtractionError (List Record)
  | [] => .ok []
  | a :: rest => do
    let records ← evaluateArea i a g
    let more ← evaluateAreas g (i + 1) rest
    pure (records ++ more)

/-- The records that a document finds in a grid. -/
def execute (d : Definition) (g : Grid) : Except ExtractionError (List Record) := do
  postProcess d (← evaluateAreas g 0 d.areas)

end UsageGrid.Extraction
