import UsageGrid.Rules.Area

/-!
# Rule documents

A definition is a whole rule document: its areas, and what is done with their records afterwards.
Metrics and dimensions are renamed by alias lists (`renamed`), of which the first pair with a name
counts. A definition is read from a value (`Definition.ofJson`) or a text (`Definition.ofText`) and
written back in the order of its fields (`Definition.toJson`).
-/

namespace UsageGrid.Rules

/-! ## 1. Aliases -/

abbrev Aliases := List (String × String)

/-- The name after the aliases. -/
def renamed (aliases : Aliases) (name : String) : String :=
  (aliases.lookup name).getD name

namespace Aliases

/-- No name has two targets. `before` holds the pairs read so far, the last in front, and `i` is
    their number. -/
def checkTargets (path : Path) (i : Nat) (before : Aliases) : Aliases → Except RuleError Unit
  | [] => .ok ()
  | (name, target) :: rest =>
    match before.lookup name with
    | some first =>
      if first = target then checkTargets path (i + 1) ((name, target) :: before) rest
      else .error (.conflictingAlias (path.index i) name first target)
    | none => checkTargets path (i + 1) ((name, target) :: before) rest

/-- No target is renamed to another name. -/
def checkChains (path : Path) (all : Aliases) (i : Nat) : Aliases → Except RuleError Unit
  | [] => .ok ()
  | (name, target) :: rest =>
    match all.lookup target with
    | some next =>
      if name ≠ target ∧ next ≠ target then .error (.aliasChain (path.index i) target next)
      else checkChains path all (i + 1) rest
    | none => checkChains path all (i + 1) rest

def check (path : Path) (aliases : Aliases) : Except RuleError Unit := do
  checkTargets path 0 [] aliases
  checkChains path aliases 0 aliases

/-- No target is a reserved column. -/
def checkReserved (path : Path) (i : Nat) : Aliases → Except RuleError Unit
  | [] => .ok ()
  | (_, target) :: rest =>
    if isReserved target then .error (.invalidField (path.index i) (.reservedTarget target))
    else checkReserved path (i + 1) rest

/-- No two dimensions get one name; `seen` pairs the names after and before renaming. -/
def checkMerged (aliases : Aliases) (path : Path) (i : Nat) (seen : List (String × String)) :
    List Dimension → Except RuleError Unit
  | [] => .ok ()
  | d :: rest =>
    let target := renamed aliases d.name
    match seen.lookup target with
    | some first =>
      .error (.invalidField ((path.index i).key "name") (.mergedDimensions first d.name target))
    | none => checkMerged aliases path (i + 1) ((target, d.name) :: seen) rest

/-- The dimensions of each area. -/
def checkAreas (aliases : Aliases) (path : Path) (i : Nat) : List Area → Except RuleError Unit
  | [] => .ok ()
  | a :: rest => do
    checkMerged aliases ((path.index i).key "dimensions") 0 [] a.dimensions
    checkAreas aliases path (i + 1) rest

def read : Json.Typed Aliases := Json.asList (Json.asPair Json.asString Json.asString)

def toJson (aliases : Aliases) : Json :=
  .array (aliases.map fun (a, b) => .array [.string a, .string b])

end Aliases

/-! ## 2. Conditions and format of a file -/

/-- The conditions that a file has to meet; they are kept as they are. -/
def decodeConditions : Decoder (List Json) := fun v path => do
  let f ← Fields.of ["conds", "kind"] v path
  f.word "kind" "and" false
  pure ((← f.leaf? "conds" (Json.asList Json.asAny)).getD [])

def conditionsToJson (conditions : List Json) : Json :=
  .object [("conds", .array conditions), ("kind", .string "and")]

/-- The name of a data format. -/
def decodeFormatName : Decoder String := fun v path => do
  let f ← Fields.of ["name"] v path
  f.leaf "name" Json.asString

def formatNameToJson (name : String) : Json := .object [("name", .string name)]

def usualFormatName : String := "format"

end UsageGrid.Rules

namespace UsageGrid

/-! ## 3. Definitions -/

structure Definition where
  name : String
  formatName : String := Rules.usualFormatName
  platforms : List String := []
  metricsToSkip : List String := []
  titlesToSkip : List String := []
  availableMetrics : Option (List String) := none
  onMetricCheckFailed : Rules.Action := .skip
  areas : List Rules.Area
  metricAliases : Rules.Aliases := []
  dimensionAliases : Rules.Aliases := []
  conditions : List Json := []

namespace Definition

open Rules

/-- The metric after the aliases. -/
def canonicalMetric (d : Definition) (name : String) : String := renamed d.metricAliases name

/-- The dimension after the aliases. -/
def canonicalDimension (d : Definition) (name : String) : String := renamed d.dimensionAliases name

def fieldNames : List String :=
  ["parser_name", "data_format", "platforms", "metrics_to_skip", "titles_to_skip",
    "available_metrics", "on_metric_check_failed", "areas", "metric_aliases",
    "dimension_aliases", "heuristics", "kind"]

def texts : Json.Typed (List String) := Json.asList Json.asString

/-- The definition that a value at a place holds. -/
def decode : Decoder Definition := fun v path => do
  let f ← Fields.of fieldNames v path
  f.word "kind" kindWord false
  let areas ← f.parts "areas" Area.decode
  if areas.isEmpty then throw .noAreas
  let metricAliases := (← f.leaf? "metric_aliases" Aliases.read).getD []
  Aliases.check (f.place "metric_aliases") metricAliases
  let dimensionAliases := (← f.leaf? "dimension_aliases" Aliases.read).getD []
  Aliases.check (f.place "dimension_aliases") dimensionAliases
  Aliases.checkReserved (f.place "dimension_aliases") 0 dimensionAliases
  Aliases.checkAreas dimensionAliases (f.place "areas") 0 areas
  pure {
    name := ← f.leaf "parser_name" Json.asString
    formatName := (← f.part? "data_format" decodeFormatName).getD usualFormatName
    platforms := (← f.leaf? "platforms" texts).getD []
    metricsToSkip := (← f.leaf? "metrics_to_skip" texts).getD []
    titlesToSkip := (← f.leaf? "titles_to_skip" texts).getD []
    availableMetrics := ← f.leaf? "available_metrics" texts
    onMetricCheckFailed :=
      (← f.leaf? "on_metric_check_failed" (Json.asWord Action.words)).getD .skip
    areas, metricAliases, dimensionAliases
    conditions := (← f.part? "heuristics" decodeConditions).getD [] }

def ofJson (v : Json) : Except RuleError Definition := decode v .root

/-- The definition that a text holds. -/
def ofText (text : String) : Except RuleError Definition := do
  let v ← (Json.parse text).mapError RuleError.notJson
  ofJson v

def toJson (d : Definition) : Json :=
  .object [
    ("parser_name", .string d.name),
    ("data_format", formatNameToJson d.formatName),
    ("platforms", .ofTexts d.platforms),
    ("metrics_to_skip", .ofTexts d.metricsToSkip),
    ("titles_to_skip", .ofTexts d.titlesToSkip),
    ("available_metrics", .ofOption .ofTexts d.availableMetrics),
    ("on_metric_check_failed", .string d.onMetricCheckFailed.name),
    ("areas", .array (d.areas.map Area.toJson)),
    ("metric_aliases", Aliases.toJson d.metricAliases),
    ("dimension_aliases", Aliases.toJson d.dimensionAliases),
    ("heuristics", conditionsToJson d.conditions),
    ("kind", .string kindWord)]

/-- The document as indented text. -/
def toText (d : Definition) : String := d.toJson.pretty

end Definition

end UsageGrid
