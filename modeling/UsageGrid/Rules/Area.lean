import UsageGrid.Rules.Extractor

/-!
# Areas

An area is a block of the grid. Its data cells stand in lanes: `dataCells` walks over the first
cell of each, and each lane runs on in `dataDirection`, which is perpendicular to that walk. A
metric and a date belong to every value; each comes from exactly one place, a header role or the
area itself.
-/

namespace UsageGrid.Rules

/-- The only kind of area and of document. -/
def kindWord : String := "non_counter.generic"

/-! ## 1. Header roles -/

/-- What the header cells of the lanes hold. -/
inductive HeaderRole where
  | metric (e : Extractor)
  | date (d : DateExtractor)
deriving DecidableEq

namespace HeaderRole

def role : HeaderRole → Role
  | .metric _ => .metric
  | .date _ => .date

def sources : HeaderRole → List Source
  | .metric e => [e.source]
  | .date d => d.sources

/-- Which of the two it is, the role that is written decides. -/
def decode : Decoder HeaderRole := fun v path =>
  match (v.get? "role").filter fun r => !r.isNull with
  | none => .error (.missingField (path.key "role"))
  | some (.string s) =>
    if s = Role.metric.name then (Extractor.decode .metric v path).map .metric
    else if s = Role.date.name then (DateExtractor.decode v path).map .date
    else .error (.roleMismatch (path.key "role") [.metric, .date] s)
  | some r => .error (.invalidField (path.key "role") (.kind .role r))

def toJson : HeaderRole → Json
  | .metric e => e.toJson .metric
  | .date d => d.toJson

end HeaderRole

/-! ## 2. Headers -/

structure DataHeaders where
  roles : List HeaderRole
  dataCells : Range
  dataDirection : Direction
deriving DecidableEq

namespace DataHeaders

/-- A range of a header does not run along the data. -/
def checkPerpendicular (data : Direction) (path : Path) (source : Source) :
    Except RuleError Unit :=
  match source with
  | .range r =>
    if r.direction.isPerpendicular data then .ok ()
    else .error (.notPerpendicular (path.key "direction") r.direction data)
  | _ => .ok ()

/-- The sources of a header role with their places. -/
def sourcesAt (path : Path) : HeaderRole → List (Path × Source)
  | .metric e => [(path.key "source", e.source)]
  | .date d =>
    match d.origin with
    | .direct s => [(path.key "source", s)]
    | .composed parts =>
      [(((path.key "composed").key "year").key "source", parts.year.source),
        (((path.key "composed").key "month").key "source", parts.month.source)]

/-- The roles in turn, counted from `i`. -/
def checkRoles (data : Direction) (path : Path) (i : Nat) :
    List HeaderRole → Except RuleError Unit
  | [] => .ok ()
  | r :: rest => do
    (sourcesAt (path.index i) r).forM fun (p, s) => checkPerpendicular data p s
    checkRoles data path (i + 1) rest

def decode : Decoder DataHeaders := fun v path => do
  let f ← Fields.of ["roles", "data_cells", "data_direction"] v path
  let dataDirection ← f.leaf "data_direction" (Json.asWord Direction.words)
  let dataCells ← f.part "data_cells" Range.decode
  checkPerpendicular dataDirection (f.place "data_cells") (.range dataCells)
  let roles ← f.parts "roles" HeaderRole.decode
  checkRoles dataDirection (f.place "roles") 0 roles
  pure { roles, dataCells, dataDirection }

def toJson (h : DataHeaders) : Json :=
  .object [("roles", .array (h.roles.map HeaderRole.toJson)), ("data_cells", h.dataCells.toJson),
    ("data_direction", .string h.dataDirection.name)]

end DataHeaders

/-! ## 3. Areas -/

structure Area where
  headers : DataHeaders
  metric : Option Extractor
  date : Option DateExtractor
  title : Option Extractor
  titleIds : List TitleId
  dimensions : List Dimension
  organization : Option Extractor
deriving DecidableEq

namespace Area

def headerMetric? (a : Area) : Option Extractor :=
  a.headers.roles.findSome? fun
    | .metric e => some e
    | .date _ => none

def headerDate? (a : Area) : Option DateExtractor :=
  a.headers.roles.findSome? fun
    | .date d => some d
    | .metric _ => none

/-- How often a role is sourced. -/
def sourceCount (a : Area) (role : Role) (ofArea : Bool) : Nat :=
  a.headers.roles.countP (fun r => r.role == role) + ofArea.toNat

def checkSourcedOnce (a : Area) (path : Path) (role : Role) (ofArea : Bool) :
    Except RuleError Unit :=
  match a.sourceCount role ofArea with
  | 0 => .error (.missingRole path role)
  | 1 => .ok ()
  | _ => .error (.duplicateRole path role)

/-- No name comes twice; `i` counts the items, `seen` holds the names before. -/
def checkDistinct {α : Type} [DecidableEq α] (path : Path) (problem : α → Problem) (i : Nat)
    (seen : List α) : List α → Except RuleError Unit
  | [] => .ok ()
  | a :: rest =>
    if seen.contains a then .error (.invalidField ((path.index i).key "name") (problem a))
    else checkDistinct path problem (i + 1) (a :: seen) rest

def fieldNames : List String :=
  ["data_headers", "metrics", "dates", "titles", "title_ids", "dimensions", "organizations",
    "kind"]

def decode : Decoder Area := fun v path => do
  let f ← Fields.of fieldNames v path
  f.word "kind" kindWord false
  let a : Area := {
    headers := ← f.part "data_headers" DataHeaders.decode
    metric := ← f.part? "metrics" (Extractor.decode .metric)
    date := ← f.part? "dates" DateExtractor.decode
    title := ← f.part? "titles" (Extractor.decode .title)
    titleIds := ← f.parts "title_ids" TitleId.decode
    dimensions := ← f.parts "dimensions" Dimension.decode
    organization := ← f.part? "organizations" (Extractor.decode .organization) }
  a.checkSourcedOnce path .metric a.metric.isSome
  a.checkSourcedOnce path .date a.date.isSome
  checkDistinct (f.place "dimensions") .repeatedDimension 0 [] (a.dimensions.map (·.name))
  checkDistinct (f.place "title_ids") .repeatedTitleId 0 [] (a.titleIds.map (·.kind))
  pure a

def toJson (a : Area) : Json :=
  .object [
    ("data_headers", a.headers.toJson),
    ("metrics", .ofOption (Extractor.toJson .metric) a.metric),
    ("dates", .ofOption DateExtractor.toJson a.date),
    ("titles", .ofOption (Extractor.toJson .title) a.title),
    ("title_ids", .array (a.titleIds.map TitleId.toJson)),
    ("dimensions", .array (a.dimensions.map Dimension.toJson)),
    ("organizations", .ofOption (Extractor.toJson .organization) a.organization),
    ("kind", .string kindWord)]

end Area

end UsageGrid.Rules
