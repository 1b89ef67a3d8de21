import UsageGrid.Calendar.Format
import UsageGrid.Rules.Params

/-!
# Extractors

An extractor is a source with parameters. Its role is fixed by where it stands in the document and
written beside it. Dimensions and title identifiers have a name as well; a date may have a format,
and may be composed of a year and a month that are read apart.
-/

namespace UsageGrid.Rules

/-! ## 1. Parts that all extractors share -/

/-- The role that is written must be the one of the place. -/
def checkRole (f : Fields) (wanted : Role) : Except RuleError Unit := do
  match ← f.required "role" with
  | .string s =>
    if s = wanted.name then pure () else throw (.roleMismatch (f.place "role") [wanted] s)
  | v => throw (.invalidField (f.place "role") (.kind .role v))

/-- The parameters; the usual ones where none are written. -/
def decodeParams (f : Fields) : Except RuleError Params :=
  (f.part? "extract_params" Params.decode).map fun p => p.getD {}

structure Extractor where
  source : Source
  params : Params := {}
deriving DecidableEq

namespace Extractor

def decode (role : Role) : Decoder Extractor := fun v path => do
  let f ← Fields.of ["source", "extract_params", "role"] v path
  checkRole f role
  pure { source := ← f.part "source" Source.decode, params := ← decodeParams f }

def members (role : Role) (e : Extractor) : List (String × Json) :=
  [("source", e.source.toJson), ("extract_params", e.params.toJson), ("role", .string role.name)]

def toJson (role : Role) (e : Extractor) : Json := .object (e.members role)

end Extractor

/-! ## 2. Dimensions and title identifiers -/

structure Dimension where
  name : String
  extractor : Extractor
deriving DecidableEq

namespace Dimension

/-- A name is not blank and not the name of another column. -/
def checkName (path : Path) (name : String) : Except RuleError Unit :=
  if Text.isBlankText name then .error (.invalidField path .blankDimension)
  else if isReserved name then .error (.invalidField path (.reservedDimension name))
  else .ok ()

def decode : Decoder Dimension := fun v path => do
  let f ← Fields.of ["name", "source", "extract_params", "role"] v path
  checkRole f .dimension
  let name ← f.leaf "name" Json.asString
  checkName (f.place "name") name
  pure { name, extractor :=
    { source := ← f.part "source" Source.decode, params := ← decodeParams f } }

def toJson (d : Dimension) : Json :=
  .object (("name", .string d.name) :: d.extractor.members .dimension)

end Dimension

structure TitleId where
  kind : TitleIdKind
  extractor : Extractor
deriving DecidableEq

namespace TitleId

def decode : Decoder TitleId := fun v path => do
  let f ← Fields.of ["name", "source", "extract_params", "role"] v path
  checkRole f .titleId
  let kind ← f.leaf "name" (Json.asWord TitleIdKind.words)
  pure { kind, extractor :=
    { source := ← f.part "source" Source.decode, params := ← decodeParams f } }

def toJson (t : TitleId) : Json :=
  .object (("name", .string t.kind.name) :: t.extractor.members .titleId)

end TitleId

/-! ## 3. Dates -/

def dateFields : List String := ["source", "composed", "extract_params", "date_pattern", "role"]

/-- The format of a date, if one is written. -/
def decodeDateFormat (f : Fields) : Except RuleError (Option String) := do
  match ← f.leaf? "date_pattern" Json.asString with
  | none => pure none
  | some text =>
    if Calendar.Format.isFormat text then pure (some text)
    else throw (.invalidField (f.place "date_pattern") (.dateFormat text))

/-- The members of a date after its origin. -/
def dateMembers (params : Params) (format : Option String) : List (String × Json) :=
  ("extract_params", params.toJson)
    :: (match format with
      | some text => [("date_pattern", .string text)]
      | none => [])
    ++ [("role", .string Role.date.name)]

/-- The year or the month of a composed date, which has a source of its own. -/
structure DatePart where
  source : Source
  params : Params := {}
  format : Option String := none
deriving DecidableEq

namespace DatePart

def decode : Decoder DatePart := fun v path => do
  let f ← Fields.of dateFields v path
  checkRole f .date
  if f.has "composed" then throw (.invalidField (f.place "composed") .composedPart)
  pure {
    source := ← f.part "source" Source.decode
    params := ← decodeParams f
    format := ← decodeDateFormat f }

def toJson (p : DatePart) : Json :=
  .object (("source", p.source.toJson) :: dateMembers p.params p.format)

end DatePart

structure Composed where
  year : DatePart
  month : DatePart
deriving DecidableEq

namespace Composed

def decode : Decoder Composed := fun v path => do
  let f ← Fields.of ["year", "month"] v path
  pure { year := ← f.part "year" DatePart.decode, month := ← f.part "month" DatePart.decode }

def toJson (c : Composed) : Json :=
  .object [("year", c.year.toJson), ("month", c.month.toJson)]

end Composed

inductive DateOrigin where
  | direct (s : Source)
  | composed (parts : Composed)
deriving DecidableEq

structure DateExtractor where
  origin : DateOrigin
  params : Params := {}
  format : Option String := none
deriving DecidableEq

namespace DateExtractor

/-- The sources that the date reads. -/
def sources (d : DateExtractor) : List Source :=
  match d.origin with
  | .direct s => [s]
  | .composed parts => [parts.year.source, parts.month.source]

def decodeOrigin (f : Fields) : Except RuleError DateOrigin :=
  match f.has "source", f.has "composed" with
  | true, false => (f.part "source" Source.decode).map .direct
  | false, true => (f.part "composed" Composed.decode).map .composed
  | true, true => .error (.invalidField f.path .twoOrigins)
  | false, false => .error (.invalidField f.path .noOrigin)

def decode : Decoder DateExtractor := fun v path => do
  let f ← Fields.of dateFields v path
  checkRole f .date
  pure {
    origin := ← decodeOrigin f
    params := ← decodeParams f
    format := ← decodeDateFormat f }

def toJson (d : DateExtractor) : Json :=
  let origin := match d.origin with
    | .direct s => ("source", s.toJson)
    | .composed parts => ("composed", parts.toJson)
  .object (origin :: dateMembers d.params d.format)

end DateExtractor

end UsageGrid.Rules
