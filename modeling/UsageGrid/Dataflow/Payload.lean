import UsageGrid.Description
import UsageGrid.Table

/-!
# Artifacts

What workers hand to each other comes in seven kinds. A kind says of what type the data are
(`Kind.Data`), by which word it is known, and under which name an artifact is kept if it is given
none (`Kind.name`).

* `Payload` is data of some kind; `Payload.as?` asks for one kind.
* `Payload.read` and `Payload.toJson` are its written form.
* `Artifact` is a payload under a name.
-/

namespace UsageGrid.Dataflow

/-! ## 1. Data -/

/-- A report that has been handed in. -/
structure ReportFile where
  path : String
deriving Repr, DecidableEq

/-- A platform, and the names of the definitions that serve it. -/
structure Platform where
  name : String
  known : Bool := false
  definitions : List String := []
deriving Repr, DecidableEq

/-- What was said about a report in free words. -/
structure Note where
  text : String
deriving Repr, DecidableEq

/-- What metrics and dimensions are called in another language. -/
structure Naming where
  metrics : List String
  dimensions : List String
deriving Repr, DecidableEq

/-! ## 2. Kinds -/

inductive Kind where
  | file
  | description
  | platform
  | definition
  | table
  | note
  | naming
deriving Repr, DecidableEq

namespace Kind

def all : List Kind :=
  [.file, .description, .platform, .definition, .table, .note, .naming]

def word : Kind → String
  | .file => "file"
  | .description => "data_description"
  | .platform => "platform"
  | .definition => "parser_definition"
  | .table => "parsed"
  | .note => "user_info"
  | .naming => "translation"

/-- The name under which an artifact of the kind is kept unless it has one of its own. -/
def name (k : Kind) : String := k.word ++ "_data"

def words : List (String × Kind) := all.map fun k => (k.word, k)

/-- The kind whose artifacts are kept under a name. -/
def ofName? (name : String) : Option Kind := all.find? fun k => k.name == name

/-- The data of a kind. -/
abbrev Data : Kind → Type
  | .file => ReportFile
  | .description => Description
  | .platform => Platform
  | .definition => Definition
  | .table => Table
  | .note => Note
  | .naming => Naming

end Kind

structure Payload where
  kind : Kind
  data : kind.Data

/-- The data, if they are of the kind asked for. -/
def Payload.as? (k : Kind) (p : Payload) : Option k.Data :=
  if h : p.kind = k then some (h ▸ p.data) else none

@[simp] theorem Payload.as?_mk (k : Kind) (d : k.Data) : Payload.as? k ⟨k, d⟩ = some d := by
  simp [Payload.as?]

theorem Payload.as?_eq_none_iff (k : Kind) (p : Payload) : p.as? k = none ↔ p.kind ≠ k := by
  by_cases h : p.kind = k <;> simp [Payload.as?, h]

/-! ## 3. The written form -/

open Json

def readFile : Typed ReportFile := fun v => do
  let values ← Json.Record.read ⟨"FileData", [.of "filename" (asText "path string")]⟩ v
  pure ⟨← values.get "filename" (asText "path string")⟩

def readPlatform : Typed Platform := fun v => do
  let values ← Json.Record.read ⟨"PlatformData", [
    .of "platform_name" asString,
    .ofDefault "exists" asBool (.bool false),
    .ofDefault "parser_names" Description.asTexts (.array [])]⟩ v
  pure {
    name := ← values.get "platform_name" asString
    known := ← values.get "exists" asBool
    definitions := ← values.get "parser_names" Description.asTexts }

def readNote : Typed Note := fun v => do
  let values ← Json.Record.read ⟨"UserInfoData", [.of "user_comment" asString]⟩ v
  pure ⟨← values.get "user_comment" asString⟩

def readNaming : Typed Naming := fun v => do
  let values ← Json.Record.read ⟨"TranslationData", [
    .of "metrics_translations" Description.asTexts,
    .of "dimensions_translations" Description.asTexts]⟩ v
  pure ⟨← values.get "metrics_translations" Description.asTexts,
    ← values.get "dimensions_translations" Description.asTexts⟩

/-- A rule document, well formed. -/
def readDefinition : Typed Definition := fun v =>
  match Definition.ofJson v with
  | .ok d => .ok d
  | .error e => misfit (.other e.message)

/-- The data of a kind that a value holds. -/
def readData : (k : Kind) → Typed k.Data
  | .file => readFile
  | .description => Description.read
  | .platform => readPlatform
  | .definition => readDefinition
  | .table => Table.read
  | .note => readNote
  | .naming => readNaming

def dataToJson : (k : Kind) → k.Data → Json
  | .file, f => .object [("filename", .string f.path)]
  | .description, d => d.toJson
  | .platform, p => .object [("platform_name", .string p.name), ("exists", .bool p.known),
      ("parser_names", .ofTexts p.definitions)]
  | .definition, d => d.toJson
  | .table, t => t.toJson
  | .note, n => .object [("user_comment", .string n.text)]
  | .naming, t => .object [
      ("metrics_translations", .ofTexts t.metrics),
      ("dimensions_translations", .ofTexts t.dimensions)]

def Payload.toJson (p : Payload) : Json := dataToJson p.kind p.data

/-! ## 4. Artifacts -/

structure Artifact where
  name : String
  payload : Payload

/-- Data under the name of their kind. -/
def Artifact.ofData (k : Kind) (d : k.Data) : Artifact := ⟨k.name, ⟨k, d⟩⟩

def Artifact.kind (a : Artifact) : Kind := a.payload.kind

end UsageGrid.Dataflow
