import UsageGrid.Rules.Error

/-!
# The fields of an object

Every part of a rule document is read at a place, which its errors name. An object is read field by
field: its keys are checked against the known ones first, and a null counts as absent.

* `Fields.part`, `Fields.part?`, `Fields.parts`: a field that is itself a part of the document;
* `Fields.leaf`, `Fields.leaf?`: a field of a fixed type;
* `Fields.word`: a field that can hold one word only.
-/

namespace UsageGrid.Rules

/-- Reads a part of a document at a place. -/
abbrev Decoder (α : Type) := Json → Path → Except RuleError α

/-- The items of an array, counted from `i`. -/
def decodeItems {α : Type} (item : Decoder α) (path : Path) (i : Nat) :
    List Json → Except RuleError (List α)
  | [] => .ok []
  | v :: rest => do
    let a ← item v (path.index i)
    let as ← decodeItems item path (i + 1) rest
    pure (a :: as)

/-- An array, item by item. -/
def decodeList {α : Type} (item : Decoder α) : Decoder (List α) := fun v path =>
  match v with
  | .array items => decodeItems item path 0 items
  | _ => .error (.invalidField path (.kind .array v))

/-- An object at its place. -/
structure Fields where
  members : List (String × Json)
  path : Path

namespace Fields

/-- An object that has none but the known keys. -/
def of (known : List String) : Decoder Fields := fun v path =>
  match v with
  | .object members =>
    match members.find? fun (k, _) => !known.contains k with
    | some (k, _) => .error (.unknownField (path.key k))
    | none => .ok ⟨members, path⟩
  | _ => .error (.invalidField path (.kind .object v))

/-- The place of a field. -/
def place (f : Fields) (key : String) : Path := f.path.key key

/-- The value of a field, unless it is null. -/
def get? (f : Fields) (key : String) : Option Json :=
  (Json.lookup f.members key).filter fun v => !v.isNull

def has (f : Fields) (key : String) : Bool := (f.get? key).isSome

def required (f : Fields) (key : String) : Except RuleError Json :=
  match f.get? key with
  | some v => .ok v
  | none => .error (.missingField (f.place key))

/-- Reads a value of a fixed type. -/
def ofLeaf {α : Type} (f : Fields) (key : String) (type : Json.Typed α) (v : Json) :
    Except RuleError α :=
  (type v).mapError fun m => .invalidField (f.place key) (.misfit m)

def leaf? {α : Type} (f : Fields) (key : String) (type : Json.Typed α) :
    Except RuleError (Option α) :=
  match f.get? key with
  | some v => (f.ofLeaf key type v).map some
  | none => .ok none

def leaf {α : Type} (f : Fields) (key : String) (type : Json.Typed α) : Except RuleError α := do
  f.ofLeaf key type (← f.required key)

def part? {α : Type} (f : Fields) (key : String) (decode : Decoder α) :
    Except RuleError (Option α) :=
  match f.get? key with
  | some v => (decode v (f.place key)).map some
  | none => .ok none

def part {α : Type} (f : Fields) (key : String) (decode : Decoder α) : Except RuleError α := do
  decode (← f.required key) (f.place key)

/-- A list of parts; none where the field is absent. -/
def parts {α : Type} (f : Fields) (key : String) (decode : Decoder α) :
    Except RuleError (List α) :=
  match f.get? key with
  | some v => decodeList decode v (f.place key)
  | none => .ok []

/-- A field that holds the given word, if it is there. -/
def word (f : Fields) (key wanted : String) (isRequired : Bool) : Except RuleError Unit :=
  match f.get? key with
  | none => if isRequired then .error (.missingField (f.place key)) else .ok ()
  | some (.string s) =>
    if s = wanted then .ok () else .error (.invalidField (f.place key) (.word wanted s))
  | some v => .error (.invalidField (f.place key) (.kind (.word wanted) v))

end Fields

end UsageGrid.Rules
