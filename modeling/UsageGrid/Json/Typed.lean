import UsageGrid.Json.Writer
import UsageGrid.Text.Quoted

/-!
# Values of a fixed type in JSON

A leaf of a document, and every plain record, is read as a value of a fixed type. What does not fit
is a `Misfit`: the cause, and the way from the value asked about down to the one that does not fit.

* scalars: `asString`, `asBool`, `asInt64`, `asUInt32`, `asFloat`;
* containers: `asList`, `asPair`, `asOption`, `asMap`;
* `asWord`: one of several fixed words, also written `{word: null}`;
* `Record`: an object with fixed fields, or the array of their values in order; other members are
  passed over.
-/

namespace UsageGrid.Json

/-! ## 1. Misfits -/

inductive Mismatch where
  | type (found : Json) (expected : String)
  | value (found : Json) (expected : String)
  | length (n : Nat) (expected : String)
  | tooLong (n : Nat)
  | unknownWord (found : String) (words : List String)
  | missingField (name : String)
  | duplicateField (name : String)
  | noShape (name : String)
  | other (text : String)

/-- The value as a message names it. -/
def describe : Json → String
  | .null => "null"
  | .bool b => "boolean `" ++ toString b ++ "`"
  | .int n => "integer `" ++ toString n ++ "`"
  | .float x => "floating point `" ++ Decimal.Layout.json.render x ++ "`"
  | .string s => "string " ++ Text.quoted s
  | .array _ => "sequence"
  | .object _ => "map"

def inTicks (s : String) : String := "`" ++ s ++ "`"

/-- The words that would have been accepted. -/
def expectedWords : List String → String
  | [] => "there are no variants"
  | [a] => "expected " ++ inTicks a
  | [a, b] => "expected " ++ inTicks a ++ " or " ++ inTicks b
  | words => "expected one of " ++ ", ".intercalate (words.map inTicks)

def Mismatch.message : Mismatch → String
  | .type found expected => "invalid type: " ++ describe found ++ ", expected " ++ expected
  | .value found expected => "invalid value: " ++ describe found ++ ", expected " ++ expected
  | .length n expected => "invalid length " ++ toString n ++ ", expected " ++ expected
  | .tooLong n => "invalid length " ++ toString n ++ ", expected fewer elements in array"
  | .unknownWord found words => "unknown variant " ++ inTicks found ++ ", " ++ expectedWords words
  | .missingField name => "missing field " ++ inTicks name
  | .duplicateField name => "duplicate field " ++ inTicks name
  | .noShape name => "data did not match any variant of untagged enum " ++ name
  | .other text => text

/-- What does not fit, and the items or members that lead to it. -/
structure Misfit where
  cause : Mismatch
  way : List Nat := []

def Misfit.message (m : Misfit) : String := m.cause.message

/-- Read as a part of something else. -/
def Misfit.inside (i : Nat) (m : Misfit) : Misfit := { m with way := i :: m.way }

abbrev Typed (α : Type) := Json → Except Misfit α

def misfit {α : Type} (cause : Mismatch) : Except Misfit α := .error { cause }

/-! ## 2. Scalars -/

def asText (expected : String) : Typed String
  | .string s => .ok s
  | v => misfit (.type v expected)

def asString : Typed String := asText "a string"

def asBool : Typed Bool
  | .bool b => .ok b
  | v => misfit (.type v "a boolean")

/-- The whole numbers of 64 bits with sign. -/
def isInt64 (n : Int) : Bool := -(Nat.pow 2 63 : Int) ≤ n && n < (Nat.pow 2 63 : Int)

def asInt64 : Typed Int
  | .int n => if isInt64 n then .ok n else misfit (.value (.int n) "i64")
  | v => misfit (.type v "i64")

def asUIntBelow (bound : Nat) (expected : String) : Typed Nat
  | .int n =>
    if 0 ≤ n ∧ n < bound then .ok n.toNat else misfit (.value (.int n) expected)
  | v => misfit (.type v expected)

def asUInt32 : Typed Nat := asUIntBelow (Nat.pow 2 32) "u32"

def asFloat : Typed Binary64
  | .int n =>
    match Binary64.ofInt? n with
    | some x => .ok x
    | none => misfit (.value (.int n) "f64")
  | .float x => .ok x
  | v => misfit (.type v "f64")

def asAny : Typed Json := .ok

/-! ## 3. Containers -/

/-- Each item in turn, counted from `i`. -/
def asItems {α : Type} (item : Typed α) (i : Nat) : List Json → Except Misfit (List α)
  | [] => .ok []
  | v :: rest => do
    let a ← (item v).mapError (·.inside i)
    let as ← asItems item (i + 1) rest
    pure (a :: as)

def asList {α : Type} (item : Typed α) : Typed (List α)
  | .array items => asItems item 0 items
  | v => misfit (.type v "a sequence")

def pairExpected : String := "a tuple of size 2"

def asPair {α β : Type} (first : Typed α) (second : Typed β) : Typed (α × β)
  | .array [] => misfit (.length 0 pairExpected)
  | .array [a] => do
    let _ ← (first a).mapError (·.inside 0)
    misfit (.length 1 pairExpected)
  | .array (a :: b :: rest) => do
    let x ← (first a).mapError (·.inside 0)
    let y ← (second b).mapError (·.inside 1)
    if rest.isEmpty then pure (x, y)
    else throw { cause := .tooLong (rest.length + 2), way := [2] }
  | v => misfit (.type v pairExpected)

def asOption {α : Type} (item : Typed α) : Typed (Option α)
  | .null => .ok none
  | v => (item v).map some

def asMap : Typed (List (String × Json))
  | .object members => .ok members
  | v => misfit (.type v "a map")

/-! ## 4. Words -/

/-- The word that a value gives and what stands beside it, which must be nothing. -/
def wordAndContent : Json → Except Misfit (String × Option Json)
  | .string s => .ok (s, none)
  | .object [(k, v)] => .ok (k, some v)
  | .object members => misfit (.value (.object members) "map with a single key")
  | v => misfit (.type v "string or map")

/-- One of the values of a type that is written by fixed words. -/
def asWord {α : Type} (words : List (String × α)) : Typed α := fun v => do
  let (word, content) ← wordAndContent v
  match words.lookup word with
  | none => misfit (.unknownWord word (words.map (·.1)))
  | some a =>
    match content with
    | none => pure a
    | some .null => pure a
    | some content => throw { cause := .type content "unit", way := [0] }

/-! ## 5. Records -/

/-- A field of a record. A field that is absent counts as the value given, if there is one;
    `byName` says that this holds only where fields are found by name. -/
structure Field where
  name : String
  check : Json → Except Misfit Unit
  absent : Option Json := none
  byName : Bool := false

/-- A field of a type, required. -/
def Field.of {α : Type} (name : String) (type : Typed α) : Field :=
  { name, check := fun v => (type v).map fun _ => () }

/-- A field that may be absent or null. -/
def Field.ofOption {α : Type} (name : String) (type : Typed α) : Field :=
  { Field.of name (asOption type) with absent := some .null, byName := true }

/-- A field with a value of its own where it is absent. -/
def Field.ofDefault {α : Type} (name : String) (type : Typed α) (absent : Json) : Field :=
  { Field.of name type with absent := some absent }

structure Record where
  typeName : String
  fields : List Field

/-- A member of this name is one of the fields. -/
def Record.knows (r : Record) (name : String) : Bool := r.fields.any (·.name == name)

/-- The values of the fields of a record, in the order of the fields. -/
abbrev Record.Values := List (String × Json)

def Record.arrayExpected (r : Record) : String :=
  "struct " ++ r.typeName ++ " with " ++ toString r.fields.length ++ " elements"

/-- The members in their order: each known one fits its field and comes once. -/
def Record.checkMembers (r : Record) (i : Nat) (seen : List String) :
    List (String × Json) → Except Misfit Unit
  | [] => .ok ()
  | (k, v) :: rest =>
    match r.fields.find? (·.name == k) with
    | none => r.checkMembers (i + 1) seen rest
    | some f => do
      if seen.contains k then throw { cause := .duplicateField k, way := [i] }
      (f.check v).mapError (·.inside i)
      r.checkMembers (i + 1) (k :: seen) rest

/-- The value of every field, in the order of the fields. -/
def Record.collect (members : List (String × Json)) :
    List Field → Except Misfit Values
  | [] => .ok []
  | f :: rest => do
    let v ← match lookup members f.name, f.absent with
      | some v, _ => pure v
      | none, some v => pure v
      | none, none => misfit (.missingField f.name)
    let vs ← Record.collect members rest
    pure ((f.name, v) :: vs)

/-- The values of an array, one per field. -/
def Record.zipItems (r : Record) (i : Nat) : List Field → List Json → Except Misfit Values
  | [], [] => .ok []
  | [], rest => throw { cause := .tooLong (i + rest.length), way := [i] }
  | f :: fs, [] =>
    match f.absent, f.byName with
    | some v, false => do
      let vs ← r.zipItems i fs []
      pure ((f.name, v) :: vs)
    | _, _ => misfit (.length i r.arrayExpected)
  | f :: fs, v :: vs => do
    (f.check v).mapError (·.inside i)
    let rest ← r.zipItems (i + 1) fs vs
    pure ((f.name, v) :: rest)

/-- The values of the fields, if the value is a record of this type. -/
def Record.read (r : Record) : Typed Values
  | .object members => do
    r.checkMembers 0 [] members
    Record.collect members r.fields
  | .array items => r.zipItems 0 r.fields items
  | v => misfit (.type v ("struct " ++ r.typeName))

/-- A field that has been checked before. -/
def Record.Values.get {α : Type} (values : Values) (name : String) (type : Typed α) :
    Except Misfit α :=
  match values.lookup name with
  | some v => type v
  | none => misfit (.missingField name)

end UsageGrid.Json
