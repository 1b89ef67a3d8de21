import UsageGrid.Decimal.Layout
import UsageGrid.Rules.Fields

/-!
# Sources

A source says where a value comes from: one cell, the cells of a walk, or the document itself. Its
written form is an object of one shape; which shape it is, its keys decide before any value is
looked at (`Source.decode`).
-/

namespace UsageGrid.Rules

/-! ## 1. Scalars -/

/-- What a floating number can be besides finite. -/
inductive NonFinite where
  | infinity (negative : Bool)
  | nan
deriving Repr, DecidableEq

def NonFinite.shown : NonFinite → String
  | .infinity false => "inf"
  | .infinity true => "-inf"
  | .nan => "NaN"

/-- A value given in the document itself. JSON has no form for a number that is not finite, so no
    document holds one; a definition that was put together by hand may. -/
inductive Scalar where
  | bool (b : Bool)
  | int (n : Int64)
  | float (x : Binary64)
  | nonFinite (x : NonFinite)
  | text (s : String)
deriving DecidableEq

namespace Scalar

/-- The scalar as it is read from a cell of the same content. -/
def shown : Scalar → String
  | .bool b => toString b
  | .int n => toString n.toInt
  | .float x => Decimal.Layout.plain.render x
  | .nonFinite x => x.shown
  | .text s => s

/-- A number outside 64 bits is read as a floating one. -/
def read : Json.Typed Scalar := fun v =>
  match v with
  | .bool b => .ok (.bool b)
  | .int n =>
    if Json.isInt64 n then .ok (.int (Int64.ofInt n))
    else match Binary64.ofInt? n with
      | some x => .ok (.float x)
      | none => Json.misfit (.noShape "Scalar")
  | .float x => .ok (.float x)
  | .string s => .ok (.text s)
  | _ => Json.misfit (.noShape "Scalar")

def toJson : Scalar → Json
  | .bool b => .bool b
  | .int n => .int n.toInt
  | .float x => .float x
  | .nonFinite _ => .null
  | .text s => .string s

end Scalar

/-! ## 2. Cells and ranges -/

/-- A number of cells or an index, which fits 64 bits with sign. -/
def decodeCount : Decoder Nat := fun v path =>
  match v with
  | .int n =>
    if !Json.isInt64 n then .error (.invalidField path (.kind .count v))
    else if n < 0 then .error (.invalidField path (.negative n))
    else .ok n.toNat
  | _ => .error (.invalidField path (.kind .count v))

def decodeCoord : Decoder Coord := fun v path => do
  let f ← Fields.of ["row", "col"] v path
  pure { row := ← f.part "row" decodeCount, col := ← f.part "col" decodeCount }

def coordToJson (c : Coord) : Json :=
  .object [("row", .int c.row), ("col", .int c.col)]

/-- The cells walked from `coord` in `direction`, to the edge where there is no `maxCount`. -/
structure Range where
  coord : Coord
  direction : Direction
  maxCount : Option Nat := none
deriving Repr, DecidableEq

namespace Range

/-- The most cells of a range, if there is a bound. -/
def decodeMaxCount : Decoder Nat := fun v path =>
  match v with
  | .int n =>
    if !Json.isInt64 n then .error (.invalidField path (.kind .countOrNull v))
    else if n < 0 then .error (.negativeCount path n)
    else .ok n.toNat
  | _ => .error (.invalidField path (.kind .countOrNull v))

def decode : Decoder Range := fun v path => do
  let f ← Fields.of ["coord", "direction", "max_count"] v path
  let maxCount ← f.part? "max_count" decodeMaxCount
  let coord ← f.part "coord" decodeCoord
  let direction ← f.leaf "direction" (Json.asWord Direction.words)
  pure { coord, direction, maxCount }

def toJson (r : Range) : Json :=
  .object [("coord", coordToJson r.coord), ("direction", .string r.direction.name),
    ("max_count", match r.maxCount with
      | some n => .int n
      | none => .null)]

end Range

/-! ## 3. Sources -/

inductive Source where
  | cell (c : Coord)
  | range (r : Range)
  | value (s : Scalar)
deriving DecidableEq

namespace Source

def range? : Source → Option Range
  | .range r => some r
  | _ => none

/-- A value alone. -/
def decodeValue : Decoder Scalar := fun v path => do
  let f ← Fields.of ["value"] v path
  f.leaf "value" Scalar.read

def valueToJson (s : Scalar) : Json := .object [("value", s.toJson)]

/-- The shapes of a source and the keys that belong to each. -/
inductive Shape where
  | coord
  | range
  | value
deriving Repr, DecidableEq

def Shape.all : List Shape := [.coord, .range, .value]

def Shape.name : Shape → String
  | .coord => "coord"
  | .range => "range"
  | .value => "value"

def Shape.keys : Shape → List String
  | .coord => ["row", "col"]
  | .range => ["coord", "direction", "max_count"]
  | .value => ["value"]

/-- A key that belongs to no shape. -/
def isStray (key : String) : Bool := Shape.all.all fun s => !s.keys.contains key

/-- The shapes that have one of the keys. -/
def shapesOf (keys : List String) : List Shape :=
  Shape.all.filter fun s => keys.any s.keys.contains

def decodeShape : Shape → Decoder Source
  | .coord => fun v path => (decodeCoord v path).map .cell
  | .range => fun v path => (Range.decode v path).map .range
  | .value => fun v path => (decodeValue v path).map .value

def decode : Decoder Source := fun v path =>
  match v with
  | .object members =>
    let keys := members.map (·.1)
    match keys.find? isStray with
    | some key => .error (.ambiguousSource path (.stray key))
    | none =>
      match shapesOf keys with
      | [] => .error (.ambiguousSource path .empty)
      | [shape] => decodeShape shape v path
      | shapes => .error (.ambiguousSource path (.mixed (shapes.map Shape.name)))
  | _ => .error (.invalidField path (.kind .source v))

def toJson : Source → Json
  | .cell c => coordToJson c
  | .range r => r.toJson
  | .value s => valueToJson s

end Source

end UsageGrid.Rules
