import UsageGrid.Decimal.Binary64

/-!
# JSON values

Rule documents, stored definitions, tables and requests are JSON. A value keeps whole numbers apart
from floating ones, and the members of an object in the order given:

* `Json.ofMembers` is the form a value has once it has been read: one member per key, in the order
  of the keys, the last of several wins;
* `Json.canonical` puts a whole value into that form.
-/

namespace UsageGrid

inductive Json where
  | null
  | bool (b : Bool)
  | int (n : Int)
  | float (x : Binary64)
  | string (s : String)
  | array (items : List Json)
  | object (members : List (String × Json))

instance : Inhabited Json := ⟨.null⟩

namespace Json

/-! ## 1. Looking inside -/

/-- The first value under a key. -/
def lookup (members : List (String × Json)) (key : String) : Option Json :=
  (members.find? (·.1 == key)).map (·.2)

/-- The member of an object; nothing for any other value. -/
def get? (v : Json) (key : String) : Option Json :=
  match v with
  | .object members => lookup members key
  | _ => none

def isNull : Json → Bool
  | .null => true
  | _ => false

def asString? : Json → Option String
  | .string s => some s
  | _ => none

/-- The array of the given texts. -/
def ofTexts (l : List String) : Json := .array (l.map .string)

/-- A part that may be missing; `null` where it is. -/
def ofOption {α : Type} (f : α → Json) : Option α → Json
  | some a => f a
  | none => .null

/-- What kind of value it is, for messages. -/
def kindName : Json → String
  | .null => "null"
  | .bool _ => "a boolean"
  | .int _ => "a number"
  | .float _ => "a number"
  | .string _ => "a string"
  | .array _ => "an array"
  | .object _ => "an object"

/-! ## 2. Objects with their keys in order -/

/-- Puts a member at the place of its key, replacing one that is there. -/
def insertMember (key : String) (value : Json) : List (String × Json) → List (String × Json)
  | [] => [(key, value)]
  | (k, v) :: rest =>
    if key = k then (key, value) :: rest
    else if key < k then (key, value) :: (k, v) :: rest
    else (k, v) :: insertMember key value rest

/-- The members in the order of their keys; of two under one key the later wins. -/
def sortMembers (members : List (String × Json)) : List (String × Json) :=
  members.foldl (fun sorted (k, v) => insertMember k v sorted) []

/-- The object of the given members, keys in order. -/
def ofMembers (members : List (String × Json)) : Json :=
  .object (sortMembers members)

mutual

/-- The value with the members of every object in the order of their keys. -/
def canonical : Json → Json
  | .array items => .array (canonicalItems items)
  | .object members => ofMembers (canonicalMembers members)
  | v => v

def canonicalItems : List Json → List Json
  | [] => []
  | v :: rest => canonical v :: canonicalItems rest

def canonicalMembers : List (String × Json) → List (String × Json)
  | [] => []
  | (k, v) :: rest => (k, canonical v) :: canonicalMembers rest

end

/-! ## 3. Equality -/

mutual

/-- Equality of values; the two floating zeros are equal. -/
def same : Json → Json → Bool
  | .null, .null => true
  | .bool a, .bool b => a == b
  | .int a, .int b => a == b
  | .float a, .float b => a.sameValue b
  | .string a, .string b => a == b
  | .array a, .array b => sameItems a b
  | .object a, .object b => sameMembers a b
  | _, _ => false

def sameItems : List Json → List Json → Bool
  | [], [] => true
  | a :: as, b :: bs => same a b && sameItems as bs
  | _, _ => false

def sameMembers : List (String × Json) → List (String × Json) → Bool
  | [], [] => true
  | (k, a) :: as, (l, b) :: bs => k == l && same a b && sameMembers as bs
  | _, _ => false

end

end Json

end UsageGrid
