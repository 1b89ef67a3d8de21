import UsageGrid.Dataflow.Payload
import UsageGrid.Json.Span
import UsageGrid.Text.Letters

/-!
# Stored definitions

A definition that has been accepted is kept with what is known of its use: the platforms it was
accepted for, when it was used last, and how often it has worked. The success rate is an average
in which each use counts a tenth: a success moves it a tenth of the way to one, a failure a tenth
of the way to zero.
-/

namespace UsageGrid

structure StoredDefinition where
  id : String
  name : String
  /-- The platforms it was accepted for. -/
  platforms : List String
  definition : Definition
  createdAt : String
  lastUsed : Option String := none
  successRate : Binary64
  useCount : Nat

namespace StoredDefinition

/-! ## 1. Use -/

/-- The binary64 number nearest to a tenth of a whole number. -/
def tenths (n : Nat) : Binary64 := (Binary64.ofDecimal? false n (-1)).getD Binary64.zero

def one : Binary64 := tenths 10

/-- The part of the rate that is left after another use. -/
def decayed (rate : Binary64) : Binary64 := (rate.mul? (tenths 9)).getD rate

/-- The rate after another use. -/
def rateAfter (rate : Binary64) (success : Bool) : Binary64 :=
  if success then ((decayed rate).add? (tenths 1)).getD rate else decayed rate

/-- Uses are counted in 32 bits. -/
def countBound : Nat := Nat.pow 2 32

/-- The definition after another use. -/
def used (d : StoredDefinition) (success : Bool) (time : String) : StoredDefinition :=
  { d with
    successRate := rateAfter d.successRate success
    lastUsed := some time
    useCount := (d.useCount + 1) % countBound }

/-- A definition as it is stored first. -/
def fresh (id : String) (d : Definition) (platforms : List String) (time : String) :
    StoredDefinition :=
  { id, name := d.name, platforms, definition := d, createdAt := time, successRate := one,
    useCount := 0 }

/-- It was accepted for the platform, or its document names it; ASCII letter case aside. -/
def serves (d : StoredDefinition) (platform : String) : Bool :=
  (d.platforms ++ d.definition.platforms).any (Text.sameIgnoringCase · platform)

/-- The rate in percent, without decimals. -/
def percent (rate : Binary64) : String :=
  match rate.mul? (tenths 1000) with
  | some x => Decimal.wholeText x
  | none => if rate.negative then "-inf" else "inf"

/-- The order in which definitions are tried: the better rate first, then the more used, then the
    id. -/
def comesBefore (a b : StoredDefinition) : Bool :=
  match b.successRate.cmp a.successRate with
  | .lt => true
  | .gt => false
  | .eq => b.useCount < a.useCount || (b.useCount = a.useCount && !(b.id < a.id))

/-! ## 2. The written form -/

open Json

/-- The members of a document come in the order of their keys. -/
def readDocument : Typed Definition := fun v => Dataflow.readDefinition v.canonical

def record : Json.Record :=
  ⟨"StoredDefinition", [
    .of "id" asString,
    .of "name" asString,
    .of "platforms" (asList asString),
    .of "definition" readDocument,
    .of "created_at" asString,
    .ofOption "last_used" asString,
    .of "success_rate" asFloat,
    .of "use_count" asUInt32]⟩

/-- The stored definition that a value holds. -/
def read : Typed StoredDefinition := fun v => do
  let values ← record.read v
  pure {
    id := ← values.get "id" asString
    name := ← values.get "name" asString
    platforms := ← values.get "platforms" (asList asString)
    definition := ← values.get "definition" readDocument
    createdAt := ← values.get "created_at" asString
    lastUsed := ← values.get "last_used" (asOption asString)
    successRate := ← values.get "success_rate" asFloat
    useCount := ← values.get "use_count" asUInt32 }

def toJson (d : StoredDefinition) : Json :=
  .object [
    ("id", .string d.id),
    ("name", .string d.name),
    ("platforms", .ofTexts d.platforms),
    ("definition", d.definition.toJson),
    ("created_at", .string d.createdAt),
    ("last_used", .ofOption .string d.lastUsed),
    ("success_rate", .float d.successRate),
    ("use_count", .int d.useCount)]

/-- The stored definition that a text holds. -/
def ofText (text : String) : Except Fault StoredDefinition := readAs record.knows read text

def toText (d : StoredDefinition) : String := d.toJson.pretty

end StoredDefinition

end UsageGrid
