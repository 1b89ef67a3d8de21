import UsageGrid.Pattern.Basic
import UsageGrid.Rules.Source

/-!
# What to do with a raw value

The parameters of an extractor: a pattern that takes the value out of a longer text, what stands in
for a value that cannot be used, and the action where nothing stands in.
-/

namespace UsageGrid.Rules

inductive Action where
  | fail
  | skip
  | stop
  | pass
deriving Repr, DecidableEq

namespace Action

def name : Action → String
  | .fail => "fail"
  | .skip => "skip"
  | .stop => "stop"
  | .pass => "pass"

def words : List (String × Action) :=
  [("fail", .fail), ("skip", .skip), ("stop", .stop), ("pass", .pass)]

/-- The action ends the evaluation of the document. -/
def isFatal : Action → Bool
  | .fail | .stop => true
  | .skip | .pass => false

end Action

structure Params where
  pattern : Option Pattern := none
  default : Option Scalar := none
  lastAsDefault : Bool := false
  onError : Action := .fail
deriving DecidableEq

namespace Params

/-- The pattern of a text at a place. -/
def decodePattern (path : Path) (text : String) : Except RuleError Pattern :=
  (Pattern.ofText? text).mapError fun e => .invalidField path (.pattern e)

def decode : Decoder Params := fun v path => do
  let f ← Fields.of ["regex", "default", "last_value_as_default", "on_validation_error"] v path
  let pattern ← match ← f.leaf? "regex" Json.asString with
    | some text => (decodePattern (f.place "regex") text).map some
    | none => pure none
  let default ← f.leaf? "default" Scalar.read
  let lastAsDefault ← f.leaf? "last_value_as_default" Json.asBool
  let onError ← f.leaf? "on_validation_error" (Json.asWord Action.words)
  pure {
    pattern, default
    lastAsDefault := lastAsDefault.getD false
    onError := onError.getD .fail }

def toJson (p : Params) : Json :=
  .object [
    ("regex", match p.pattern with
      | some q => .string q.source
      | none => .null),
    ("default", match p.default with
      | some s => s.toJson
      | none => .null),
    ("last_value_as_default", .bool p.lastAsDefault),
    ("on_validation_error", .string p.onError.name)]

end Params

end UsageGrid.Rules
