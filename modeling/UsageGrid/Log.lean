import UsageGrid.Json.Typed

/-!
# The log

While it works the program tells what it does. An entry has a level and a depth, and is shown on the
console as a line of its own (`Entry.line`).
-/

namespace UsageGrid.Log

inductive Level where
  | info
  | success
  | warning
  | error
deriving Repr, DecidableEq

namespace Level

def name : Level → String
  | .info => "info"
  | .success => "success"
  | .warning => "warning"
  | .error => "error"

def words : List (String × Level) := [info, success, warning, error].map fun l => (l.name, l)

/-- What stands before a message on the console. -/
def mark : Level → String
  | .info => "   "
  | .success => "   ✓"
  | .warning => "   ⚠️"
  | .error => "   ❌"

end Level

structure Entry where
  level : Level
  message : String
  depth : Nat := 0
deriving Repr, DecidableEq

namespace Entry

def info (message : String) : Entry := ⟨.info, message, 0⟩
def success (message : String) : Entry := ⟨.success, message, 0⟩
def warning (message : String) : Entry := ⟨.warning, message, 0⟩
def error (message : String) : Entry := ⟨.error, message, 0⟩

/-- A part of what is being done. -/
def detail (message : String) : Entry := ⟨.info, message, 1⟩

/-- The entry on the console. -/
def line (e : Entry) : String :=
  String.join (List.replicate e.depth "   ") ++ e.level.mark ++ " " ++ e.message ++ "\n"

def record : Json.Record :=
  ⟨"LogEntry", [
    .of "level" (Json.asWord Level.words),
    .of "message" Json.asString,
    .ofDefault "indent" (Json.asUIntBelow 256 "u8") (.int 0)]⟩

/-- The entry that a value holds. -/
def read : Json.Typed Entry := fun v => do
  let values ← record.read v
  pure {
    level := ← values.get "level" (Json.asWord Level.words)
    message := ← values.get "message" Json.asString
    depth := ← values.get "indent" (Json.asUIntBelow 256 "u8") }

def toJson (e : Entry) : Json :=
  .object [("level", .string e.level.name), ("message", .string e.message),
    ("indent", .int e.depth)]

end Entry

end UsageGrid.Log
