import UsageGrid.Host.Basic
import UsageGrid.Settings.Entry

/-!
# Settings

Where the definitions are kept and which endpoint drafts documents is set by variables of the
environment, or by a file `.env` in the working directory or one around it. A variable counts before
the file, and in the file the first entry for a name.
-/

namespace UsageGrid

structure Settings where
  libraryPath : String
  endpoint : Option String
  token : Option String
deriving Repr, DecidableEq

namespace Settings

/-! ## 1. Names -/

def libraryVariable : String := "STATSFLOW_REGISTRY_DIR"
def endpointVariable : String := "STATSFLOW_PROPOSER_URL"
def tokenVariable : String := "STATSFLOW_PROPOSER_TOKEN"

def usualLibraryPath : String := ".statsflow/definitions"

/-- How many directories around the working directory are looked into. -/
def levels : Nat := 64

/-- The paths at which the file is looked for. -/
def filePaths : List String :=
  (List.range levels).map fun n => String.join (List.replicate n "../") ++ ".env"

/-! ## 2. Looking up -/

section

variable {m : Type → Type} [Monad m] [Host.Console m]

/-- The value of a name: its variable, or else what the file gives. -/
def valueOf (given : List (String × String)) (name : String) : m (Option String) := do
  match ← Host.Console.setting name with
  | some value => pure (some value)
  | none => pure (given.lookup name)

/-- The text of a value. A name without a value stands for nothing. -/
def valueText (given : List (String × String)) : List Piece → m String
  | [] => pure ""
  | .char c :: rest => do pure (String.singleton c ++ (← valueText given rest))
  | .reference name :: rest => do
    pure ((← valueOf given name).getD "" ++ (← valueText given rest))

/-- The values that the entries give in turn, the first in front. -/
def evaluate (given : List (String × String)) : List Entry → m (List (String × String))
  | [] => pure given
  | e :: rest => do
    let value ← valueText given e.value
    evaluate (given ++ [(e.name, value)]) rest

/-- The bytes of the first file that can be read. -/
def firstBytes [Host.Files m] : List String → m (List UInt8)
  | [] => pure []
  | path :: rest => do
    match ← Host.Files.read path with
    | .ok bytes => pure bytes.toList
    | .error _ => firstBytes rest

/-- The settings in force. -/
def load [Host.Files m] : m Settings := do
  let given ← evaluate [] (entriesOf (← firstBytes filePaths))
  pure {
    libraryPath := (← valueOf given libraryVariable).getD usualLibraryPath
    endpoint := ← valueOf given endpointVariable
    token := ← valueOf given tokenVariable }

end

end Settings

end UsageGrid
