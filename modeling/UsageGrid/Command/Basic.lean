import UsageGrid.Command.Arguments

/-!
# Commands

What can be asked for on the command line, and how it is read from the arguments
(`Invocation.read`).
-/

namespace UsageGrid

/-- Where a table goes, and in which form. -/
structure Command.Target where
  path : Option String := none
  asJson : Bool := false
deriving Repr, DecidableEq

open Command in
inductive Command where
  | run (file rules : String) (target : Target) (skipCheck : Bool)
  | check (rules : String)
  | grid (file : String) (rows : Nat)
  | propose (file : String) (description platform note : Option String)
      (maxAttempts previewRows : Nat) (saveRules : Option String) (target : Target)
      (ignoreStored doNotSave skipCheck : Bool)
  | validate (file : String)
  | grammar
  | example
  | listStored
  | showStored (id : String)
  | importRules (file : String) (platforms : List String)
  | deleteStored (id : String)
deriving Repr, DecidableEq

structure Invocation where
  quiet : Bool
  command : Command
deriving Repr, DecidableEq

namespace Command

/-! ## 1. Values -/

/-- A path is not empty. -/
def path? (text : String) : Option String := if text = "" then none else some text

def wordBound : Nat := Nat.pow 2 64
def countBound : Nat := Nat.pow 2 32

/-- A number of rows. -/
def rows? (text : String) : Option Nat := number? wordBound text

/-- A number of attempts. -/
def attempts? (text : String) : Option Nat := signedNumber? countBound text

def usualRows : Nat := 30
def usualAttempts : Nat := 5

/-! ## 2. Options -/

def quietFlag : Flag := { name := "quiet", letter := some 'q' }

/-- An option whose value is a text of any kind. -/
def textFlag (name : String) (letter : Char) : Flag :=
  { name, letter := some letter, takesValue := true }

/-- An option whose value is a path. -/
def pathFlag (name : String) (letter : Option Char) : Flag :=
  { name, letter, takesValue := true, accepts := fun text => (path? text).isSome }

/-- An option whose value is a number. -/
def numberFlag (name : String) (read? : String → Option Nat) : Flag :=
  { name, takesValue := true, accepts := fun text => (read? text).isSome }

/-- Options, and a path as the only plain argument. -/
def pathIntake (flags : List Flag) : Intake :=
  { flags := quietFlag :: flags, plain := [fun text => (path? text).isSome] }

/-- A text of any kind as the only plain argument. -/
def textIntake : Intake := { flags := [quietFlag], plain := [fun _ => true] }

/-- No plain argument. -/
def bareIntake : Intake := { flags := [quietFlag] }

def targetFlags : List Flag := [pathFlag "output" (some 'o'), { name := "json" }]

def runIntake : Intake :=
  pathIntake ([pathFlag "rules" (some 'r'), { name := "no-validate" }] ++ targetFlags)

def gridIntake : Intake := pathIntake [numberFlag "rows" rows?]

def proposeIntake : Intake :=
  pathIntake ([pathFlag "description" (some 'd'), textFlag "platform" 'p', textFlag "note" 'n',
    numberFlag "max-attempts" attempts?, numberFlag "preview-rows" rows?,
    pathFlag "save-rules" none, { name := "no-cache" }, { name := "no-save" },
    { name := "no-validate" }] ++ targetFlags)

def importIntake : Intake := pathIntake [{ textFlag "platform" 'p' with mayRepeat := true }]

/-! ## 3. Commands -/

/-- The value of an option that may be missing, if it is a path where it is not. -/
def optionalPath (g : Given) (name : String) : Option (Option String) :=
  match g.value? name with
  | none => some none
  | some text => (path? text).map some

/-- The number that an option gives, or the usual one. -/
def numberOr (g : Given) (name : String) (usual : Nat) (read? : String → Option Nat) : Option Nat :=
  match g.value? name with
  | none => some usual
  | some text => read? text

/-- The only plain argument. -/
def onlyPlain (g : Given) : Option String :=
  match g.plain with
  | [text] => some text
  | _ => none

def onlyPath (g : Given) : Option String := onlyPlain g >>= path?

def target (g : Given) : Option Target := do
  pure { path := ← optionalPath g "output", asJson := g.has "json" }

def readRun (g : Given) : Option Command := do
  let file ← onlyPath g
  let rules ← g.value? "rules" >>= path?
  pure (.run file rules (← target g) (g.has "no-validate"))

def readGrid (g : Given) : Option Command := do
  pure (.grid (← onlyPath g) (← numberOr g "rows" usualRows rows?))

def readPropose (g : Given) : Option Command := do
  let file ← onlyPath g
  let description ← optionalPath g "description"
  let attempts ← numberOr g "max-attempts" usualAttempts attempts?
  let rows ← numberOr g "preview-rows" usualRows rows?
  let saveRules ← optionalPath g "save-rules"
  pure (.propose file description (g.value? "platform") (g.value? "note") attempts rows saveRules
    (← target g) (g.has "no-cache") (g.has "no-save") (g.has "no-validate"))

/-- What a command takes, and what becomes of it. -/
structure Spec where
  intake : Intake
  read : Given → Option Command

/-- A command by its name. -/
def named? (name : String) : Option Spec :=
  match name with
  | "run" => some ⟨runIntake, readRun⟩
  | "check" => some ⟨pathIntake [], fun g => (onlyPath g).map .check⟩
  | "grid" => some ⟨gridIntake, readGrid⟩
  | "propose" => some ⟨proposeIntake, readPropose⟩
  | "validate" => some ⟨pathIntake [], fun g => (onlyPath g).map .validate⟩
  | "grammar" => some ⟨bareIntake, fun _ => some .grammar⟩
  | "example-definition" => some ⟨bareIntake, fun _ => some .example⟩
  | _ => none

/-- A command on stored definitions by its name. -/
def registryNamed? (name : String) : Option Spec :=
  match name with
  | "list" => some ⟨bareIntake, fun _ => some .listStored⟩
  | "show" => some ⟨textIntake, fun g => (onlyPlain g).map .showStored⟩
  | "import" =>
    some ⟨importIntake, fun g =>
      (onlyPath g).map fun file => .importRules file (g.values "platform")⟩
  | "delete" => some ⟨textIntake, fun g => (onlyPlain g).map .deleteStored⟩
  | _ => none

end Command

/-! ## 4. Invocations -/

/-- What the arguments ask for. -/
inductive Wish where
  | invocation (i : Invocation)
  | help
  | wrong
deriving Repr, DecidableEq

namespace Invocation

open Command

/-- The arguments up to the first plain one, which names a command. -/
inductive Head where
  | found (g : Given) (name : String) (rest : List String)
  | help
  | wrong

def head (g : Given) : List String → Head
  | [] => .wrong
  | text :: rest =>
    if !looksLikeOption text then .found g text rest
    else if text = "--" then .wrong
    else match readOne bareIntake g text with
      | .complete g => head g rest
      | .help => .help
      | _ => .wrong

/-- Reads the arguments of a command. -/
def finish (isQuiet : Bool) (spec : Spec) (rest : List String) : Wish :=
  match readArguments spec.intake {} none rest with
  | .help => .help
  | .wrong => .wrong
  | .given g =>
    match spec.read g with
    | some command => .invocation ⟨isQuiet || g.has quietFlag.name, command⟩
    | none => .wrong

/-- Help on one of several commands, or on all of them. -/
def helpOn (isCommand : String → Bool) : List String → Wish
  | [] => .help
  | [name] => if isCommand name || name = "help" then .help else .wrong
  | _ => .wrong

def helpOnRegistry : List String → Wish := helpOn fun name => (registryNamed? name).isSome

/-- Reads a command on stored definitions. -/
def readRegistry (isQuiet : Bool) (rest : List String) : Wish :=
  match head {} rest with
  | .help => .help
  | .wrong => .wrong
  | .found g name rest =>
    if name = "help" then helpOnRegistry rest
    else match registryNamed? name with
      | some spec => finish (isQuiet || g.has quietFlag.name) spec rest
      | none => .wrong

/-- Help on what the names lead to. -/
def readHelp : List String → Wish
  | "registry" :: rest => helpOnRegistry rest
  | names => helpOn (fun name => (named? name).isSome) names

/-- What the arguments ask for. -/
def read (arguments : List String) : Wish :=
  match head {} arguments with
  | .help => .help
  | .wrong => .wrong
  | .found g name rest =>
    let isQuiet := g.has quietFlag.name
    if name = "registry" then readRegistry isQuiet rest
    else if name = "help" then readHelp rest
    else match named? name with
      | some spec => finish isQuiet spec rest
      | none => .wrong

end Invocation

end UsageGrid
