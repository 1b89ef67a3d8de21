import UsageGrid.Command.Basic
import UsageGrid.Proposal.Remote
import UsageGrid.Report.Make
import UsageGrid.Rules.Example
import UsageGrid.Settings.Basic

/-!
# Carrying out commands

Each command writes what it was asked for to the output, and what it does to the other output. It
ends with the code 0, or with the code 1 and a message (`perform`). Arguments that name no command
end with the code 2 (`performArguments`).
-/

namespace UsageGrid

inductive CommandError where
  | file (cause : Directory.Cause)
  | rules (e : RuleError)
  | json (fault : Json.Fault)
  | grid (e : GridError)
  | report (e : ReportError)
  | library (e : LibraryError)
  | noRows
  | invalidRows (count : Nat)

def CommandError.message : CommandError → String
  | .file cause => cause.message
  | .rules e => e.message
  | .json fault => fault.message
  | .grid e => e.message
  | .report e => e.message
  | .library e => e.message
  | .noRows => "expected an array of rows or a table with a 'rows' array"
  | .invalidRows count => toString count ++ " invalid row(s)"

namespace Command

/-- A command at work. -/
abbrev Doing (m : Type → Type) := ExceptT CommandError m

section

variable {m : Type → Type} [Monad m] [Host.Files m] [Host.Console m]

/-! ## 1. Output -/

def say (line : String) : Doing m Unit := liftM (Host.Console.out (m := m) (line ++ "\n"))

def tell (line : String) : Doing m Unit := liftM (Host.Console.err (m := m) (line ++ "\n"))

def fromExcept {ε α : Type} (f : ε → CommandError) (x : Except ε α) : Doing m α :=
  ExceptT.mk (pure (x.mapError f))

def readText (path : String) : Doing m String := do
  fromExcept .file (← liftM (Host.readText (m := m) path))

def writeText (path text : String) : Doing m Unit := do
  fromExcept .file (← liftM (Host.writeText (m := m) path text))

def listed (l : List String) : String := ", ".intercalate l

/-- A line of names, unless there are none. -/
def sayNames (label : String) (names : List String) : Doing m Unit :=
  if names.isEmpty then pure () else say (label ++ listed names)

/-- Writes a table to its target. -/
def writeTable (t : Table) (target : Target) : Doing m Unit := do
  let content := if target.asJson then t.toJson.pretty ++ "\n" else t.csv
  match target.path with
  | some path => do
    writeText path content
    tell ("💾 Output written to: " ++ path)
  | none => liftM (Host.Console.out (m := m) content)

def tellExtracted (t : Table) : Doing m Unit :=
  tell ("\n⚙️  Extracted: " ++ toString t.rows.length ++ " records")

def tellDone : Doing m Unit := tell "\n✨ Done!"

/-! ## 2. Grids and rule documents -/

def doCheck (path : String) : Doing m Unit := do
  tell ("✔️  Checking: " ++ path)
  let d ← fromExcept .rules (Definition.ofText (← readText path))
  say ("✅ '" ++ d.name ++ "' is a valid rule document")
  say ("   Areas: " ++ toString d.areas.length)
  sayNames "   Platforms: " d.platforms
  match d.availableMetrics with
  | some metrics => say ("   Available metrics: " ++ listed metrics)
  | none => pure ()

def doGrid (path : String) (rows : Nat) : Doing m Unit := do
  let g ← fromExcept .grid (← liftM (Grid.readFile (m := m) path))
  tell ("📄 " ++ path ++ ": " ++ toString g.height ++ " rows x " ++ toString g.width
    ++ " columns\n")
  liftM (Host.Console.out (m := m) (g.preview rows))

def doExample : Doing m Unit := do
  let d ← fromExcept .rules (Definition.ofJson Rules.exampleDocument)
  say d.toText

/-! ## 3. Rows -/

/-- The rows in a value: an array of them, or a table. -/
def rowsOf : Json → Option (List Json)
  | .array rows => some rows
  | .object members =>
    match Json.lookup members "rows" with
    | some (.array rows) => some rows
    | _ => none
  | _ => none

/-- How many invalid rows are shown, and how many errors of each. -/
def shownRows : Nat := 5
def shownErrors : Nat := 3

def tellErrors : List String → Doing m Unit
  | [] => pure ()
  | e :: rest => do
    tell ("   - " ++ e)
    tellErrors rest

/-- Checks rows in turn, counted from `i`, and counts the valid and the invalid ones. -/
def countRows (i valid invalid : Nat) : List Json → Doing m (Nat × Nat)
  | [] => pure (valid, invalid)
  | row :: rest =>
    match rowErrors row with
    | [] => countRows (i + 1) (valid + 1) invalid rest
    | errors => do
      if invalid < shownRows then
        tell ("\n❌ Row " ++ toString i ++ " invalid:")
        tellErrors (errors.take shownErrors)
      countRows (i + 1) valid (invalid + 1) rest

def doValidate (path : String) : Doing m Unit := do
  tell ("✔️  Validating: " ++ path)
  let v ← fromExcept .json (Json.parse (← readText path))
  match rowsOf v with
  | none => throw .noRows
  | some rows => do
    let (valid, invalid) ← countRows 0 0 0 rows
    tell ("\n📊 Results: " ++ toString valid ++ " valid, " ++ toString invalid ++ " invalid")
    if 0 < invalid then throw (.invalidRows invalid)

/-! ## 4. Stored definitions -/

variable [Host.Journal m]

def openLibrary : Doing m Library := do
  let settings ← liftM (Settings.load (m := m))
  liftM (Library.openAt (m := m) settings.libraryPath)

def sayStored : List StoredDefinition → Doing m Unit
  | [] => pure ()
  | d :: rest => do
    say ("  📄 " ++ d.name ++ " (" ++ d.id ++ ")")
    sayNames "     Platforms: " d.platforms
    say ("     Success rate: " ++ StoredDefinition.percent d.successRate ++ "%")
    say ("     Uses: " ++ toString d.useCount)
    match d.lastUsed with
    | some time => say ("     Last used: " ++ time)
    | none => pure ()
    say ""
    sayStored rest

def doList : Doing m Unit := do
  let l ← openLibrary
  if l.list.isEmpty then
    tell ("📋 No definitions stored yet in " ++ l.path ++ ".")
    tell "   Use 'statsflow registry import <file>' to add one."
  else
    tell ("📋 Stored definitions (" ++ toString l.list.length ++ "):\n")
    sayStored l.list

def doShow (id : String) : Doing m Unit := do
  let l ← openLibrary
  let d ← fromExcept .library (l.get id)
  say ("📄 Definition: " ++ d.name ++ " (" ++ d.id ++ ")\n")
  say ("Platforms: " ++ listed d.platforms)
  say ("Created: " ++ d.createdAt)
  say ("Success rate: " ++ StoredDefinition.percent d.successRate ++ "%")
  say ("Uses: " ++ toString d.useCount)
  say "\nRule document:"
  say d.definition.toText

def doDelete (id : String) : Doing m Unit := do
  let l ← openLibrary
  let (outcome, _) ← liftM (l.delete (m := m) id)
  fromExcept .library outcome
  tell ("🗑️  Definition deleted: " ++ id)

variable [Host.Clock m]

def doImport (path : String) (platforms : List String) : Doing m Unit := do
  let l ← openLibrary
  tell ("📥 Importing rule document from: " ++ path)
  let (outcome, _) ← liftM (l.importFile (m := m) path platforms)
  let id ← fromExcept .library outcome
  tell ("✅ Definition saved with ID: " ++ id)

/-! ## 5. Reports -/

/-- Makes a report in a session of its own. -/
def makeReport (ask : Option (Proposal.Proposer m)) (o : Proposal.Options) (library : Library)
    (path : String) (description : Option Description) (wanted : Report.Options) :
    Doing m Report := do
  let roster ← fromExcept (.report ∘ .dataflow) (Report.roster ask o library.path)
  let (outcome, _) ← liftM (Report.makeAlone roster { library } path description wanted)
  fromExcept .report outcome

def doRun (path rules : String) (target : Target) (skipCheck : Bool) : Doing m Unit := do
  tell ("📄 Processing: " ++ path)
  let library ← openLibrary
  let report ← makeReport none {} library path none { rulesPath := some rules, skipCheck }
  tell ("   Rules: " ++ report.definition.name ++ " ("
    ++ toString report.definition.areas.length ++ " area(s))")
  tellExtracted report.table
  if 0 < report.rowErrors.length then
    tell ("   ⚠️  " ++ toString report.rowErrors.length ++ " invalid row(s)")
  writeTable report.table target
  tellDone

/-- The description of a report in a file. -/
def readDescription (path : String) : Doing m Description := do
  fromExcept .json (Json.readAs Description.record.knows Description.read (← readText path))

/-- The endpoint that is set, with its token unless that is blank. -/
def remoteOf (settings : Settings) : Except ProposerError Proposal.Remote :=
  match settings.endpoint with
  | some url => .ok { url, token := settings.token.filter fun t => !Text.isBlankText t }
  | none => .error (.noEndpoint (Settings.endpointVariable ++ " not set"))

def tellOrigin : Origin → Doing m Unit
  | .provided path => tell ("   Rules: " ++ path)
  | .stored id => tell ("   Stored definition: " ++ id)
  | .proposed savedAs => do
    tell "   Proposed by the repair loop"
    match savedAs with
    | some id => tell ("   Saved as: " ++ id)
    | none => pure ()

/-- The proposer at the endpoint that is set. Without one it is only told. -/
def proposerOf [Host.Endpoint m] (settings : Settings) : Doing m (Option (Proposal.Proposer m)) :=
  match remoteOf settings with
  | .ok remote => pure (some remote.proposer)
  | .error e => do
    tell ("   ⚠️  " ++ e.message)
    pure none

def saveRules (d : Definition) : Option String → Doing m Unit
  | some path => do
    writeText path d.toText
    tell ("   💾 Rules saved to: " ++ path)
  | none => pure ()

def doPropose [Host.Endpoint m] (path : String) (descriptionPath : Option String)
    (o : Proposal.Options) (wanted : Report.Options) (rulesTarget : Option String)
    (target : Target) : Doing m Unit := do
  tell ("📄 Processing: " ++ path)
  let description ← descriptionPath.mapM readDescription
  let settings ← liftM (Settings.load (m := m))
  let ask ← proposerOf settings
  let library ← liftM (Library.openAt (m := m) settings.libraryPath)
  let report ← makeReport ask o library path description wanted
  tellOrigin report.origin
  tellExtracted report.table
  saveRules report.definition rulesTarget
  writeTable report.table target
  tellDone

/-! ## 6. All of them -/

variable [Host.Endpoint m]

/-- Carries out a command. -/
def carryOut : Command → Doing m Unit
  | .run file rules target skipCheck => doRun file rules target skipCheck
  | .check rules => doCheck rules
  | .grid file rows => doGrid file rows
  | .propose file description platform note maxAttempts previewRows rulesTarget target
      ignoreStored doNotSave skipCheck =>
    doPropose file description { maxAttempts, previewRows }
      { platform, note, skipCheck, ignoreStored, doNotSave } rulesTarget target
  | .validate file => doValidate file
  | .grammar => say Rules.grammar
  | .example => doExample
  | .listStored => doList
  | .showStored id => doShow id
  | .importRules file platforms => doImport file platforms
  | .deleteStored id => doDelete id

end

end Command

section

variable {m : Type → Type} [Monad m] [Host.Files m] [Host.Console m] [Host.Journal m]
  [Host.Clock m] [Host.Endpoint m]

/-- Carries out an invocation, and answers with the code it ends with. -/
def Invocation.perform (i : Invocation) : m Nat := do
  if i.quiet then Host.Journal.mute
  match ← (Command.carryOut i.command).run with
  | .ok () => pure 0
  | .error e => do
    Host.Console.err ("❌ Error: " ++ e.message ++ "\n")
    pure 1

def Command.usage : String :=
  "Usage: statsflow [-q] <COMMAND>\n\nCommands: run, check, grid, propose, validate, grammar, "
    ++ "example-definition, registry (list, show, import, delete)\n"

/-- Does what the arguments ask for, and answers with the code that it ends with. -/
def Command.performArguments (arguments : List String) : m Nat := do
  match Invocation.read arguments with
  | .invocation i => i.perform
  | .help => do
    Host.Console.out Command.usage
    pure 0
  | .wrong => do
    Host.Console.err Command.usage
    pure 2

end

end UsageGrid
