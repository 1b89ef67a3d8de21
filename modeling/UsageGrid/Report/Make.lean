import UsageGrid.Dataflow.Session
import UsageGrid.Report.Basic
import UsageGrid.Report.Workers

/-!
# Making a report

The definition for a file is the first of these that works:

1. the rule document that was given, used as it is;
2. a stored definition for the platform, the most promising first, if it yields records;
3. a document from the proposer, which is then stored.

Every try of a stored definition counts as a use of it. All work is done by workers in a session,
which holds the definition and the table afterwards.
-/

namespace UsageGrid.Report

open Dataflow

/-! ## 1. The desk -/

/-- The kinds that are not made by a worker alone. -/
def externalKinds : List Kind := [.file, .description, .note, .platform, .definition]

/-- The workers. Without a proposer nothing is proposed. -/
def roster {m : Type → Type} [Monad m] [Host.Files m] [Host.Journal m]
    (ask : Option (Proposal.Proposer m)) (o : Proposal.Options) (libraryPath : String) :
    Except DataflowError (Roster m) :=
  Roster.ofList
    ([extractionWorker, platformWorker libraryPath]
      ++ (ask.map fun ask => proposalWorker ask o true).toList)
    externalKinds

/-- What a report is made with: a session to work in, and the library. -/
structure Desk where
  session : Session
  library : Library

/-- A step towards a report. What it changes stays changed when it fails. -/
abbrev Making (m : Type → Type) := ExceptT ReportError (StateT Desk m)

namespace Making

variable {m : Type → Type} [Monad m]

def ofExcept {ε α : Type} (f : ε → ReportError) (x : Except ε α) : Making m α :=
  ExceptT.mk (pure (x.mapError f))

/-- Keeps data in the session under the name of their kind. -/
def keep (k : Kind) (d : k.Data) : Making m Unit := do
  modify fun desk =>
    { desk with session := { desk.session with store := desk.session.store.set (.ofData k d) } }

/-- The data that the session holds under the name of their kind. -/
def kept (k : Kind) : Making m k.Data := do
  let desk ← get
  ofExcept .dataflow (desk.session.store.get k k.name)

/-- Runs a worker; a failure is an answer here. -/
def tryWorker [Host.Journal m] (w : Worker m) : Making m (Except DataflowError (List String)) := do
  let desk ← get
  let (outcome, session) ← liftM (desk.session.run w)
  set { desk with session }
  pure outcome

/-- Runs a worker that must not fail. -/
def runWorker [Host.Journal m] (w : Worker m) : Making m Unit := do
  let _ ← ofExcept .dataflow (← tryWorker w)

/-- Counts a use of a stored definition. -/
def countUse [Host.Files m] [Host.Clock m] (id : String) (success : Bool) : Making m Unit := do
  let desk ← get
  let (outcome, library) ← liftM (desk.library.use (m := m) id success)
  set { desk with library }
  ofExcept .library outcome

end Making

open Making

section

variable {m : Type → Type} [Monad m] [Host.Files m] [Host.Journal m] [Host.Clock m]

/-! ## 2. A given document -/

/-- Uses the rule document in a file. -/
def useGiven (r : Roster m) (path : String) : Making m Origin := do
  Host.info ("Using rule document " ++ path)
  let text ← ofExcept .file (← liftM (Host.readText (m := m) path))
  let definition ← ofExcept .rules (Definition.ofText text)
  keep .definition definition
  runWorker (← ofExcept .dataflow (r.get extractionName))
  pure (.provided path)

/-! ## 3. Stored definitions -/

/-- Tries a definition and counts the use. The answer tells whether it has yielded records. -/
def tryStored (w : Worker m) (d : StoredDefinition) : Making m Bool := do
  let name := d.definition.name
  keep .definition d.definition
  match ← tryWorker w with
  | .error e => do
    countUse d.id false
    Host.warning ("'" ++ name ++ "' failed: " ++ e.message)
    pure false
  | .ok _ => do
    let table ← kept .table
    if table.isEmpty then
      countUse d.id false
      Host.warning ("'" ++ name ++ "' produced no records")
      pure false
    else
      countUse d.id true
      Host.success ("'" ++ name ++ "' worked, " ++ toString table.rows.length ++ " records")
      pure true

/-- Tries definitions in turn until one works. `i` of `total` have been tried before. -/
def tryEach (w : Worker m) (total : Nat) (i : Nat) :
    List StoredDefinition → Making m (Option String)
  | [] => pure none
  | d :: rest => do
    Host.info ("Trying " ++ toString (i + 1) ++ "/" ++ toString total ++ ": " ++ d.id
      ++ " (success rate: " ++ StoredDefinition.percent d.successRate ++ "%)")
    if ← tryStored w d then pure (some d.id)
    else tryEach w total (i + 1) rest

/-- Tries the stored definitions for a platform. The answer has the id of one that works. -/
def tryPlatform (r : Roster m) (platform : String) : Making m (Option String) := do
  keep .platform { name := platform }
  runWorker (← ofExcept .dataflow (r.get platformName))
  let known ← kept .platform
  if !known.known then
    Host.warning ("No stored definitions for '" ++ platform ++ "'")
    pure none
  else
    Host.success ("Stored parsers for '" ++ platform ++ "': " ++ ", ".intercalate known.definitions)
    let candidates := (← get).library.servingOf platform
    let w ← ofExcept .dataflow (r.get extractionName)
    match ← tryEach w candidates.length 0 candidates with
    | some id => pure (some id)
    | none => do
      Host.warning ("All " ++ toString candidates.length ++ " stored definitions failed")
      pure none

/-! ## 4. A proposed document -/

/-- Stores the definition at hand. A failure to store it is only told. -/
def saveProposed (platforms : List String) : Making m (Option String) := do
  let definition ← kept .definition
  let desk ← get
  let (outcome, library) ← liftM (desk.library.save (m := m) definition platforms)
  set { desk with library }
  match outcome with
  | .ok id => do
    countUse id true
    Host.success ("Saved as: " ++ id)
    pure (some id)
  | .error e => do
    Host.warning ("Could not save definition: " ++ e.message)
    pure none

/-- Asks the proposer. -/
def askProposer (r : Roster m) (o : Options) : Making m Origin := do
  match r.get proposalName with
  | .error _ =>
    throw (.noDefinition "no stored definition matched and no proposer is configured")
  | .ok w => do
    if ((← get).session.store.ofKind .description).isEmpty then
      throw (.noDefinition
        "no stored definition matched and proposing one needs a data description")
    Host.info "Asking the proposer for a new rule document..."
    runWorker w
    if o.doNotSave then pure (.proposed none)
    else pure (.proposed (← saveProposed o.platform.toList))

/-! ## 5. The report -/

/-- The id of a stored definition that works, if any is to be tried. -/
def findStored (r : Roster m) (o : Options) : Making m (Option String) :=
  match o.ignoreStored, o.platform with
  | false, some platform => tryPlatform r platform
  | _, _ => pure none

/-- Leaves a definition and its table in the session. -/
def findDefinition (r : Roster m) (o : Options) : Making m Origin :=
  match o.rulesPath with
  | some path => useGiven r path
  | none => do
    match ← findStored r o with
    | some id => pure (.stored id)
    | none => askProposer r o

/-- Tells what is wrong with the first rows. -/
def logRows : List (Nat × List String) → m Unit
  | [] => pure ()
  | (i, errors) :: rest => do
    Host.error ("Row " ++ toString i ++ ": " ++ ", ".intercalate errors)
    logRows rest

/-- Checks the rows of a table. -/
def checkRows (t : Table) : m (List (Nat × List String)) := do
  let errors := t.rowErrors
  if errors.isEmpty then
    Host.success ("All " ++ toString t.rows.length ++ " rows valid")
  else
    Host.warning (toString errors.length ++ " of " ++ toString t.rows.length
      ++ " rows failed validation")
    logRows (errors.take 3)
  pure errors

/-- Makes the report of a file at a desk. -/
def make (r : Roster m) (path : String) (description : Option Description) (o : Options) :
    Making m Report := do
  Host.info ("Reading " ++ path)
  let g ← ofExcept .grid (← liftM (Grid.readFile (m := m) path))
  Host.success ("Grid: " ++ toString g.height ++ " rows x " ++ toString g.width ++ " columns")
  keep .file ⟨path⟩
  match description with
  | some d => keep .description d
  | none => pure ()
  keep .note ⟨o.note.getD ""⟩
  let origin ← findDefinition r o
  let definition ← kept .definition
  let table ← kept .table
  let rowErrors ← if o.skipCheck then pure [] else liftM (checkRows (m := m) table)
  pure { table, definition, origin, rowErrors, gridHeight := g.height, gridWidth := g.width }

/-! ## 6. In sessions -/

/-- The live sessions and the library. -/
structure Office where
  sessions : Sessions := {}
  library : Library

/-- Makes a report in a live session. -/
def makeIn (r : Roster m) (office : Office) (id : SessionId) (path : String)
    (description : Option Description) (o : Options) :
    m (Except ReportError Report × Office) := do
  match office.sessions.get id with
  | .error e => pure (.error (.dataflow e), office)
  | .ok session => do
    let (outcome, desk) ← (make r path description o).run.run ⟨session, office.library⟩
    pure (outcome, ⟨office.sessions.update desk.session, desk.library⟩)

/-- Makes a report in a session of its own, which ends with it. -/
def makeAlone (r : Roster m) (office : Office) (path : String)
    (description : Option Description) (o : Options) :
    m (Except ReportError Report × Office) := do
  let (id, sessions) ← office.sessions.create
  let (outcome, office) ← makeIn r { office with sessions } id path description o
  pure (outcome, { office with sessions := office.sessions.remove id })

end

end UsageGrid.Report
