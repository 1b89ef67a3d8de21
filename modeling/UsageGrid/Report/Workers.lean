import UsageGrid.Dataflow.Worker
import UsageGrid.Library.Basic
import UsageGrid.Proposal.Search
import UsageGrid.Grid.Load
import UsageGrid.Host.Basic

/-!
# The workers behind a report

* `extractionWorker` applies the definition at hand to the report;
* `proposalWorker` searches for a definition and applies it;
* `platformWorker` looks up which stored definitions serve a platform.
-/

namespace UsageGrid.Grid

/-- The grid of a file. -/
def readFile {m : Type → Type} [Monad m] [Host.Files m] (path : String) :
    m (Except GridError Grid) := do
  match ← Host.Files.read path with
  | .error cause => pure (.error (.unreadable cause))
  | .ok content => pure (ofBytes content.toList)

end UsageGrid.Grid

namespace UsageGrid.Report

open Dataflow

section

variable {m : Type → Type} [Monad m]

/-- The grid of a report. -/
def gridOf [Host.Files m] (f : ReportFile) : ExceptT WorkerError m Grid :=
  ExceptT.mk do pure ((← Grid.readFile f.path).mapError .grid)

def extractionName : String := "extraction_worker"

def extract [Host.Files m] (inputs : Inputs) : ExceptT WorkerError m (List Artifact) := do
  let file ← inputs.get .file
  let definition ← inputs.get .definition
  let g ← gridOf file
  let table ← (Table.ofGrid definition g).mapError WorkerError.extraction
  pure [.ofData .table table]

def extractionWorker [Host.Files m] : Worker m where
  name := extractionName
  needs := [.file, .definition]
  produces := [.table]
  run inputs := (extract inputs).run

def proposalName : String := "parsing_rules_worker"

/-- A note that says something. -/
def noteText (inputs : Inputs) : Option String :=
  ((inputs.find? .note).map Note.text).filter fun text => !Text.isBlankText text

def propose [Host.Files m] [Host.Journal m] (ask : Proposal.Proposer m) (o : Proposal.Options)
    (inputs : Inputs) : ExceptT WorkerError m (List Artifact) := do
  let description ← inputs.get .description
  let file ← inputs.get .file
  let g ← gridOf file
  let outcome ← ExceptT.mk do
    pure ((← Proposal.search ask o description g (noteText inputs)).mapError WorkerError.proposal)
  pure [.ofData .definition outcome.definition, .ofData .table outcome.table]

/-- A note is passed on only if one is needed; one that says nothing counts as none. -/
def proposalWorker [Host.Files m] [Host.Journal m] (ask : Proposal.Proposer m)
    (o : Proposal.Options) (needsNote : Bool) : Worker m where
  name := proposalName
  needs := [.description, .file] ++ if needsNote then [.note] else []
  produces := [.definition, .table]
  run inputs := (propose ask o inputs).run

def platformName : String := "platform_worker"

/-- What a library knows of a platform: the names of the definitions that serve it, once each. -/
def platformIn (l : Library) (name : String) : Platform :=
  let names := ((l.servingOf name).map (·.name)).eraseDups
  { name, known := !names.isEmpty, definitions := names }

/-- The library is opened anew, so that what has been stored meanwhile is seen. -/
def lookUp [Host.Files m] [Host.Journal m] (libraryPath : String) (inputs : Inputs) :
    ExceptT WorkerError m (List Artifact) := do
  let platform ← inputs.get .platform
  let l ← Library.openAt (m := m) libraryPath
  pure [.ofData .platform (platformIn l platform.name)]

def platformWorker [Host.Files m] [Host.Journal m] (libraryPath : String) : Worker m where
  name := platformName
  needs := [.platform]
  produces := [.platform]
  run inputs := (lookUp libraryPath inputs).run

end

end UsageGrid.Report
