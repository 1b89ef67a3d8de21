import UsageGrid.Dataflow.Payload
import UsageGrid.Dataflow.SessionId
import UsageGrid.Grid.Load
import UsageGrid.Proposal.Draft

/-!
# What can go wrong between workers

`WorkerError` is a failure of the work itself, `DataflowError` one of its inputs and outputs, or of
the sessions and workers that are asked for.
-/

namespace UsageGrid

inductive WorkerError where
  | grid (e : GridError)
  | extraction (e : ExtractionError)
  | proposal (e : ProposalError)
  | unexpectedInput (text : String)

def WorkerError.message : WorkerError → String
  | .grid e => e.message
  | .extraction e => "extraction failed: " ++ e.message
  | .proposal e => e.message
  | .unexpectedInput text => "unexpected input: " ++ text

open Dataflow in
inductive DataflowError where
  | notFound (name : String)
  | wrongKind (name : String) (expected found : Kind)
  | inputCount (worker : String) (kind : Kind) (count : Nat)
  | undeclaredOutput (worker : String) (kind : Kind)
  | uncoveredInput (worker : String) (kind : Kind)
  | duplicateWorker (name : String)
  | unknownWorker (name : String)
  | noSession (id : SessionId)
  | invalidPayload (kind : Kind) (misfit : Json.Misfit)
  | worker (name : String) (e : WorkerError)

namespace DataflowError

/-- A worker as messages name it. -/
def workerLabel (name : String) : String := "worker '" ++ name ++ "'"

def message : DataflowError → String
  | .notFound name => "artifact '" ++ name ++ "' not found"
  | .wrongKind name expected found =>
    "artifact '" ++ name ++ "' holds " ++ found.name ++ ", expected " ++ expected.name
  | .inputCount w kind count =>
    workerLabel w ++ " needs exactly one " ++ kind.name ++ " artifact, found "
      ++ toString count
  | .undeclaredOutput w kind =>
    workerLabel w ++ " produced undeclared artifact kind " ++ kind.name
  | .uncoveredInput w kind =>
    workerLabel w ++ " needs " ++ kind.name
      ++ ", which no worker produces and is not supplied externally"
  | .duplicateWorker name => "duplicate worker name '" ++ name ++ "'"
  | .unknownWorker name => "unknown worker '" ++ name ++ "'"
  | .noSession id => "session " ++ id.label ++ " not found"
  | .invalidPayload kind misfit => "invalid " ++ kind.name ++ " payload: " ++ misfit.message
  | .worker name e => workerLabel name ++ " failed: " ++ e.message

end DataflowError

/-- The payload of a kind that a value holds. -/
def Dataflow.Payload.read (kind : Kind) (v : Json) : Except DataflowError Payload :=
  match readData kind v with
  | .ok d => .ok ⟨kind, d⟩
  | .error misfit => .error (.invalidPayload kind misfit)

end UsageGrid
