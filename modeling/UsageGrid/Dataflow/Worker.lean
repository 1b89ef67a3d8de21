import UsageGrid.Dataflow.Error

/-!
# Workers

A worker declares the kinds it needs and the kinds it produces, and turns one payload of each needed
kind into artifacts.

A roster is the workers of a process. It is made only of workers with names of their own whose needs
are covered (`Roster.ofList`): each needed kind is supplied from outside or produced by a worker.
-/

namespace UsageGrid.Dataflow

/-- What a worker is handed: a payload for each kind it needs. -/
abbrev Inputs := List Payload

/-- The first data of a kind. -/
def Inputs.find? (inputs : Inputs) (k : Kind) : Option k.Data :=
  inputs.findSome? (Payload.as? k)

/-- The data of a kind that has to be there. -/
def Inputs.get (inputs : Inputs) (k : Kind) : Except WorkerError k.Data :=
  match inputs.find? k with
  | some d => .ok d
  | none => .error (.unexpectedInput ("no " ++ k.name ++ " input"))

structure Worker (m : Type → Type) where
  name : String
  needs : List Kind
  produces : List Kind
  run : Inputs → m (Except WorkerError (List Artifact))

structure Roster (m : Type → Type) where
  workers : List (Worker m)

namespace Roster

variable {m : Type → Type}

/-- Every name occurs once. `seen` are the names before. -/
def checkNames (seen : List String) : List (Worker m) → Except DataflowError Unit
  | [] => .ok ()
  | w :: rest =>
    if seen.contains w.name then .error (.duplicateWorker w.name)
    else checkNames (w.name :: seen) rest

/-- Every need is covered. -/
def checkNeeds (covered : List Kind) : List (Worker m) → Except DataflowError Unit
  | [] => .ok ()
  | w :: rest =>
    match w.needs.find? fun k => !covered.contains k with
    | some k => .error (.uncoveredInput w.name k)
    | none => checkNeeds covered rest

/-- The roster of some workers; `external` are the kinds supplied from outside. -/
def ofList (workers : List (Worker m)) (external : List Kind) :
    Except DataflowError (Roster m) := do
  checkNames [] workers
  checkNeeds (external ++ workers.flatMap (·.produces)) workers
  pure ⟨workers⟩

def get (r : Roster m) (name : String) : Except DataflowError (Worker m) :=
  match r.workers.find? (·.name == name) with
  | some w => .ok w
  | none => .error (.unknownWorker name)

def names (r : Roster m) : List String := r.workers.map (·.name)

end Roster

end UsageGrid.Dataflow
