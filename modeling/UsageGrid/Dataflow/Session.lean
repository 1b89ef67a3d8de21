import UsageGrid.Dataflow.Store
import UsageGrid.Dataflow.Worker
import UsageGrid.Host.Basic

/-!
# Sessions

A session has a store in which workers run. A run is all or nothing: each kind that the worker needs
must be held by exactly one slot, the work must not fail, and nothing but declared kinds may come
out of it; only then are the outputs written.

`Sessions` are the live sessions by their ids. Each has a store of its own, so that a step in one
leaves the others as they are (`find?_update_of_ne`).
-/

namespace UsageGrid.Dataflow

structure Session where
  id : SessionId
  store : Store := {}

namespace Session

/-! ## 1. Before and after the work -/

/-- The one payload of each kind that a worker needs. -/
def gather (worker : String) (s : Store) : List Kind → Except DataflowError Inputs
  | [] => .ok []
  | k :: rest =>
    match s.ofKind k with
    | [(_, p)] => (gather worker s rest).map (p :: ·)
    | slots => .error (.inputCount worker k slots.length)

/-- Nothing has come out that was not declared. -/
def checkOutputs (worker : String) (declared : List Kind) (outputs : List Artifact) :
    Except DataflowError Unit :=
  match outputs.find? fun a => !declared.contains a.kind with
  | some a => .error (.undeclaredOutput worker a.kind)
  | none => .ok ()

/-! ## 2. A run -/

section

variable {m : Type → Type} [Monad m] [Host.Journal m]

/-- Tells which artifacts a worker has written. -/
def logWritten (worker : String) : List Artifact → m Unit
  | [] => pure ()
  | a :: rest => do
    Host.detail (a.name ++ " <- " ++ worker)
    logWritten worker rest

/-- What comes out of the work, all checks passed. -/
def outputs (s : Session) (w : Worker m) : m (Except DataflowError (List Artifact)) := do
  match gather w.name s.store w.needs with
  | .error e => pure (.error e)
  | .ok inputs => do
    Host.info ("Running " ++ w.name ++ " [" ++ s.id.label ++ "]")
    match ← w.run inputs with
    | .error e => pure (.error (.worker w.name e))
    | .ok artifacts => pure ((checkOutputs w.name w.produces artifacts).map fun _ => artifacts)

/-- Runs a worker. The answer has the names written, and the session afterwards. -/
def run (s : Session) (w : Worker m) : m (Except DataflowError (List String) × Session) := do
  match ← s.outputs w with
  | .error e => pure (.error e, s)
  | .ok artifacts => do
    logWritten w.name artifacts
    Host.success (w.name ++ " wrote " ++ toString artifacts.length ++ " artifact(s)")
    pure (.ok (artifacts.map (·.name)), { s with store := s.store.setAll artifacts })

end

end Session

/-! ## 3. Live sessions -/

structure Sessions where
  live : List Session := []

namespace Sessions

def find? (t : Sessions) (id : SessionId) : Option Session := t.live.find? (·.id = id)

/-- A session that has to be live. -/
def get (t : Sessions) (id : SessionId) : Except DataflowError Session :=
  match t.find? id with
  | some s => .ok s
  | none => .error (.noSession id)

/-- An empty session under an id, in place of one that was there. -/
def start (t : Sessions) (id : SessionId) : Sessions :=
  ⟨t.live.filter (·.id ≠ id) ++ [⟨id, {}⟩]⟩

def remove (t : Sessions) (id : SessionId) : Sessions := ⟨t.live.filter (·.id ≠ id)⟩

/-- Replaces the session with the same id. -/
def update (t : Sessions) (s : Session) : Sessions :=
  ⟨t.live.map fun r => if r.id = s.id then s else r⟩

def ids (t : Sessions) : List SessionId := t.live.map (·.id)

/-- Starts a session and tells its id. -/
def create {m : Type → Type} [Monad m] [Host.Clock m] (t : Sessions) :
    m (SessionId × Sessions) := do
  let id ← Host.Clock.freshId
  pure (id, t.start id)

/-- **Sessions do not disturb each other.** -/
theorem find?_update_of_ne (t : Sessions) (s : Session) {id : SessionId} (h : id ≠ s.id) :
    (t.update s).find? id = t.find? id := by
  obtain ⟨live⟩ := t
  simp only [find?, update]
  induction live with
  | nil => rfl
  | cons r live ih =>
    by_cases hr : r.id = s.id
    · simp [hr, Ne.symm h, ih]
    · simp [hr, List.find?_cons, ih]

end Sessions

end UsageGrid.Dataflow
