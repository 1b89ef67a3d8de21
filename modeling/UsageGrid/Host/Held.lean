import UsageGrid.Host.Basic

/-!
# Surroundings as a value

`Held` is all that the program can see and change, as one value: a directory, the log, the console,
the variables, a clock that counts, and the answers an endpoint has in store. A run of the program
in `StateM Held` is a function from one such value to the next.
-/

namespace UsageGrid.Host

structure Held where
  directory : Directory := {}
  settings : List (String × String) := []
  /-- The entries of the log, the last one first. -/
  log : List Log.Entry := []
  muted : Bool := false
  /-- What has been written to the outputs, the last text first. -/
  out : List String := []
  err : List String := []
  time : String := ""
  /-- The stamp to come, and the number of ids there have been. -/
  milliseconds : Nat := 0
  ids : Nat := 0
  /-- The answers that are left; where one is missing, the connection is closed. -/
  replies : List (Option Reply) := []
  /-- What has been posted, the last one first. -/
  posts : List Post := []

namespace Held

/-- A look at the directory. -/
def look {α : Type} (f : Directory → α) : StateM Held α := do
  pure (f (← get).directory)

/-- A change of the directory, unless it fails. -/
def change (f : Directory → Except Directory.Cause Directory) :
    StateM Held (Except Directory.Cause Unit) := do
  let h ← get
  match f h.directory with
  | .ok d => do
    set { h with directory := d }
    pure (.ok ())
  | .error cause => pure (.error cause)

instance : Files (StateM Held) where
  read path := look (·.read path)
  write path content := change (·.write path content)
  makeFolders path := do
    let h ← get
    let (d, outcome) := h.directory.makeFolders path
    set { h with directory := d }
    pure outcome
  names path := look (·.names path)
  remove path := change (·.remove path)
  isThere path := look (·.isThere path)

instance : Journal (StateM Held) where
  add e := modify fun h =>
    { h with log := e :: h.log, err := if h.muted then h.err else e.line :: h.err }
  mute := modify fun h => { h with muted := true }

instance : Clock (StateM Held) where
  time := do pure (← get).time
  stamp := do
    let h ← get
    set { h with milliseconds := h.milliseconds + 1 }
    pure (toString h.milliseconds)
  freshId := do
    modify fun h => { h with ids := h.ids + 1 }
    pure ⟨(← get).ids⟩

instance : Console (StateM Held) where
  out text := modify fun h => { h with out := text :: h.out }
  err text := modify fun h => { h with err := text :: h.err }
  setting name := do pure ((← get).settings.lookup name)

instance : Endpoint (StateM Held) where
  post p := do
    let h ← get
    set { h with posts := p :: h.posts, replies := h.replies.drop 1 }
    match h.replies with
    | some reply :: _ => pure (.ok reply)
    | _ => pure (.error p.unanswered)
  pause _ := pure ()

end Held

end UsageGrid.Host
