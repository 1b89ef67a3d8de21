import UsageGrid.Pattern.Program

/-!
# Searching a text

The search runs all ways through a program side by side, one character at a time. The ways are kept
in order of preference and no two at one instruction, so that the first to accept is the match: the
leftmost one, and of those the one the pattern prefers. The work is bounded by the size of the
program times the length of the text.
-/

namespace UsageGrid.Program

/-- The places at which groups began and ended, by slot. -/
abbrev Slots := Array (Option Nat)

/-- A way through the program: its next instruction, and the places so far. -/
abbrev Way := Nat × Slots

/-- What surrounds the current place of the text. -/
structure Here where
  place : Nat
  before : Option Char
  after : Option Char

/-- Ways that wait for a character or accept, best last, and the instructions reached. -/
structure Ways where
  reversed : List Way := []
  reached : Array Bool

/-- Follows ways to the instructions that take a character or accept; `steps` bounds the
    instructions visited. -/
def follow (p : Program) (here : Here) : Nat → List Way → Ways → Ways
  | 0, _, ws => ws
  | _, [], ws => ws
  | steps + 1, (i, slots) :: rest, ws =>
    if ws.reached.getD i true then follow p here steps rest ws
    else
      let ws := { ws with reached := ws.reached.setIfInBounds i true }
      match p[i]? with
      | none => follow p here steps rest ws
      | some .accept | some (.take _ _) =>
        follow p here steps rest { ws with reversed := (i, slots) :: ws.reversed }
      | some (.check l next) =>
        if l.holds here.before here.after then
          follow p here steps ((next, slots) :: rest) ws
        else follow p here steps rest ws
      | some (.save slot next) =>
        follow p here steps ((next, slots.setIfInBounds slot (some here.place)) :: rest) ws
      | some (.split a b) => follow p here steps ((a, slots) :: (b, slots) :: rest) ws

/-- Each instruction is visited once, and each visit adds at most two ways to look at. -/
def followAll (p : Program) (here : Here) (start : List Way) (ws : Ways) : Ways :=
  follow p here (start.length + 3 * p.size + 1) start ws

def noWays (p : Program) : Ways := { reached := Array.replicate p.size false }

/-- Moves the ways over a character, best first; the first that accepts ends the others. -/
def advance (p : Program) (c : Char) (next : Here) : List Way → Ways → Ways × Option Slots
  | [], ws => (ws, none)
  | (i, slots) :: rest, ws =>
    match p[i]? with
    | some .accept => (ws, some slots)
    | some (.take s j) =>
      if s.contains c then advance p c next rest (followAll p next [(j, slots)] ws)
      else advance p c next rest ws
    | _ => advance p c next rest ws

/-- The best way that accepts, at the end of the text. -/
def accepted (p : Program) : List Way → Option Slots
  | [] => none
  | (i, slots) :: rest =>
    match p[i]? with
    | some .accept => some slots
    | _ => accepted p rest

/-- The search from a place on: the ways under way, and the best match so far. A match can begin
    at every place until one has been found. -/
def run (p : Program) (start : Nat) (fresh : Slots) (here : Here) (ws : Ways)
    (found : Option Slots) : List Char → Option Slots
  | [] =>
    let ws := if found.isNone then followAll p here [(start, fresh)] ws else ws
    (accepted p ws.reversed.reverse) <|> found
  | c :: rest =>
    let ws := if found.isNone then followAll p here [(start, fresh)] ws else ws
    let next : Here := ⟨here.place + 1, some c, rest.head?⟩
    let (moved, hit) := advance p c next ws.reversed.reverse p.noWays
    run p start fresh next moved (hit <|> found) rest

/-- The places of the groups of the first match. -/
def search (p : Program) (start groups : Nat) (text : List Char) : Option Slots :=
  run p start (Array.replicate (2 * (groups + 1)) none) ⟨0, none, text.head?⟩ p.noWays none text

end UsageGrid.Program
