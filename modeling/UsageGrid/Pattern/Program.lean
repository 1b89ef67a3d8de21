import UsageGrid.Pattern.Expr

/-!
# Pattern programs

An expression is compiled into instructions that name the instructions after them. Of a split the
first way is preferred. A repetition without an upper bound loops through one split; where its body
may match nothing, the loop is entered through a second one, so that a turn without progress ends
it.
-/

namespace UsageGrid

inductive Instruction where
  | accept
  | take (s : Text.Ranges) (next : Nat)
  | check (l : Look) (next : Nat)
  | save (slot : Nat) (next : Nat)
  | split (first second : Nat)

abbrev Program := Array Instruction

namespace Program

/-- Adds an instruction: its number, and the longer program. -/
def add (p : Program) (i : Instruction) : Nat × Program := (p.size, p.push i)

/-- The split that prefers the body when greedy. -/
def choose (greedy : Bool) (body after : Nat) : Instruction :=
  if greedy then .split body after else .split after body

/-- A fragment: given where to go on, its first instruction. -/
abbrev Fragment := Nat → Program → Nat × Program

/-- Characters in a row, given last first. -/
def spell : List Char → Fragment
  | [], next, p => (next, p)
  | c :: before, next, p =>
    let (start, p) := p.add (.take (Text.Ranges.single c) next)
    spell before start p

/-- One or more turns: the body, then the choice of another. -/
def loopOf (greedy : Bool) (body : Fragment) : Fragment := fun next p =>
  let (again, p) := p.add (.split next next)
  let (start, p) := body again p
  (start, p.setIfInBounds again (choose greedy start next))

/-- Any number of turns of a body that takes a character. -/
def starOf (greedy : Bool) (body : Fragment) : Fragment := fun next p =>
  let (again, p) := p.add (.split next next)
  let (start, p) := body again p
  (again, p.setIfInBounds again (choose greedy start next))

/-- The body, or nothing. -/
def maybe (greedy : Bool) (body : Fragment) : Fragment := fun next p =>
  let (start, p) := body next p
  p.add (choose greedy start next)

/-- The body a number of times. -/
def times (body : Fragment) : Nat → Fragment
  | 0, next, p => (next, p)
  | n + 1, next, p =>
    let (start, p) := body next p
    times body n start p

/-- The body at most a number of times before `next`. Every turn may go straight to `goal`. -/
def atMost (greedy : Bool) (body : Fragment) (goal : Nat) : Nat → Fragment
  | 0, next, p => (next, p)
  | n + 1, next, p =>
    let (start, p) := body next p
    let (turn, p) := p.add (choose greedy start goal)
    atMost greedy body goal n turn p

def repetition (least : Nat) (most : Option Nat) (greedy nullable : Bool) (body : Fragment) :
    Fragment := fun next p =>
  match least, most with
  | 0, none =>
    if nullable then maybe greedy (loopOf greedy body) next p else starOf greedy body next p
  | n + 1, none =>
    let (rest, p) := loopOf greedy body next p
    times body n rest p
  | n, some m =>
    let (rest, p) := atMost greedy body next (m - n) next p
    times body n rest p

/-- The fragment of an expression. -/
def ofExpr : Expr → Fragment
  | .empty => fun next p => (next, p)
  | .literal cs => spell cs.reverse
  | .set s => fun next p => p.add (.take s next)
  | .look l => fun next p => p.add (.check l next)
  | .group i e => fun next p =>
    let (close, p) := p.add (.save (2 * i + 1) next)
    let (start, p) := ofExpr e close p
    p.add (.save (2 * i) start)
  | .repeated least most greedy e => repetition least most greedy e.nullable (ofExpr e)
  | .seq a b => fun next p =>
    let (rest, p) := ofExpr b next p
    ofExpr a rest p
  | .alt a b => fun next p =>
    let (second, p) := ofExpr b next p
    let (first, p) := ofExpr a next p
    p.add (.split first second)

/-- The program of a whole pattern, which is group zero, and its first instruction. -/
def compile (e : Expr) : Nat × Program :=
  let (stop, p) := Program.add #[] .accept
  ofExpr (.group 0 e) stop p

end Program

end UsageGrid
