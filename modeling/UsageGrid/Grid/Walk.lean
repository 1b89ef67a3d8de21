import UsageGrid.Grid.Basic

/-!
# Walks

A walk starts at an address and steps in one direction while it stays inside the grid. It ends at
the edge or at a given count, whatever the cells hold; from outside the grid it covers nothing.
-/

namespace UsageGrid.Grid

/-- At most `n` addresses of the grid, each a step from the one before. -/
def takeInside (g : Grid) (d : Direction) : Nat → Option Coord → List Coord
  | 0, _ => []
  | _ + 1, none => []
  | n + 1, some c => if g.contains c then c :: g.takeInside d n (c.step d) else []

/-- No walk is longer than this. -/
def reach (g : Grid) : Nat := g.height + g.width

/-- The addresses of a walk, at most `maxCount` of them. -/
def walk (g : Grid) (start : Coord) (d : Direction) (maxCount : Option Nat) : List Coord :=
  g.takeInside d (match maxCount with
    | some n => min n g.reach
    | none => g.reach) (some start)

end UsageGrid.Grid
