/-!
# Cell addresses and directions

A cell is addressed by its row and column, both counted from zero. A step leads to a neighbouring
address; there is none beyond the top and the left edge.
-/

namespace UsageGrid

structure Coord where
  row : Nat
  col : Nat
deriving Repr, DecidableEq

inductive Direction where
  | left
  | right
  | up
  | down
deriving Repr, DecidableEq

namespace Direction

def isVertical : Direction → Bool
  | .up | .down => true
  | .left | .right => false

/-- One of the two runs along rows, the other along columns. -/
def isPerpendicular (d e : Direction) : Bool :=
  d.isVertical != e.isVertical

def name : Direction → String
  | .left => "left"
  | .right => "right"
  | .up => "up"
  | .down => "down"

/-- Every direction with its name. -/
def words : List (String × Direction) :=
  [("left", .left), ("right", .right), ("up", .up), ("down", .down)]

end Direction

namespace Coord

/-- The neighbour in a direction. -/
def step (c : Coord) : Direction → Option Coord
  | .left => if c.col = 0 then none else some { c with col := c.col - 1 }
  | .right => some { c with col := c.col + 1 }
  | .up => if c.row = 0 then none else some { c with row := c.row - 1 }
  | .down => some { c with row := c.row + 1 }

/-- The address as messages write it. -/
def label (c : Coord) : String :=
  "(" ++ toString c.row ++ ", " ++ toString c.col ++ ")"

end Coord

end UsageGrid
