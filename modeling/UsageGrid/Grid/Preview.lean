import UsageGrid.Grid.Basic

/-!
# Previews

The first rows of a grid as text, one line each, with the row number in front and the column
numbers in the line above, so that addresses can be read off.
-/

namespace UsageGrid.Grid

/-- The parts of a line, bars between them. -/
def bars (parts : List String) : String := " | ".intercalate parts

def previewHeader (g : Grid) : String :=
  "row\\col | " ++ bars ((List.range g.width).map toString) ++ "\n"

def previewLine (i : Nat) (row : List Cell) : String :=
  toString i ++ " | " ++ bars (row.map Cell.shown) ++ "\n"

/-- One line per row, counted from `i`. -/
def previewLines (i : Nat) : List (List Cell) → List String
  | [] => []
  | row :: rest => previewLine i row :: previewLines (i + 1) rest

/-- The line that counts the rows left out, if there are any. -/
def previewTrailer (g : Grid) (maxRows : Nat) : List String :=
  if maxRows < g.height then ["... (" ++ toString (g.height - maxRows) ++ " more rows)\n"] else []

/-- The first `maxRows` rows as text. -/
def preview (g : Grid) (maxRows : Nat) : String :=
  String.join (g.previewHeader :: previewLines 0 (g.rows.take maxRows) ++ g.previewTrailer maxRows)

end UsageGrid.Grid
