import UsageGrid.Grid.Coord
import UsageGrid.Text.Blank
import UsageGrid.Decimal.Layout

/-!
# Grids

A grid is the rectangle of cells that a rule document is evaluated against:

* `Grid.ofRows` pads short rows with blank cells, so that every row has the width of the longest;
* `Grid.get?` is the cell at an address, `Grid.contains` says whether there is one
  (`isSome_get?`);
* `Grid.dropTrailingBlankRows` cuts the rows at the end that hold nothing.
-/

namespace UsageGrid

/-! ## 1. Cells -/

inductive Cell where
  | blank
  | text (s : String)
  | number (x : Binary64)
deriving DecidableEq

namespace Cell

/-- The trimmed text, or a blank cell if nothing is left of it. -/
def ofText (s : String) : Cell :=
  let t := Text.trim s
  if t.isEmpty then .blank else .text t

def isBlank : Cell → Bool
  | .blank => true
  | _ => false

/-- What stands in the cell; nothing in a blank one. -/
def content? : Cell → Option String
  | .blank => none
  | .text s => some s
  | .number x => some (Decimal.Layout.plain.render x)

/-- The cell as it is shown: its content, nothing for a blank one. -/
def shown (c : Cell) : String :=
  c.content?.getD ""

end Cell

/-! ## 2. Grids -/

/-- Rows of one width. -/
structure Grid where
  rows : List (List Cell)
  width : Nat
  width_eq : ∀ row ∈ rows, row.length = width

namespace Grid

/-- The length of the longest row. -/
def longest (rows : List (List Cell)) : Nat :=
  rows.foldr (fun row n => max row.length n) 0

/-- A row filled up with blank cells. -/
def pad (width : Nat) (row : List Cell) : List Cell :=
  row ++ List.replicate (width - row.length) .blank

theorem length_le_longest {rows : List (List Cell)} {row : List Cell} (h : row ∈ rows) :
    row.length ≤ longest rows := by
  induction rows with
  | nil => simp at h
  | cons r rs ih =>
    simp only [longest, List.foldr_cons] at ih ⊢
    rcases List.mem_cons.1 h with rfl | h
    · omega
    · have := ih h
      omega

theorem length_pad {width : Nat} {row : List Cell} (h : row.length ≤ width) :
    (pad width row).length = width := by
  simp [pad]
  omega

/-- The grid of the given rows, each filled up to the longest. -/
def ofRows (rows : List (List Cell)) : Grid where
  rows := rows.map (pad (longest rows))
  width := longest rows
  width_eq := by
    intro row h
    obtain ⟨r, hr, rfl⟩ := List.mem_map.1 h
    exact length_pad (length_le_longest hr)

/-- The grid of rows of text. -/
def ofTextRows (rows : List (List String)) : Grid :=
  ofRows (rows.map (·.map Cell.ofText))

def height (g : Grid) : Nat := g.rows.length

/-- No cell at all. -/
def isEmpty (g : Grid) : Bool := g.rows.isEmpty || g.width == 0

def contains (g : Grid) (c : Coord) : Bool :=
  decide (c.row < g.height) && decide (c.col < g.width)

/-- The cell at an address. -/
def get? (g : Grid) (c : Coord) : Option Cell :=
  (g.rows[c.row]?).bind (·[c.col]?)

/-- **A cell is found exactly at the addresses that the grid contains.** -/
theorem isSome_get? (g : Grid) (c : Coord) : (g.get? c).isSome = g.contains c := by
  unfold get? contains height
  by_cases hr : c.row < g.rows.length
  · have hw := g.width_eq g.rows[c.row] (List.getElem_mem hr)
    simp only [List.getElem?_eq_getElem hr, Option.bind_some, hr, decide_true, Bool.true_and]
    by_cases hc : c.col < g.width <;> simp [hc, hw]
  · simp [hr]

/-! ## 3. Blank rows at the end -/

def isBlankRow (row : List Cell) : Bool := row.all Cell.isBlank

/-- The rows up to the last one that is not blank. -/
def upToLastFilled (rows : List (List Cell)) : List (List Cell) :=
  (rows.reverse.dropWhile isBlankRow).reverse

theorem mem_of_mem_upToLastFilled {rows : List (List Cell)} {row : List Cell}
    (h : row ∈ upToLastFilled rows) : row ∈ rows := by
  have := (List.dropWhile_suffix isBlankRow).subset (List.mem_reverse.1 h)
  simpa using this

/-- The grid without the blank rows at its end; its width stays. -/
def dropTrailingBlankRows (g : Grid) : Grid where
  rows := upToLastFilled g.rows
  width := g.width
  width_eq := fun row h => g.width_eq row (mem_of_mem_upToLastFilled h)

end Grid

end UsageGrid
