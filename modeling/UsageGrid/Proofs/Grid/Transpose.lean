import UsageGrid.Grid.Walk

/-!
# Transposed grids

Rows become columns and columns rows. A cell is found at the transposed address (`get?_transpose`),
and a walk covers the transposed addresses (`walk_transpose`).
-/

namespace UsageGrid

/-! ## 1. Addresses and directions -/

/-- Row and column in each other's place. -/
def Coord.transpose (c : Coord) : Coord := ⟨c.col, c.row⟩

def Direction.transpose : Direction → Direction
  | .left => .up
  | .up => .left
  | .right => .down
  | .down => .right

theorem isPerpendicular_transpose (d e : Direction) :
    d.transpose.isPerpendicular e.transpose = d.isPerpendicular e := by
  cases d <;> cases e <;> rfl

theorem step_transpose (c : Coord) (d : Direction) :
    c.transpose.step d.transpose = (c.step d).map Coord.transpose := by
  cases d with
  | left =>
    show (if c.col = 0 then none else some (Coord.mk (c.col - 1) c.row)) = _
    by_cases h : c.col = 0
    · simp [Coord.step, h]
    · simp [Coord.step, h, Coord.transpose]
  | right => rfl
  | up =>
    show (if c.row = 0 then none else some (Coord.mk c.col (c.row - 1))) = _
    by_cases h : c.row = 0
    · simp [Coord.step, h]
    · simp [Coord.step, h, Coord.transpose]
  | down => rfl

/-! ## 2. Grids -/

namespace Grid

/-- The cells of a column, from the top. -/
def column (g : Grid) (n : Nat) : List Cell := g.rows.map fun row => row.getD n .blank

/-- The grid whose rows are the columns. -/
def transpose (g : Grid) : Grid where
  rows := (List.range g.width).map g.column
  width := g.height
  width_eq := by
    intro row h
    obtain ⟨n, -, rfl⟩ := List.mem_map.1 h
    exact List.length_map _

theorem height_transpose (g : Grid) : g.transpose.height = g.width := by
  show ((List.range g.width).map g.column).length = _
  rw [List.length_map, List.length_range]

theorem contains_transpose (g : Grid) (c : Coord) :
    g.transpose.contains c.transpose = g.contains c := by
  unfold contains
  rw [height_transpose, Bool.and_comm]
  rfl

/-- **A cell is found at the transposed address.** -/
theorem get?_transpose (g : Grid) (c : Coord) : g.transpose.get? c.transpose = g.get? c := by
  show (((List.range g.width).map g.column)[c.col]?).bind (·[c.row]?)
    = (g.rows[c.row]?).bind (·[c.col]?)
  by_cases hc : c.col < g.width
  · rw [List.getElem?_map, List.getElem?_range hc, Option.map_some, Option.bind_some]
    unfold column
    rw [List.getElem?_map]
    cases hrow : g.rows[c.row]? with
    | none => rfl
    | some row =>
      have hlen : c.col < row.length := by
        rw [g.width_eq row (List.mem_of_getElem? hrow)]
        exact hc
      rw [Option.map_some, Option.bind_some, List.getD_eq_getElem?_getD,
        List.getElem?_eq_getElem hlen, Option.getD_some]
  · rw [List.getElem?_eq_none (by simpa using hc), Option.bind_none]
    cases hrow : g.rows[c.row]? with
    | none => rfl
    | some row =>
      have hlen : row.length ≤ c.col := by
        rw [g.width_eq row (List.mem_of_getElem? hrow)]
        exact Nat.le_of_not_lt hc
      rw [Option.bind_some, List.getElem?_eq_none hlen]

/-! ## 3. Walks -/

theorem takeInside_transpose (g : Grid) (d : Direction) (n : Nat) (c : Option Coord) :
    g.transpose.takeInside d.transpose n (c.map Coord.transpose)
      = (g.takeInside d n c).map Coord.transpose := by
  induction n generalizing c with
  | zero => rfl
  | succ n ih =>
    cases c with
    | none => rfl
    | some c =>
      simp only [Option.map_some, takeInside, contains_transpose, step_transpose, ih]
      by_cases h : g.contains c = true
      · rw [if_pos h, if_pos h, List.map_cons]
      · rw [if_neg h, if_neg h, List.map_nil]

theorem reach_transpose (g : Grid) : g.transpose.reach = g.reach := by
  unfold reach
  rw [height_transpose, Nat.add_comm]
  rfl

/-- **A walk covers the transposed addresses.** -/
theorem walk_transpose (g : Grid) (start : Coord) (d : Direction) (maxCount : Option Nat) :
    g.transpose.walk start.transpose d.transpose maxCount
      = (g.walk start d maxCount).map Coord.transpose := by
  unfold walk
  rw [reach_transpose]
  exact g.takeInside_transpose d _ (some start)

end Grid

end UsageGrid
