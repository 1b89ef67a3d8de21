import UsageGrid.Grid.Walk

/-!
# Walks in closed form

The cells of a walk lie in a line: the start, the address one step on, two steps on, and so forth.
How many there are, the distance of the start from the edge says (`Grid.toEdge`), and the bound of
the walk if it has one (`Grid.walkLength`). Main statement: `Grid.walk_eq_map_move`.
-/

namespace UsageGrid

/-! ## 1. Addresses in a line -/

namespace Coord

/-- The address some steps on. There is none beyond the top and the left edge; row and column stay
    zero there. -/
def move (c : Coord) : Direction → Nat → Coord
  | .left, n => { c with col := c.col - n }
  | .right, n => { c with col := c.col + n }
  | .up, n => { c with row := c.row - n }
  | .down, n => { c with row := c.row + n }

@[simp] theorem move_zero (c : Coord) (d : Direction) : c.move d 0 = c := by
  cases d <;> rfl

theorem move_add (c : Coord) (d : Direction) (m n : Nat) :
    c.move d (m + n) = (c.move d m).move d n := by
  cases d with
  | left => simp only [move, Nat.sub_add_eq]
  | right => simp only [move, Nat.add_assoc]
  | up => simp only [move, Nat.sub_add_eq]
  | down => simp only [move, Nat.add_assoc]

/-- A step that can be taken leads to the address one on. -/
theorem eq_move_of_step {c c' : Coord} {d : Direction} (h : c.step d = some c') :
    c' = c.move d 1 := by
  cases d with
  | left =>
    simp only [step, Option.ite_none_left_eq_some, Option.some.injEq] at h
    exact h.2.symm
  | right => exact (Option.some.inj h).symm
  | up =>
    simp only [step, Option.ite_none_left_eq_some, Option.some.injEq] at h
    exact h.2.symm
  | down => exact (Option.some.inj h).symm

end Coord

/-! ## 2. The distance from the edge -/

namespace Grid

theorem contains_iff {g : Grid} {c : Coord} :
    g.contains c = true ↔ c.row < g.height ∧ c.col < g.width := by
  unfold contains
  rw [Bool.and_eq_true, decide_eq_true_eq, decide_eq_true_eq]

/-- The number of cells from an address to the edge; none from an address outside. -/
def toEdge (g : Grid) (c : Coord) (d : Direction) : Nat :=
  if g.contains c then
    match d with
    | .left => c.col + 1
    | .right => g.width - c.col
    | .up => c.row + 1
    | .down => g.height - c.row
  else 0

theorem toEdge_of_not_contains {g : Grid} {c : Coord} (h : ¬ g.contains c = true)
    (d : Direction) : g.toEdge c d = 0 := if_neg h

theorem contains_of_toEdge_pos {g : Grid} {c : Coord} {d : Direction} (h : 0 < g.toEdge c d) :
    g.contains c = true := by
  by_cases hc : g.contains c = true
  · exact hc
  · rw [toEdge_of_not_contains hc] at h
    exact absurd h (Nat.lt_irrefl 0)

/-- From a cell there is itself and what there is from the next address. -/
theorem toEdge_of_contains {g : Grid} {c : Coord} (h : g.contains c = true) (d : Direction) :
    g.toEdge c d = ((c.step d).map (g.toEdge · d)).getD 0 + 1 := by
  obtain ⟨hr, hc⟩ := contains_iff.1 h
  unfold toEdge
  rw [if_pos h]
  -- at the edge the step leads nowhere (left, up) or out of the grid (right, down)
  cases d with
  | left =>
    by_cases h0 : c.col = 0
    · simp [Coord.step, h0]
    · have hin : g.contains { c with col := c.col - 1 } = true :=
        contains_iff.2 ⟨hr, show c.col - 1 < g.width by omega⟩
      simp only [Coord.step, if_neg h0, Option.map_some, Option.getD_some, if_pos hin]
      omega
  | right =>
    by_cases hin : g.contains { c with col := c.col + 1 } = true
    · simp only [Coord.step, Option.map_some, Option.getD_some, if_pos hin]
      have := (contains_iff.1 hin).2
      dsimp only at this
      omega
    · simp only [Coord.step, Option.map_some, Option.getD_some, if_neg hin]
      have : ¬ c.col + 1 < g.width := fun hw => hin (contains_iff.2 ⟨hr, hw⟩)
      omega
  | up =>
    by_cases h0 : c.row = 0
    · simp [Coord.step, h0]
    · have hin : g.contains { c with row := c.row - 1 } = true :=
        contains_iff.2 ⟨show c.row - 1 < g.height by omega, hc⟩
      simp only [Coord.step, if_neg h0, Option.map_some, Option.getD_some, if_pos hin]
      omega
  | down =>
    by_cases hin : g.contains { c with row := c.row + 1 } = true
    · simp only [Coord.step, Option.map_some, Option.getD_some, if_pos hin]
      have := (contains_iff.1 hin).1
      dsimp only at this
      omega
    · simp only [Coord.step, Option.map_some, Option.getD_some, if_neg hin]
      have : ¬ c.row + 1 < g.height := fun hh => hin (contains_iff.2 ⟨hh, hc⟩)
      omega

theorem toEdge_le_reach (g : Grid) (c : Coord) (d : Direction) : g.toEdge c d ≤ g.reach := by
  by_cases h : g.contains c = true
  · obtain ⟨hr, hc⟩ := contains_iff.1 h
    unfold toEdge reach
    rw [if_pos h]
    cases d with
    | left => show c.col + 1 ≤ _; omega
    | right => show g.width - c.col ≤ _; omega
    | up => show c.row + 1 ≤ _; omega
    | down => show g.height - c.row ≤ _; omega
  · rw [toEdge_of_not_contains h]
    exact Nat.zero_le _

/-- Before the edge every address is one of a cell. -/
theorem contains_move {g : Grid} {c : Coord} {d : Direction} {n : Nat} (h : n < g.toEdge c d) :
    g.contains (c.move d n) = true := by
  have hin := contains_of_toEdge_pos (Nat.zero_lt_of_lt h)
  obtain ⟨hr, hc⟩ := contains_iff.1 hin
  unfold toEdge at h
  rw [if_pos hin] at h
  apply contains_iff.2
  cases d with
  | left => exact ⟨hr, show c.col - n < _ by omega⟩
  | right => exact ⟨hr, show c.col + n < _ by dsimp only at h; omega⟩
  | up => exact ⟨show c.row - n < _ by omega, hc⟩
  | down => exact ⟨show c.row + n < _ by dsimp only at h; omega, hc⟩

/-- Before the edge a step can be taken. -/
theorem step_move {g : Grid} {c : Coord} {d : Direction} {n : Nat} (h : n + 1 < g.toEdge c d) :
    (c.move d n).step d = some (c.move d (n + 1)) := by
  have hin := contains_of_toEdge_pos (Nat.zero_lt_of_lt h)
  unfold toEdge at h
  rw [if_pos hin] at h
  cases d with
  | left =>
    have h0 : ¬ c.col - n = 0 := by dsimp only at h; omega
    simp only [Coord.step, Coord.move, if_neg h0, Nat.sub_sub]
  | right => rfl
  | up =>
    have h0 : ¬ c.row - n = 0 := by dsimp only at h; omega
    simp only [Coord.step, Coord.move, if_neg h0, Nat.sub_sub]
  | down => rfl

/-- Moving across a direction changes nothing about the distance in that direction. -/
theorem toEdge_move {g : Grid} {c : Coord} {d e : Direction} {n : Nat}
    (hp : d.isPerpendicular e = true) (h : n < g.toEdge c d) :
    g.toEdge (c.move d n) e = g.toEdge c e := by
  have hin := contains_of_toEdge_pos (Nat.zero_lt_of_lt h)
  have hmoved := contains_move h
  unfold toEdge
  rw [if_pos hin, if_pos hmoved]
  cases d with
  | left | right =>
    cases e with
    | left | right => cases hp
    | up | down => rfl
  | up | down =>
    cases e with
    | left | right => rfl
    | up | down => cases hp

/-! ## 3. Walks -/

/-- How many cells a walk covers. -/
def walkLength (g : Grid) (start : Coord) (d : Direction) : Option Nat → Nat
  | none => g.toEdge start d
  | some n => min n (g.toEdge start d)

theorem walkLength_le_toEdge (g : Grid) (start : Coord) (d : Direction) (maxCount : Option Nat) :
    g.walkLength start d maxCount ≤ g.toEdge start d := by
  cases maxCount with
  | none => exact Nat.le_refl _
  | some n => exact Nat.min_le_right _ _

theorem takeInside_none (g : Grid) (d : Direction) (n : Nat) : g.takeInside d n none = [] := by
  cases n <;> rfl

theorem takeInside_eq (g : Grid) (d : Direction) (n : Nat) (c : Coord) :
    g.takeInside d n (some c) = (List.range (min n (g.toEdge c d))).map (c.move d) := by
  -- on the bound; the address moves on, and with it the distance to the edge
  induction n generalizing c with
  | zero => rw [Nat.zero_min]; rfl
  | succ n ih =>
    unfold takeInside
    by_cases hin : g.contains c = true
    · rw [if_pos hin, toEdge_of_contains hin, Nat.add_min_add_right, List.range_succ_eq_map,
        List.map_cons, List.map_map, Coord.move_zero]
      congr 1
      cases hs : c.step d with
      | none => rw [takeInside_none]; simp
      | some c' =>
        rw [ih, Coord.eq_move_of_step hs]
        apply List.map_congr_left
        intro k _
        show (c.move d 1).move d k = c.move d (k + 1)
        rw [Nat.add_comm k 1, Coord.move_add]
    · rw [if_neg hin, toEdge_of_not_contains hin, Nat.min_zero]
      rfl

/-- **A walk covers the addresses in a line from its start, up to the edge or its bound.** -/
theorem walk_eq_map_move (g : Grid) (start : Coord) (d : Direction) (maxCount : Option Nat) :
    g.walk start d maxCount
      = (List.range (g.walkLength start d maxCount)).map (start.move d) := by
  have hreach := g.toEdge_le_reach start d
  unfold walk
  rw [takeInside_eq]
  congr 2
  cases maxCount with
  | none => exact Nat.min_eq_right hreach
  | some n => show min (min n _) _ = min n _; omega

end Grid

end UsageGrid
