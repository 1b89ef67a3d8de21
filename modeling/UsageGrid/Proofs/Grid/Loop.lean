import Mathlib.Data.List.Nodup
import Mathlib.Data.List.Range
import UsageGrid.Proofs.Grid.Walk

/-!
# Walks turn by turn

A machine walks in a loop that nothing but the edge or the bound ends, and its rows and columns are
words: one more than the last word is an overflow. One turn of the loop (`Way.turn`) takes the
address ahead and steps on. `Way.after` is where the turns lead: inside the walk a turn leads to the
next of them (`turn_on`), at its end the loop is over (`turn_over`). So the loop is over after as
many turns as the walk has cells, without an overflow (`walk_loops`).
-/

namespace UsageGrid

/-- Row and column are words, of which there are so many. -/
def Coord.IsWords (words : Nat) (c : Coord) : Prop := c.row < words ∧ c.col < words

instance (words : Nat) (c : Coord) : Decidable (c.IsWords words) :=
  inferInstanceAs (Decidable (_ ∧ _))

namespace Grid

/-! ## 1. The loop -/

/-- A walk on its way: the addresses it has taken, and the one ahead. There is none where it would
    leave over the top or the left edge. -/
structure Way where
  taken : List Coord
  ahead : Option Coord

/-- What a turn comes to. -/
inductive Turn where
  | over (cells : List Coord)
  | on (way : Way)
  | overflow

/-- The bound of a walk, if it has one, is reached. -/
def isReached (maxCount : Option Nat) (taken : List Coord) : Bool :=
  maxCount.any (decide <| · ≤ taken.length)

/-- One turn of the loop. -/
def Way.turn (words : Nat) (g : Grid) (d : Direction) (maxCount : Option Nat) (way : Way) : Turn :=
  match way.ahead with
  | none => .over way.taken
  | some c =>
    if !g.contains c || isReached maxCount way.taken then .over way.taken
    else
      match c.step d with
      | none => .on ⟨way.taken ++ [c], none⟩
      | some next =>
        if next.IsWords words then .on ⟨way.taken ++ [c], some next⟩ else .overflow

/-- From here the loop is over after so many turns, with these addresses, and none of the turns
    overflows. -/
inductive Loops (words : Nat) (g : Grid) (d : Direction) (maxCount : Option Nat) :
    Nat → Way → List Coord → Prop where
  | over {way : Way} {cells : List Coord} (turn : way.turn words g d maxCount = .over cells) :
      Loops words g d maxCount 0 way cells
  | on {turns : Nat} {way next : Way} {cells : List Coord}
      (turn : way.turn words g d maxCount = .on next)
      (later : Loops words g d maxCount turns next cells) :
      Loops words g d maxCount (turns + 1) way cells

/-! ## 2. Where the turns lead -/

variable {g : Grid} {start : Coord} {d : Direction} {maxCount : Option Nat} {n words : Nat}

/-- Each cell of a walk is one nearer to the edge. -/
theorem toEdge_move_along (h : n < g.toEdge start d) :
    g.toEdge (start.move d n) d = g.toEdge start d - n := by
  induction n with
  | zero => rw [Coord.move_zero, Nat.sub_zero]
  | succ n ih =>
    have hbefore := ih (Nat.lt_of_succ_lt h)
    rw [toEdge_of_contains (contains_move (Nat.lt_of_succ_lt h)), step_move h, Option.map_some,
      Option.getD_some] at hbefore
    omega

/-- Beyond the last cell before the edge there is no cell. -/
theorem contains_step_last {next : Coord} (h : n + 1 = g.toEdge start d)
    (hstep : (start.move d n).step d = some next) : g.contains next = false := by
  have hlast := toEdge_move_along (Nat.lt_of_succ_le h.le)
  rw [toEdge_of_contains (contains_move (by omega)), hstep, Option.map_some,
    Option.getD_some] at hlast
  refine Bool.eq_false_iff.2 fun hin => ?_
  rw [toEdge_of_contains hin] at hlast
  omega

/-- A step from a cell of the grid leads to words, for there is room for its size in a word. -/
theorem isWords_step {c next : Coord} (hheight : g.height < words) (hwidth : g.width < words)
    (hin : g.contains c = true) (hstep : c.step d = some next) : next.IsWords words := by
  obtain ⟨hrow, hcol⟩ := contains_iff.1 hin
  rw [Coord.eq_move_of_step hstep]
  cases d with
  | left => exact ⟨Nat.lt_trans hrow hheight, show c.col - 1 < words by omega⟩
  | right => exact ⟨Nat.lt_trans hrow hheight, show c.col + 1 < words by omega⟩
  | up => exact ⟨show c.row - 1 < words by omega, Nat.lt_trans hcol hwidth⟩
  | down => exact ⟨show c.row + 1 < words by omega, Nat.lt_trans hcol hwidth⟩

/-- The way after so many turns. -/
def Way.after (start : Coord) (d : Direction) : Nat → Way
  | 0 => ⟨[], some start⟩
  | n + 1 => ⟨(List.range (n + 1)).map (start.move d), (start.move d n).step d⟩

theorem taken_after : (Way.after start d n).taken = (List.range n).map (start.move d) := by
  cases n <;> rfl

theorem length_taken_after : (Way.after start d n).taken.length = n := by
  rw [taken_after, List.length_map, List.length_range]

/-- Before the edge the cell ahead is the next in the line. -/
theorem ahead_after (h : n < g.toEdge start d) :
    (Way.after start d n).ahead = some (start.move d n) := by
  cases n with
  | zero => rw [Coord.move_zero]; rfl
  | succ n => exact step_move h

/-- **Inside the walk a turn takes the next cell.** -/
theorem turn_on (hheight : g.height < words) (hwidth : g.width < words)
    (h : n < g.walkLength start d maxCount) :
    (Way.after start d n).turn words g d maxCount = .on (Way.after start d (n + 1)) := by
  have hedge : n < g.toEdge start d :=
    Nat.lt_of_lt_of_le h (g.walkLength_le_toEdge start d maxCount)
  have hin := contains_move hedge
  have hreached : isReached maxCount (Way.after start d n).taken = false := by
    cases maxCount with
    | none => rfl
    | some m =>
      have hm : n < min m (g.toEdge start d) := h
      show decide (m ≤ (Way.after start d n).taken.length) = false
      rw [length_taken_after, decide_eq_false_iff_not]
      omega
  have htaken : (Way.after start d n).taken ++ [start.move d n]
      = (List.range (n + 1)).map (start.move d) := by
    rw [taken_after, List.range_succ, List.map_append, List.map_singleton]
  unfold Way.turn
  rw [ahead_after hedge]
  dsimp only
  rw [hin, hreached, htaken]
  show (match (start.move d n).step d with
    | none => Turn.on _
    | some next => if next.IsWords words then Turn.on _ else Turn.overflow) = Turn.on ⟨_, _⟩
  cases hstep : (start.move d n).step d with
  | none => rfl
  | some next => exact if_pos (isWords_step hheight hwidth hin hstep)

/-- **At the end of the walk the loop is over.** -/
theorem turn_over (h : n = g.walkLength start d maxCount) :
    (Way.after start d n).turn words g d maxCount = .over ((List.range n).map (start.move d)) := by
  rw [← taken_after]
  unfold Way.turn
  split
  · rfl
  rename_i c hahead
  refine if_pos ?_
  rw [Bool.or_eq_true, Bool.not_eq_true']
  by_cases hedge : n = g.toEdge start d
  · -- over the edge
    left
    cases n with
    | zero =>
      obtain rfl := Option.some.inj hahead
      refine Bool.eq_false_iff.2 fun hin => ?_
      rw [toEdge_of_contains hin] at hedge
      omega
    | succ n => exact contains_step_last hedge hahead
  · -- at the bound
    right
    cases maxCount with
    | none => exact absurd h hedge
    | some m =>
      have hm : n = min m (g.toEdge start d) := h
      show decide (m ≤ (Way.after start d n).taken.length) = true
      rw [length_taken_after, decide_eq_true_eq]
      omega

/-- From any turn of a walk the loop goes on to the end of the walk. -/
theorem loops_after (hheight : g.height < words) (hwidth : g.width < words) (turns : Nat)
    (h : n + turns = g.walkLength start d maxCount) :
    Loops words g d maxCount turns (Way.after start d n) (g.walk start d maxCount) := by
  -- on the turns to come
  induction turns generalizing n with
  | zero =>
    rw [walk_eq_map_move, ← h]
    exact .over (turn_over h)
  | succ turns ih =>
    exact .on (turn_on hheight hwidth (by omega)) (ih (by omega))

/-! ## 3. The walk -/

/-- Two addresses in the line of a walk differ. -/
theorem move_injOn {m : Nat} (hm : m < g.toEdge start d) (hn : n < g.toEdge start d)
    (h : start.move d m = start.move d n) : m = n := by
  have hdistance : g.toEdge (start.move d m) d = g.toEdge (start.move d n) d := by rw [h]
  rw [toEdge_move_along hm, toEdge_move_along hn] at hdistance
  omega

theorem walkLength_congr {g' : Grid} (hheight : g'.height = g.height) (hwidth : g'.width = g.width)
    (start : Coord) (d : Direction) (maxCount : Option Nat) :
    g'.walkLength start d maxCount = g.walkLength start d maxCount := by
  have hcontains : g'.contains start = g.contains start := by
    unfold contains
    rw [hheight, hwidth]
  have hedge : g'.toEdge start d = g.toEdge start d := by
    unfold toEdge
    rw [hcontains, hheight, hwidth]
  cases maxCount with
  | none => exact hedge
  | some m => exact congrArg (min m) hedge

/-- **A walk ends, with the cells in a line from its start**, as many as there are to the edge or as
    its bound allows. The loop is over after as many turns, and no row or column overflows. All
    cells are in the grid, no two are the same, each is a step from the one before, and a grid of
    the same size has the same walk, whatever its cells hold. -/
theorem walk_loops (g : Grid) (start : Coord) (d : Direction) (maxCount : Option Nat) {words : Nat}
    (hheight : g.height < words) (hwidth : g.width < words) :
    Loops words g d maxCount (g.walkLength start d maxCount) ⟨[], some start⟩
        (g.walk start d maxCount) ∧
      g.walk start d maxCount
        = (List.range (g.walkLength start d maxCount)).map (start.move d) ∧
      (g.walk start d maxCount).IsChain (fun a b => a.step d = some b) ∧
      (∀ c ∈ g.walk start d maxCount, g.contains c = true) ∧
      (g.walk start d maxCount).Nodup ∧
      ∀ g' : Grid, g'.height = g.height → g'.width = g.width →
        g'.walk start d maxCount = g.walk start d maxCount := by
  have hline := g.walk_eq_map_move start d maxCount
  have hedge : ∀ k ∈ List.range (g.walkLength start d maxCount), k < g.toEdge start d :=
    fun k hk =>
      Nat.lt_of_lt_of_le (List.mem_range.1 hk) (g.walkLength_le_toEdge start d maxCount)
  refine ⟨loops_after (n := 0) hheight hwidth _ (Nat.zero_add _), hline, ?_, ?_, ?_, ?_⟩
  · rw [hline, List.isChain_map, List.isChain_range]
    exact fun k hk => step_move (hedge _ (List.mem_range.2 (by omega)))
  · rw [hline]
    exact List.forall_mem_map.2 fun k hk => contains_move (hedge k hk)
  · rw [hline]
    exact List.nodup_range.map_on fun k hk m hm => move_injOn (hedge k hk) (hedge m hm)
  · intro g' hheight' hwidth'
    rw [hline, walk_eq_map_move, walkLength_congr hheight' hwidth']

/-- Three rows, the last of them a cell short. -/
def exampleWalked : Grid :=
  ofRows [[.blank, .text "Jan-21", .text "Feb-21"], [.text "Views", .text "4", .text "5"],
    [.text "Clicks", .text "1"]]

/-- Down the last column, in words of 64 bits. -/
theorem walk_loops_down :
    exampleWalked.height < UInt64.size ∧ exampleWalked.width < UInt64.size ∧
      exampleWalked.walk ⟨0, 2⟩ .down (some 10) = [⟨0, 2⟩, ⟨1, 2⟩, ⟨2, 2⟩] ∧
      Loops UInt64.size exampleWalked .down (some 10) 3 ⟨[], some ⟨0, 2⟩⟩
        [⟨0, 2⟩, ⟨1, 2⟩, ⟨2, 2⟩] ∧
      ([⟨0, 2⟩, ⟨1, 2⟩, ⟨2, 2⟩] : List Coord).Nodup := by
  have hheight : exampleWalked.height < UInt64.size := by decide
  have hwidth : exampleWalked.width < UInt64.size := by decide
  obtain ⟨hloops, -, -, -, hnodup, -⟩ :=
    walk_loops exampleWalked ⟨0, 2⟩ .down (some 10) hheight hwidth
  exact ⟨hheight, hwidth, rfl, hloops, hnodup⟩

end Grid

end UsageGrid
