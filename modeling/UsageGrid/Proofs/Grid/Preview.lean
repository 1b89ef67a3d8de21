import UsageGrid.Grid.Preview
import UsageGrid.Proofs.Decimal.Digits
import UsageGrid.Proofs.Grid.Load
import UsageGrid.Proofs.Outcome

/-!
# The lines of a preview

A preview is made of texts, each with a line feed behind it: the column numbers, a text for each row
that is shown, and the count of the rows left out (`preview_eq`). The cells are in these texts as
they are, so each text is one line exactly if no cell has a line feed in it (`isLinePerRow_iff`). A
cell of a loaded grid has one where its field had, in quotes (`brokenSheet_preview`).
-/

namespace UsageGrid

/-! ## 1. Line feeds -/

/-- No line feed is in the text. -/
def OneLine (s : String) : Prop := '\n' ∉ s.toList

instance (s : String) : Decidable (OneLine s) := inferInstanceAs (Decidable ('\n' ∉ s.toList))

theorem oneLine_append {s t : String} : OneLine (s ++ t) ↔ OneLine s ∧ OneLine t := by
  unfold OneLine
  rw [String.toList_append, List.mem_append, not_or]

theorem lineFeed_not_mem_toDigits (n : Nat) : '\n' ∉ Nat.toDigits 10 n :=
  fun h => absurd (Decimal.isDigit_of_mem_toDigits h) (by decide)

theorem oneLine_toString (n : Nat) : OneLine (toString n) := by
  have hdigits : (toString n).toList = Nat.toDigits 10 n := String.toList_ofList
  unfold OneLine
  rw [hdigits]
  exact lineFeed_not_mem_toDigits n

theorem lineFeed_not_mem_positional {digits : List Char} (h : '\n' ∉ digits) (point : Int) :
    '\n' ∉ Decimal.positional .plain digits point := by
  have hzeros (n : Nat) : '\n' ∉ Decimal.zeros n := fun hmem =>
    absurd (List.eq_of_mem_replicate hmem) (by decide)
  have htake : '\n' ∉ digits.take point.toNat := fun hmem => h (List.mem_of_mem_take hmem)
  have hdrop : '\n' ∉ digits.drop point.toNat := fun hmem => h (List.mem_of_mem_drop hmem)
  unfold Decimal.positional
  dsimp only
  split
  · simp [hzeros, h]
  · split
    · simp [hzeros, h, Decimal.Layout.plain]
    · simp [htake, hdrop]

/-- A number is shown by digits, a point and a sign. -/
theorem oneLine_render (x : Binary64) : OneLine (Decimal.Layout.plain.render x) := by
  have hpositional (point : Int) : Decimal.Layout.plain.isPositional point = true := rfl
  have hsign : '\n' ∉ (if x.negative then ['-'] else []) := by split <;> decide
  unfold OneLine Decimal.Layout.render
  dsimp only
  split
  · rw [String.toList_ofList, List.mem_append, not_or]
    exact ⟨hsign, by decide⟩
  · rw [String.toList_ofList, List.mem_append, not_or, if_pos (hpositional _)]
    exact ⟨hsign, lineFeed_not_mem_positional (lineFeed_not_mem_toDigits _) _⟩

/-- The line feeds of texts that each have one behind them. -/
theorem count_lineFeeds (texts : List (List Char)) :
    (texts.flatMap (· ++ ['\n'])).count '\n' = texts.length + texts.flatten.count '\n' := by
  induction texts with
  | nil => rfl
  | cons t texts ih =>
    rw [List.flatMap_cons, List.count_append, List.count_append, ih, List.length_cons,
      List.flatten_cons, List.count_append, List.count_singleton_self]
    omega

/-- The text consists of these lines, each with a line feed behind it. -/
structure HasLines (s : String) (lines : List (List Char)) : Prop where
  toList_eq : s.toList = lines.flatMap (· ++ ['\n'])
  oneLine : ∀ line ∈ lines, '\n' ∉ line

/-- There are as many lines as line feeds. -/
theorem HasLines.length_eq {s : String} {lines : List (List Char)} (h : HasLines s lines) :
    lines.length = s.toList.count '\n' := by
  have hnone : '\n' ∉ lines.flatten := fun hmem =>
    have ⟨line, hline, hfeed⟩ := List.mem_flatten.1 hmem
    h.oneLine line hline hfeed
  rw [h.toList_eq, count_lineFeeds, List.count_eq_zero.2 hnone, Nat.add_zero]

namespace Grid

theorem oneLine_bars {parts : List String} :
    OneLine (bars parts) ↔ ∀ p ∈ parts, OneLine p := by
  unfold bars
  induction parts with
  | nil => exact iff_of_true (by decide) nofun
  | cons p parts ih =>
    cases parts with
    | nil => rw [String.intercalate_singleton, List.forall_mem_singleton]
    | cons q parts =>
      have hbar : OneLine " | " := by decide
      rw [String.intercalate_cons_cons, oneLine_append, oneLine_append, ih, and_iff_left hbar,
        ← List.forall_mem_cons]

/-! ## 2. The texts of a preview -/

def headerText (g : Grid) : String := "row\\col | " ++ bars ((List.range g.width).map toString)

def rowText (i : Nat) (row : List Cell) : String :=
  toString i ++ " | " ++ bars (row.map Cell.shown)

/-- The texts of rows, counted from `i`. -/
def rowTexts (i : Nat) : List (List Cell) → List String
  | [] => []
  | row :: rest => rowText i row :: rowTexts (i + 1) rest

def trailerTexts (g : Grid) (maxRows : Nat) : List String :=
  if maxRows < g.height then ["... (" ++ toString (g.height - maxRows) ++ " more rows)"] else []

def previewTexts (g : Grid) (maxRows : Nat) : List String :=
  g.headerText :: rowTexts 0 (g.rows.take maxRows) ++ g.trailerTexts maxRows

theorem length_rowTexts (i : Nat) (rows : List (List Cell)) :
    (rowTexts i rows).length = rows.length := by
  induction rows generalizing i with
  | nil => rfl
  | cons row rest ih => exact congrArg (· + 1) (ih (i + 1))

theorem length_trailerTexts (g : Grid) (maxRows : Nat) :
    (g.trailerTexts maxRows).length = if maxRows < g.height then 1 else 0 := by
  unfold trailerTexts
  split <;> rfl

theorem getElem?_rowTexts (i n : Nat) (rows : List (List Cell)) :
    (rowTexts i rows)[n]? = rows[n]?.map (rowText (i + n)) := by
  induction rows generalizing i n with
  | nil => rfl
  | cons row rest ih =>
    cases n with
    | zero => rfl
    | succ n =>
      rw [rowTexts, List.getElem?_cons_succ, List.getElem?_cons_succ, ih, Nat.add_assoc,
        Nat.add_comm 1 n]

theorem previewLines_eq (i : Nat) (rows : List (List Cell)) :
    previewLines i rows = (rowTexts i rows).map (· ++ "\n") := by
  induction rows generalizing i with
  | nil => rfl
  | cons row rest ih => rw [previewLines, rowTexts, List.map_cons, ih, previewLine, rowText]

theorem previewTrailer_eq (g : Grid) (maxRows : Nat) :
    g.previewTrailer maxRows = (g.trailerTexts maxRows).map (· ++ "\n") := by
  unfold previewTrailer trailerTexts
  have hend : " more rows)\n" = " more rows)" ++ "\n" := rfl
  split
  · rw [List.map_singleton, hend, ← String.append_assoc]
  · rfl

theorem preview_eq (g : Grid) (maxRows : Nat) :
    g.preview maxRows = String.join ((g.previewTexts maxRows).map (· ++ "\n")) := by
  unfold preview previewTexts
  rw [List.map_append, List.map_cons, previewLines_eq, previewTrailer_eq]
  rfl

theorem toList_join_map (texts : List String) :
    (String.join (texts.map (· ++ "\n"))).toList
      = (texts.map String.toList).flatMap (· ++ ['\n']) := by
  rw [String.toList_join, List.flatMap_map, List.flatMap_map]
  simp only [String.toList_append]
  rfl

/-! ## 3. A line for each row -/

theorem oneLine_shown {c : Cell} : OneLine c.shown ↔ ∀ s, c = .text s → '\n' ∉ s.toList := by
  cases c with
  | blank => exact iff_of_true (by decide) nofun
  | text t => simp [OneLine, Cell.shown, Cell.content?]
  | number x => exact iff_of_true (oneLine_render x) nofun

theorem oneLine_rowText {i : Nat} {row : List Cell} :
    OneLine (rowText i row) ↔ ∀ s, Cell.text s ∈ row → '\n' ∉ s.toList := by
  have hbar : OneLine " | " := by decide
  unfold rowText
  rw [oneLine_append, oneLine_append, and_iff_right ⟨oneLine_toString i, hbar⟩, oneLine_bars,
    List.forall_mem_map]
  constructor
  · exact fun h s hs => oneLine_shown.1 (h _ hs) s rfl
  · rintro h c hc
    refine oneLine_shown.2 ?_
    rintro s rfl
    exact h s hc

theorem oneLine_rowTexts {i : Nat} {rows : List (List Cell)} :
    (∀ t ∈ rowTexts i rows, OneLine t) ↔
      ∀ row ∈ rows, ∀ s, Cell.text s ∈ row → '\n' ∉ s.toList := by
  induction rows generalizing i with
  | nil => exact iff_of_true nofun nofun
  | cons row rest ih =>
    rw [rowTexts, List.forall_mem_cons, List.forall_mem_cons, oneLine_rowText, ih]

theorem oneLine_headerText (g : Grid) : OneLine g.headerText := by
  have hhead : OneLine "row\\col | " := by decide
  refine oneLine_append.2 ⟨hhead, oneLine_bars.2 (List.forall_mem_map.2 fun n _ => ?_)⟩
  exact oneLine_toString n

theorem oneLine_trailerTexts (g : Grid) (maxRows : Nat) :
    ∀ t ∈ g.trailerTexts maxRows, OneLine t := by
  unfold trailerTexts
  split
  · have hopen : OneLine "... (" := by decide
    have hclose : OneLine " more rows)" := by decide
    refine List.forall_mem_singleton.2 ?_
    exact oneLine_append.2 ⟨oneLine_append.2 ⟨hopen, oneLine_toString _⟩, hclose⟩
  · nofun

/-- The preview is a header, a line for each row that is shown with the index of the row in front,
    and one more line if and only if rows are left out. -/
def IsLinePerRow (g : Grid) (maxRows : Nat) : Prop :=
  ∃ header rows trailer, HasLines (g.preview maxRows) (header :: rows ++ trailer) ∧
    rows.length = min maxRows g.height ∧
    (∀ (i : Nat) (line : List Char), rows[i]? = some line → (toString i ++ " | ").toList <+: line) ∧
    trailer.length = if maxRows < g.height then 1 else 0

theorem length_shownTexts (g : Grid) (maxRows : Nat) :
    (rowTexts 0 (g.rows.take maxRows)).length = min maxRows g.height := by
  rw [length_rowTexts, List.length_take]
  rfl

/-- With a line for each row there are no more line feeds than those behind the texts. -/
theorem IsLinePerRow.oneLine {g : Grid} {maxRows : Nat} (h : g.IsLinePerRow maxRows) :
    ∀ t ∈ rowTexts 0 (g.rows.take maxRows), OneLine t := by
  obtain ⟨header, rows, trailer, hlines, hrows, -, htrailer⟩ := h
  have hcount := hlines.length_eq
  rw [preview_eq, toList_join_map, count_lineFeeds, List.length_map, previewTexts] at hcount
  simp only [List.length_append, List.length_cons, hrows, htrailer, length_shownTexts,
    length_trailerTexts] at hcount
  have hnone := List.count_eq_zero.1 (Nat.add_eq_left.1 hcount.symm)
  intro t ht hfeed
  have htext : t.toList ∈ (g.previewTexts maxRows).map String.toList :=
    List.mem_map_of_mem (List.mem_append_left _ (List.mem_cons_of_mem _ ht))
  exact hnone (List.mem_flatten.2 ⟨_, htext, hfeed⟩)

/-- **The preview has a line for each row exactly if no text that is shown has a line feed in it.**
    A line feed in a cell begins a line that has no index in front. -/
theorem isLinePerRow_iff (g : Grid) (maxRows : Nat) : g.IsLinePerRow maxRows ↔
    ∀ row ∈ g.rows.take maxRows, ∀ s, Cell.text s ∈ row → '\n' ∉ s.toList := by
  rw [← @oneLine_rowTexts 0]
  refine ⟨IsLinePerRow.oneLine, fun hrows => ?_⟩
  refine ⟨g.headerText.toList, (rowTexts 0 (g.rows.take maxRows)).map String.toList,
    (g.trailerTexts maxRows).map String.toList, ⟨?_, ?_⟩, ?_, ?_, ?_⟩
  · rw [preview_eq, toList_join_map, previewTexts, List.map_append, List.map_cons]
  · rw [← List.map_cons, ← List.map_append, List.forall_mem_map]
    refine List.forall_mem_append.2 ⟨?_, g.oneLine_trailerTexts maxRows⟩
    exact List.forall_mem_cons.2 ⟨g.oneLine_headerText, hrows⟩
  · rw [List.length_map, length_shownTexts]
  · intro i line hline
    rw [List.getElem?_map, getElem?_rowTexts, Nat.zero_add, Option.map_map] at hline
    obtain ⟨row, -, rfl⟩ := Option.map_eq_some_iff.1 hline
    exact ⟨_, String.toList_append.symm⟩
  · rw [List.length_map, length_trailerTexts]

/-- A sheet with a line break in its first field. -/
def brokenSheet : List Char := "\"a\nb\",c\n".toList

/-- **A field in quotes can break its line**: its cell is shown with the line feed. -/
theorem brokenSheet_preview : ∃ g, ofBytes (String.ofList brokenSheet).toUTF8.toList = .ok g ∧
    g.preview 5 = "row\\col | 0 | 1\n0 | a\nb | c\n" ∧ ¬ g.IsLinePerRow 5 := by
  have hascii : (brokenSheet.all fun c => decide (c.toNat < 128)) = true := by decide +kernel
  rw [ofBytes_ascii fun c hc => of_decide_eq_true (List.all_eq_true.1 hascii c hc)]
  obtain ⟨g, hg, hshown⟩ := exists_ok_of_any
    (x := ofText brokenSheet (Csv.detectDelimiter brokenSheet))
    (p := fun g => decide (g.rows = [[.text "a\nb", .text "c"]]) &&
      decide (g.preview 5 = "row\\col | 0 | 1\n0 | a\nb | c\n"))
    (by decide +kernel)
  rw [Bool.and_eq_true, decide_eq_true_iff, decide_eq_true_iff] at hshown
  obtain ⟨hrows, hpreview⟩ := hshown
  refine ⟨g, hg, hpreview, fun h => ?_⟩
  have hline := h.oneLine
  rw [hrows] at hline
  exact absurd (hline _ List.mem_cons_self) (by decide +kernel)

end Grid

end UsageGrid
