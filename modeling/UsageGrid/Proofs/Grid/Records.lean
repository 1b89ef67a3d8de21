import Mathlib.Data.List.DropRight
import UsageGrid.Grid.Load
import UsageGrid.Proofs.Outcome
import UsageGrid.Proofs.Text.Parts

/-!
# Grids of records

A grid is made of the records of a text, a row each, up to the last with something to read in it
(`ofRecords_cases`). So loading fails only where no field holds more than blanks, and a grid that is
loaded has a cell, ends in a row that is not blank, and holds trimmed texts (`ofText_isLoaded`).
-/

namespace UsageGrid

/-! ## 1. Cells -/

namespace Cell

theorem toList_trim (s : String) : (Text.trim s).toList = Text.trimChars s.toList :=
  String.toList_ofList

theorem ofText_eq_blank {s : String} (h : Text.trimChars s.toList = []) : ofText s = .blank := by
  have htrim : Text.trim s = "" := congrArg String.ofList h
  unfold ofText
  rw [htrim]
  rfl

theorem ofText_eq_text {s : String} (h : Text.trimChars s.toList ≠ []) :
    ofText s = .text (Text.trim s) := by
  have htrim : (Text.trim s).isEmpty = false := by
    rw [Bool.eq_false_iff, Ne, String.isEmpty_iff]
    intro hempty
    rw [← toList_trim, hempty] at h
    exact h rfl
  unfold ofText
  dsimp only
  rw [htrim]
  rfl

theorem isBlank_ofText {s : String} :
    (ofText s).isBlank = true ↔ ∀ c ∈ s.toList, Text.isBlank c = true := by
  rw [← Text.trimChars_eq_nil_iff]
  by_cases h : Text.trimChars s.toList = []
  · rw [ofText_eq_blank h]
    exact iff_of_true rfl h
  · rw [ofText_eq_text h]
    exact iff_of_false Bool.false_ne_true h

/-- Blank, or a text that neither begins nor ends with a blank. -/
def IsTrimmed (c : Cell) : Prop :=
  c = .blank ∨ ∃ s, c = .text s ∧ s ≠ "" ∧
    (∀ x, s.toList.head? = some x → Text.isBlank x = false) ∧
    ∀ x, s.toList.getLast? = some x → Text.isBlank x = false

theorem isTrimmed_ofText (s : String) : (ofText s).IsTrimmed := by
  by_cases h : Text.trimChars s.toList = []
  · exact .inl (ofText_eq_blank h)
  · refine .inr ⟨Text.trim s, ofText_eq_text h, fun hempty => h ?_, fun x hx => ?_, fun x hx => ?_⟩
    · rw [← toList_trim, hempty]
      rfl
    · rw [toList_trim] at hx
      exact Text.trimChars_head hx
    · rw [toList_trim, ← List.head?_reverse] at hx
      exact Text.trimChars_last hx

end Cell

namespace Grid

/-! ## 2. Rows -/

/-- The cells of a record. -/
def cellsOf (record : List (List Char)) : List Cell :=
  record.map fun f => Cell.ofText (String.ofList f)

/-- A field of the records holds more than blanks. -/
def HoldText (records : List (List (List Char))) : Prop :=
  ∃ record ∈ records, ∃ field ∈ record, ∃ c ∈ field, Text.isBlank c = false

theorem isBlankRow_cellsOf {record : List (List Char)} :
    isBlankRow (cellsOf record) = true ↔ ∀ field ∈ record, ∀ c ∈ field, Text.isBlank c = true := by
  unfold isBlankRow cellsOf
  rw [List.all_map, List.all_eq_true]
  refine forall₂_congr fun field _ => ?_
  rw [Function.comp_apply, Cell.isBlank_ofText, String.toList_ofList]

theorem not_holdText_iff {records : List (List (List Char))} : ¬ HoldText records ↔
    ∀ record ∈ records, ∀ field ∈ record, ∀ c ∈ field, Text.isBlank c = true := by
  simp only [HoldText, not_exists, not_and, Bool.not_eq_false]

theorem not_holdText_iff_isBlankRow {records : List (List (List Char))} :
    ¬ HoldText records ↔ ∀ row ∈ records.map cellsOf, isBlankRow row = true := by
  rw [not_holdText_iff, List.forall_mem_map]
  simp only [isBlankRow_cellsOf]

theorem isBlankRow_pad (width : Nat) (row : List Cell) :
    isBlankRow (pad width row) = isBlankRow row := by
  unfold isBlankRow pad
  rw [List.all_append, List.all_replicate]
  split <;> simp [Cell.isBlank]

/-- What is cut at the end of a list is cut from its image. -/
theorem rdropWhile_map {α β : Type} (p : β → Bool) (f : α → β) (l : List α) :
    (l.map f).rdropWhile p = (l.rdropWhile (p ∘ f)).map f := by
  unfold List.rdropWhile
  rw [← List.map_reverse, List.dropWhile_map, List.map_reverse]

/-- Rows can be filled up before those at the end are cut, or after. -/
theorem upToLastFilled_map_pad (width : Nat) (rows : List (List Cell)) :
    upToLastFilled (rows.map (pad width)) = (upToLastFilled rows).map (pad width) := by
  have hblank : isBlankRow ∘ pad width = isBlankRow := funext (isBlankRow_pad width)
  have hcut := rdropWhile_map isBlankRow (pad width) rows
  rwa [hblank] at hcut

theorem upToLastFilled_eq_nil {rows : List (List Cell)} :
    upToLastFilled rows = [] ↔ ∀ row ∈ rows, isBlankRow row = true :=
  List.rdropWhile_eq_nil_iff

/-- A row that is not blank has a cell. -/
theorem longest_pos {rows : List (List Cell)} {row : List Cell} (h : row ∈ rows)
    (hrow : isBlankRow row = false) : 0 < longest rows := by
  refine Nat.lt_of_lt_of_le (List.length_pos_iff.2 ?_) (length_le_longest h)
  rintro rfl
  cases hrow

/-- The rows of records, those at the end cut. -/
theorem rows_dropTrailingBlankRows (rows : List (List Cell)) :
    (ofRows rows).dropTrailingBlankRows.rows = (upToLastFilled rows).map (pad (longest rows)) :=
  upToLastFilled_map_pad _ _

/-- There is no cell at all if and only if no row holds more than blanks. -/
theorem isEmpty_dropTrailingBlankRows (rows : List (List Cell)) :
    (ofRows rows).dropTrailingBlankRows.isEmpty = true ↔ ∀ row ∈ rows, isBlankRow row = true := by
  rw [← upToLastFilled_eq_nil]
  unfold isEmpty
  rw [rows_dropTrailingBlankRows, Bool.or_eq_true, List.isEmpty_iff, List.map_eq_nil_iff,
    beq_iff_eq]
  refine or_iff_left_of_imp fun hwidth => upToLastFilled_eq_nil.2 fun row hrow => ?_
  by_contra hfilled
  exact (longest_pos hrow (Bool.eq_false_iff.2 hfilled)).ne' hwidth

/-- **Records make a grid if and only if one of their fields holds more than blanks.** Its rows are
    the records up to the last one that does. -/
theorem ofRecords_cases (records : List (List (List Char))) :
    (¬ HoldText records ∧ ofRecords records = .error .empty) ∨
    (HoldText records ∧ ∃ g, ofRecords records = .ok g ∧
      g.width = longest (records.map cellsOf) ∧
      g.rows = (upToLastFilled (records.map cellsOf)).map (pad g.width)) := by
  have hempty := isEmpty_dropTrailingBlankRows (records.map cellsOf)
  rw [← not_holdText_iff_isBlankRow] at hempty
  by_cases h : HoldText records
  · refine .inr ⟨h, _, if_neg fun hnone => hempty.1 hnone h, rfl, rows_dropTrailingBlankRows _⟩
  · exact .inl ⟨h, if_pos (hempty.2 h)⟩

/-- What is known of a grid that records make. -/
theorem ofRecords_eq_ok {records : List (List (List Char))} {g : Grid}
    (h : ofRecords records = .ok g) : HoldText records ∧
      g.width = longest (records.map cellsOf) ∧
      g.rows = (upToLastFilled (records.map cellsOf)).map (pad g.width) := by
  rcases ofRecords_cases records with ⟨-, herror⟩ | ⟨hfilled, g', hok, hwidth, hrows⟩
  · rw [herror] at h
    cases h
  · obtain rfl : g' = g := Except.ok.inj (hok.symm.trans h)
    exact ⟨hfilled, hwidth, hrows⟩

theorem longest_eq {rows : List (List Cell)} {n : Nat} (h : ∀ row ∈ rows, row.length = n)
    (hne : rows ≠ []) : longest rows = n := by
  induction rows with
  | nil => exact absurd rfl hne
  | cons row rest ih =>
    obtain ⟨hrow, hrest⟩ := List.forall_mem_cons.1 h
    show max row.length (longest rest) = n
    cases rest with
    | nil => exact (Nat.max_eq_left (Nat.zero_le _)).trans hrow
    | cons next rest => rw [ih hrest (List.cons_ne_nil _ _), hrow, Nat.max_self]

/-- Records of one length, the last of them not blank, are the rows of their grid. -/
theorem ofRecords_rectangular {records : List (List (List Char))} {n : Nat}
    (hlength : ∀ record ∈ records, record.length = n) {last : List (List Char)}
    (hlast : records.getLast? = some last) (hfilled : ∃ f ∈ last, ∃ c ∈ f, Text.isBlank c = false) :
    ∃ g, ofRecords records = .ok g ∧ g.width = n ∧ g.rows = records.map cellsOf := by
  have hmem : last ∈ records := List.mem_of_getLast? hlast
  have hrow : isBlankRow (cellsOf last) = false := by
    rw [Bool.eq_false_iff, Ne, isBlankRow_cellsOf]
    intro hblank
    obtain ⟨f, hf, c, hc, hsolid⟩ := hfilled
    rw [hblank f hf c hc] at hsolid
    cases hsolid
  rcases ofRecords_cases records with ⟨hblank, -⟩ | ⟨-, g, hok, hwidth, hrows⟩
  · exact absurd ⟨last, hmem, hfilled⟩ hblank
  have hlengths : ∀ row ∈ records.map cellsOf, row.length = n := by
    intro row hin
    obtain ⟨record, hrecord, rfl⟩ := List.mem_map.1 hin
    exact (List.length_map _).trans (hlength record hrecord)
  have hn : g.width = n := hwidth.trans
    (longest_eq hlengths (List.ne_nil_of_mem (List.mem_map_of_mem hmem)))
  have hkept : upToLastFilled (records.map cellsOf) = records.map cellsOf := by
    refine List.rdropWhile_eq_self_iff.2 fun hne => ?_
    have hend : some ((records.map cellsOf).getLast hne) = some (cellsOf last) := by
      rw [← List.getLast?_eq_some_getLast, List.getLast?_map, hlast, Option.map_some]
    rw [Option.some.inj hend, hrow]
    exact Bool.false_ne_true
  refine ⟨g, hok, hn, ?_⟩
  rw [hrows, hkept, hn]
  refine (List.map_congr_left fun row hin => ?_).trans (List.map_id _)
  rw [pad, hlengths row hin, Nat.sub_self]
  exact List.append_nil row

/-! ## 3. Loaded grids -/

/-- What every grid is that is made of a text: it has a cell, its rows are of one width, it has a
    cell exactly at the addresses that it contains, the last row is not blank, and no text has
    blanks around it. -/
structure IsLoaded (g : Grid) : Prop where
  height : 1 ≤ g.height
  width : 1 ≤ g.width
  rows : ∀ row ∈ g.rows, row.length = g.width
  contains_iff : ∀ c, g.contains c = true ↔ ∃ cell, g.get? c = some cell
  last : ∃ row, g.rows.getLast? = some row ∧ ∃ cell ∈ row, cell ≠ .blank
  cells : ∀ row ∈ g.rows, ∀ cell ∈ row, cell.IsTrimmed

theorem isTrimmed_of_mem_pad {width : Nat} {record : List (List Char)} {cell : Cell}
    (h : cell ∈ pad width (cellsOf record)) : cell.IsTrimmed := by
  rcases List.mem_append.1 h with h | h
  · obtain ⟨f, -, rfl⟩ := List.mem_map.1 h
    exact Cell.isTrimmed_ofText _
  · exact .inl (List.eq_of_mem_replicate h)

theorem exists_filled_cell {row : List Cell} (h : isBlankRow row = false) :
    ∃ cell ∈ row, cell ≠ .blank := by
  obtain ⟨cell, hcell, hblank⟩ := List.all_eq_false.1 h
  refine ⟨cell, hcell, ?_⟩
  rintro rfl
  exact hblank rfl

/-- The last of the rows that are kept is not blank. -/
theorem getLast?_upToLastFilled {rows : List (List Cell)} (h : upToLastFilled rows ≠ []) :
    ∃ row, (upToLastFilled rows).getLast? = some row ∧ isBlankRow row = false :=
  ⟨_, List.getLast?_eq_some_getLast h,
    Bool.eq_false_iff.2 (List.rdropWhile_last_not isBlankRow rows h)⟩

/-- **A grid of records is loaded.** -/
theorem isLoaded_ofRecords {records : List (List (List Char))} {g : Grid}
    (h : ofRecords records = .ok g) : g.IsLoaded := by
  obtain ⟨hfilled, hwidth, hrows⟩ := ofRecords_eq_ok h
  have hkept : upToLastFilled (records.map cellsOf) ≠ [] := fun hnil =>
    not_holdText_iff_isBlankRow.2 (upToLastFilled_eq_nil.1 hnil) hfilled
  obtain ⟨row, hlast, hrow⟩ := getLast?_upToLastFilled hkept
  constructor
  · show 1 ≤ g.rows.length
    rw [hrows, List.length_map]
    exact List.length_pos_iff.2 hkept
  · rw [hwidth]
    exact longest_pos (mem_of_mem_upToLastFilled (List.mem_of_getLast? hlast)) hrow
  · exact g.width_eq
  · intro c
    rw [← isSome_get?, Option.isSome_iff_exists]
  · refine ⟨pad g.width row, ?_, exists_filled_cell ?_⟩
    · rw [hrows, List.getLast?_map, hlast]
      rfl
    · rw [isBlankRow_pad]
      exact hrow
  · intro row hrow cell hcell
    rw [hrows] at hrow
    obtain ⟨kept, hmem, rfl⟩ := List.mem_map.1 hrow
    obtain ⟨record, -, rfl⟩ := List.mem_map.1 (mem_of_mem_upToLastFilled hmem)
    exact isTrimmed_of_mem_pad hcell

/-- Every grid of a file is loaded, whatever its encoding and its delimiter. -/
theorem isLoaded_ofBytes {bytes : List UInt8} {g : Grid} (h : ofBytes bytes = .ok g) :
    g.IsLoaded := by
  obtain ⟨text, -, hrecords⟩ := bind_eq_ok.1 h
  exact isLoaded_ofRecords hrecords

/-- **Loading fails only where there is nothing to read, and what is loaded is well-formed.** -/
theorem ofText_isLoaded (text : List Char) (delimiter : Char) :
    (∀ e, ofText text delimiter = .error e ↔ e = .empty ∧
      ∀ record ∈ Csv.readText delimiter text, ∀ field ∈ record, ∀ c ∈ field,
        Text.isBlank c = true) ∧
    ∀ g, ofText text delimiter = .ok g → g.IsLoaded := by
  refine ⟨fun e => ?_, fun g hg => isLoaded_ofRecords hg⟩
  unfold ofText
  rw [← not_holdText_iff]
  rcases ofRecords_cases (Csv.readText delimiter text) with ⟨hblank, herror⟩ | ⟨hfilled, g, hok, -⟩
  · rw [herror, Except.error.injEq, eq_comm]
    exact (and_iff_left hblank).symm
  · rw [hok]
    exact iff_of_false (fun h => nomatch h) fun h => h.2 hfilled

/-- A text that makes a grid, and one of blanks and a quoted line end that makes none. -/
theorem trailedSheet_isLoaded :
    (∃ g, ofText "Views; 4\r\n ;\r\n".toList ';' = .ok g ∧ g.height = 1 ∧ g.IsLoaded) ∧
    ofText " ;\x22\n\x22\r\n\t\n".toList ';' = .error .empty := by
  obtain ⟨g, hg, hheight⟩ := exists_ok_of_any
    (x := ofText "Views; 4\r\n ;\r\n".toList ';') (p := fun g => g.height == 1)
    (by decide +kernel)
  have hblank : (Csv.readText ';' " ;\x22\n\x22\r\n\t\n".toList).all
      (·.all (·.all Text.isBlank)) = true := by decide +kernel
  simp only [List.all_eq_true] at hblank
  exact ⟨⟨g, hg, beq_iff_eq.1 hheight, (ofText_isLoaded _ _).2 g hg⟩,
    ((ofText_isLoaded _ _).1 .empty).2 ⟨rfl, hblank⟩⟩

end Grid

end UsageGrid
