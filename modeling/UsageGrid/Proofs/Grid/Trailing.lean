import UsageGrid.Extraction.Filter
import UsageGrid.Proofs.Csv.Append
import UsageGrid.Proofs.Grid.Records
import UsageGrid.Rules.Example

/-!
# Blank rows at the end

Blank rows at the end of a grid are cut, but not before all rows have been filled up: a blank row
that is longer than the others leaves its width behind, and a walk to the edge of the grid goes on
into the columns it has added (`wideBlankRow_counts`). A blank row that is no longer leaves nothing,
and neither do lines of bare delimiters at the end of a text (`trailing_blank_rows`).
-/

namespace UsageGrid.Grid

open Extraction Rules

/-! ## 1. Rows behind one another -/

variable {rows more : List (List Cell)}

theorem longest_append : longest (rows ++ more) = max (longest rows) (longest more) := by
  induction rows with
  | nil => exact (Nat.zero_max _).symm
  | cons row rows ih =>
    show max row.length (longest (rows ++ more)) = max (max row.length (longest rows)) _
    rw [ih, Nat.max_assoc]

theorem longest_le_iff {n : Nat} : longest rows ≤ n ↔ ∀ row ∈ rows, row.length ≤ n := by
  refine ⟨fun h row hrow => (length_le_longest hrow).trans h, fun h => ?_⟩
  induction rows with
  | nil => exact Nat.zero_le n
  | cons row rows ih =>
    obtain ⟨hrow, hrows⟩ := List.forall_mem_cons.1 h
    exact Nat.max_le.2 ⟨hrow, ih hrows⟩

theorem upToLastFilled_append (h : ∀ row ∈ more, isBlankRow row = true) :
    upToLastFilled (rows ++ more) = upToLastFilled rows := by
  unfold upToLastFilled
  rw [List.reverse_append,
    List.dropWhile_append_of_pos fun row hrow => h row (List.mem_reverse.1 hrow)]

/-- **Blank rows at the end change the grid exactly if one of them is longer than the rows before
    them.** -/
theorem dropTrailingBlankRows_append_iff (h : ∀ row ∈ more, isBlankRow row = true) :
    (ofRows (rows ++ more)).dropTrailingBlankRows = (ofRows rows).dropTrailingBlankRows ↔
      ∀ row ∈ more, row.length ≤ longest rows := by
  rw [← longest_le_iff]
  constructor
  · intro heq
    have hwidth : longest (rows ++ more) = longest rows := congrArg width heq
    rw [longest_append] at hwidth
    exact (Nat.le_max_right _ _).trans_eq hwidth
  · intro hle
    have hwidth : longest (rows ++ more) = longest rows := by
      rw [longest_append, Nat.max_eq_left hle]
    have hrows : (ofRows (rows ++ more)).dropTrailingBlankRows.rows
        = (ofRows rows).dropTrailingBlankRows.rows := by
      rw [rows_dropTrailingBlankRows, rows_dropTrailingBlankRows, upToLastFilled_append h, hwidth]
    unfold dropTrailingBlankRows at hrows ⊢
    exact Grid.mk.injEq .. ▸ ⟨hrows, hwidth⟩

/-! ## 2. Lines at the end of a text -/

theorem ofRecords_eq (records : List (List (List Char))) :
    ofRecords records = (if (ofRows (records.map cellsOf)).dropTrailingBlankRows.isEmpty
      then .error .empty else .ok (ofRows (records.map cellsOf)).dropTrailingBlankRows) := rfl

theorem ofRecords_append {records more : List (List (List Char))} (hmore : ¬ HoldText more)
    (hlength : ∀ record ∈ more, record.length ≤ longest (records.map cellsOf)) :
    ofRecords (records ++ more) = ofRecords records := by
  have hsame : (ofRows ((records ++ more).map cellsOf)).dropTrailingBlankRows
      = (ofRows (records.map cellsOf)).dropTrailingBlankRows := by
    rw [List.map_append]
    refine (dropTrailingBlankRows_append_iff (not_holdText_iff_isBlankRow.1 hmore)).2 ?_
    refine List.forall_mem_map.2 fun record hrecord => ?_
    rw [cellsOf, List.length_map]
    exact hlength record hrecord
  rw [ofRecords_eq, ofRecords_eq, hsame]

variable {delimiter : Char} {text lines : List Char}

/-- Lines of bare delimiters at the end of a text leave its grid as it is, if none has more fields
    than the records before. -/
theorem ofText_append (hd : delimiter ∈ Csv.candidates)
    (hbare : Csv.IsBare (Csv.textDialect delimiter) lines)
    (hbegins : Csv.BeginsRecord (Csv.textDialect delimiter) (Csv.dropMark text) lines)
    (hlength : ∀ record ∈ Csv.readText delimiter lines,
      record.length ≤ longest ((Csv.readText delimiter text).map cellsOf)) :
    ofText (text ++ lines) delimiter = ofText text delimiter := by
  have hnothing : ¬ HoldText (Csv.readText delimiter lines) := by
    refine not_holdText_iff.2 fun record hrecord f hf => ?_
    rw [Csv.readText_bare hd hbare record hrecord f hf]
    nofun
  unfold ofText
  rw [Csv.readText_append hd hbare hbegins, ofRecords_append hnothing hlength]

/-- **Blank rows at the end do not matter as long as none is longer than the rows before.** So
    evaluating a definition gives the same with or without lines of bare delimiters at the end of a
    text, if none has more fields than the longest record before. -/
theorem trailing_blank_rows :
    (∀ rows more : List (List Cell), (∀ row ∈ more, isBlankRow row = true) →
      ((ofRows (rows ++ more)).dropTrailingBlankRows = (ofRows rows).dropTrailingBlankRows ↔
        ∀ row ∈ more, row.length ≤ longest rows)) ∧
    ∀ delimiter ∈ Csv.candidates, ∀ text lines : List Char,
      Csv.IsBare (Csv.textDialect delimiter) lines →
      Csv.BeginsRecord (Csv.textDialect delimiter) (Csv.dropMark text) lines →
      (∀ record ∈ Csv.readText delimiter lines,
        record.length ≤ longest ((Csv.readText delimiter text).map cellsOf)) →
      ∀ d : Definition,
        (ofText (text ++ lines) delimiter).map (execute d)
          = (ofText text delimiter).map (execute d) := by
  refine ⟨fun rows more => dropTrailingBlankRows_append_iff, ?_⟩
  intro delimiter hd text lines hbare hbegins hlength d
  rw [ofText_append hd hbare hbegins hlength]

/-- A sheet with a month. -/
def monthSheet : List Char := ",Jan-21\nViews,4".toList

/-- Lines as long as those of the sheet, and the last one not ended. -/
theorem monthSheet_trailing :
    (∀ row ∈ [[Cell.blank]], isBlankRow row = true) ∧
    (ofRows ([[.text "Views", .text "4"]] ++ [[.blank]])).dropTrailingBlankRows
      = (ofRows [[.text "Views", .text "4"]]).dropTrailingBlankRows ∧
    ∀ d : Definition, (ofText (monthSheet ++ "\r\n,\r\n\r\n,".toList) ',').map (execute d)
      = (ofText monthSheet ',').map (execute d) := by
  have hblank : ∀ row ∈ [[Cell.blank]], isBlankRow row = true := by decide
  refine ⟨hblank, (trailing_blank_rows.1 _ _ hblank).2 (by decide), ?_⟩
  exact trailing_blank_rows.2 ',' (by decide) _ _ (by decide +kernel)
    (.inr ⟨by decide +kernel, '\r', by decide +kernel⟩) (by decide +kernel)

/-- A sheet whose quotes hide line ends. -/
def quotedSheet : List Char := "a,,,;\"x\ny;z\nw\";b\n".toList

/-- **A longer blank row counts**: the months are read to the edge of the grid, where there is a
    blank one more. A line of bare delimiters can also change what is taken for the delimiter. -/
theorem wideBlankRow_counts :
    (∀ row ∈ [[Cell.blank, .blank, .blank]], isBlankRow row = true) ∧
    (ofRows ([[.blank, .text "Jan-21"], [.text "Views", .text "4"]] ++
        [[Cell.blank, .blank, .blank]])).dropTrailingBlankRows
      ≠ (ofRows [[.blank, .text "Jan-21"], [.text "Views", .text "4"]]).dropTrailingBlankRows ∧
    (∃ d, Definition.ofJson exampleDocument = .ok d ∧
      (ofText (monthSheet ++ "\n,,\n".toList) ',').map (execute d)
        ≠ (ofText monthSheet ',').map (execute d)) ∧
    Csv.detectDelimiter (quotedSheet ++ ";;\n".toList) ≠ Csv.detectDelimiter quotedSheet := by
  refine ⟨by decide, ?_, ?_, by decide +kernel⟩
  · intro heq
    cases congrArg width heq
  · obtain ⟨d, hd, hruns⟩ := exists_ok_of_any (x := Definition.ofJson exampleDocument)
      (p := fun d =>
        ((ofText monthSheet ',').map (execute d)).toOption.any Except.isOk &&
          !((ofText (monthSheet ++ "\n,,\n".toList) ',').map (execute d)).toOption.any Except.isOk)
      (by decide +kernel)
    refine ⟨d, hd, fun heq => ?_⟩
    rw [heq, Bool.and_not_self] at hruns
    cases hruns

end UsageGrid.Grid
