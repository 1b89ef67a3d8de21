import UsageGrid.Proofs.Csv.Lines
import UsageGrid.Proofs.Grid.Records

/-!
# Lines and rows

The rows of a text without quotes are its lines up to the last one with something to read, but for
those that are empty altogether (`ofText_rows`). So a row has the number of its line if and only if
no empty line stands before the last row: a line of delimiters is a blank row, an empty line is none
(`gappedSheet_rows`).
-/

namespace UsageGrid.Grid

variable {delimiter : Char} {text : List Char} {g : Grid}

/-- No field of the line holds more than blanks. -/
def isBlankLine (delimiter : Char) (line : List Char) : Bool :=
  (Text.splitOnChar delimiter line).all (·.all Text.isBlank)

/-- The lines of a text, without a mark in front, up to the last one with a field that is not
    blank. -/
def filledLines (delimiter : Char) (text : List Char) : List (List Char) :=
  (Csv.lines (Csv.dropMark text)).rdropWhile (isBlankLine delimiter)

/-- The row of a line: its fields trimmed, filled up with blank cells. -/
def rowOf (width : Nat) (delimiter : Char) (line : List Char) : List Cell :=
  pad width (cellsOf (Text.splitOnChar delimiter line))

theorem isBlankRow_splitOnChar (delimiter : Char) (line : List Char) :
    isBlankRow (cellsOf (Text.splitOnChar delimiter line)) = isBlankLine delimiter line := by
  rw [Bool.eq_iff_iff, isBlankRow_cellsOf]
  simp only [isBlankLine, List.all_eq_true]

/-- What is cut at the end of a list need not be left out of it. -/
theorem rdropWhile_filter {α : Type} {p q : α → Bool} (h : ∀ a, q a = false → p a = true)
    (l : List α) : (l.filter q).rdropWhile p = (l.rdropWhile p).filter q := by
  have hboth : (fun a => !q a || p a) = p := by
    funext a
    cases hq : q a with
    | false => simp [h a hq]
    | true => rfl
  unfold List.rdropWhile
  rw [← List.filter_reverse, List.dropWhile_filter, hboth, List.filter_reverse]

/-- The records of lines up to the last that is not blank. An empty line is blank, so that it makes
    no difference whether empty lines are left out before the others are cut or after. -/
theorem upToLastFilled_recordsOfLines (ls : List (List Char)) :
    upToLastFilled ((Csv.recordsOfLines delimiter ls).map cellsOf)
      = ((ls.rdropWhile (isBlankLine delimiter)).filter (· ≠ [])).map
          (cellsOf ∘ Text.splitOnChar delimiter) := by
  have hblank : isBlankRow ∘ cellsOf ∘ Text.splitOnChar delimiter = isBlankLine delimiter :=
    funext (isBlankRow_splitOnChar delimiter)
  have hempty : ∀ line : List Char, decide (line ≠ []) = false →
      isBlankLine delimiter line = true := by
    intro line hline
    obtain rfl : line = [] := by simpa using hline
    rfl
  unfold Csv.recordsOfLines
  rw [List.map_map, ← rdropWhile_filter hempty, ← hblank]
  exact rdropWhile_map isBlankRow (cellsOf ∘ Text.splitOnChar delimiter) _

theorem rows_eq (hquote : (Csv.textDialect delimiter).quote ∉ text)
    (hd : delimiter ∈ Csv.candidates) (h : ofText text delimiter = .ok g) : g.rows
      = ((filledLines delimiter text).filter (· ≠ [])).map (rowOf g.width delimiter) := by
  have hbody : (Csv.textDialect delimiter).quote ∉ Csv.dropMark text := fun hin =>
    hquote ((Csv.dropMark_suffix text).subset hin)
  have hrecords : Csv.readText delimiter text
      = Csv.recordsOfLines delimiter (Csv.lines (Csv.dropMark text)) :=
    Csv.records_eq_lines (Csv.isProper_textDialect hd) hbody
  unfold ofText at h
  rw [hrecords] at h
  obtain ⟨-, -, hrows⟩ := ofRecords_eq_ok h
  rw [hrows, upToLastFilled_recordsOfLines, List.map_map]
  rfl

/-- **The rows of a text without quotes are its lines, but for empty ones**, up to the last line
    with something to read. They are the lines one for one if and only if none of these is empty. -/
theorem ofText_rows (hquote : (Csv.textDialect delimiter).quote ∉ text)
    (hd : delimiter ∈ Csv.candidates) (h : ofText text delimiter = .ok g) :
    g.rows = ((filledLines delimiter text).filter (· ≠ [])).map (rowOf g.width delimiter) ∧
    ((∀ (i : Nat) (line : List Char), (filledLines delimiter text)[i]? = some line →
      g.rows[i]? = some (rowOf g.width delimiter line)) ↔ [] ∉ filledLines delimiter text) := by
  have hrows := rows_eq hquote hd h
  refine ⟨hrows, ?_⟩
  rw [hrows]
  constructor
  · intro heach hin
    -- the last of the lines has a row of its number, so there are as many rows as lines
    have hpos : 0 < (filledLines delimiter text).length := List.length_pos_of_mem hin
    have hlast := heach _ _ (List.getElem?_eq_getElem (Nat.sub_lt hpos Nat.one_pos))
    have hfew : ((filledLines delimiter text).filter (· ≠ [])).length
        < (filledLines delimiter text).length :=
      List.length_filter_lt_length_iff_exists.2 ⟨[], hin, by decide⟩
    have hmany := (List.getElem?_eq_some_iff.1 hlast).1
    rw [List.length_map] at hmany
    omega
  · intro hnone i line hline
    have hall : ∀ line ∈ filledLines delimiter text, decide (line ≠ []) = true := fun line hin =>
      decide_eq_true (ne_of_mem_of_not_mem hin hnone)
    rw [List.filter_eq_self.2 hall, List.getElem?_map, hline]
    rfl

/-- A sheet with a spacer line of delimiters. -/
def spacedSheet : List Char := "Report\r\n;\r\nViews; 4\r\n".toList

/-- The rows of the sheet are its lines. -/
theorem spacedSheet_rows : ∃ g, (Csv.textDialect ';').quote ∉ spacedSheet ∧ ';' ∈ Csv.candidates ∧
    ofText spacedSheet ';' = .ok g ∧
    g.rows = ((filledLines ';' spacedSheet).filter (· ≠ [])).map (rowOf g.width ';') ∧
    ∀ (i : Nat) (line : List Char), (filledLines ';' spacedSheet)[i]? = some line →
      g.rows[i]? = some (rowOf g.width ';' line) := by
  have hquote : (Csv.textDialect ';').quote ∉ spacedSheet := by decide +kernel
  have hd : ';' ∈ Csv.candidates := by decide
  obtain ⟨g, hg, -⟩ := exists_ok_of_any (x := ofText spacedSheet ';') (p := fun _ => true)
    (by decide +kernel)
  obtain ⟨hrows, heach⟩ := ofText_rows hquote hd hg
  exact ⟨g, hquote, hd, hg, hrows, heach.2 (by decide +kernel)⟩

/-- A sheet with a spacer line that nothing is in. -/
def gappedSheet : List Char := "a\n\nb\n".toList

/-- **An empty line is no row**: the third line of the sheet is its second row. -/
theorem gappedSheet_rows : ∃ g, (Csv.textDialect ',').quote ∉ gappedSheet ∧
    ofText gappedSheet ',' = .ok g ∧ filledLines ',' gappedSheet = [['a'], [], ['b']] ∧
    g.rows = [[.text "a"], [.text "b"]] ∧
    ¬ ∀ (i : Nat) (line : List Char), (filledLines ',' gappedSheet)[i]? = some line →
      g.rows[i]? = some (rowOf g.width ',' line) := by
  have hlines : filledLines ',' gappedSheet = [['a'], [], ['b']] := by decide +kernel
  obtain ⟨g, hg, hrows⟩ := exists_ok_of_any (x := ofText gappedSheet ',')
    (p := fun g => decide (g.rows = [[.text "a"], [.text "b"]])) (by decide +kernel)
  have hrows := of_decide_eq_true hrows
  refine ⟨g, by decide +kernel, hg, hlines, hrows, fun heach => ?_⟩
  have hthird := heach 2 ['b'] (by rw [hlines]; rfl)
  rw [hrows] at hthird
  cases hthird

end UsageGrid.Grid
