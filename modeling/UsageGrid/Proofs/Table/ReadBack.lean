import UsageGrid.Proofs.Csv.Writer
import UsageGrid.Proofs.Grid.Records
import UsageGrid.Proofs.Json.Canonical
import UsageGrid.Proofs.Json.Number
import UsageGrid.Proofs.Json.Runs
import UsageGrid.Proofs.Table.Checked
import UsageGrid.Proofs.Table.Lossless

/-!
# Tables that are written and read back

A table is written as delimited text or printed as JSON. Either way it is read back as it was, the
text as a grid and the JSON as rows.
-/

/-!
## Tables as delimited text

The text of a table is a grid again (`csv_readBack`): its headers in the first row, and under each
of them the values of the rows, text without the blanks around it and numbers as JSON writes them
(`cellOf`). No row is lost at the end, for every line holds text (`isFilled_of_mem_lines`).
-/

namespace UsageGrid

/-! ## 1. Numbers as text -/

/-- Not empty and without blanks. -/
def Text.IsSolid (cs : List Char) : Prop := cs ≠ [] ∧ ∀ c ∈ cs, Text.isBlank c = false

theorem Cell.ofText_solid {s : String} (h : Text.IsSolid s.toList) : ofText s = .text s := by
  have htrim : Text.trimChars s.toList = s.toList := Text.trimChars_eq_self h.2
  rw [ofText_eq_text (by rw [htrim]; exact h.1)]
  unfold Text.trim
  rw [htrim, String.ofList_toList]

namespace Json

/-- A number is spelled as one word. -/
theorem NumberText.WellSpelled.isSolid {n : NumberText} (h : n.WellSpelled) :
    Text.IsSolid n.chars := by
  have hdigits {ds : List Char} (hds : ∀ c ∈ ds, Decimal.isDigit c = true) :
      ∀ c ∈ ds, Text.isBlank c = false := fun c hc => Decimal.isBlank_of_isDigit (hds c hc)
  have hsign : ∀ c ∈ (if n.negative then ['-'] else []), Text.isBlank c = false := by
    split <;> simp [Text.isBlank]
  have hexponent : ∀ c ∈ exponentChars n.exponent, Text.isBlank c = false := by
    cases hn : n.exponent with
    | none => simp [exponentChars]
    | some e =>
      refine List.forall_mem_cons.2 ⟨by decide, List.forall_mem_cons.2 ⟨?_, ?_⟩⟩
      · split <;> decide
      · exact hdigits (h.exponent e hn).2.1
  constructor
  · have hwhole : n.whole ≠ [] := by
      rcases h.whole with hzero | ⟨c, rest, hwhole, -⟩
      · rw [hzero]
        exact List.cons_ne_nil _ _
      · rw [hwhole]
        exact List.cons_ne_nil _ _
    simp [NumberText.chars, hwhole]
  · unfold NumberText.chars
    simp only [List.forall_mem_append]
    refine ⟨⟨⟨hsign, hdigits h.wholeDigits⟩, ?_⟩, hexponent⟩
    cases hn : n.fraction with
    | none => simp
    | some digits =>
      exact List.forall_mem_cons.2 ⟨by decide, hdigits (h.fraction digits hn).2⟩

theorem isSolid_int (n : Int) : Text.IsSolid (Json.int n).compact.toList := by
  have hchars : (Json.int n).compact.toList = (wholeText n).chars :=
    String.toList_ofList.trans (chars_wholeText n).symm
  rw [hchars]
  exact (wellSpelled_wholeText n).isSolid

theorem isSolid_float (x : Binary64) : Text.IsSolid (Json.float x).compact.toList := by
  have hchars : (Json.float x).compact.toList = (numberOf x).chars :=
    String.toList_ofList.trans (toList_render x)
  rw [hchars]
  exact (wellSpelled_numberOf x).isSolid

end Json

namespace Table

open Rules

/-! ## 2. Cells of values -/

/-- The cell that the value of a row is read back as: a text without the blanks around it, a number
    as JSON writes it, and a blank where the row has no such value. -/
def cellOf : Option Json → Cell
  | none | some .null => .blank
  | some (.string s) => Cell.ofText s
  | some v => .text v.compact

/-- What is kept whole is not too large. -/
theorem number_cases (x : Binary64) :
    (∃ n, number x = .int n ∧ n.natAbs < wholeBound) ∨ number x = .float x := by
  unfold number
  split
  · split
    · rename_i n _ h
      exact .inl ⟨n, rfl, h⟩
    · exact .inr rfl
  · exact .inr rfl

theorem isSolid_number (x : Binary64) : Text.IsSolid (shownValue (some (number x))).toList := by
  rcases number_cases x with ⟨n, hn, -⟩ | hx
  · rw [hn]
    exact Json.isSolid_int n
  · rw [hx]
    exact Json.isSolid_float x

/-- The values of a record's fields are texts and numbers. -/
theorem fieldsOf_cases {r : Record} {m : String × Json} (h : m ∈ fieldsOf r) :
    (∃ s, m.2 = .string s) ∨ ∃ x, m.2 = number x := by
  unfold fieldsOf at h
  simp only [List.mem_append, List.mem_map, Option.mem_toList, List.mem_cons, List.not_mem_nil,
    or_false] at h
  rcases h with (((⟨s, -, rfl⟩ | ⟨s, -, rfl⟩) | ⟨⟨k, s⟩, -, rfl⟩) | ⟨⟨n, s⟩, -, rfl⟩) |
    rfl | rfl | rfl
  · exact .inl ⟨s, rfl⟩
  · exact .inl ⟨s, rfl⟩
  · exact .inl ⟨s, rfl⟩
  · exact .inl ⟨s, rfl⟩
  · exact .inl ⟨r.metric, rfl⟩
  · exact .inl ⟨r.date, rfl⟩
  · exact .inr ⟨r.value, rfl⟩

theorem value_cases {r : Record} {f : String} {v : Json}
    (h : Json.lookup (Json.sortMembers (fieldsOf r)) f = some v) :
    (∃ s, v = .string s) ∨ ∃ x, v = number x := by
  obtain ⟨m, hm, rfl⟩ := Option.map_eq_some_iff.1 h
  exact fieldsOf_cases (Json.mem_of_mem_sortMembers (List.mem_of_find?_eq_some hm))

/-- A value as it is shown is read as its cell. -/
theorem ofText_shownValue (r : Record) (f : String) :
    Cell.ofText (shownValue (Json.lookup (Json.sortMembers (fieldsOf r)) f))
      = cellOf (Json.lookup (Json.sortMembers (fieldsOf r)) f) := by
  cases h : Json.lookup (Json.sortMembers (fieldsOf r)) f with
  | none => exact Cell.ofText_eq_blank rfl
  | some v =>
    rcases value_cases h with ⟨s, rfl⟩ | ⟨x, rfl⟩
    · rfl
    · rw [Cell.ofText_solid (isSolid_number x)]
      rcases number_cases x with ⟨n, hn, -⟩ | hx
      · rw [hn]
        rfl
      · rw [hx]
        rfl

/-! ## 3. Lines -/

/-- Every line has a field for each column. -/
theorem length_of_mem_lines {t : Table} {line : List String} (h : line ∈ t.lines) :
    line.length = t.columns.length := by
  rcases List.mem_cons.1 h with rfl | h
  · exact List.length_map _
  · obtain ⟨row, -, rfl⟩ := List.mem_map.1 h
    exact List.length_map _

theorem value_mem_columnsOf (rs : List Record) : ⟨"value", "Value"⟩ ∈ columnsOf rs := by
  simp [columnsOf]

/-- Every line has a field that is not blank: the header of the value, or the value. -/
theorem isFilled_of_mem_lines {rs : List Record} (h : ∀ r ∈ rs, r.WellFormed)
    {line : List String} (hline : line ∈ (ofRecords rs).lines) :
    ∃ s ∈ line, ∃ c ∈ s.toList, Text.isBlank c = false := by
  rcases List.mem_cons.1 hline with rfl | hline
  · exact ⟨"Value", List.mem_map.2 ⟨_, value_mem_columnsOf rs, rfl⟩, 'V', by decide, by decide⟩
  · obtain ⟨row, hrow, rfl⟩ := List.mem_map.1 hline
    obtain ⟨r, hr, rfl⟩ := List.mem_map.1 hrow
    have hvalue : Json.lookup (Json.sortMembers (fieldsOf r)) "value" = some (number r.value) :=
      lookup_of_mem (h r hr) (by simp [fieldsOf])
    obtain ⟨hne, hsolid⟩ := isSolid_number r.value
    obtain ⟨c, rest, hchars⟩ := List.exists_cons_of_ne_nil hne
    refine ⟨_, List.mem_map.2 ⟨_, value_mem_columnsOf rs, rfl⟩, c, ?_, hsolid c ?_⟩
    · rw [hvalue, hchars]
      exact List.mem_cons_self
    · rw [hchars]
      exact List.mem_cons_self

/-! ## 4. The grid of a table's text -/

/-- The records of a table's text are its lines. -/
theorem readText_csv {t : Table} (hcolumns : t.columns ≠ [])
    (hmark : ∀ c, t.columns.head? = some c → c.header.toList.head? ≠ some Csv.mark) :
    Csv.readText ',' t.csv.toList = t.lines.map (·.map String.toList) := by
  refine Csv.readText_write (fun line hline hnil => ?_) fun line f hline hf => ?_
  · have hlength := length_of_mem_lines hline
    rw [hnil] at hlength
    exact hcolumns (List.length_eq_zero_iff.1 hlength.symm)
  · obtain rfl : t.columns.map (·.header) = line := Option.some.inj hline
    rw [List.head?_map] at hf
    obtain ⟨c, hc, rfl⟩ := Option.map_eq_some_iff.1 hf
    exact hmark c hc

/-- The grid of a table's text has the lines as its rows. -/
theorem ofText_csv {rs : List Record} (h : ∀ r ∈ rs, r.WellFormed)
    (hmark : ∀ c, (ofRecords rs).columns.head? = some c →
      c.header.toList.head? ≠ some Csv.mark) :
    ∃ g, Grid.ofText (ofRecords rs).csv.toList ',' = .ok g ∧
      g.width = (ofRecords rs).columns.length ∧
      g.rows = (ofRecords rs).lines.map (·.map Cell.ofText) := by
  have hcolumns : (ofRecords rs).columns ≠ [] := List.ne_nil_of_mem (value_mem_columnsOf rs)
  obtain ⟨last, hlast⟩ : ∃ line, (ofRecords rs).lines.getLast? = some line :=
    ⟨_, List.getLast?_eq_some_getLast (List.cons_ne_nil _ _)⟩
  obtain ⟨s, hs, hfilled⟩ := isFilled_of_mem_lines h (List.mem_of_getLast? hlast)
  have hlength : ∀ record ∈ (ofRecords rs).lines.map (·.map String.toList),
      record.length = (ofRecords rs).columns.length := by
    intro record hrecord
    obtain ⟨line, hline, rfl⟩ := List.mem_map.1 hrecord
    exact (List.length_map _).trans (length_of_mem_lines hline)
  have hend : ((ofRecords rs).lines.map (·.map String.toList)).getLast?
      = some (last.map String.toList) := by
    rw [List.getLast?_map, hlast, Option.map_some]
  obtain ⟨g, hok, hwidth, hrows⟩ :=
    Grid.ofRecords_rectangular hlength hend ⟨s.toList, List.mem_map_of_mem hs, hfilled⟩
  have hcells (line : List String) :
      Grid.cellsOf (line.map String.toList) = line.map Cell.ofText := by
    unfold Grid.cellsOf
    rw [List.map_map]
    exact List.map_congr_left fun s _ => by rw [Function.comp_apply, String.ofList_toList]
  refine ⟨g, ?_, hwidth, ?_⟩
  · unfold Grid.ofText
    rw [readText_csv hcolumns hmark, hok]
  · rw [hrows, List.map_map]
    exact List.map_congr_left fun line _ => hcells line

/-- **The text of a table is read back as the table.** Its lines are of one length, so that it can
    be written, and it is the text of a grid that has the trimmed headers in its first row and below
    them, row by row, the values in their columns. -/
theorem csv_readBack {v : Json} {d : Definition} {g : Grid} {t : Table}
    (hd : Definition.ofJson v = .ok d) (h : ofGrid d g = .ok t)
    (hmark : ∀ c, t.columns.head? = some c → c.header.toList.head? ≠ some Csv.mark) :
    (∀ line ∈ t.lines, line.length = t.columns.length) ∧
    ∃ g', Grid.ofText t.csv.toList ',' = .ok g' ∧
      g'.height = t.rows.length + 1 ∧ g'.width = t.columns.length ∧
      (∀ (j : Nat) c, t.columns[j]? = some c → g'.get? ⟨0, j⟩ = some (Cell.ofText c.header)) ∧
      ∀ (i j : Nat) row c, t.rows[i]? = some row → t.columns[j]? = some c →
        g'.get? ⟨i + 1, j⟩ = some (cellOf (Json.lookup row c.field)) := by
  refine ⟨fun line hline => length_of_mem_lines hline, ?_⟩
  obtain ⟨rs, hrs, rfl⟩ := map_eq_ok.1 h
  have hwell : ∀ r ∈ rs, r.WellFormed := fun r hr =>
    execute_wellFormed (Rules.definition_codec.sound _ _ _ hd) hrs hr
  obtain ⟨g', hok, hwidth, hrows⟩ := ofText_csv hwell hmark
  refine ⟨g', hok, ?_, hwidth, fun j c hc => ?_, fun i j row c hrow hc => ?_⟩
  · unfold Grid.height
    rw [hrows]
    simp [lines]
  · unfold Grid.get?
    rw [hrows]
    simp [lines, hc]
  · have hcell : Cell.ofText (shownValue (Json.lookup row c.field))
        = cellOf (Json.lookup row c.field) := by
      obtain ⟨r, -, rfl⟩ := List.mem_map.1 (List.mem_of_getElem? hrow)
      exact ofText_shownValue r c.field
    unfold Grid.get?
    rw [hrows, ← hcell]
    simp [lines, hrow, hc]

/-- A document with quotes, commas, line ends and blanks in a text and in the name of its column. -/
def quotedDocument : Json :=
  .object [
    ("parser_name", .string "quoted_reports"),
    ("dimension_aliases",
      .array [.array [.string "Kind", .string " Kind, or \x22type\x22 "]]),
    ("areas", .array [.object [
      ("data_headers", .object [
        ("roles", .array [.object [
          ("source", exampleRange 0 1 "right"), ("role", .string "date")]]),
        ("data_cells", exampleRange 1 1 "right"),
        ("data_direction", .string "down")]),
      ("metrics", .object [("source", exampleRange 1 0 "down"), ("role", .string "metric")]),
      ("dimensions", .array [.object [
        ("name", .string "Kind"),
        ("source", .object [("value", .string "an \x22open\x22,\r\nfree one")]),
        ("role", .string "dimension")]])]])]

/-- The table of the document has three rows, and its text is a grid of four. -/
theorem quotedDocument_readBack : ∃ d t, Definition.ofJson quotedDocument = .ok d ∧
    ofGrid d Extraction.exampleGrid = .ok t ∧
    (∀ c, t.columns.head? = some c → c.header.toList.head? ≠ some Csv.mark) ∧
    t.columns.map (·.header) = [" Kind, or \x22type\x22 ", "Metric", "Date", "Value"] ∧
    ∃ g', Grid.ofText t.csv.toList ',' = .ok g' ∧ g'.height = 4 ∧ g'.width = 4 ∧
      (∀ (j : Nat) c, t.columns[j]? = some c → g'.get? ⟨0, j⟩ = some (Cell.ofText c.header)) ∧
      ∀ (i j : Nat) row c, t.rows[i]? = some row → t.columns[j]? = some c →
        g'.get? ⟨i + 1, j⟩ = some (cellOf (Json.lookup row c.field)) := by
  have hrun : ((Definition.ofJson quotedDocument).toOption.any fun d =>
      (ofGrid d Extraction.exampleGrid).toOption.any fun t => t.rows.length == 3 &&
        t.columns.map (·.header) == [" Kind, or \x22type\x22 ", "Metric", "Date", "Value"])
      = true := by decide +kernel
  obtain ⟨d, hd, hrun⟩ := exists_ok_of_any hrun
  obtain ⟨t, ht, hrun⟩ := exists_ok_of_any hrun
  rw [Bool.and_eq_true, beq_iff_eq, beq_iff_eq] at hrun
  obtain ⟨hrows, hheaders⟩ := hrun
  have hmark : ∀ c, t.columns.head? = some c → c.header.toList.head? ≠ some Csv.mark := by
    intro c hc
    have hfirst : some c.header = some " Kind, or \x22type\x22 " := by
      rw [← Option.map_some (f := Column.header), ← hc, ← List.head?_map, hheaders]
      rfl
    rw [Option.some.inj hfirst]
    decide
  obtain ⟨-, g', hok, hheight, hwidth, hhead, hcells⟩ := csv_readBack hd ht hmark
  have hcount : t.columns.length = 4 := by
    rw [← List.length_map (f := (·.header)), hheaders]
    rfl
  exact ⟨d, t, hd, ht, hmark, hheaders, g', hok, hheight.trans (by rw [hrows]),
    hwidth.trans hcount, hhead, hcells⟩

end Table

end UsageGrid

/-!
## Printed tables

A table that is printed as JSON and parsed again has the same rows, with their floating numbers as
they are read back (`parse_toJson`). The check of a row does not look into numbers
(`rowErrors_mapFloats`), and how many rows of a table are reported is a matter of each row alone
(`length_rowErrors`).
-/

namespace UsageGrid

/-! ## 1. Printed and parsed -/

namespace Table

open Json

theorem canonical_number (x : Binary64) : (number x).canonical = number x := by
  rcases number_cases x with ⟨n, h, -⟩ | h <;> rw [h] <;> rfl

theorem depth_number (x : Binary64) : (number x).depth = 0 := by
  rcases number_cases x with ⟨n, h, -⟩ | h <;> rw [h] <;> rfl

/-- What is kept whole is far below what fits. -/
theorem fits_number (x : Binary64) : (number x).Fits := by
  rcases number_cases x with ⟨n, h, hn⟩ | h
  · rw [h]
    have hbound : wholeBound < 2 ^ 63 := by decide
    exact ⟨by omega, by omega⟩
  · rw [h]
    exact trivial

/-- A field of a row has what texts and numbers have. -/
theorem field_has {P : Json → Prop} (htext : ∀ s, P (.string s)) (hnumber : ∀ x, P (number x))
    {r : Record} {m : String × Json} (h : m ∈ sortMembers (fieldsOf r)) : P m.2 := by
  rcases fieldsOf_cases (mem_of_mem_sortMembers h) with ⟨s, hs⟩ | ⟨x, hx⟩
  · rw [hs]
    exact htext s
  · rw [hx]
    exact hnumber x

/-- A printed table has its keys in order throughout. -/
theorem canonical_toJson (rs : List Record) :
    (ofRecords rs).toJson.canonical = (ofRecords rs).toJson := by
  have hcolumn (c : Column) : (columnToJson c).canonical = columnToJson c :=
    canonical_object (List.pairwise_pair.2 (by decide : "field" < "header")) (by simp [canonical])
  have hrow (r : Record) : (Json.object (sortMembers (fieldsOf r))).canonical
      = .object (sortMembers (fieldsOf r)) :=
    canonical_object (sorted_sortMembers _) fun _ hm =>
      field_has (P := fun v => v.canonical = v) (fun _ => rfl) canonical_number hm
  refine canonical_object (List.pairwise_pair.2 (by decide : "columns" < "rows")) ?_
  simp only [List.forall_mem_cons, List.not_mem_nil, false_implies, implies_true, and_true]
  refine ⟨canonical_array (List.forall_mem_map.2 fun c _ => hcolumn c), canonical_array ?_⟩
  exact List.forall_mem_map.2 (List.forall_mem_map.2 fun r _ => hrow r)

theorem depth_toJson_le (rs : List Record) : (ofRecords rs).toJson.depth ≤ 3 := by
  have hcolumns : (Json.array ((ofRecords rs).columns.map columnToJson)).depth ≤ 2 :=
    depth_list_le fun c _ => depth_object_le (by simp)
  have hrows : (Json.array ((ofRecords rs).rows.map Json.object)).depth ≤ 2 := by
    refine depth_list_le (List.forall_mem_map.2 fun r _ => depth_object_le fun m hm => ?_)
    exact (field_has (P := fun v => v.depth = 0) depth_string depth_number hm).le
  exact depth_object_le (by simpa using ⟨hcolumns, hrows⟩)

theorem fits_toJson (rs : List Record) : (ofRecords rs).toJson.Fits := by
  refine ⟨(fitsItems_iff _).2 (List.forall_mem_map.2 fun c _ => ⟨trivial, trivial, trivial⟩), ?_,
    trivial⟩
  refine (fitsItems_iff _).2 (List.forall_mem_map.2 (List.forall_mem_map.2 fun r _ => ?_))
  exact (fitsMembers_iff _).2 fun m hm => field_has (fun _ => trivial) fits_number hm

/-- **A printed table is parsed as it was**, but for its floating numbers. -/
theorem parse_toJson (rs : List Record) :
    Json.parse ((ofRecords rs).toJson.pretty ++ "\n") = .ok (ofRecords rs).toJson.reread := by
  have hread : Json.read ((ofRecords rs).toJson.pretty ++ "\n") = .ok (ofRecords rs).toJson.reread :=
    read_pretty (fits_toJson rs) ((depth_toJson_le rs).trans (by decide)) (by simp [isSpace])
  unfold Json.parse
  rw [hread, map_ok, canonical_mapFloats, canonical_toJson]

end Table

/-! ## 2. Rows with other numbers -/

namespace RowCheck

open Json

theorem memberIssues_mapFloats (f : Binary64 → Binary64) (key : String) (v : Json) :
    memberIssues key (v.mapFloats f) = [] ↔ memberIssues key v = [] := by
  unfold memberIssues
  split
  · cases v <;> simp [mapFloats, metricIssues]
  split
  · cases v <;> simp [mapFloats, dateIssues]
  split
  · cases v <;> simp [mapFloats, valueIssues]
  · cases v <;> simp [mapFloats, otherIssues]

theorem rowIssues_mapMembers (f : Binary64 → Binary64) (row : Row) :
    rowIssues (mapMembers f row) = [] ↔ rowIssues row = [] := by
  unfold rowIssues
  simp only [lookup_mapMembers, Option.isNone_map, List.append_eq_nil_iff]
  refine and_congr_left fun _ => ?_
  rw [mapMembers_eq, List.flatMap_eq_nil_iff, List.flatMap_eq_nil_iff, List.forall_mem_map]
  exact forall₂_congr fun m _ => memberIssues_mapFloats f m.1 m.2

end RowCheck

/-- **Whether something is wrong with a row does not depend on its numbers.** -/
theorem rowErrors_mapFloats (f : Binary64 → Binary64) (v : Json) :
    rowErrors (v.mapFloats f) = [] ↔ rowErrors v = [] := by
  unfold rowErrors
  rw [List.map_eq_nil_iff, List.map_eq_nil_iff]
  cases v with
  | object row => exact RowCheck.rowIssues_mapMembers f row
  | _ => simp [Json.mapFloats, RowCheck.issues]

/-! ## 3. How many rows are reported -/

/-- Something is wrong with a row. -/
def IsWrong (v : Json) : Prop := rowErrors v ≠ []

instance (v : Json) : Decidable (IsWrong v) :=
  inferInstanceAs (Decidable (rowErrors v ≠ []))

theorem isWrong_mapFloats (f : Binary64 → Binary64) (v : Json) :
    IsWrong (v.mapFloats f) ↔ IsWrong v :=
  not_congr (rowErrors_mapFloats f v)

theorem length_rowErrorsFrom (i : Nat) (rows : List Row) :
    (rowErrorsFrom i rows).length = rows.countP fun row => IsWrong (.object row) := by
  induction rows generalizing i with
  | nil => rfl
  | cons row rest ih =>
    rw [rowErrorsFrom_cons, List.length_append, ih, List.countP_cons]
    unfold IsWrong
    split <;> simp_all [Nat.add_comm]

/-- **As many rows are reported as something is wrong with.** -/
theorem Table.length_rowErrors (t : Table) :
    t.rowErrors.length = t.rows.countP fun row => IsWrong (.object row) :=
  length_rowErrorsFrom 0 t.rows

end UsageGrid
