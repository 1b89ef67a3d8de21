import Mathlib.Data.List.Basic
import UsageGrid.Csv.Delimiter
import UsageGrid.Csv.Reader
import UsageGrid.Csv.Writer

/-!
# What a text of records is read as

A field stands in a text as it is or in quotes (`Spells`), a record as its fields with delimiters
between them (`Line`).

* A field that is spelled out is read as itself, up to what completes it (`Spells.read`), and so are
  the fields of a line (`Line.read`).
* A line is read as one record and the text behind it as the records that it has by itself
  (`records_line`); a line end where no record has begun is passed over (`records_lineEnd`).
-/

namespace UsageGrid.Csv

variable {α : Type}

/-! ## 1. Fields and lines as they are spelled -/

namespace Dialect

/-- The symbols of the dialect do not get in each other's way. -/
structure IsProper (d : Dialect α) : Prop where
  delimiterIsNoQuote : d.delimiter ≠ d.quote
  delimiterIsNoEnd : d.isLineEnd d.delimiter = false
  quoteIsNoEnd : d.isLineEnd d.quote = false

variable [DecidableEq α]

/-- A field with its quotes written twice. -/
def doubled (d : Dialect α) (f : List α) : List α :=
  f.flatMap fun a => if a = d.quote then [a, a] else [a]

/-- The text stands for the field: as it is, or in quotes. -/
inductive Spells (d : Dialect α) : List α → List α → Prop
  | plain {f : List α} (free : ∀ a ∈ f, a ≠ d.delimiter ∧ d.isLineEnd a = false)
      (head : f.head? ≠ some d.quote) : d.Spells f f
  | quoted (f : List α) : d.Spells (d.quote :: d.doubled f ++ [d.quote]) f

/-- The text stands for the fields of a record, delimiters between them. -/
inductive Line (d : Dialect α) : List α → List (List α) → Prop
  | last {t f : List α} (field : d.Spells t f) : d.Line t [f]
  | next {t f rest : List α} {fs : List (List α)} (field : d.Spells t f)
      (line : d.Line rest fs) : d.Line (t ++ d.delimiter :: rest) (f :: fs)

variable {d : Dialect α} {t f : List α} {fs : List (List α)}

/-- A line begins with its first field, or with a quote or a delimiter. -/
theorem Line.head (h : d.Line t fs) {a : α} (ha : t.head? = some a) :
    a = d.quote ∨ a = d.delimiter ∨
      ∃ f, fs.head? = some f ∧ f.head? = some a ∧ d.isLineEnd a = false := by
  have hfield {t f : List α} (h : d.Spells t f) (ha : t.head? = some a) :
      a = d.quote ∨ (f.head? = some a ∧ d.isLineEnd a = false) := by
    cases h with
    | plain free _ => exact .inr ⟨ha, (free a (List.mem_of_mem_head? ha)).2⟩
    | quoted f => exact .inl (Option.some.inj ha).symm
  cases h with
  | last field =>
    exact (hfield field ha).imp_right fun hf => .inr ⟨_, rfl, hf⟩
  | @next t _ rest _ field line =>
    cases t with
    | nil => exact .inr (.inl (Option.some.inj ha).symm)
    | cons b t => exact (hfield field ha).imp_right fun hf => .inr ⟨_, rfl, hf⟩

theorem Line.head_notEnd (hd : d.IsProper) (h : d.Line t fs) {a : α} (ha : t.head? = some a) :
    d.isLineEnd a = false := by
  rcases h.head ha with rfl | rfl | ⟨-, -, -, hend⟩
  · exact hd.quoteIsNoEnd
  · exact hd.delimiterIsNoEnd
  · exact hend

/-- Nothing at all stands for one empty field. -/
theorem Line.eq_of_nil (h : d.Line t fs) (ht : t = []) : fs = [[]] := by
  cases h with
  | last field =>
    cases field with
    | plain _ _ => rw [ht]
    | quoted f => cases ht
  | next field line => exact absurd ht (by simp)

end Dialect

/-! ## 2. Steps of the reader -/

/-- A place where a delimiter or a line end completes the field. -/
def Place.EndsField (p : Place) : Prop := p ≠ .recordStart ∧ p ≠ .quoted

theorem Place.endsField_fieldStart : Place.fieldStart.EndsField := ⟨by decide, by decide⟩

namespace Reading

/-- The reading with more records before those it has read. -/
def behind (earlier : List (List (List α))) (r : Reading α) : Reading α :=
  { r with records := r.records ++ earlier }

theorem finish_behind (earlier : List (List (List α))) (r : Reading α) :
    (r.behind earlier).finish = earlier.reverse ++ r.finish := by
  unfold finish behind endRecord
  cases r.place <;> simp

theorem finish_of_endsField {r : Reading α} (h : r.place.EndsField) :
    r.finish = r.endRecord.records.reverse := by
  unfold finish
  split
  · rename_i hplace
    exact absurd hplace h.1
  · rfl

variable [DecidableEq α] {d : Dialect α} {r : Reading α} {a : α}

theorem step_behind (earlier : List (List (List α))) (r : Reading α) (a : α) :
    step d (r.behind earlier) a = (step d r a).behind earlier := by
  obtain ⟨records, fields, field, place⟩ := r
  unfold step stepFieldStart stepBare endField endRecord push behind
  cases place <;> dsimp only <;> split_ifs <;> rfl

/-- What has been read before does not change what is read. -/
theorem foldl_behind (earlier : List (List (List α))) (r : Reading α) (text : List α) :
    text.foldl (step d) (r.behind earlier) = (text.foldl (step d) r).behind earlier := by
  induction text generalizing r with
  | nil => rfl
  | cons a rest ih => rw [List.foldl_cons, List.foldl_cons, step_behind, ih]

/-- At the start of a record only a line end is read otherwise than at the start of a field. -/
theorem step_recordStart (h : r.place = .recordStart) (ha : d.isLineEnd a = false) :
    step d r a = step d { r with place := .fieldStart } a := by
  unfold step
  rw [h]
  dsimp only
  rw [ha, if_neg Bool.false_ne_true]
  unfold stepFieldStart stepBare endField endRecord push
  rw [ha]

/-- What is no quote completes the field or belongs to it. -/
theorem step_of_endsField (h : r.place.EndsField) (ha : a ≠ d.quote) :
    step d r a = stepBare d r a := by
  unfold step stepFieldStart
  cases hplace : r.place with
  | recordStart => exact absurd hplace h.1
  | quoted => exact absurd hplace h.2
  | fieldStart => exact if_neg ha
  | bare => rfl
  | afterQuote => exact if_neg ha

theorem step_delimiter (hd : d.IsProper) (h : r.place.EndsField) :
    step d r d.delimiter = r.endField :=
  (step_of_endsField h hd.delimiterIsNoQuote).trans (if_pos rfl)

theorem step_lineEnd (hd : d.IsProper) (h : r.place.EndsField) (ha : d.isLineEnd a = true) :
    step d r a = r.endRecord := by
  have hdelimiter : a ≠ d.delimiter := by
    rintro rfl
    exact absurd (ha.symm.trans hd.delimiterIsNoEnd) (by decide)
  have hquote : a ≠ d.quote := by
    rintro rfl
    exact absurd (ha.symm.trans hd.quoteIsNoEnd) (by decide)
  rw [step_of_endsField h hquote, stepBare, if_neg hdelimiter, if_pos ha]

/-- Symbols that end nothing belong to the field. -/
theorem foldl_bare {f : List α} (h : ∀ a ∈ f, a ≠ d.delimiter ∧ d.isLineEnd a = false)
    (r : Reading α) (hr : r.place = .bare) :
    f.foldl (step d) r = { r with field := f.reverse ++ r.field } := by
  induction f generalizing r with
  | nil => rfl
  | cons a rest ih =>
    obtain ⟨⟨ha, hend⟩, hrest⟩ := List.forall_mem_cons.1 h
    have hstep : step d r a = r.push a .bare := by
      unfold step
      rw [hr]
      dsimp only
      rw [stepBare, if_neg ha, hend, if_neg Bool.false_ne_true]
    rw [List.foldl_cons, hstep, ih hrest _ rfl, List.reverse_cons, List.append_assoc, ← hr]
    rfl

/-- In quotes everything belongs to the field, and two quotes are one. -/
theorem foldl_doubled (f : List α) (r : Reading α) (hr : r.place = .quoted) :
    (d.doubled f).foldl (step d) r = { r with field := f.reverse ++ r.field } := by
  induction f generalizing r with
  | nil => rfl
  | cons a rest ih =>
    have hstep : (if a = d.quote then [a, a] else [a]).foldl (step d) r = r.push a .quoted := by
      by_cases ha : a = d.quote
      · rw [if_pos ha]
        simp only [List.foldl_cons, List.foldl_nil, step, hr, if_pos ha]
        rfl
      · rw [if_neg ha]
        simp only [List.foldl_cons, List.foldl_nil, step, hr, if_neg ha]
    have hsplit : d.doubled (a :: rest)
        = (if a = d.quote then [a, a] else [a]) ++ d.doubled rest := List.flatMap_cons
    rw [hsplit, List.foldl_append, hstep, ih _ rfl, List.reverse_cons, List.append_assoc, ← hr]
    rfl

end Reading

/-! ## 3. What is read -/

open Reading

variable [DecidableEq α] {d : Dialect α} {t f : List α} {fs : List (List α)}

/-- **A field is read as itself**, up to the symbol that completes it. -/
theorem Dialect.Spells.read (h : d.Spells t f) (records : List (List (List α)))
    (fields : List (List α)) : ∃ place : Place, place.EndsField ∧
      t.foldl (step d) { records, fields, place := .fieldStart }
        = { records, fields, field := f.reverse, place } := by
  cases h with
  | quoted f =>
    refine ⟨.afterQuote, ⟨by decide, by decide⟩, ?_⟩
    have hopen : step d { records, fields, place := .fieldStart } d.quote
        = { records, fields, place := .quoted } := if_pos rfl
    rw [List.cons_append, List.foldl_cons, hopen, List.foldl_append, foldl_doubled f _ rfl,
      List.append_nil]
    exact if_pos rfl
  | plain free head =>
    cases t with
    | nil => exact ⟨.fieldStart, Place.endsField_fieldStart, rfl⟩
    | cons a rest =>
      refine ⟨.bare, ⟨by decide, by decide⟩, ?_⟩
      obtain ⟨⟨ha, hend⟩, hrest⟩ := List.forall_mem_cons.1 free
      have hfirst : step d { records, fields, place := .fieldStart } a
          = { records, fields, field := [a], place := .bare } := by
        rw [step_of_endsField Place.endsField_fieldStart fun hquote => head (congrArg some hquote),
          stepBare, if_neg ha, hend, if_neg Bool.false_ne_true]
        rfl
      rw [List.foldl_cons, hfirst, foldl_bare hrest _ rfl, List.reverse_cons]

/-- The fields of a line are read one after the other, and the last is complete where it ends. -/
theorem Dialect.Line.read (hd : d.IsProper) (h : d.Line t fs) (records : List (List (List α)))
    (fields : List (List α)) : ∃ r : Reading α, r.place.EndsField ∧
      t.foldl (step d) { records, fields, place := .fieldStart } = r ∧
      r.endRecord = { records := (fields.reverse ++ fs) :: records } := by
  induction h generalizing fields with
  | last field =>
    obtain ⟨place, hplace, hread⟩ := field.read records fields
    refine ⟨_, hplace, hread, ?_⟩
    simp [endRecord]
  | @next t f rest fs field line ih =>
    obtain ⟨place, hplace, hread⟩ := field.read records fields
    have hnext : step d { records, fields, field := f.reverse, place } d.delimiter
        = { records, fields := f :: fields, place := .fieldStart } := by
      rw [step_delimiter hd hplace]
      simp [endField]
    obtain ⟨r, hr, hline, hrecord⟩ := ih (f :: fields)
    refine ⟨r, hr, ?_, ?_⟩
    · rw [List.foldl_append, hread, List.foldl_cons, hnext, hline]
    · rw [hrecord, List.reverse_cons, List.append_assoc]
      rfl

/-- A line is read from the start of a record as from the start of a field. -/
theorem Dialect.Line.readRecord (hd : d.IsProper) (h : d.Line t fs) (hne : t ≠ []) :
    ∃ r : Reading α, r.place.EndsField ∧ t.foldl (step d) {} = r ∧
      r.endRecord = { records := [fs] } := by
  obtain ⟨r, hr, hline, hrecord⟩ := h.read hd [] []
  refine ⟨r, hr, ?_, hrecord⟩
  obtain ⟨a, rest, rfl⟩ := List.exists_cons_of_ne_nil hne
  rw [List.foldl_cons] at hline ⊢
  rw [step_recordStart rfl (h.head_notEnd hd rfl)]
  exact hline

/-- **A line is one record**, and what stands behind it is read by itself. -/
theorem records_line (hd : d.IsProper) (h : d.Line t fs) (hne : t ≠ []) {a : α}
    (ha : d.isLineEnd a = true) (rest : List α) :
    records d (t ++ a :: rest) = fs :: records d rest := by
  obtain ⟨r, hr, hline, hrecord⟩ := h.readRecord hd hne
  have hbehind : ({ records := [fs] } : Reading α) = Reading.behind [fs] {} := rfl
  unfold records
  rw [List.foldl_append, hline, List.foldl_cons, step_lineEnd hd hr ha, hrecord, hbehind,
    foldl_behind, finish_behind]
  rfl

/-- The last line needs no end. -/
theorem records_lastLine (hd : d.IsProper) (h : d.Line t fs) (hne : t ≠ []) :
    records d t = [fs] := by
  obtain ⟨r, hr, hline, hrecord⟩ := h.readRecord hd hne
  unfold records
  rw [hline, finish_of_endsField hr, hrecord]
  rfl

/-- A line end where no record has begun is passed over. -/
theorem records_lineEnd {a : α} (ha : d.isLineEnd a = true) (rest : List α) :
    records d (a :: rest) = records d rest := by
  have hstep : step d {} a = {} := if_pos ha
  unfold records
  rw [List.foldl_cons, hstep]

/-! ## 4. Text with a delimiter -/

/-- What is taken for the delimiter of a text is a candidate. -/
theorem detectDelimiter_mem (text : List Char) : detectDelimiter text ∈ candidates := by
  have hbest (cs : List Char) (hcs : ∀ c ∈ cs, c ∈ candidates) (best : Char × Nat)
      (h : best.1 ∈ candidates) : (cs.foldl (better (sample text)) best).1 ∈ candidates := by
    induction cs generalizing best with
    | nil => exact h
    | cons c rest ih =>
      obtain ⟨hc, hrest⟩ := List.forall_mem_cons.1 hcs
      refine ih hrest _ ?_
      unfold better
      dsimp only
      split
      · exact hc
      · exact h
  exact hbest candidates (fun _ hc => hc) _ (by decide)

/-- A candidate is neither a quote nor a line end. -/
theorem isProper_textDialect {delimiter : Char} (h : delimiter ∈ candidates) :
    (textDialect delimiter).IsProper := by
  have hall : ∀ c ∈ candidates, c ≠ (textDialect c).quote ∧
      (textDialect c).isLineEnd c = false := by simp [candidates, textDialect]
  exact ⟨(hall _ h).1, (hall _ h).2, rfl⟩

end UsageGrid.Csv
