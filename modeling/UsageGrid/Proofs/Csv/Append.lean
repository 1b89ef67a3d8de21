import UsageGrid.Proofs.Csv.Writer

/-!
# Texts behind one another

What stands behind a text is read by itself if a record begins there (`records_append`). If it is
made of bare delimiters, all its fields are empty (`records_bare`). So it is for a text that may
begin with a mark (`readText_append`, `readText_bare`).
-/

namespace UsageGrid.Csv

variable {α : Type} {d : Dialect α} {text rest : List α}

/-! ## 1. Steps of the reader -/

/-- Nothing but delimiters and line ends. -/
def IsBare (d : Dialect α) (text : List α) : Prop :=
  ∀ a ∈ text, a = d.delimiter ∨ d.isLineEnd a = true

instance [DecidableEq α] : Decidable (IsBare d text) :=
  List.decidableBAll (fun a => a = d.delimiter ∨ d.isLineEnd a = true) text

namespace Reading

/-- All fields that have been read are empty. -/
structure IsEmpty (r : Reading α) : Prop where
  place : r.place = .recordStart ∨ r.place = .fieldStart
  field : r.field = []
  fields : ∀ f ∈ r.fields, f = []
  records : ∀ record ∈ r.records, ∀ f ∈ record, f = []

variable {r : Reading α}

theorem IsEmpty.endField (h : r.IsEmpty) : r.endField.IsEmpty where
  place := .inr rfl
  field := rfl
  fields := List.forall_mem_cons.2 ⟨by rw [h.field]; rfl, h.fields⟩
  records := h.records

theorem IsEmpty.endRecord (h : r.IsEmpty) : r.endRecord.IsEmpty where
  place := .inl rfl
  field := rfl
  fields := nofun
  records := List.forall_mem_cons.2
    ⟨fun f hf => h.endField.fields f (List.mem_reverse.1 hf), h.records⟩

variable [DecidableEq α]

theorem IsEmpty.step (hd : d.IsProper) (h : r.IsEmpty) {a : α}
    (ha : a = d.delimiter ∨ d.isLineEnd a = true) : (step d r a).IsEmpty := by
  -- the start of a record is like that of a field but for a line end
  by_cases hstart : r.place = .recordStart
  · rcases ha with rfl | ha
    · have hfield : ({ r with place := .fieldStart } : Reading α).IsEmpty :=
        ⟨.inr rfl, h.field, h.fields, h.records⟩
      rw [step_recordStart hstart hd.delimiterIsNoEnd,
        step_delimiter hd Place.endsField_fieldStart]
      exact hfield.endField
    · have hskip : Reading.step d r a = r := by
        unfold Reading.step
        rw [hstart]
        exact if_pos ha
      rwa [hskip]
  · have hends : r.place.EndsField := by
      rw [h.place.resolve_left hstart]
      exact Place.endsField_fieldStart
    rcases ha with rfl | ha
    · rw [step_delimiter hd hends]
      exact h.endField
    · rw [step_lineEnd hd hends ha]
      exact h.endRecord

theorem IsEmpty.foldl (hd : d.IsProper) (h : r.IsEmpty) (htext : IsBare d text) :
    (text.foldl (Reading.step d) r).IsEmpty := by
  induction text generalizing r with
  | nil => exact h
  | cons a rest ih =>
    obtain ⟨ha, hrest⟩ := List.forall_mem_cons.1 htext
    exact ih (h.step hd ha) hrest

/-- At the start of a record nothing of it has been read. -/
def IsFresh (r : Reading α) : Prop := r.place = .recordStart → r.fields = [] ∧ r.field = []

theorem isFresh_stepBare (r : Reading α) (a : α) : (stepBare d r a).IsFresh := by
  unfold stepBare
  split_ifs
  · nofun
  · exact fun _ => ⟨rfl, rfl⟩
  · nofun

theorem isFresh_stepFieldStart (r : Reading α) (a : α) : (stepFieldStart d r a).IsFresh := by
  unfold stepFieldStart
  split_ifs
  · nofun
  · exact isFresh_stepBare r a

theorem IsFresh.step {r : Reading α} (h : r.IsFresh) (a : α) : (step d r a).IsFresh := by
  unfold Reading.step
  split
  · split_ifs
    · exact h
    · exact isFresh_stepFieldStart r a
  · exact isFresh_stepFieldStart r a
  · exact isFresh_stepBare r a
  · split_ifs <;> nofun
  · split_ifs
    · nofun
    · exact isFresh_stepBare r a

theorem IsFresh.foldl {r : Reading α} (h : r.IsFresh) (text : List α) :
    (text.foldl (Reading.step d) r).IsFresh := by
  induction text generalizing r with
  | nil => exact h
  | cons a rest ih => exact ih (h.step a)

end Reading

open Reading

/-! ## 2. Records -/

variable [DecidableEq α]

/-- What stands behind a text begins a record: the text has ended its last line, or the rest ends
    it, and not inside quotes. -/
def BeginsRecord (d : Dialect α) (text rest : List α) : Prop :=
  let place := (text.foldl (step d) {}).place
  place = .recordStart ∨ place ≠ .quoted ∧ ∃ a ∈ rest.head?, d.isLineEnd a = true

/-- **What begins a record is read by itself.** -/
theorem records_append (hd : d.IsProper) (h : BeginsRecord d text rest) :
    records d (text ++ rest) = records d text ++ records d rest := by
  have hfresh : (text.foldl (step d) {}).IsFresh := IsFresh.foldl (fun _ => ⟨rfl, rfl⟩) text
  unfold BeginsRecord at h
  unfold records
  rw [List.foldl_append]
  generalize text.foldl (step d) {} = r at h hfresh
  by_cases hstart : r.place = .recordStart
  · have hbehind : r = Reading.behind r.records {} := by
      obtain ⟨hfields, hfield⟩ := hfresh hstart
      obtain ⟨records, fields, field, place⟩ := r
      subst hfields hfield hstart
      rfl
    rw [hbehind, foldl_behind, finish_behind, finish_behind]
    simp [finish]
  · obtain ⟨hquoted, a, ha, hend⟩ := h.resolve_left hstart
    obtain ⟨rest, rfl⟩ := List.head?_eq_some_iff.1 ha
    have hends : r.place.EndsField := ⟨hstart, hquoted⟩
    have hbehind : r.endRecord = Reading.behind r.endRecord.records {} := rfl
    have hskip : step d {} a = {} := if_pos hend
    rw [List.foldl_cons, step_lineEnd hd hends hend, hbehind, foldl_behind, finish_behind,
      finish_of_endsField hends, List.foldl_cons, hskip]

/-- **Bare delimiters hold empty fields only.** -/
theorem records_bare (hd : d.IsProper) (htext : IsBare d text) :
    ∀ record ∈ records d text, ∀ f ∈ record, f = [] := by
  have hempty : (text.foldl (step d) {}).IsEmpty :=
    Reading.IsEmpty.foldl hd ⟨.inl rfl, rfl, nofun, nofun⟩ htext
  unfold records finish
  split
  · exact fun record hrecord => hempty.records record (List.mem_reverse.1 hrecord)
  · exact fun record hrecord => hempty.endRecord.records record (List.mem_reverse.1 hrecord)

/-! ## 3. Texts -/

section

variable {delimiter : Char} {text lines : List Char}

theorem dropMark_append (h : text ≠ []) : dropMark (text ++ lines) = dropMark text ++ lines := by
  obtain ⟨c, text, rfl⟩ := List.exists_cons_of_ne_nil h
  show (if c.toNat = 0xFEFF then text ++ lines else c :: (text ++ lines))
    = (if c.toNat = 0xFEFF then text else c :: text) ++ lines
  split_ifs <;> rfl

theorem dropMark_bare (hd : delimiter ∈ candidates) (h : IsBare (textDialect delimiter) lines) :
    dropMark lines = lines := by
  refine dropMark_eq_self fun hmark => ?_
  have hdelimiter : mark ∉ candidates := by decide
  rcases h mark (List.mem_of_mem_head? hmark) with heq | hend
  · exact hdelimiter (heq ▸ hd)
  · cases hend

/-- Lines of bare delimiters behind a text are read by themselves. -/
theorem readText_append (hd : delimiter ∈ candidates) (h : IsBare (textDialect delimiter) lines)
    (hbegins : BeginsRecord (textDialect delimiter) (dropMark text) lines) :
    readText delimiter (text ++ lines) = readText delimiter text ++ readText delimiter lines := by
  unfold readText
  rw [dropMark_bare hd h, ← records_append (isProper_textDialect hd) hbegins]
  cases text with
  | nil => exact congrArg _ (dropMark_bare hd h)
  | cons c text => rw [dropMark_append (List.cons_ne_nil c text)]

theorem readText_bare (hd : delimiter ∈ candidates) (h : IsBare (textDialect delimiter) lines) :
    ∀ record ∈ readText delimiter lines, ∀ f ∈ record, f = [] := by
  unfold readText
  rw [dropMark_bare hd h]
  exact records_bare (isProper_textDialect hd) h

end

end UsageGrid.Csv
