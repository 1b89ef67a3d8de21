import UsageGrid.Proofs.Csv.Reader

/-!
# What is written is read back

A record is written as a line that stands for it (`line_writeRecord`), so the records of a text that
was written are those that were written (`records_write`, `readText_write`).
-/

namespace UsageGrid.Csv

/-! ## 1. What is written -/

theorem toNat_eq_quote {c : Char} : c.toNat = 0x22 ↔ c = (textDialect ',').quote := by
  constructor
  · intro h
    rw [← Char.ofNat_toNat c, h]
    rfl
  · rintro rfl
    rfl

theorem doubled_eq (f : List Char) : doubled f = (textDialect ',').doubled f := by
  unfold doubled Dialect.doubled
  simp only [toNat_eq_quote]

/-- A field is written so that it is spelled out. -/
theorem spells_writeField (f : List Char) : (textDialect ',').Spells (writeField f) f := by
  unfold writeField
  by_cases hspecial : f.any isSpecial = true
  · rw [if_pos hspecial, doubled_eq]
    exact .quoted f
  · rw [if_neg hspecial]
    have hplain : ∀ c ∈ f, isSpecial c = false := by
      intro c hc
      rw [Bool.eq_false_iff]
      exact fun h => hspecial (List.any_eq_true.2 ⟨c, hc, h⟩)
    refine .plain (fun c hc => ?_) fun hhead => ?_
    · have hc := hplain c hc
      unfold isSpecial at hc
      rw [Bool.or_eq_false_iff, Bool.or_eq_false_iff, Bool.or_eq_false_iff] at hc
      exact ⟨beq_eq_false_iff_ne.1 hc.1.1.1, Bool.or_eq_false_iff.2 ⟨hc.1.2, hc.2⟩⟩
    · have hquote : isSpecial (textDialect ',').quote = true := rfl
      exact absurd (hquote.symm.trans (hplain _ (List.mem_of_mem_head? hhead))) (by decide)

theorem line_commaSeparated {fs : List (List Char)} (h : fs ≠ []) :
    (textDialect ',').Line (commaSeparated fs) fs := by
  induction fs with
  | nil => exact absurd rfl h
  | cons f rest ih =>
    cases rest with
    | nil => exact .last (spells_writeField f)
    | cons g rest => exact .next (spells_writeField f) (ih (List.cons_ne_nil _ _))

/-- **A record is written as a line that stands for it**, and no line is empty. -/
theorem line_writeRecord {fs : List (List Char)} (h : fs ≠ []) :
    ∃ t, writeRecord fs = t ++ ['\n'] ∧ t ≠ [] ∧ (textDialect ',').Line t fs := by
  have hline := line_commaSeparated h
  unfold writeRecord
  split
  · rename_i hnone
    rw [hline.eq_of_nil hnone]
    exact ⟨[(textDialect ',').quote, (textDialect ',').quote], rfl, List.cons_ne_nil _ _,
      .last (.quoted [])⟩
  · rename_i hsome
    exact ⟨_, rfl, hsome, hline⟩

/-! ## 2. What is read back -/

theorem isProper_comma : (textDialect ',').IsProper := isProper_textDialect (by decide)

/-- The records of a text that was written are those that were written. -/
theorem records_write {rs : List (List (List Char))} (h : ∀ fs ∈ rs, fs ≠ []) :
    records (textDialect ',') (rs.flatMap writeRecord) = rs := by
  induction rs with
  | nil => rfl
  | cons fs rest ih =>
    obtain ⟨hfs, hrest⟩ := List.forall_mem_cons.1 h
    obtain ⟨t, hwritten, hne, hline⟩ := line_writeRecord hfs
    rw [List.flatMap_cons, hwritten, List.append_assoc, List.singleton_append,
      records_line isProper_comma hline hne rfl, ih hrest]

/-- The mark that may stand in front of a text. -/
def mark : Char := Char.ofNat 0xFEFF

theorem dropMark_eq_self {text : List Char} (h : text.head? ≠ some mark) :
    dropMark text = text := by
  unfold dropMark
  split
  · rename_i c rest
    have hc : c.toNat ≠ 0xFEFF := by
      intro hc
      refine h (congrArg some ?_)
      rw [← Char.ofNat_toNat c, hc]
      rfl
    exact if_neg hc
  · rfl

/-- **What is written is read back**, unless the first field begins with the mark that is left
    out in front of a text. -/
theorem readText_write {rs : List (List String)} (h : ∀ fs ∈ rs, fs ≠ [])
    (hmark : ∀ fs f, rs.head? = some fs → fs.head? = some f → f.toList.head? ≠ some mark) :
    readText ',' (write rs).toList = rs.map (·.map String.toList) := by
  have hne : ∀ fs ∈ rs.map (·.map String.toList), fs ≠ [] := by
    intro fs hfs
    obtain ⟨r, hr, rfl⟩ := List.mem_map.1 hfs
    exact fun hnil => h r hr (List.map_eq_nil_iff.1 hnil)
  have hhead : (rs.flatMap fun r => writeRecord (r.map String.toList)).head? ≠ some mark := by
    intro hhead
    cases rs with
    | nil => cases hhead
    | cons r rest =>
      obtain ⟨t, hwritten, ht, hline⟩ := line_writeRecord (hne _ List.mem_cons_self)
      rw [List.flatMap_cons, hwritten, List.append_assoc, List.head?_append_of_ne_nil _ ht] at hhead
      rcases hline.head hhead with hquote | hcomma | ⟨f, hf, hfirst, -⟩
      · exact absurd hquote (by decide)
      · exact absurd hcomma (by decide)
      · rw [List.head?_map, Option.map_eq_some_iff] at hf
        obtain ⟨s, hs, rfl⟩ := hf
        exact hmark r s rfl hs hfirst
  unfold readText write
  rw [String.toList_ofList, dropMark_eq_self hhead, ← records_write hne, List.flatMap_map]

end UsageGrid.Csv
