import Mathlib.Data.List.TakeWhile
import Mathlib.Data.Option.Basic
import UsageGrid.Extraction.Number
import UsageGrid.Proofs.Decimal.Digits
import UsageGrid.Proofs.Text.Parts

/-!
# Commas in numbers

A number holds no commas (`isNumeric_of_readChars?`), so a text with commas is read only where they
group the digits before its point by threes (`isGrouped_iff`); a text without commas is read without
its blanks (`parseNumber_commas`). What stands behind the point is not looked at before the commas
are taken out: commas there are passed over as well (`lateComma_read`).
-/

namespace UsageGrid.Decimal

/-! ## 1. The characters of a number -/

/-- A character that a number can hold. -/
def IsNumeric (c : Char) : Prop := isDigit c = true ∨ c ∈ ['+', '-', '.', 'e', 'E']

theorem splitSign_split (cs : List Char) :
    ∃ sign, cs = sign ++ (splitSign cs).2 ∧ ∀ c ∈ sign, c ∈ ['+', '-'] := by
  unfold splitSign
  split
  · exact ⟨['-'], rfl, by simp⟩
  · exact ⟨['+'], rfl, by simp⟩
  · exact ⟨[], rfl, by simp⟩

theorem isNumeric_of_splitSign {cs : List Char} (h : ∀ c ∈ (splitSign cs).2, IsNumeric c) :
    ∀ c ∈ cs, IsNumeric c := by
  obtain ⟨sign, hcs, hsign⟩ := splitSign_split cs
  intro c hc
  rw [hcs] at hc
  rcases List.mem_append.1 hc with hc | hc
  · exact .inr (List.mem_of_mem_take (i := 2) (hsign c hc))
  · exact h c hc

theorem isNumeric_of_exponent? {cs : List Char} {e : Int} (h : exponent? cs = some e) :
    ∀ c ∈ cs, IsNumeric c := by
  cases cs with
  | nil => simp
  | cons c rest =>
    rw [exponent?] at h
    by_cases hmark : c = 'e' ∨ c = 'E'
    · rw [if_pos hmark] at h
      rcases hsign : splitSign rest with ⟨negative, digits⟩
      rw [hsign] at h
      by_cases hdigits : digits ≠ [] ∧ digits.all isDigit
      · refine List.forall_mem_cons.2 ⟨?_, isNumeric_of_splitSign fun d hd => ?_⟩
        · rcases hmark with rfl | rfl <;> exact .inr (by simp)
        · rw [hsign] at hd
          exact .inl (List.all_eq_true.1 hdigits.2 d hd)
      · dsimp only at h
        rw [if_neg hdigits] at h
        cases h
    · rw [if_neg hmark] at h
      cases h

/-- **A number holds digits, signs, points and marks of an exponent, and nothing else.** -/
theorem isNumeric_of_readChars? {cs : List Char} {x : Binary64} (h : readChars? cs = some x) :
    ∀ c ∈ cs, IsNumeric c := by
  refine isNumeric_of_splitSign fun c hc => ?_
  rcases hsign : splitSign cs with ⟨negative, body⟩
  unfold readChars? at h
  rw [hsign] at h hc
  dsimp only at h hc
  rw [← List.takeWhile_append_dropWhile (p := isDigit) (l := body)] at hc
  rcases List.mem_append.1 hc with hc | hc
  · exact .inl (List.mem_takeWhile_imp hc)
  -- behind the whole digits stands a point with more digits, or the exponent
  split at h
  · rename_i rest hpoint
    obtain ⟨-, -, h⟩ := Option.bind_eq_some_iff.1 h
    obtain ⟨e, he, -⟩ := Option.bind_eq_some_iff.1 h
    rw [hpoint, ← List.takeWhile_append_dropWhile (p := isDigit) (l := rest), List.mem_cons,
      List.mem_append] at hc
    rcases hc with rfl | hc | hc
    · exact .inr (by simp)
    · exact .inl (List.mem_takeWhile_imp hc)
    · exact isNumeric_of_exponent? he c hc
  · obtain ⟨-, -, h⟩ := Option.bind_eq_some_iff.1 h
    obtain ⟨e, he, -⟩ := Option.bind_eq_some_iff.1 h
    exact isNumeric_of_exponent? he c hc

theorem not_isNumeric_comma : ¬ IsNumeric ',' := by
  unfold IsNumeric
  decide

end UsageGrid.Decimal

namespace UsageGrid.Extraction

open Decimal Text

/-! ## 2. Grouped digits -/

/-- Digits grouped by commas: a minus or no sign, one to three digits, groups of three digits, and
    behind them nothing, or a point and any text. -/
structure IsGrouping (sign head : List Char) (groups : List (List Char)) (behind : List Char) :
    Prop where
  sign : sign = [] ∨ sign = ['-']
  head : 1 ≤ head.length ∧ head.length ≤ 3 ∧ ∀ c ∈ head, isDigit c = true
  grouped : groups ≠ []
  groups : ∀ g ∈ groups, g.length = 3 ∧ ∀ c ∈ g, isDigit c = true
  behind : behind = [] ∨ ∃ rest, behind = '.' :: rest

/-- The text of grouped digits. -/
def groupedText (sign head : List Char) (groups : List (List Char)) (behind : List Char) :
    List Char :=
  sign ++ (head ++ groups.flatMap (',' :: ·) ++ behind)

theorem isHeadGroup_iff {g : List Char} : isHeadGroup g = true ↔
    1 ≤ g.length ∧ g.length ≤ 3 ∧ ∀ c ∈ g, isDigit c = true := by
  unfold isHeadGroup
  rw [Bool.and_eq_true, Bool.and_eq_true, decide_eq_true_eq, decide_eq_true_eq, List.all_eq_true,
    and_assoc]

theorem isTailGroup_iff {g : List Char} : isTailGroup g = true ↔
    g.length = 3 ∧ ∀ c ∈ g, isDigit c = true := by
  unfold isTailGroup
  rw [Bool.and_eq_true, beq_iff_eq, List.all_eq_true]

namespace IsGrouping

variable {sign head behind : List Char} {groups : List (List Char)}

/-- In front of the point stand digits and commas. -/
theorem isDigit_or_comma (h : IsGrouping sign head groups behind) {c : Char}
    (hc : c ∈ head ++ groups.flatMap (',' :: ·)) : isDigit c = true ∨ c = ',' := by
  rcases List.mem_append.1 hc with hc | hc
  · exact .inl (h.head.2.2 c hc)
  · obtain ⟨g, hg, hc⟩ := List.mem_flatMap.1 hc
    rcases List.mem_cons.1 hc with rfl | hc
    · exact .inr rfl
    · exact .inl ((h.groups g hg).2 c hc)

theorem beforePoint (h : IsGrouping sign head groups behind) :
    ∀ c ∈ head ++ groups.flatMap (',' :: ·), (c != '.') = true := by
  intro c hc
  rcases h.isDigit_or_comma hc with hdigit | rfl
  · rw [bne_iff_ne]
    rintro rfl
    cases hdigit
  · rfl

/-- The digits and commas end at the first point. -/
theorem takeWhile_eq (h : IsGrouping sign head groups behind) :
    (head ++ groups.flatMap (',' :: ·) ++ behind).takeWhile (· != '.')
      = head ++ groups.flatMap (',' :: ·) := by
  rw [List.takeWhile_append_of_pos h.beforePoint]
  obtain rfl | ⟨rest, rfl⟩ := h.behind <;> exact List.append_nil _

theorem dropWhile_eq (h : IsGrouping sign head groups behind) :
    (groupedText sign head groups behind).dropWhile (· != '.') = behind := by
  have hsign : ∀ c ∈ sign, (c != '.') = true := by
    obtain hnone | hminus := h.sign
    · simp [hnone]
    · simp [hminus]
  unfold groupedText
  rw [List.dropWhile_append_of_pos hsign, List.dropWhile_append_of_pos h.beforePoint]
  obtain rfl | ⟨rest, rfl⟩ := h.behind <;> rfl

theorem dropMinus_eq (h : IsGrouping sign head groups behind) :
    dropMinus (groupedText sign head groups behind)
      = head ++ groups.flatMap (',' :: ·) ++ behind := by
  obtain rfl | rfl := h.sign
  · obtain ⟨c, rest, rfl⟩ := List.exists_cons_of_ne_nil (List.ne_nil_of_length_pos h.head.1)
    have hc : c ≠ '-' := by
      rintro rfl
      cases h.head.2.2 '-' List.mem_cons_self
    show dropMinus (c :: _) = c :: _
    unfold dropMinus
    split
    · rename_i hminus
      exact absurd (List.cons.inj hminus).1 hc
    · rfl
  · rfl

/-- No piece between commas holds one. -/
theorem comma_not_mem (h : IsGrouping sign head groups behind) :
    ∀ p ∈ head :: groups, ',' ∉ p := by
  refine List.forall_mem_cons.2 ⟨fun hc => ?_, fun g hg hc => ?_⟩
  · cases h.head.2.2 ',' hc
  · cases (h.groups g hg).2 ',' hc

end IsGrouping

/-- **Grouped is what groups its digits up to the first point.** -/
theorem isGrouped_iff {cs : List Char} : isGrouped cs = true ↔
    ∃ sign head groups behind, IsGrouping sign head groups behind ∧
      cs = groupedText sign head groups behind := by
  constructor
  · intro h
    obtain ⟨sign, hsign, hcs⟩ : ∃ sign, (sign = [] ∨ sign = ['-']) ∧
        cs = sign ++ dropMinus cs := by
      unfold dropMinus
      split
      · exact ⟨['-'], .inr rfl, rfl⟩
      · exact ⟨[], .inl rfl, rfl⟩
    unfold isGrouped at h
    split at h
    · rename_i head next rest hpieces
      rw [Bool.and_eq_true, List.all_eq_true] at h
      obtain ⟨hbefore, -⟩ := splitOnChar_eq_cons_iff.1 hpieces
      refine ⟨sign, head, next :: rest, (dropMinus cs).dropWhile (· != '.'),
        ⟨hsign, isHeadGroup_iff.1 h.1, List.cons_ne_nil _ _,
          fun g hg => isTailGroup_iff.1 (h.2 g hg), ?_⟩, ?_⟩
      · cases hbehind : (dropMinus cs).dropWhile (· != '.') with
        | nil => exact .inl rfl
        | cons c rest =>
          have hc := head?_dropWhile (by rw [hbehind]; rfl)
          rw [bne_eq_false_iff_eq] at hc
          exact .inr ⟨rest, by rw [hc]⟩
      · unfold groupedText
        rw [← hbefore, List.takeWhile_append_dropWhile]
        exact hcs
    · cases h
  · rintro ⟨sign, head, groups, behind, h, rfl⟩
    unfold isGrouped
    rw [h.dropMinus_eq, h.takeWhile_eq, splitOnChar_pieces h.comma_not_mem]
    obtain ⟨next, rest, rfl⟩ := List.exists_cons_of_ne_nil h.grouped
    dsimp only
    rw [Bool.and_eq_true, List.all_eq_true]
    exact ⟨isHeadGroup_iff.2 h.head, fun g hg => isTailGroup_iff.2 (h.groups g hg)⟩

/-! ## 3. Numbers in cells -/

/-- A text without commas is not grouped. -/
theorem isGrouped_of_not_mem {cs : List Char} (h : ',' ∉ cs) : isGrouped cs = false := by
  rw [Bool.eq_false_iff]
  intro hgrouped
  obtain ⟨sign, head, groups, behind, hgrouping, rfl⟩ := isGrouped_iff.1 hgrouped
  obtain ⟨g, rest, rfl⟩ := List.exists_cons_of_ne_nil hgrouping.grouped
  exact h (by simp [groupedText])

theorem comma_mem_trimChars {cs : List Char} : ',' ∈ trimChars cs ↔ ',' ∈ cs := by
  have hkept (l : List Char) : ',' ∈ l ↔ ',' ∈ l.filter fun c => !isBlank c := by
    rw [List.mem_filter]
    exact (and_iff_left (by decide)).symm
  rw [hkept, filter_trimChars, ← hkept]

/-- **A comma groups digits, or the text is no number.** A text with commas is a number if and only
    if its digits up to the point are grouped and it is one without the commas; a text without
    commas if and only if it is one without its blanks. -/
theorem parseNumber_commas (text : String) :
    (',' ∈ text.toList → ∀ x, parseNumber text = some x ↔
      ∃ sign head groups behind, IsGrouping sign head groups behind ∧
        trimChars text.toList = groupedText sign head groups behind ∧
        readChars? ((trimChars text.toList).filter (· != ',')) = some x) ∧
    (',' ∉ text.toList →
      parseNumber text = readChars? (text.toList.filter fun c => !isBlank c)) := by
  unfold parseNumber bareNumber
  constructor
  · intro hcomma x
    by_cases hgrouped : isGrouped (trimChars text.toList) = true
    · rw [if_pos hgrouped]
      constructor
      · intro hread
        obtain ⟨sign, head, groups, behind, hgrouping, htext⟩ := isGrouped_iff.1 hgrouped
        exact ⟨sign, head, groups, behind, hgrouping, htext, hread⟩
      · rintro ⟨-, -, -, -, -, -, hread⟩
        exact hread
    · rw [if_neg hgrouped]
      constructor
      · intro hread
        -- the comma is still there, and no number has one
        refine absurd (isNumeric_of_readChars? hread ',' ?_) not_isNumeric_comma
        exact List.mem_filter.2 ⟨comma_mem_trimChars.2 hcomma, by decide⟩
      · rintro ⟨sign, head, groups, behind, hgrouping, htext, -⟩
        exact absurd (isGrouped_iff.2 ⟨sign, head, groups, behind, hgrouping, htext⟩) hgrouped
  · intro hcomma
    rw [isGrouped_of_not_mem fun hc => hcomma (comma_mem_trimChars.1 hc),
      if_neg Bool.false_ne_true, filter_trimChars]

/-- Digits grouped twice, with a minus, a fraction and blanks around. -/
theorem groupedMillions_commas : ',' ∈ " -1,234,567.5 ".toList ∧
    ∃ x, readChars? "-1234567.5".toList = some x ∧ parseNumber " -1,234,567.5 " = some x := by
  have hmem : ',' ∈ " -1,234,567.5 ".toList := by decide
  obtain ⟨x, hx⟩ : ∃ x, readChars? "-1234567.5".toList = some x :=
    Option.isSome_iff_exists.1 (by decide +kernel)
  refine ⟨hmem, x, hx, (((parseNumber_commas _).1 hmem) x).2 ?_⟩
  refine ⟨['-'], ['1'], [['2', '3', '4'], ['5', '6', '7']], ['.', '5'],
    ⟨.inr rfl, by simp [isDigit_eq], List.cons_ne_nil _ _, by simp [isDigit_eq],
    .inr ⟨_, rfl⟩⟩, by decide +kernel, ?_⟩
  rw [← hx]
  decide +kernel

/-- **Commas behind the point are passed over too**: the text is read, though what stands behind
    the point of its digits holds a comma however it is parted. -/
theorem lateComma_read :
    parseNumber "1,234.5,6" = readChars? "1234.56".toList ∧
    (parseNumber "1,234.5,6").isSome = true ∧
    ∀ sign head groups behind, IsGrouping sign head groups behind →
      trimChars "1,234.5,6".toList = groupedText sign head groups behind → ',' ∈ behind := by
  refine ⟨by decide +kernel, by decide +kernel, fun sign head groups behind h htext => ?_⟩
  have hbehind : behind = ".5,6".toList := by
    rw [← h.dropWhile_eq, ← htext]
    decide +kernel
  rw [hbehind]
  decide +kernel

end UsageGrid.Extraction
