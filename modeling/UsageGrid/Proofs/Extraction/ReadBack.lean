import UsageGrid.Proofs.Calendar.Layout
import UsageGrid.Proofs.Extraction.Completed

/-!
# Patterns that read what they write

A date is written by a layout and read by its pattern: that gives the period of the date, unless a
part is overlooked. A month or a day that is padded otherwise than by nature is not seen in the
pattern (`mentionsMonth_pattern`), so it is filled in as if it were missing, with January or the
first. If that is not what the text says, the text is not read (`parsePeriod_written`).
-/

namespace UsageGrid.Extraction

open UsageGrid.Calendar Calendar.Reader

variable {L : Layout} {d d' : Date} {p : Part}

/-! ## 1. What is seen of a layout -/

/-- A percent sign and a letter. -/
def IsSpecifier (s : String) : Prop := ∃ y : Char, s.toList = ['%', y] ∧ y.isAlphanum = true

/-- A specifier stands nowhere in a pattern but in its parts. -/
theorem specifier_infix_pattern {y : Char} (hy : y.isAlphanum = true) (L : Layout) :
    ['%', y] <:+: L.pattern.toList ↔ ∃ p ∈ L.parts, ['%', y] <:+: p.text := by
  have hne : ∀ c : Char, c.isAlphanum = false → c ≠ y := by
    rintro c hc rfl
    rw [hy] at hc
    cases hc
  have hpercent : y ≠ '%' := (hne '%' rfl).symm
  have hescape : ∀ r ∈ L.rest, ∀ c ∈ r.1, c ≠ y := fun r hr c hc =>
    hne c ((L.separated r hr).not_isAlphanum hc)
  have hheads : ∀ a ∈ L.first.text :: Layout.pieces L.rest, a.head? ≠ some y := by
    intro a ha
    rcases L.mem_pieces.1 ha with ⟨p, -, rfl⟩ | ⟨r, hr, c, hc, rfl⟩
    · rw [p.head?_text]
      exact fun h => hpercent (Option.some.inj h).symm
    · rw [Layout.head?_escape]
      exact fun h => hescape r hr c hc (Option.some.inj h)
  rw [L.toList_pattern, Text.pair_infix_flatten hheads]
  constructor
  · rintro ⟨a, ha, h⟩
    rcases L.mem_pieces.1 ha with ⟨p, hp, rfl⟩ | ⟨r, hr, c, hc, rfl⟩
    · exact ⟨p, hp, h⟩
    · exact absurd h (Layout.not_infix_escape hpercent c)
  · rintro ⟨p, hp, h⟩
    exact ⟨p.text, L.mem_pieces.2 (.inl ⟨p, hp, rfl⟩), h⟩

/-- **A pattern mentions what one of its parts mentions.** -/
theorem mentions_pattern {specifiers : List String} (hs : ∀ s ∈ specifiers, IsSpecifier s)
    (L : Layout) : mentions L.pattern specifiers = true ↔
      ∃ p ∈ L.parts, mentions (String.ofList p.text) specifiers = true := by
  simp only [mentions_iff, String.toList_ofList]
  constructor
  · rintro ⟨s, hmem, h⟩
    obtain ⟨y, hy, halpha⟩ := hs s hmem
    rw [hy] at h
    obtain ⟨p, hp, h⟩ := (specifier_infix_pattern halpha L).1 h
    exact ⟨p, hp, s, hmem, hy ▸ h⟩
  · rintro ⟨p, hp, s, hmem, h⟩
    obtain ⟨y, hy, halpha⟩ := hs s hmem
    rw [hy] at h
    exact ⟨s, hmem, hy ▸ (specifier_infix_pattern halpha L).2 ⟨p, hp, h⟩⟩

theorem isSpecifier_year : ∀ s ∈ ["%Y", "%y", "%G", "%C"], IsSpecifier s := by
  simp only [List.forall_mem_cons]
  exact ⟨⟨'Y', rfl, rfl⟩, ⟨'y', rfl, rfl⟩, ⟨'G', rfl, rfl⟩, ⟨'C', rfl, rfl⟩, by simp⟩

theorem isSpecifier_month : ∀ s ∈ ["%m", "%b", "%B", "%h"], IsSpecifier s := by
  simp only [List.forall_mem_cons]
  exact ⟨⟨'m', rfl, rfl⟩, ⟨'b', rfl, rfl⟩, ⟨'B', rfl, rfl⟩, ⟨'h', rfl, rfl⟩, by simp⟩

theorem isSpecifier_day : ∀ s ∈ ["%d", "%e"], IsSpecifier s := by
  simp only [List.forall_mem_cons]
  exact ⟨⟨'d', rfl, rfl⟩, ⟨'e', rfl, rfl⟩, by simp⟩

theorem mentions_text (p : Part) :
    mentionsYear (String.ofList p.text) = (p.slot == .year) ∧
    mentionsMonth (String.ofList p.text) = (p.slot == .month && !p.isPadded) ∧
    mentionsDay (String.ofList p.text) = (p.slot == .day && !p.isPadded) := by
  cases p with
  | year => decide
  | monthName long => cases long <;> decide
  | month padding => rcases padding with _ | _ | _ | _ <;> decide
  | day blank padding => cases blank <;> rcases padding with _ | _ | _ | _ <;> decide

theorem mentionsYear_pattern (L : Layout) : mentionsYear L.pattern = true := by
  obtain ⟨p, hp, hslot⟩ := L.exists_part L.hasYear
  refine (mentions_pattern isSpecifier_year L).2 ⟨p, hp, (mentions_text p).1.trans ?_⟩
  rw [hslot]
  rfl

theorem mentionsMonth_pattern (L : Layout) :
    mentionsMonth L.pattern = true ↔ ∃ p ∈ L.parts, p.slot = .month ∧ p.isPadded = false := by
  refine (mentions_pattern isSpecifier_month L).trans
    (exists_congr fun p => and_congr_right fun _ => ?_)
  show mentionsMonth _ = true ↔ _
  rw [(mentions_text p).2.1]
  simp

theorem mentionsDay_pattern (L : Layout) :
    mentionsDay L.pattern = true ↔ ∃ p ∈ L.parts, p.slot = .day ∧ p.isPadded = false := by
  refine (mentions_pattern isSpecifier_day L).trans
    (exists_congr fun p => and_congr_right fun _ => ?_)
  show mentionsDay _ = true ↔ _
  rw [(mentions_text p).2.2]
  simp

/-! ## 2. What is read of a text that is written -/

/-- What is said where month or day are filled in. -/
def saidFilled (month day : Bool) : List (Slot × Int) :=
  (if month then [] else [(.month, 1)]) ++ if day then [] else [(.day, 1)]

theorem reads_fillers (month day : Bool) :
    EndsNumber (fillerText (fillers true month day)) ∧
      Reads (fillerFormat (fillers true month day)) (fillerText (fillers true month day))
        (saidFilled month day) := by
  cases month <;> cases day
  · exact ⟨endsNumber_cons rfl, rfl, rfl⟩
  · exact ⟨endsNumber_cons rfl, rfl, rfl⟩
  · exact ⟨endsNumber_cons rfl, rfl, rfl⟩
  · exact ⟨endsNumber_nil, rfl, rfl⟩

/-- All that is said of a date when its text is read by its pattern. -/
def saidBack (L : Layout) (d : Date) : List (Slot × Int) :=
  L.said d ++ saidFilled (mentionsMonth L.pattern) (mentionsDay L.pattern)

theorem readPartial?_written (hd : 1000 ≤ d.year ∧ d.year ≤ 9999) (L : Layout) :
    readPartial? (String.ofList (L.written d)) L.pattern = some d' ↔
      ∃ f, Fields.setAll? {} (saidBack L d) = some f ∧ f.toDate? = some d' := by
  obtain ⟨F, hF, halike⟩ := L.ofText?_pattern
  have hlacking : lacking L.pattern = fillers true (mentionsMonth L.pattern) (mentionsDay L.pattern) :=
    congrArg (fillers · _ _) (mentionsYear_pattern L)
  obtain ⟨hends, hfillers⟩ := reads_fillers (mentionsMonth L.pattern) (mentionsDay L.pattern)
  rw [← hlacking] at hends hfillers
  -- the text is trimmed in front only, and so is the text with what is filled in
  have hsolid := L.written_endsSolid hd
  have htrim : Text.trimChars (L.written d) ++ fillerText (lacking L.pattern)
      = dropBlanks (L.written d ++ fillerText (lacking L.pattern)) := by
    rw [hsolid.trimChars_eq]
    exact (hsolid.dropWhile_append _).symm
  have hsaid : said? (L.format ++ fillerFormat (lacking L.pattern))
      (dropBlanks (L.written d ++ fillerText (lacking L.pattern))) = some (saidBack L d, []) :=
    (L.reads hd hends hfillers).2
  have hstamp : Item.stamp ∉ L.format ++ fillerFormat (lacking L.pattern) := by
    rw [List.mem_append, not_or]
    exact ⟨L.stamp_not_mem, stamp_not_mem_fillerFormat _⟩
  rw [readPartial?_eq_some hF, String.toList_ofList, htrim]
  refine exists_congr fun f => and_congr_left fun _ => ?_
  rw [(halike.append (.refl _)).reads, items?_eq_some_iff hstamp, hsaid]
  simp

/-! ## 3. Parts that are overlooked -/

/-- Some part is padded otherwise than by nature, and is neither January nor the first. -/
def Overlooks (L : Layout) (d : Date) : Prop := ∃ p ∈ L.parts, p.isPadded = true ∧ p.value d ≠ 1

instance (L : Layout) (d : Date) : Decidable (Overlooks L d) :=
  inferInstanceAs (Decidable (∃ p ∈ L.parts, p.isPadded = true ∧ p.value d ≠ 1))

/-- A part that is padded is filled in. -/
theorem mem_saidFilled (hp : p ∈ L.parts) (hpadded : p.isPadded = true) :
    (p.slot, 1) ∈ saidFilled (mentionsMonth L.pattern) (mentionsDay L.pattern) := by
  -- no other part could mention its field
  have hunseen : ¬ ∃ q ∈ L.parts, q.slot = p.slot ∧ q.isPadded = false := by
    rintro ⟨q, hq, hslot, hseen⟩
    rw [L.part_unique hq hp hslot, hpadded] at hseen
    cases hseen
  unfold saidFilled
  cases p with
  | year => cases hpadded
  | monthName long => cases hpadded
  | month padding =>
    have hmonth : mentionsMonth L.pattern = false :=
      Bool.eq_false_iff.2 fun h => hunseen ((mentionsMonth_pattern L).1 h)
    rw [hmonth]
    exact List.mem_append_left _ List.mem_cons_self
  | day blank padding =>
    have hday : mentionsDay L.pattern = false :=
      Bool.eq_false_iff.2 fun h => hunseen ((mentionsDay_pattern L).1 h)
    rw [hday]
    exact List.mem_append_right _ List.mem_cons_self

/-- **A part that is overlooked contradicts what is filled in.** -/
theorem readPartial?_overlooks (hd : 1000 ≤ d.year ∧ d.year ≤ 9999) (h : Overlooks L d) :
    readPartial? (String.ofList (L.written d)) L.pattern = none := by
  obtain ⟨p, hp, hpadded, hvalue⟩ := h
  refine Option.eq_none_iff_forall_ne_some.2 fun d' hread => ?_
  obtain ⟨f, hset, -⟩ := (readPartial?_written hd L).1 hread
  have hsaid : f.get? p.slot = some (p.value d) :=
    (Fields.mem_setAll? hset).2 (.inr (List.mem_append_left _ (List.mem_map_of_mem hp)))
  have hfilled : f.get? p.slot = some 1 :=
    (Fields.mem_setAll? hset).2 (.inr (List.mem_append_right _ (mem_saidFilled hp hpadded)))
  rw [hsaid] at hfilled
  exact hvalue (Option.some.inj hfilled)

/-- The date that is read: the first of the month if no day is written. -/
theorem exists_shown (L : Layout) (d : Date) : ∃ d' : Date, startOf d' = startOf d ∧
    (∀ p ∈ L.parts, p.value d = p.value d') ∧ ((∀ p ∈ L.parts, p.slot ≠ .day) → d'.day = 1) := by
  by_cases hday : ∃ p ∈ L.parts, p.slot = .day
  · exact ⟨d, rfl, fun _ _ => rfl, fun hnone => hday.elim fun p hp => absurd hp.2 (hnone p hp.1)⟩
  · obtain ⟨hyear, hmonth, hone, hle⟩ := d.isDay
    refine ⟨⟨d.year, d.month, 1, hyear, hmonth, Nat.le_refl 1, Nat.le_trans hone hle⟩, rfl,
      fun p hp => ?_, fun _ => rfl⟩
    cases p with
    | day blank padding => exact absurd ⟨_, hp, rfl⟩ hday
    | _ => rfl

/-- What the pattern does not mention is January or the first, unless it is overlooked. -/
theorem value_of_unseen (h : ¬ Overlooks L d) (hp : p ∈ L.parts)
    (hunseen : ¬ ∃ q ∈ L.parts, q.slot = p.slot ∧ q.isPadded = false) : p.value d = 1 := by
  refine Classical.byContradiction fun hne => h ⟨p, hp, ?_, hne⟩
  exact Bool.eq_true_of_not_eq_false fun hseen => hunseen ⟨p, hp, rfl, hseen⟩

theorem mem_saidFilled_iff {month day : Bool} {s : Slot} {v : Int} :
    (s, v) ∈ saidFilled month day ↔
      v = 1 ∧ ((s = .month ∧ month = false) ∨ (s = .day ∧ day = false)) := by
  unfold saidFilled
  cases month <;> cases day <;> simp <;> tauto

/-- What is filled in is what the date has there. -/
theorem mem_saidFilled_shown (h : ¬ Overlooks L d)
    (hvalue : ∀ p ∈ L.parts, p.value d = p.value d')
    (hfirst : (∀ p ∈ L.parts, p.slot ≠ .day) → d'.day = 1) {s : Slot} {v : Int}
    (hmem : (s, v) ∈ saidFilled (mentionsMonth L.pattern) (mentionsDay L.pattern)) :
    (s = .month ∧ v = d'.month) ∨ (s = .day ∧ v = d'.day) := by
  obtain ⟨rfl, ⟨rfl, hmonth⟩ | ⟨rfl, hday⟩⟩ := mem_saidFilled_iff.1 hmem
  · obtain ⟨p, hp, hslot⟩ := L.exists_part L.hasMonth
    have hone := value_of_unseen h hp (by
      rw [hslot, ← mentionsMonth_pattern, hmonth]
      simp)
    rw [hvalue p hp, p.value_of_month hslot] at hone
    exact .inl ⟨rfl, hone.symm⟩
  · refine .inr ⟨rfl, ?_⟩
    by_cases hpart : ∃ p ∈ L.parts, p.slot = .day
    · obtain ⟨p, hp, hslot⟩ := hpart
      have hone := value_of_unseen h hp (by
        rw [hslot, ← mentionsDay_pattern, hday]
        simp)
      rw [hvalue p hp, p.value_of_day hslot] at hone
      exact hone.symm
    · rw [hfirst fun p hp hslot => hpart ⟨p, hp, hslot⟩]
      rfl

/-- **Unless a part is overlooked, year, month and day are said, and nothing else.** -/
theorem mem_saidBack (h : ¬ Overlooks L d) (hvalue : ∀ p ∈ L.parts, p.value d = p.value d')
    (hfirst : (∀ p ∈ L.parts, p.slot ≠ .day) → d'.day = 1) (s : Slot) (v : Int) :
    (s, v) ∈ saidBack L d ↔
      (s, v) ∈ [(Slot.year, d'.year), (.month, (d'.month : Int)), (.day, (d'.day : Int))] := by
  have hpart : ∀ p ∈ L.parts, (p.slot, p.value d') ∈ saidBack L d := fun p hp =>
    List.mem_append_left _ (List.mem_map.2 ⟨p, hp, by rw [hvalue p hp]⟩)
  constructor
  · intro hmem
    rcases List.mem_append.1 hmem with hmem | hmem
    · obtain ⟨p, hp, heq⟩ := List.mem_map.1 hmem
      obtain ⟨rfl, rfl⟩ := Prod.mk.inj heq
      rw [hvalue p hp]
      cases p <;> simp [Part.slot, Part.value]
    · rcases mem_saidFilled_shown h hvalue hfirst hmem with ⟨rfl, rfl⟩ | ⟨rfl, rfl⟩ <;> simp
  · intro hmem
    simp only [List.mem_cons, Prod.mk.injEq, List.not_mem_nil, or_false] at hmem
    rcases hmem with ⟨rfl, rfl⟩ | ⟨rfl, rfl⟩ | ⟨rfl, rfl⟩
    · obtain ⟨p, hp, hslot⟩ := L.exists_part L.hasYear
      exact p.value_of_year hslot d' ▸ hslot ▸ hpart p hp
    · obtain ⟨p, hp, hslot⟩ := L.exists_part L.hasMonth
      exact p.value_of_month hslot d' ▸ hslot ▸ hpart p hp
    · by_cases hday : ∃ p ∈ L.parts, p.slot = .day
      · obtain ⟨p, hp, hslot⟩ := hday
        exact p.value_of_day hslot d' ▸ hslot ▸ hpart p hp
      · have hunseen : mentionsDay L.pattern = false := Bool.eq_false_iff.2 fun hseen => by
          obtain ⟨p, hp, hslot, -⟩ := (mentionsDay_pattern L).1 hseen
          exact hday ⟨p, hp, hslot⟩
        rw [hfirst fun p hp hslot => hday ⟨p, hp, hslot⟩]
        exact List.mem_append_right _ (mem_saidFilled_iff.2 ⟨rfl, .inr ⟨rfl, hunseen⟩⟩)

theorem readPartial?_shown (hd : 1000 ≤ d.year ∧ d.year ≤ 9999) (h : ¬ Overlooks L d) :
    ∃ d', readPartial? (String.ofList (L.written d)) L.pattern = some d' ∧
      startOf d' = startOf d := by
  obtain ⟨d', hstart, hvalue, hfirst⟩ := exists_shown L d
  exact ⟨d', (readPartial?_written hd L).2
    (Fields.exists_setAll?_ymd (mem_saidBack h hvalue hfirst)), hstart⟩

/-! ## 4. Periods that are read back -/

/-- **A date that is written by a pattern is read by it**, unless a part is overlooked. -/
theorem parsePeriod_written (L : Layout) (d : Date) (hd : 1000 ≤ d.year ∧ d.year ≤ 9999) :
    ∃ F text, Format.ofText? L.pattern = some F ∧ F.writeDate? d = some text ∧
      parsePeriod (String.ofList text) (some L.pattern)
        = if Overlooks L d then .error (.mismatch L.pattern) else .ok (startOf d) := by
  obtain ⟨F, hF, halike⟩ := L.ofText?_pattern
  refine ⟨F, L.written d, hF, (halike.writes d).trans (L.writeDate?_format hd), ?_⟩
  unfold parsePeriod
  simp only [mentionsYear_pattern, Bool.not_true, Bool.false_eq_true, if_false]
  by_cases h : Overlooks L d
  · rw [readPartial?_overlooks hd h, if_pos h]
  · obtain ⟨d', hread, hstart⟩ := readPartial?_shown hd h
    rw [hread, if_neg h]
    exact congrArg _ hstart

/-- Day, month and year with points between them. -/
def pointed : Layout where
  first := .day false none
  rest := [(['.'], .month none), (['.'], .year)]
  separated := by decide
  distinct := by decide
  hasYear := by decide
  hasMonth := by decide

def midMarch : Date := ⟨2021, 3, 15, by decide⟩

theorem pointed_written : 1000 ≤ midMarch.year ∧ midMarch.year ≤ 9999 ∧ pointed.pattern = "%d.%m.%Y" ∧
    ∃ F text, Format.ofText? "%d.%m.%Y" = some F ∧ F.writeDate? midMarch = some text ∧
      parsePeriod (String.ofList text) (some "%d.%m.%Y") = .ok "2021-03-01" := by
  have hpattern : pointed.pattern = "%d.%m.%Y" := rfl
  obtain ⟨F, text, hF, hwrite, hread⟩ := parsePeriod_written pointed midMarch (by decide)
  rw [if_neg (by decide), hpattern] at hread
  exact ⟨by decide, by decide, hpattern, F, text, hpattern ▸ hF, hwrite, hread⟩

/-- Year and month, the month without padding. -/
def bare : Layout where
  first := .year
  rest := [(['-'], .month (some .none))]
  separated := by decide
  distinct := by decide
  hasYear := by decide
  hasMonth := by decide

/-- **A month without padding is overlooked**: March is written and not read. -/
theorem bare_overlooked : bare.pattern = "%Y-%-m" ∧
    (∃ F, Format.ofText? "%Y-%-m" = some F ∧ F.writeDate? midMarch = some "2021-3".toList) ∧
    parsePeriod "2021-3" (some "%Y-%-m") = .error (.mismatch "%Y-%-m") ∧
    startOf midMarch = "2021-03-01" :=
  ⟨rfl, ⟨_, rfl, rfl⟩, rfl, rfl⟩

end UsageGrid.Extraction
