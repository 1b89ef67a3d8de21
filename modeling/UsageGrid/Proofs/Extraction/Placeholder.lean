import Mathlib.Data.List.Infix
import UsageGrid.Proofs.Extraction.Completed

/-!
# Placeholders

A year or a month apart is read as a whole date, what its pattern leaves out filled in: the year with
2000, the month with January. What is filled in stands behind the text and is read last
(`readPartial?_fillers`), so it is a placeholder that may come out as the result:

* a year that the pattern mentions is one that it sets; one that it does not mention is 2000, or 0
  where the pattern takes the first digit away;
* a month that the pattern mentions is one that it sets, or that follows from a day of the year or
  a week; one that it does not mention is January.

That is `part_placeholder`. `nameAlone_placeholder` is a year that the pattern does not set.
-/

namespace UsageGrid.Extraction

open UsageGrid.Calendar Calendar.Reader

variable {rest S tail : List Char} {F : Format} {f : Fields} {said : List (Slot × Int)}
  {l : List Filler} {p text : String} {d : Date}

/-! ## 1. Where fillers are read -/

/-- Some character is no blank. -/
def HasWord (cs : List Char) : Prop := ∃ c ∈ cs, Text.isBlank c = false

theorem hasWord_filler {year month day : Bool} :
    ∀ x ∈ fillers year month day, HasWord x.digits := by
  have hdigits : ∀ x ∈ fillers year month day, x.digits.any (!Text.isBlank ·) = true := by
    revert year month day
    decide
  intro x hx
  obtain ⟨c, hc, hword⟩ := List.any_eq_true.1 (hdigits x hx)
  exact ⟨c, hc, by simpa using hword⟩

/-- A number ends with its word. -/
theorem number?_word {q : Quantity} (hS : HasWord S)
    (h : number? q (S ++ ' ' :: tail) = some (said, rest)) : ∃ S', rest = S' ++ ' ' :: tail := by
  obtain ⟨v, blanks, sign, ds, -, htakes⟩ := number?_eq_some h
  have hsolid : ' ' ∉ sign ++ ds := by
    intro hmem
    rcases List.mem_append.1 hmem with hmem | hmem
    · rcases htakes.sign_eq with rfl | ⟨-, rfl | rfl⟩ <;> simp at hmem
    · exact absurd (htakes.digits.digits _ hmem) (by decide)
  have heq : S ++ ' ' :: tail = (blanks ++ (sign ++ ds)) ++ rest := by
    rw [htakes.eq_append]
    simp
  rcases List.append_eq_append_iff.1 heq with ⟨a, ha, hrest⟩ | ⟨S', -, hrest⟩
  · cases a with
    | nil => exact ⟨[], hrest.symm⟩
    | cons c a =>
      obtain rfl : ' ' = c := (List.cons.inj hrest).1
      -- the blank would have to stand among those in front, and the word before it too
      rcases List.append_eq_append_iff.1 ha with ⟨b, rfl, hb⟩ | ⟨b, rfl, hb⟩
      · exact absurd (hb ▸ List.mem_append_right _ List.mem_cons_self) hsolid
      · obtain ⟨c, hc, hword⟩ := hS
        have := htakes.blank c (List.mem_append_left _ hc)
        rw [hword] at this
        cases this
  · exact ⟨S', hrest⟩

theorem said?_filler (q : Quantity) (padding : Padding) (F : Format) (cs : List Char) :
    said? (.space [' '] :: .number q padding :: F) cs = said? (.number q padding :: F) cs := by
  have hitem : item? (.number q padding) (dropBlanks cs) = item? (.number q padding) cs :=
    number?_dropBlanks q cs
  rw [said?_space, said?, hitem, said?]

/-- As many numbers as there are fillers do not reach the end from further in front. -/
theorem said?_fillers_late (hl : ∀ x ∈ l, HasWord x.digits) (hS : HasWord S) :
    said? (fillerFormat l) (S ++ fillerText l) ≠ some (said, []) := by
  intro h
  induction l generalizing S said with
  | nil =>
    obtain ⟨c, hc, -⟩ := hS
    rw [fillerText, List.flatMap_nil, List.append_nil] at h
    cases h
    cases hc
  | cons x l ih =>
    have htext : S ++ fillerText (x :: l) = S ++ ' ' :: (x.digits ++ fillerText l) := rfl
    have hformat : fillerFormat (x :: l)
        = .space [' '] :: .number x.quantity .zero :: fillerFormat l := rfl
    rw [htext, hformat, said?_filler] at h
    obtain ⟨a, b, r, hnumber, hrest, -⟩ := said?_cons_eq_some.1 h
    obtain ⟨S', rfl⟩ := number?_word hS hnumber
    obtain ⟨c, hc, hword⟩ := hl x List.mem_cons_self
    have hlate : said? (fillerFormat l) ((S' ++ ' ' :: x.digits) ++ fillerText l)
        = some (b, []) := by
      rw [← hrest]
      simp
    exact ih (fun y hy => hl y (List.mem_cons_of_mem _ hy))
      ⟨c, List.mem_append_right _ (List.mem_cons_of_mem _ hc), hword⟩ hlate

/-- **Fillers are read from what has been filled in**, or from the end of it. -/
theorem readPartial?_fillers (hF : Format.ofText? p = some F) (h : readPartial? text p = some d) :
    ∃ f f' r said, items? {} F (Text.trimChars text.toList ++ fillerText (lacking p)) = some (f, r) ∧
      r <:+ fillerText (lacking p) ∧ said? (fillerFormat (lacking p)) r = some (said, []) ∧
      f.setAll? said = some f' ∧ f'.toDate? = some d := by
  obtain ⟨f', hitems, hdate⟩ := (readPartial?_eq_some hF).1 h
  rw [items?_append] at hitems
  obtain ⟨⟨f, r⟩, hitems, hfillers⟩ := Option.bind_eq_some_iff.1 hitems
  obtain ⟨said, hsaid, hset⟩ := (items?_eq_some_iff (stamp_not_mem_fillerFormat _)).1 hfillers
  refine ⟨f, f', r, said, hitems, ?_, hsaid, hset, hdate⟩
  obtain ⟨before, hbefore⟩ := (items?_leaves hitems).1
  rcases List.append_eq_append_iff.1 hbefore with ⟨S, htext, hr⟩ | ⟨b, -, hr⟩
  · cases hlast : S.getLast? with
    | none =>
      rw [List.getLast?_eq_none_iff.1 hlast] at hr
      exact hr ▸ List.suffix_refl _
    | some c =>
      -- what is left of the text itself would end in a word
      have hback : (Text.trimChars text.toList).reverse.head? = some c := by
        rw [List.head?_reverse, htext, List.getLast?_append, hlast, Option.some_or]
      have hword : Text.isBlank c = false := Text.trimChars_last hback
      exact absurd (hr ▸ hsaid)
        (said?_fillers_late hasWord_filler ⟨c, List.mem_of_getLast? hlast, hword⟩)
  · exact ⟨b, hr.symm⟩

/-! ## 2. What the fillers say -/

theorem fillers_year {month day : Bool} :
    ∀ r ∈ (fillerText (fillers false month day)).tails,
      (said? (fillerFormat (fillers false month day)) r).all
        fun t => t.2 ≠ [] ∨ (.year, 2000) ∈ t.1 ∨ (.year, 0) ∈ t.1 := by
  revert month day
  decide

theorem fillers_month {year day : Bool} :
    ∀ r ∈ (fillerText (fillers year false day)).tails,
      (said? (fillerFormat (fillers year false day)) r).all
        fun t => t.2 ≠ [] ∨ (.month, 1) ∈ t.1 := by
  revert year day
  decide

/-! ## 3. What a pattern sets -/

/-- Some item of the format says one of these fields. -/
def Sets (F : Format) (slots : List Slot) : Prop := ∃ i ∈ F, ∃ s ∈ slots, s ∈ i.slots

instance (F : Format) (slots : List Slot) : Decidable (Sets F slots) :=
  inferInstanceAs (Decidable (∃ i ∈ F, ∃ s ∈ slots, s ∈ i.slots))

/-- The fields that set a year, that of a week among them. -/
def yearSlots : List Slot := [.year, .yearOfCentury, .isoYear, .isoYearOfCentury]

/-- The fields that set a month: its own, and those of a place in the year. -/
def monthSlots : List Slot := [.month, .ordinal, .weekFromSunday, .weekFromMonday, .isoWeek]

/-- What a date needs, and is not filled in, the pattern sets. -/
theorem sets_of_readPartial? {slots : List Slot} (hF : Format.ofText? p = some F)
    (h : readPartial? text p = some d)
    (hneeds : ∀ f : Fields, f.toDate? = some d → ∃ s ∈ slots, ∃ v, f.get? s = some v)
    (hfillers : ∀ i ∈ fillerFormat (lacking p), ∀ s ∈ slots, s ∉ i.slots) : Sets F slots := by
  obtain ⟨f, hitems, hdate⟩ := (readPartial?_eq_some hF).1 h
  obtain ⟨s, hs, v, hv⟩ := hneeds f hdate
  rcases (items?_leaves hitems).2 s v hv with hempty | ⟨i, hi, hslot⟩
  · cases hempty
  · rcases List.mem_append.1 hi with hi | hi
    · exact ⟨i, hi, s, hs, hslot⟩
    · exact absurd hslot (hfillers i hi s hs)

theorem sets_year (hF : Format.ofText? p = some F) (h : readPartial? text p = some d)
    (hp : mentionsYear p = true) : Sets F yearSlots := by
  have hfillers : ∀ month day, ∀ i ∈ fillerFormat (fillers true month day),
      ∀ s ∈ yearSlots, s ∉ i.slots := by decide
  refine sets_of_readPartial? hF h (fun f => Fields.toDate?_hasYear) ?_
  unfold lacking
  rw [hp]
  exact hfillers _ _

theorem sets_month (hF : Format.ofText? p = some F) (h : readPartial? text p = some d)
    (hp : mentionsMonth p = true) : Sets F monthSlots := by
  have hfillers : ∀ year day, ∀ i ∈ fillerFormat (fillers year true day),
      ∀ s ∈ monthSlots, s ∉ i.slots := by decide
  refine sets_of_readPartial? hF h (fun f => Fields.toDate?_hasPlace) ?_
  unfold lacking
  rw [hp]
  exact hfillers _ _

/-! ## 4. Years and months apart -/

theorem year_placeholder (hF : Format.ofText? p = some F) (h : readPartial? text p = some d)
    (hp : mentionsYear p = false) : d.year = 2000 ∨ d.year = 0 := by
  obtain ⟨f, f', r, said, -, hr, hsaid, hset, hdate⟩ := readPartial?_fillers hF h
  unfold lacking at hr hsaid
  rw [hp] at hr hsaid
  have hyear := fillers_year r ((List.mem_tails _ _).2 hr)
  rw [hsaid, Option.all_some, decide_eq_true_eq] at hyear
  rcases hyear with hend | hyear | hyear
  · exact absurd rfl hend
  · exact .inl (Fields.toDate?_year hdate ((Fields.mem_setAll? hset).2 (.inr hyear)))
  · exact .inr (Fields.toDate?_year hdate ((Fields.mem_setAll? hset).2 (.inr hyear)))

-- the hour takes two digits of the year that is filled in
example : parseYear "Jan" (some "%b %H") = .ok 0 := rfl

theorem month_placeholder (hF : Format.ofText? p = some F) (h : readPartial? text p = some d)
    (hp : mentionsMonth p = false) : d.month = 1 := by
  obtain ⟨f, f', r, said, -, hr, hsaid, hset, hdate⟩ := readPartial?_fillers hF h
  unfold lacking at hr hsaid
  rw [hp] at hr hsaid
  have hmonth := fillers_month r ((List.mem_tails _ _).2 hr)
  rw [hsaid, Option.all_some, decide_eq_true_eq] at hmonth
  rcases hmonth with hend | hmonth
  · exact absurd rfl hend
  · have := Fields.toDate?_month hdate ((Fields.mem_setAll? hset).2 (.inr hmonth))
    omega

theorem parseYear_pattern_eq_ok {y : Int} (h : parseYear text (some p) = .ok y) :
    ∃ d, readPartial? text p = some d ∧ d.year = y := by
  unfold parseYear at h
  dsimp only at h
  split at h
  · cases h
    exact ⟨_, ‹_›, rfl⟩
  · cases h

theorem parseMonth_pattern_eq_ok {m : Nat} (h : parseMonth text (some p) = .ok m) :
    ∃ d, readPartial? text p = some d ∧ d.month = m := by
  unfold parseMonth at h
  dsimp only at h
  split at h
  · cases h
    exact ⟨_, ‹_›, rfl⟩
  · cases h

/-- **A part of a date is set by its pattern if the pattern mentions it, and is a placeholder
    otherwise.** -/
theorem part_placeholder (hF : Format.ofText? p = some F) (text : String) :
    (∀ y, parseYear text (some p) = .ok y →
      (mentionsYear p = true → Sets F yearSlots) ∧ (mentionsYear p = false → y = 2000 ∨ y = 0)) ∧
    ∀ m, parseMonth text (some p) = .ok m →
      (mentionsMonth p = true → Sets F monthSlots) ∧ (mentionsMonth p = false → m = 1) := by
  refine ⟨fun y hy => ?_, fun m hm => ?_⟩
  · obtain ⟨d, hread, rfl⟩ := parseYear_pattern_eq_ok hy
    exact ⟨sets_year hF hread, year_placeholder hF hread⟩
  · obtain ⟨d, hread, rfl⟩ := parseMonth_pattern_eq_ok hm
    exact ⟨sets_month hF hread, month_placeholder hF hread⟩

/-- Year and month of a pattern that has both are those of the text. -/
theorem yearAndMonth_part :
    (parseYear "Sep 2020" (some "%b %Y") = .ok 2020 ∧
      Sets [.month false, .space [' '], .number .year .zero] yearSlots) ∧
    parseMonth "Sep 2020" (some "%b %Y") = .ok 9 ∧
      Sets [.month false, .space [' '], .number .year .zero] monthSlots := by
  have hread := part_placeholder (p := "%b %Y") rfl "Sep 2020"
  have hyear : parseYear "Sep 2020" (some "%b %Y") = .ok 2020 := rfl
  have hmonth : parseMonth "Sep 2020" (some "%b %Y") = .ok 9 := rfl
  exact ⟨⟨hyear, (hread.1 _ hyear).1 rfl⟩, hmonth, (hread.2 _ hmonth).1 rfl⟩

/-- **Placeholders come out**: the pattern of a month gives a year, that of a year gives a month. -/
theorem nameAlone_placeholder :
    (Format.ofText? "%b" = some [.month false] ∧ ¬ Sets [.month false] yearSlots ∧
      parseYear "Mar" (some "%b") = .ok 2000) ∧
    Format.ofText? "%Y" = some [.number .year .zero] ∧ ¬ Sets [.number .year .zero] monthSlots ∧
      parseMonth "2021" (some "%Y") = .ok 1 :=
  ⟨⟨rfl, by decide, rfl⟩, rfl, by decide, rfl⟩

end UsageGrid.Extraction
