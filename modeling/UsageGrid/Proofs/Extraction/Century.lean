import UsageGrid.Proofs.Extraction.Period
import UsageGrid.Proofs.Extraction.Placeholder

/-!
# The century of a date

Where no pattern is given, the usual ones are tried in turn. Each has its year between characters
that are no digits (`YearPlace`), so that the year is a number of the text, all its digits and no
others (`NumberAt`). Four digits are the year itself, two are one of the years from 1970 to 2069
(`century_of_parsePeriod`).
-/

namespace UsageGrid.Extraction

open UsageGrid.Calendar Calendar.Reader Decimal

variable {cs T before ds after r : List Char} {A B F : Format} {a b said : List (Slot × Int)}
  {l : List Filler} {q : Quantity} {d : Date} {p text : String} {c : Char}

/-! ## 1. Numbers of a text -/

/-- No digit stands at the end. -/
def StopsNumber (cs : List Char) : Prop := ∀ c, cs.getLast? = some c → isDigit c = false

theorem stopsNumber_of_all (h : ∀ c ∈ cs, isDigit c = false) : StopsNumber cs :=
  fun c hc => h c (List.mem_of_getLast? hc)

theorem StopsNumber.append (ha : StopsNumber before) (hb : StopsNumber cs) :
    StopsNumber (before ++ cs) := by
  intro c hc
  rw [List.getLast?_append] at hc
  cases hlast : cs.getLast? with
  | none =>
    rw [hlast, Option.none_or] at hc
    exact ha c hc
  | some e =>
    rw [hlast, Option.some_or] at hc
    cases hc
    exact hb c hlast

theorem EndsNumber.append (ha : EndsNumber cs) (hb : EndsNumber after) :
    EndsNumber (cs ++ after) := by
  cases cs with
  | nil => exact hb
  | cons c cs => exact endsNumber_cons (ha c rfl)

theorem not_isDigit_of_isBlank (h : Text.isBlank c = true) : isDigit c = false :=
  Bool.eq_false_iff.2 fun hdigit => by
    rw [isBlank_of_isDigit hdigit] at h
    cases h

/-- Digits of the text with no digit before and none after them. -/
structure NumberAt (cs before ds after : List Char) : Prop where
  eq_append : cs = before ++ (ds ++ after)
  ne_nil : ds ≠ []
  digits : ∀ c ∈ ds, isDigit c = true
  stops : StopsNumber before
  ends : EndsNumber after

/-- No digit stands in front of what these items leave. -/
def Guards (A : Format) : Prop :=
  ∀ cs said r, said? A cs = some (said, r) → ∃ before, cs = before ++ r ∧ StopsNumber before

/-- These items take a character that is neither digit nor blank, and no digit stands in front. -/
def Opens (B : Format) : Prop :=
  ∀ cs said r, said? B cs = some (said, r) →
    EndsNumber cs ∧ ∃ c ∈ cs, isDigit c = false ∧ Text.isBlank c = false

/-- The format has a number that ends the text or is followed by something else. -/
inductive HasNumber (q : Quantity) : Format → Prop where
  | last (A : Format) : Guards A → HasNumber q (A ++ [.number q .zero])
  | inner (A B : Format) : Guards A → Opens B → HasNumber q (A ++ .number q .zero :: B)

/-- The day that is filled in where a pattern has year and month alone. -/
def firstDay : Filler := ⟨['0', '1'], .day⟩

theorem endsNumber_fillerText (hl : l = [] ∨ l = [firstDay]) : EndsNumber (fillerText l) := by
  rcases hl with rfl | rfl
  · exact endsNumber_nil
  · exact endsNumber_cons rfl

/-- What begins with something else than a filler does not begin within it. -/
theorem after_inner (hl : l = [] ∨ l = [firstDay]) (htext : T ++ fillerText l = before ++ r)
    (hc : ∃ c ∈ r, isDigit c = false ∧ Text.isBlank c = false) :
    ∃ after, r = after ++ fillerText l := by
  have hfiller : (fillerText l).all (fun c => isDigit c || Text.isBlank c) = true := by
    rcases hl with rfl | rfl <;> rfl
  obtain ⟨c, hmem, hdigit, hblank⟩ := hc
  rcases List.append_eq_append_iff.1 htext with ⟨e, -, hr⟩ | ⟨after, -, hr⟩
  · have := List.all_eq_true.1 hfiller c (hr ▸ List.mem_append_right _ hmem)
    rw [hdigit, hblank] at this
    cases this
  · exact ⟨after, hr⟩

/-- A number that is followed by a filler, or the end of one, has all its digits in front of it. -/
theorem after_last {most : Option Nat} {n : Nat} (hl : l = [] ∨ l = [firstDay])
    (htext : T ++ fillerText l = before ++ (ds ++ r)) (hr : r <:+ fillerText l)
    (hfill : said? (fillerFormat l) r = some (b, [])) (hds : TakesDigits most n ds r)
    (hmost : ∀ m ∈ most, 2 ≤ m) : r = fillerText l := by
  obtain ⟨e, he⟩ := hr
  rcases hl with rfl | rfl
  · exact (List.append_eq_nil_iff.1 he).2
  · have hpos := List.length_pos_iff.2 hds.ne_nil
    have hsuffix : e.length ≤ ds.length → e <:+ ds := by
      have hfront : T ++ e = before ++ ds := by
        rw [← he, ← List.append_assoc, ← List.append_assoc] at htext
        exact List.append_cancel_right htext
      exact List.suffix_of_suffix_length_le (hfront ▸ List.suffix_append _ _)
        (List.suffix_append _ _)
    -- its digits would go back over the blank
    have hblank : ' ' ∈ e → ¬ e.length ≤ ds.length := fun hmem hle =>
      absurd (hds.digits _ ((hsuffix hle).subset hmem)) (by decide)
    have he : e ++ r = [' ', '0', '1'] := he
    rcases e with _ | ⟨c₁, _ | ⟨c₂, _ | ⟨c₃, e⟩⟩⟩
    · exact he
    · cases he
      exact absurd hpos (hblank List.mem_cons_self)
    · cases he
      rcases hds.ends with ⟨m, hm, hlength⟩ | hends
      · exact absurd (hlength ▸ hmost m hm) (hblank List.mem_cons_self)
      · exact absurd (hends '1' rfl) (by decide)
    · have hnil : r = [] := by
        have := congrArg List.length he
        simp only [List.length_append, List.length_cons, List.length_nil] at this
        exact List.length_eq_zero_iff.1 (by omega)
      rw [hnil] at hfill
      cases hfill

/-- **The number of a format is a number of the text.** -/
theorem numberAt_of_takes {v : Int} {blanks sign rest : List Char} (hstop : StopsNumber before)
    (htakes : TakesNumber q rest v blanks sign ds (after ++ fillerText l))
    (hends : EndsNumber (after ++ fillerText l)) (htext : T ++ fillerText l = before ++ rest) :
    NumberAt T (before ++ (blanks ++ sign)) ds after ∧
      (v < 0 → (before ++ (blanks ++ sign)).getLast? = some '-') := by
  have hsign : ∀ c ∈ blanks ++ sign, isDigit c = false := by
    intro c hc
    rcases List.mem_append.1 hc with hc | hc
    · exact not_isDigit_of_isBlank (htakes.blank c hc)
    · rcases htakes.sign_eq with rfl | ⟨-, rfl | rfl⟩
      · cases hc
      · exact List.mem_singleton.1 hc ▸ rfl
      · exact List.mem_singleton.1 hc ▸ rfl
  refine ⟨⟨?_, htakes.digits.ne_nil, htakes.digits.digits,
    hstop.append (stopsNumber_of_all hsign), ?_⟩, fun hneg => ?_⟩
  · have hfront : T ++ fillerText l
        = (before ++ (blanks ++ sign) ++ (ds ++ after)) ++ fillerText l := by
      rw [htext, htakes.eq_append]
      simp
    exact List.append_cancel_right hfront
  · cases after with
    | nil => exact endsNumber_nil
    | cons c after => exact endsNumber_cons (hends c rfl)
  · rw [htakes.neg_iff hneg, List.getLast?_append, List.getLast?_concat, Option.some_or]

/-- A format that is read up to the fillers takes its number from the text in front of them. -/
theorem HasNumber.takes (h : HasNumber q F) (hq : ∀ m ∈ q.width, 2 ≤ m)
    (hl : l = [] ∨ l = [firstDay]) (hF : said? F (T ++ fillerText l) = some (a, r))
    (hr : r <:+ fillerText l) (hfill : said? (fillerFormat l) r = some (b, [])) :
    ∃ before rest v blanks sign ds after, T ++ fillerText l = before ++ rest ∧
      StopsNumber before ∧ TakesNumber q rest v blanks sign ds (after ++ fillerText l) ∧
      EndsNumber (after ++ fillerText l) ∧ ∀ x ∈ q.fields v, x ∈ a := by
  cases h with
  | last A hA =>
    obtain ⟨a₁, a₂, r₁, hfront, hnumber, rfl⟩ := said?_append_eq_some.1 hF
    obtain ⟨a₃, a₄, r₂, hitem, hnil, rfl⟩ := said?_cons_eq_some.1 hnumber
    cases hnil
    obtain ⟨before, htext, hstop⟩ := hA _ _ _ hfront
    obtain ⟨v, blanks, sign, ds, rfl, htakes⟩ := number?_eq_some hitem
    have hall : T ++ fillerText l = (before ++ (blanks ++ sign)) ++ (ds ++ r) := by
      rw [htext, htakes.eq_append]
      simp
    have hmost : ∀ m ∈ if sign = [] then q.width else none, 2 ≤ m := by
      intro m hm
      split at hm
      · exact hq m hm
      · cases hm
    obtain rfl : r = fillerText l := after_last hl hall hr hfill htakes.digits hmost
    exact ⟨before, _, v, blanks, sign, ds, [], htext, hstop, htakes, endsNumber_fillerText hl,
      fun x hx => List.mem_append_right _ (List.mem_append_left _ hx)⟩
  | inner A B hA hB =>
    obtain ⟨a₁, a₂, r₁, hfront, hnumber, rfl⟩ := said?_append_eq_some.1 hF
    obtain ⟨a₃, a₄, r₂, hitem, hrest, rfl⟩ := said?_cons_eq_some.1 hnumber
    obtain ⟨before, htext, hstop⟩ := hA _ _ _ hfront
    obtain ⟨v, blanks, sign, ds, rfl, htakes⟩ := number?_eq_some hitem
    obtain ⟨hends, hc⟩ := hB _ _ _ hrest
    have hall : T ++ fillerText l = (before ++ (blanks ++ (sign ++ ds))) ++ r₂ := by
      rw [htext, htakes.eq_append]
      simp
    obtain ⟨after, rfl⟩ := after_inner hl hall hc
    exact ⟨before, _, v, blanks, sign, ds, after, htext, hstop, htakes, hends,
      fun x hx => List.mem_append_right _ (List.mem_append_left _ hx)⟩

/-- **The number of a format stands in the text as it is read.** -/
theorem HasNumber.numberAt (h : HasNumber q F) (hq : ∀ m ∈ q.width, 2 ≤ m)
    (hl : l = [] ∨ l = [firstDay]) (hF : said? F (T ++ fillerText l) = some (a, r))
    (hr : r <:+ fillerText l) (hfill : said? (fillerFormat l) r = some (b, [])) :
    ∃ v before ds after, (∀ x ∈ q.fields v, x ∈ a) ∧ NumberAt T before ds after ∧
      natOfDigits ds = v.natAbs ∧ (v < 0 → before.getLast? = some '-') ∧
      (q.isSigned = false → 0 ≤ v ∧ ∀ m ∈ q.width, ds.length ≤ m) := by
  obtain ⟨before, rest, v, blanks, sign, ds, after, htext, hstop, htakes, hends, hsaid⟩ :=
    h.takes hq hl hF hr hfill
  obtain ⟨hnumber, hneg⟩ := numberAt_of_takes hstop htakes hends htext
  refine ⟨v, _, ds, after, hsaid, hnumber, htakes.digits.value, hneg, fun hsigned => ?_⟩
  have hnone : sign = [] := htakes.sign_eq.resolve_right fun h => by
    rw [hsigned] at h
    cases h.1
  refine ⟨Int.not_lt.1 fun h => ?_, fun m hm => htakes.digits.length_le m ?_⟩
  · have := htakes.neg_iff h
    rw [hnone] at this
    cases this
  · rwa [if_pos hnone]

/-! ## 4. The usual patterns -/

/-- A pattern with a year in full, or with two digits of it behind the name of a month. -/
inductive HasCentury (p : String) : Prop where
  | full {F : Format} (hF : Format.ofText? p = some F) (hstamp : .stamp ∉ F)
      (hlacking : lacking p = [] ∨ lacking p = [firstDay]) (hyear : HasNumber .year F)
  | short {long : Bool} {i : Item}
      (hF : Format.ofText? p = some [.month long, i, .number .yearOfCentury .zero])
      (hi : i.slots = [] ∧ i ≠ .stamp) (hlacking : lacking p = [firstDay])
      (hyear : HasNumber .yearOfCentury [.month long, i, .number .yearOfCentury .zero])

/-- A number of the text is the year, behind a minus sign if the year is before zero. -/
def GivesYear (cs : List Char) (y : Int) : Prop :=
  ∃ before ds after, NumberAt cs before ds after ∧ natOfDigits ds = y.natAbs ∧
    (y < 0 → before.getLast? = some '-')

/-- A number of at most two digits of the text is what the year, one from 1970 to 2069, has beyond the
    hundreds. -/
def GivesShortYear (cs : List Char) (y : Int) : Prop :=
  ∃ before ds after, NumberAt cs before ds after ∧ ds.length ≤ 2 ∧
    (natOfDigits ds : Int) = y % 100 ∧ 1970 ≤ y ∧ y ≤ 2069

/-- What is read of a text and of what is filled in is said together. -/
theorem readPartial?_said (hF : Format.ofText? p = some F) (hstamp : .stamp ∉ F)
    (h : readPartial? text p = some d) :
    ∃ a r b f, said? F (Text.trimChars text.toList ++ fillerText (lacking p)) = some (a, r) ∧
      r <:+ fillerText (lacking p) ∧ said? (fillerFormat (lacking p)) r = some (b, []) ∧
      Fields.setAll? {} (a ++ b) = some f ∧ f.toDate? = some d := by
  obtain ⟨f, f', r, b, hitems, hr, hfill, hset, hdate⟩ := readPartial?_fillers hF h
  obtain ⟨a, hsaid, hset'⟩ := (items?_eq_some_iff hstamp).1 hitems
  refine ⟨a, r, b, f', hsaid, hr, hfill, ?_, hdate⟩
  rw [Fields.setAll?_append, hset', Option.bind_some, hset]

/-- Two digits of a year, behind the name of a month, make a date from 1970 to 2069. -/
theorem year_of_short {long : Bool} {i : Item} {f : Fields} {v : Int} (hi : i.slots = [])
    (hsaid : said? [.month long, i, .number .yearOfCentury .zero] cs = some (a, r))
    (hfill : said? (fillerFormat [firstDay]) r = some (b, []))
    (hset : Fields.setAll? {} (a ++ b) = some f) (hdate : f.toDate? = some d)
    (hv : (Slot.yearOfCentury, v) ∈ a) : d.year = if v < 70 then 2000 + v else 1900 + v := by
  have hitems : ∀ j ∈ [.month long, i, .number .yearOfCentury .zero] ++ fillerFormat [firstDay],
      ∀ s ∈ j.slots, s ∈ [Slot.month, .yearOfCentury, .day] := by
    refine List.forall_mem_append.2
      ⟨List.forall_mem_cons.2 ⟨?_, List.forall_mem_cons.2 ⟨?_, by decide⟩⟩, by decide⟩
    · exact fun s hs => List.mem_singleton.1 hs ▸ List.mem_cons_self
    · rw [hi]
      exact fun s hs => nomatch hs
  have hslots : ∀ x ∈ a ++ b, x.1 ∈ [Slot.month, .yearOfCentury, .day] := by
    intro x hx
    rcases List.mem_append.1 hx with hx | hx
    · obtain ⟨j, hj, hslot⟩ := (said?_leaves hsaid).2 x hx
      exact hitems j (List.mem_append_left _ hj) _ hslot
    · obtain ⟨j, hj, hslot⟩ := (said?_leaves hfill).2 x hx
      exact hitems j (List.mem_append_right _ hj) _ hslot
  have hnone : ∀ s, s ∉ [Slot.month, .yearOfCentury, .day] → f.get? s = none := fun s hs =>
    Option.eq_none_iff_forall_ne_some.2 fun w hw =>
      ((Fields.mem_setAll? hset).1 hw).elim (nomatch ·) fun hmem => hs (hslots _ hmem)
  obtain ⟨m, hm⟩ : ∃ m, (Slot.month, m) ∈ a := by
    obtain ⟨a₁, a₂, r₁, hname, -, rfl⟩ := said?_cons_eq_some.1 hsaid
    obtain ⟨⟨k, r₂⟩, -, hname⟩ := Option.map_eq_some_iff.1 hname
    cases hname
    exact ⟨_, List.mem_append_left _ List.mem_cons_self⟩
  obtain ⟨n, hn⟩ : ∃ n, (Slot.day, n) ∈ b := by
    have hnumber : said? [.number .day .zero] r = some (b, []) :=
      (said?_filler .day .zero [] r).symm.trans hfill
    obtain ⟨b₁, b₂, r₁, hday, -, rfl⟩ := said?_cons_eq_some.1 hnumber
    obtain ⟨w, -, -, -, rfl, -⟩ := number?_eq_some hday
    exact ⟨w, List.mem_append_left _ List.mem_cons_self⟩
  have hget : ∀ s w, (s, w) ∈ a ++ b → f.get? s = some w := fun s w hmem =>
    (Fields.mem_setAll? hset).2 (.inr hmem)
  exact Fields.toDate?_yearOfCentury hdate (hnone _ (by decide)) (hnone _ (by decide))
    (hget _ _ (List.mem_append_left _ hv)) (hget _ _ (List.mem_append_left _ hm))
    (hget _ _ (List.mem_append_right _ hn))

/-- **A usual pattern takes the year from a number of the text.** -/
theorem HasCentury.gives (h : HasCentury p) (hread : readPartial? text p = some d) :
    GivesYear (Text.trimChars text.toList) d.year ∨
      GivesShortYear (Text.trimChars text.toList) d.year := by
  cases h with
  | full hF hstamp hlacking hyear =>
    obtain ⟨a, r, b, f, hsaid, hr, hfill, hset, hdate⟩ := readPartial?_said hF hstamp hread
    obtain ⟨v, before, ds, after, hv, hnumber, hvalue, hneg, -⟩ :=
      hyear.numberAt (by rintro _ ⟨⟩; decide) hlacking hsaid hr hfill
    have hmem : (Slot.year, v) ∈ a ++ b := List.mem_append_left _ (hv _ List.mem_cons_self)
    rw [Fields.toDate?_year hdate ((Fields.mem_setAll? hset).2 (.inr hmem))]
    exact .inl ⟨before, ds, after, hnumber, hvalue, hneg⟩
  | @short long i hF hi hlacking hyear =>
    have hstamp : Item.stamp ∉ [Item.month long, i, .number .yearOfCentury .zero] := by
      simpa using hi.2.symm
    obtain ⟨a, r, b, f, hsaid, hr, hfill, hset, hdate⟩ := readPartial?_said hF hstamp hread
    obtain ⟨v, before, ds, after, hv, hnumber, hvalue, -, hunsigned⟩ :=
      hyear.numberAt (by rintro _ ⟨⟩; decide) (.inr hlacking) hsaid hr hfill
    obtain ⟨hpos, hlength⟩ := hunsigned rfl
    rw [hlacking] at hfill
    have hyear := year_of_short hi.1 hsaid hfill hset hdate (hv _ List.mem_cons_self)
    have hdigits : ds.length ≤ 2 := hlength 2 rfl
    have hsmall : natOfDigits ds < 10 ^ 2 :=
      Nat.lt_of_lt_of_le (natOfDigits_lt hnumber.digits) (Nat.pow_le_pow_right (by decide) hdigits)
    refine .inr ⟨before, ds, after, hnumber, hdigits, ?_⟩
    rw [hyear]
    split <;> omega

end UsageGrid.Extraction
