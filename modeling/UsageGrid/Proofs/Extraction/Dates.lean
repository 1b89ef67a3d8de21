import UsageGrid.Proofs.Extraction.Execute
import UsageGrid.Proofs.Extraction.Period

/-!
# The dates of records

The date of a record is passed on as it stands in the grid, or it is written from a year and a month
that have been read (`DateFrom`). Where no date is passed on, a date is normalized if and only if the
year that was read has four digits at most and no sign (`execute_isNormalized_iff`). Years with more
digits or a sign are read as well, so not every date is normalized: `farDocument_not_isNormalized`.
-/

namespace UsageGrid.Extraction

open Rules UsageGrid.Calendar

/-! ## 1. What is converted -/

/-- A text that a reading converts: what its pattern takes from a raw value, or its default. -/
inductive Reading.Offers (r : Reading) (g : Grid) : String → Prop
  | taken {n : Nat} {whole text : String} (hraw : (rawNo g r.source n).text = some whole)
      (htaken : Cleaning.taken r.params.pattern whole = .ok text) : Offers r g text
  | default {s : Scalar} (h : r.params.default = some s) : Offers r g s.shown

/-- **A value that is not passed on as it stands is converted.** -/
theorem Reading.valueAt_converted {r : Reading} {i : Nat} {a : Area} {g : Grid} {o l : Nat}
    {v : String} (hpass : r.params.onError ≠ .pass) (h : r.valueAt i a g o l = some v) :
    ∃ text, r.Offers g text ∧ r.conversion.apply text = .ok v := by
  have hok : r.outcome i g (r.index a o l) = .ok (some v) := by
    unfold Reading.valueAt at h
    exact toOption_eq_some.1 (Option.join_eq_some_iff.1 h)
  have hgood : ∀ n, (⟨i, r.role, r.params, r.conversion⟩ : Cleaning).attempt (rawNo g r.source n)
      = .ok v → ∃ text, r.Offers g text ∧ r.conversion.apply text = .ok v := by
    intro n hn
    obtain ⟨whole, text, hraw, htaken, hv⟩ := Cleaning.attempt_eq_ok hn
    exact ⟨text, .taken hraw htaken, hv⟩
  rcases Cleaning.outcome_eq_some hpass hok with hnow | ⟨raw, hbefore, hthen⟩ | ⟨s, hs, hv⟩
  · exact hgood _ hnow
  · obtain ⟨n, -, rfl⟩ := List.mem_map.1 hbefore
    exact hgood n hthen
  · exact ⟨s.shown, .default hs, hv⟩

/-! ## 2. Years and months of dates -/

/-- How the date of a record comes from a year and a month: the two are those of one text, or of two
    that have been read apart and are put together. -/
inductive DateFrom (g : Grid) (e : DateExtractor) : String → Int → Nat → Prop
  | whole {s : Source} {text : String} {day : Date} (horigin : e.origin = .direct s)
      (htext : (Reading.date e s).Offers g text) (hday : dayOf? text e.format = some day) :
      DateFrom g e (monthStart day.year day.month) day.year day.month
  | parts {p : Composed} {yearText monthText : String} {y : Int} {m : Nat}
      (horigin : e.origin = .composed p) (hyear : (Reading.year e p.year).Offers g yearText)
      (hy : parseYear yearText (p.year.format <|> e.format) = .ok y)
      (hmonth : (Reading.month e p.month).Offers g monthText)
      (hm : parseMonth monthText (p.month.format <|> e.format) = .ok m) :
      DateFrom g e (combine (zeroFilled 4 y) (zeroFilled 2 m)) y m

/-- A date that is not passed on as it stands is written from a year and a month. -/
theorem dateAt_from {i : Nat} {a : Area} {g : Grid} {o l : Nat} {e : DateExtractor} {v : String}
    (hpass : ∀ r ∈ Reading.ofDate e, r.params.onError ≠ .pass)
    (h : dateAt i a g o l e = some v) : ∃ y m, DateFrom g e v y m := by
  unfold dateAt at h
  unfold Reading.ofDate at hpass
  cases horigin : e.origin with
  | direct s =>
    rw [horigin] at h hpass
    obtain ⟨text, htext, hv⟩ := Reading.valueAt_converted (hpass _ (List.mem_singleton.2 rfl)) h
    obtain ⟨day, hday, rfl⟩ := apply_period_eq_ok hv
    exact ⟨day.year, day.month, .whole horigin htext hday⟩
  | composed p =>
    rw [horigin] at h hpass
    obtain ⟨hyear, hmonth⟩ := List.forall_mem_cons.1 hpass
    rw [List.forall_mem_singleton] at hmonth
    obtain ⟨yv, hyv, h⟩ := Option.bind_eq_some_iff.1 h
    obtain ⟨mv, hmv, h⟩ := Option.bind_eq_some_iff.1 h
    obtain ⟨yearText, hyearText, hyconv⟩ := Reading.valueAt_converted hyear hyv
    obtain ⟨monthText, hmonthText, hmconv⟩ := Reading.valueAt_converted hmonth hmv
    obtain ⟨y, hy, rfl⟩ := apply_year_eq_ok hyconv
    obtain ⟨m, hm, rfl⟩ := apply_month_eq_ok hmconv
    have hv : combine (zeroFilled 4 y) (zeroFilled 2 m) = v := Option.some.inj h
    subst hv
    exact ⟨y, m, .parts horigin hyearText hy hmonthText hm⟩

section DateFrom

variable {g : Grid} {e : DateExtractor} {v : String} {y : Int} {m : Nat} (h : DateFrom g e v y m)

include h

theorem DateFrom.month_range : 1 ≤ m ∧ m ≤ 12 := by
  cases h with
  | @whole s text day _ _ _ => exact day.isDay.2.1
  | parts _ _ _ _ hm => exact parseMonth_range hm

theorem DateFrom.isNormalized_iff : IsNormalized v ↔ 0 ≤ y ∧ y ≤ 9999 := by
  have hm := h.month_range
  cases h with
  | whole _ _ _ => exact isNormalized_monthStart hm
  | parts _ _ _ _ _ => exact isNormalized_combine hm

theorem DateFrom.eq_monthStart (hy : 0 ≤ y ∧ y ≤ 9999) : v = monthStart y m := by
  have hm := h.month_range
  cases h with
  | whole _ _ _ => rfl
  | parts _ _ _ _ _ => rw [combine_zeroFilled y hm, if_pos hy]

end DateFrom

/-! ## 3. Documents -/

/-- No date of the document, and no part of one, is passed on as it stands. -/
def PassesNoDate (d : Definition) : Prop :=
  ∀ a ∈ d.areas, ∀ e ∈ a.date?, ∀ r ∈ Reading.ofDate e, r.params.onError ≠ .pass

/-- **Where no date is passed on as it stands, every date of a record is written from a year and a
    month, and it is normalized if and only if the year has four digits at most and no sign.** It is
    the first day of the month then. -/
theorem execute_isNormalized_iff {v : Json} {d : Definition} {g : Grid} {rs : List Record}
    (hd : Definition.ofJson v = .ok d) (hpass : PassesNoDate d) (h : execute d g = .ok rs) :
    ∀ r ∈ rs, ∃ a ∈ d.areas, ∃ e ∈ a.date?, ∃ y m, DateFrom g e r.date y m ∧
      (1 ≤ m ∧ m ≤ 12) ∧ (IsNormalized r.date ↔ 0 ≤ y ∧ y ≤ 9999) ∧
      (0 ≤ y ∧ y ≤ 9999 → r.date = monthStart y m) := by
  intro r hr
  obtain ⟨a, ha, i, o, l, s, hat, rfl⟩ := mem_execute (definition_codec.sound _ _ _ hd) h hr
  obtain ⟨⟨e, he, hdate⟩, -, -⟩ := recordAt_eq_some hat
  obtain ⟨y, m, hfrom⟩ := dateAt_from (hpass a ha e he) hdate
  exact ⟨a, ha, e, he, y, m, hfrom, hfrom.month_range, hfrom.isNormalized_iff,
    hfrom.eq_monthStart⟩

/-- A document that reads one date and one value, and leaves out what it cannot read. -/
def farDocument : Json :=
  .object [
    ("parser_name", .string "far_years"),
    ("areas", .array [.object [
      ("data_headers", .object [
        ("roles", .array []),
        ("data_cells", exampleRange 0 1 "right"),
        ("data_direction", .string "down")]),
      ("metrics", .object [
        ("source", .object [("value", .string "Views")]), ("role", .string "metric")]),
      ("dates", .object [
        ("source", exampleCoord 0 0),
        ("extract_params", .object [("on_validation_error", .string "skip")]),
        ("role", .string "date")])]])]

/-- One record of a month that is far away. -/
def farGrid : Grid := Grid.ofTextRows [["+12345-01", "4"]]

theorem farDocument_dates :
    ∃ d, Definition.ofJson farDocument = .ok d ∧ PassesNoDate d ∧
      ∃ rs, execute d farGrid = .ok rs ∧ rs.map (·.date) = ["12345-01-01"] := by
  have hrun : ((Definition.ofJson farDocument).toOption.any fun d =>
      (d.areas.all fun a => a.date?.all fun e =>
        (Reading.ofDate e).all fun r => r.params.onError != .pass)
      && (execute d farGrid).toOption.any fun rs => rs.map (·.date) == ["12345-01-01"])
      = true := by decide +kernel
  obtain ⟨d, hd, hrun⟩ := (Option.any_eq_true _ _).1 hrun
  obtain ⟨hpass, hdates⟩ := Bool.and_eq_true_iff.1 hrun
  obtain ⟨rs, hrs, hdates⟩ := (Option.any_eq_true _ _).1 hdates
  rw [toOption_eq_some] at hd hrs
  refine ⟨d, hd, fun a ha e he r hr => ?_, rs, hrs, beq_iff_eq.1 hdates⟩
  have hall := List.all_eq_true.1 hpass a ha
  rw [he] at hall
  exact bne_iff_ne.1 (List.all_eq_true.1 hall r hr)

/-- The record of the far month has a year, and its date is not normalized. -/
theorem farDocument_isNormalized_iff :
    ∃ d rs r, Definition.ofJson farDocument = .ok d ∧ PassesNoDate d ∧
      execute d farGrid = .ok rs ∧ r ∈ rs ∧ ∃ a ∈ d.areas, ∃ e ∈ a.date?, ∃ y m,
        DateFrom farGrid e r.date y m ∧ (1 ≤ m ∧ m ≤ 12) ∧
        (IsNormalized r.date ↔ 0 ≤ y ∧ y ≤ 9999) ∧
        (0 ≤ y ∧ y ≤ 9999 → r.date = monthStart y m) := by
  obtain ⟨d, hd, hpass, rs, hrs, hdates⟩ := farDocument_dates
  cases rs with
  | nil => cases hdates
  | cons r rest =>
    exact ⟨d, r :: rest, r, hd, hpass, hrs, List.mem_cons_self,
      execute_isNormalized_iff hd hpass hrs r List.mem_cons_self⟩

theorem length_of_isNormalized {date : String} (h : IsNormalized date) : date.length = 10 := by
  obtain ⟨year, month, hlist, ⟨hyear, -⟩, ⟨hmonth, -⟩, -⟩ := h
  rw [← String.length_toList, hlist]
  simp [hyear, hmonth]

/-- **Not every date is normalized**, though none is passed on as it stands. -/
theorem farDocument_not_isNormalized :
    ¬ ∀ v d, Definition.ofJson v = .ok d → PassesNoDate d → ∀ g rs, execute d g = .ok rs →
      ∀ r ∈ rs, IsNormalized r.date := by
  intro h
  obtain ⟨d, hd, hpass, rs, hrs, hdates⟩ := farDocument_dates
  cases rs with
  | nil => cases hdates
  | cons r rest =>
    have hdate : r.date = "12345-01-01" := (List.cons.inj hdates).1
    have hten := length_of_isNormalized (h _ d hd hpass _ _ hrs r List.mem_cons_self)
    rw [hdate] at hten
    exact absurd hten (by decide)

end UsageGrid.Extraction
