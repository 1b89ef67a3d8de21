import UsageGrid.RowCheck
import UsageGrid.Proofs.Extraction.Dates
import UsageGrid.Proofs.Json.Canonical
import UsageGrid.Proofs.Table.Lossless

/-!
# Which rows are reported

The check of the rows knows nothing of documents: it goes by the names of the columns.

* In a row with its keys in order the issues of the date come before those of the metric, and nothing
  else has any (`rowIssues_row`), for no dimension has the name of a column that must not be text.
* So a row of a document's table is reported if and only if its metric is empty or its date is no
  day; the report says no more than that, and the rows are reported in order (`execute_rowErrors`).
-/

namespace UsageGrid

namespace RowCheck

/-! ## 1. Days -/

/-- Four digits, two and two, apart by dashes. -/
def IsDayText (s : String) : Prop :=
  ∃ year month day, s.toList = year ++ '-' :: month ++ '-' :: day ∧
    year.length = 4 ∧ month.length = 2 ∧ day.length = 2 ∧
    ∀ c ∈ year ++ month ++ day, Decimal.isDigit c = true

theorem isDay_iff {s : String} : isDay s = true ↔ IsDayText s := by
  unfold isDay
  constructor
  · intro h
    split at h
    · rename_i a b c d e f g k hlist
      exact ⟨[a, b, c, d], [e, f], [g, k], hlist, rfl, rfl, rfl, List.all_eq_true.1 h⟩
    · cases h
  · rintro ⟨year, month, day, hlist, hyear, hmonth, hday, hdigits⟩
    match year, month, day, hyear, hmonth, hday with
    | [a, b, c, d], [e, f], [g, k], _, _, _ =>
      rw [hlist]
      exact List.all_eq_true.2 hdigits

/-! ## 2. Issues of a row -/

open Table Json

/-- Text is right in every column that need not be one of the measures. -/
theorem memberIssues_string {key : String} (h : key ∉ measures) (s : String) :
    memberIssues key (.string s) = [] := by
  simp only [measures, List.mem_cons, List.not_mem_nil, or_false, not_or] at h
  obtain ⟨hmetric, hdate, hvalue⟩ := h
  unfold memberIssues
  rw [if_neg hmetric, if_neg hdate, if_neg hvalue]
  rfl

theorem valueIssues_number (x : Binary64) : valueIssues (number x) = [] := by
  unfold number
  split
  · split <;> rfl
  · rfl

section

variable {r : Record} (h : r.WellFormed)

include h

/-- Nothing but the metric and the date of a record can be wrong. -/
theorem memberIssues_fieldsOf {m : String × Json} (hm : m ∈ fieldsOf r) (hdate : m.1 ≠ "date")
    (hmetric : m.1 ≠ "metric") : memberIssues m.1 m.2 = [] := by
  unfold fieldsOf at hm
  simp only [List.mem_append, List.mem_map, Option.mem_toList, List.mem_cons, List.not_mem_nil,
    or_false] at hm
  rcases hm with (((⟨v, -, rfl⟩ | ⟨v, -, rfl⟩) | ⟨⟨k, v⟩, -, rfl⟩) | ⟨⟨n, v⟩, hn, rfl⟩) |
    rfl | rfl | rfl
  · exact memberIssues_string (show "organization" ∉ measures by decide) v
  · exact memberIssues_string (show "title" ∉ measures by decide) v
  · exact memberIssues_string (show k.name ∉ measures by cases k <;> decide) v
  · refine memberIssues_string (fun hin => ?_) v
    have hfree := h.free n (List.mem_map.2 ⟨_, hn, rfl⟩)
    rw [isReserved_measures hin] at hfree
    cases hfree
  · exact absurd rfl hmetric
  · exact absurd rfl hdate
  · exact valueIssues_number r.value

omit h in
/-- Of sorted members two are looked at, one after the other. -/
theorem flatMap_of_two {β : Type} {f : String × Json → List β} {members : List (String × Json)}
    (hsorted : SortedMembers members) {a b : String} {v w : Json} (hlt : a < b)
    (ha : (a, v) ∈ members) (hb : (b, w) ∈ members)
    (hother : ∀ m ∈ members, m.1 ≠ a → m.1 ≠ b → f m = []) :
    members.flatMap f = f (a, v) ++ f (b, w) := by
  obtain ⟨before, rest, rfl⟩ := List.append_of_mem ha
  obtain ⟨-, hrest, hbefore⟩ := List.pairwise_append.1 hsorted
  obtain ⟨hafter, hrest⟩ := List.pairwise_cons.1 hrest
  replace hb : (b, w) ∈ rest := by
    rcases List.mem_append.1 hb with hb | hb
    · exact absurd (hbefore _ hb _ List.mem_cons_self) hlt.asymm
    · exact (List.mem_cons.1 hb).resolve_left fun he => hlt.ne' (Prod.mk.inj he).1
  obtain ⟨between, after, rfl⟩ := List.append_of_mem hb
  obtain ⟨-, hlast, hbetween⟩ := List.pairwise_append.1 hrest
  have hbefore' : before.flatMap f = [] := List.flatMap_eq_nil_iff.2 fun m hm =>
    have hma : m.1 < a := hbefore m hm _ List.mem_cons_self
    hother m (List.mem_append_left _ hm) hma.ne (hma.trans hlt).ne
  have hbetween' : between.flatMap f = [] := List.flatMap_eq_nil_iff.2 fun m hm =>
    hother m (List.mem_append_right _ (List.mem_cons_of_mem _ (List.mem_append_left _ hm)))
      (hafter m (List.mem_append_left _ hm)).ne' (hbetween m hm _ List.mem_cons_self).ne
  have hafter' : after.flatMap f = [] := List.flatMap_eq_nil_iff.2 fun m hm =>
    have hmb : b < m.1 := (List.pairwise_cons.1 hlast).1 m hm
    hother m (List.mem_append_right _ (List.mem_cons_of_mem _ (List.mem_append_right _
      (List.mem_cons_of_mem _ hm)))) (hlt.trans hmb).ne' hmb.ne'
  rw [List.flatMap_append, List.flatMap_cons, List.flatMap_append, List.flatMap_cons, hbefore',
    hbetween', hafter', List.nil_append, List.nil_append, List.append_nil]

/-- **The issues of a row are those of its date and its metric.** -/
theorem rowIssues_row : rowIssues (sortMembers (fieldsOf r))
    = dateIssues (.string r.date) ++ metricIssues (.string r.metric) := by
  have hshows := shows_row h
  have hnodup : ((fieldsOf r).map (·.1)).Nodup := keys_fieldsOf r ▸ h.nodup
  have hperm := sortMembers_perm hnodup
  have hpresent : (required.filter fun k =>
      (lookup (sortMembers (fieldsOf r)) k).isNone) = [] := by
    obtain ⟨v, -, hv, -⟩ := hshows.value
    simp [required, hshows.metric, hshows.date, hv]
  unfold rowIssues
  rw [hpresent, List.map_nil, List.append_nil]
  have hdate : ("date", .string r.date) ∈ fieldsOf r := by simp [fieldsOf]
  have hmetric : ("metric", .string r.metric) ∈ fieldsOf r := by simp [fieldsOf]
  exact flatMap_of_two (sorted_sortMembers _) (by decide) (hperm.mem_iff.2 hdate)
    (hperm.mem_iff.2 hmetric) fun m hm => memberIssues_fieldsOf h (hperm.mem_iff.1 hm)

end

theorem dateIssues_eq_nil {s : String} : dateIssues (.string s) = [] ↔ IsDayText s := by
  rw [← isDay_iff]
  show (if isDay s then [] else _) = [] ↔ _
  split <;> simp_all

theorem metricIssues_eq_nil {s : String} : metricIssues (.string s) = [] ↔ s ≠ "" := by
  show (if s.isEmpty then _ else []) = [] ↔ _
  split <;> simp_all

end RowCheck

/-! ## 3. Rows of a table -/

open RowCheck

section

variable {rows : List Row} {i n : Nat} {errors : List String}

theorem rowErrorsFrom_cons (i : Nat) (row : Row) (rest : List Row) :
    rowErrorsFrom i (row :: rest)
      = (if rowErrors (.object row) = [] then [] else [(i, rowErrors (.object row))])
        ++ rowErrorsFrom (i + 1) rest := by
  rw [rowErrorsFrom]
  split
  · rename_i hnone
    rw [if_pos hnone, List.nil_append]
  · rename_i hsome
    rw [if_neg hsome]
    rfl

theorem mem_rowErrorsFrom : (n, errors) ∈ rowErrorsFrom i rows ↔
    errors ≠ [] ∧ ∃ k row, rows[k]? = some row ∧ n = i + k ∧ rowErrors (.object row) = errors := by
  induction rows generalizing i with
  | nil => simp [rowErrorsFrom]
  | cons row rest ih =>
    have hrow : (n, errors) ∈ (if rowErrors (.object row) = [] then []
        else [(i, rowErrors (.object row))]) ↔
        errors ≠ [] ∧ n = i ∧ rowErrors (.object row) = errors := by
      split
      · rename_i hnone
        rw [hnone]
        exact ⟨fun h => absurd h List.not_mem_nil, fun h => absurd h.2.2.symm h.1⟩
      · rename_i hsome
        rw [List.mem_singleton, Prod.mk.injEq]
        exact ⟨fun ⟨hn, he⟩ => ⟨he ▸ hsome, hn, he.symm⟩, fun ⟨_, hn, he⟩ => ⟨hn, he.symm⟩⟩
    rw [rowErrorsFrom_cons, List.mem_append, hrow, ih, ← and_or_left]
    refine and_congr_right fun _ => ⟨?_, ?_⟩
    · rintro (⟨hn, he⟩ | ⟨k, row', hrow', rfl, he⟩)
      · exact ⟨0, row, rfl, hn, he⟩
      · exact ⟨k + 1, row', hrow', by omega, he⟩
    · rintro ⟨_ | k, row', hrow', hn, he⟩
      · obtain rfl := Option.some.inj hrow'
        exact .inl ⟨hn, he⟩
      · exact .inr ⟨k, row', hrow', by omega, he⟩

/-- Rows are reported in order. -/
theorem pairwise_rowErrorsFrom (i : Nat) (rows : List Row) :
    ((rowErrorsFrom i rows).map (·.1)).Pairwise (· < ·) := by
  induction rows generalizing i with
  | nil => exact .nil
  | cons row rest ih =>
    rw [rowErrorsFrom_cons]
    split
    · exact ih (i + 1)
    · refine List.pairwise_cons.2 ⟨fun n hn => ?_, ih (i + 1)⟩
      obtain ⟨⟨n, errors⟩, hreport, rfl⟩ := List.mem_map.1 hn
      obtain ⟨-, k, -, -, rfl, -⟩ := mem_rowErrorsFrom.1 hreport
      show i < i + 1 + k
      omega

end

namespace Table

/-- What is reported of a record. -/
def errorsOf (r : Record) : List String :=
  (dateIssues (.string r.date) ++ metricIssues (.string r.metric)).map Issue.message

theorem errorsOf_eq_nil {r : Record} : errorsOf r = [] ↔ ¬ (r.metric = "" ∨ ¬ IsDayText r.date) := by
  unfold errorsOf
  rw [List.map_eq_nil_iff, List.append_eq_nil_iff, dateIssues_eq_nil, metricIssues_eq_nil, not_or,
    not_not, and_comm]

/-- The reports on the rows of records. -/
theorem mem_rowErrors {rs : List Record} (h : ∀ r ∈ rs, r.WellFormed) {n : Nat}
    {errors : List String} : (n, errors) ∈ (ofRecords rs).rowErrors ↔
      errors ≠ [] ∧ ∃ r, rs[n]? = some r ∧ errorsOf r = errors := by
  have hrow {r : Record} (hr : r ∈ rs) :
      UsageGrid.rowErrors (.object (Json.sortMembers (fieldsOf r))) = errorsOf r :=
    congrArg (·.map Issue.message) (rowIssues_row (h r hr))
  unfold Table.rowErrors
  rw [mem_rowErrorsFrom]
  refine and_congr_right fun _ => ?_
  simp only [ofRecords, List.getElem?_map, Option.map_eq_some_iff]
  constructor
  · rintro ⟨k, _, ⟨r, hr, rfl⟩, rfl, herrors⟩
    rw [Nat.zero_add]
    exact ⟨r, hr, (hrow (List.mem_of_getElem? hr)).symm.trans herrors⟩
  · rintro ⟨r, hr, herrors⟩
    exact ⟨n, _, ⟨r, hr, rfl⟩, (Nat.zero_add n).symm, (hrow (List.mem_of_getElem? hr)).trans herrors⟩

/-- **A row is reported if and only if its metric is empty or its date is no day**, and no other
    column has a part in it. The reports are in the order of the rows, one for each at most. -/
theorem execute_rowErrors {v : Json} {d : Definition} {g : Grid} {rs : List Record}
    (hd : Definition.ofJson v = .ok d) (h : Extraction.execute d g = .ok rs) :
    ∃ t, ofGrid d g = .ok t ∧
      (∀ n, n ∈ t.rowErrors.map (·.1) ↔
        ∃ r, rs[n]? = some r ∧ (r.metric = "" ∨ ¬ IsDayText r.date)) ∧
      (∀ n errors, (n, errors) ∈ t.rowErrors → ∃ r, rs[n]? = some r ∧ errors = errorsOf r) ∧
      (∀ row ∈ t.rows, ∀ m ∈ row, m.1 ≠ "date" → m.1 ≠ "metric" → memberIssues m.1 m.2 = []) ∧
      (t.rowErrors.map (·.1)).Pairwise (· < ·) := by
  have hwell : ∀ r ∈ rs, r.WellFormed := fun r hr =>
    execute_wellFormed (Rules.definition_codec.sound _ _ _ hd) h hr
  refine ⟨ofRecords rs, ?_, fun n => ?_, fun n errors hreport => ?_, fun row hrow m hm => ?_,
    pairwise_rowErrorsFrom 0 _⟩
  · unfold ofGrid
    rw [h, map_ok]
  · rw [List.mem_map]
    constructor
    · rintro ⟨⟨n, errors⟩, hreport, rfl⟩
      obtain ⟨hne, r, hr, rfl⟩ := (mem_rowErrors hwell).1 hreport
      exact ⟨r, hr, not_not.1 fun hright => hne (errorsOf_eq_nil.2 hright)⟩
    · rintro ⟨r, hr, hwrong⟩
      have hne : errorsOf r ≠ [] := fun hnil => errorsOf_eq_nil.1 hnil hwrong
      exact ⟨(n, errorsOf r), (mem_rowErrors hwell).2 ⟨hne, r, hr, rfl⟩, rfl⟩
  · obtain ⟨-, r, hr, rfl⟩ := (mem_rowErrors hwell).1 hreport
    exact ⟨r, hr, rfl⟩
  · obtain ⟨r, hr, rfl⟩ := List.mem_map.1 hrow
    exact memberIssues_fieldsOf (hwell r hr) (Json.mem_of_mem_sortMembers hm)

/-- A row whose year has five digits is reported. -/
theorem farDocument_rowErrors : ∃ d rs, Definition.ofJson Extraction.farDocument = .ok d ∧
    Extraction.execute d Extraction.farGrid = .ok rs ∧ ∃ t, ofGrid d Extraction.farGrid = .ok t ∧
      (∀ n, n ∈ t.rowErrors.map (·.1) ↔
        ∃ r, rs[n]? = some r ∧ (r.metric = "" ∨ ¬ IsDayText r.date)) ∧
      (∀ n errors, (n, errors) ∈ t.rowErrors → ∃ r, rs[n]? = some r ∧ errors = errorsOf r) ∧
      (∀ row ∈ t.rows, ∀ m ∈ row, m.1 ≠ "date" → m.1 ≠ "metric" → memberIssues m.1 m.2 = []) ∧
      (t.rowErrors.map (·.1)).Pairwise (· < ·) ∧ 0 ∈ t.rowErrors.map (·.1) := by
  obtain ⟨d, hd, -, rs, hrs, hdates⟩ := Extraction.farDocument_dates
  obtain ⟨t, ht, hreported, herrors, hother, horder⟩ := execute_rowErrors hd hrs
  refine ⟨d, rs, hd, hrs, t, ht, hreported, herrors, hother, horder, (hreported 0).2 ?_⟩
  cases rs with
  | nil => cases hdates
  | cons r rest =>
    have hdate : r.date = "12345-01-01" := (List.cons.inj hdates).1
    refine ⟨r, rfl, .inr ?_⟩
    rw [hdate, ← isDay_iff]
    decide

end Table

end UsageGrid
