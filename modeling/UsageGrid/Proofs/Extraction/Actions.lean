import UsageGrid.Proofs.Outcome
import UsageGrid.Proofs.Rules.Actions
import UsageGrid.Extraction.Filter

/-!
# Actions matter only on failure

An action is looked at only where nothing else helps. Where an evaluation comes out well, no fatal
action has been looked at, and with any other in its place the same comes out
(`execute_sameButFatal`). The actions have no part in what is read where, so the two evaluations
have the same shape, and so it is shown from step to step: what comes out of the one comes out of the
other (`IsWithin`).
-/

namespace UsageGrid.Extraction

open Rules

/-! ## 1. Cleaning -/

namespace Cleaning

variable {p q : Params} (h : p.SameButFatal q) (area : Nat) (role : String) (conversion : Conversion)

include h

/-- A fatal action has no result, and any other is the same. -/
theorem act_sameButFatal (raw : Raw) (reason : Reason) :
    IsWithin (act ⟨area, role, p, conversion⟩ raw reason)
      (act ⟨area, role, q, conversion⟩ raw reason) := by
  obtain ⟨onError, hfatal | rfl, rfl⟩ := h
  · unfold act
    cases hp : p.onError with
    | fail | stop => exact .error _ _
    | skip | pass =>
      rw [hp] at hfatal
      cases hfatal
  · exact .refl _

theorem fallback_sameButFatal (last : Option String) (raw : Raw) (reason : Reason) :
    IsWithin (fallback ⟨area, role, p, conversion⟩ last raw reason)
      (fallback ⟨area, role, q, conversion⟩ last raw reason) := by
  have hact := act_sameButFatal h area role conversion raw reason
  obtain ⟨onError, -, rfl⟩ := h
  unfold fallback
  dsimp only
  cases p.default with
  | some s => exact .refl _
  | none =>
    dsimp only
    split
    · exact .refl _
    · exact hact

/-- The last good value does not depend on the action. -/
theorem cleanAll_sameButFatal (last : Option String) (raws : List Raw) :
    IsWithin (cleanAll ⟨area, role, p, conversion⟩ last raws)
      (cleanAll ⟨area, role, q, conversion⟩ last raws) := by
  induction raws generalizing last with
  | nil => exact .refl _
  | cons raw rest ih =>
    have hfallback := fallback_sameButFatal h area role conversion last raw
    have hattempt : attempt ⟨area, role, q, conversion⟩ raw
        = attempt ⟨area, role, p, conversion⟩ raw := by
      obtain ⟨onError, -, rfl⟩ := h
      rfl
    unfold cleanAll clean
    rw [hattempt]
    cases attempt ⟨area, role, p, conversion⟩ raw with
    | ok v => exact .bind (.refl _) fun _ => (ih _).bind fun _ => .refl _
    | error reason => exact (hfallback reason).bind fun _ => (ih _).bind fun _ => .refl _

end Cleaning

/-! ## 2. Shape -/

section

variable {a b : Area} (h : a.SameButFatal b)

include h

theorem sourcesOf_sameButFatal : sourcesOf b = sourcesOf a := by
  have hextractor : ∀ e f : Extractor, e.SameButFatal f → f.source = e.source :=
    fun _ _ he => he.source
  have htitleId : ∀ t u : TitleId, t.SameButFatal u → u.extractor.source = t.extractor.source := by
    rintro t _ ⟨_, he, rfl⟩
    exact he.source
  have hdimension : ∀ d e : Dimension, d.SameButFatal e →
      e.extractor.source = d.extractor.source := by
    rintro d _ ⟨_, he, rfl⟩
    exact he.source
  unfold sourcesOf
  rw [flatMap_of_forall₂ (fun _ _ hr => HeaderRole.SameButFatal.sources hr) h.roles,
    map_of_forall₂ hextractor (forall₂_toList h.metric),
    flatMap_of_forall₂ (fun _ _ hd => DateExtractor.SameButFatal.sources hd) (forall₂_toList h.date),
    map_of_forall₂ hextractor (forall₂_toList h.title),
    map_of_forall₂ htitleId h.titleIds, map_of_forall₂ hdimension h.dimensions,
    map_of_forall₂ hextractor (forall₂_toList h.organization)]

theorem shapeOf_sameButFatal (g : Grid) : shapeOf b g = shapeOf a g := by
  unfold shapeOf bounded
  rw [sourcesOf_sameButFatal h, h.dataCells, h.dataDirection]

end

/-! ## 3. Fields -/

namespace Scope

variable (x : Scope)

theorem series_sameButFatal (role : String) (s : Source) {p q : Params} (h : p.SameButFatal q)
    (c : Conversion) : IsWithin (x.series role s p c) (x.series role s q c) :=
  (Cleaning.cleanAll_sameButFatal h _ _ _ _ _).bind fun _ => .refl _

theorem text_sameButFatal (role : String) {e f : Extractor} (h : e.SameButFatal f) :
    IsWithin (x.text role e) (x.text role f) := by
  obtain ⟨params, hparams, rfl⟩ := h
  exact (x.series_sameButFatal role e.source hparams .text).map _

theorem text?_sameButFatal (role : String) {o p : Option Extractor}
    (h : Option.Rel Extractor.SameButFatal o p) : IsWithin (x.text? role o) (x.text? role p) := by
  cases h with
  | none => exact .refl _
  | some h => exact (x.text_sameButFatal role h).map _

theorem part_sameButFatal (role : String) {p q : DatePart} (h : p.SameButFatal q)
    (outer : Option String) (conversion : Option String → Conversion) :
    IsWithin (x.part role p outer conversion) (x.part role q outer conversion) := by
  obtain ⟨params, hparams, rfl⟩ := h
  exact x.series_sameButFatal role p.source hparams _

theorem date_sameButFatal {d e : DateExtractor} (h : d.SameButFatal e) :
    IsWithin (x.date d) (x.date e) := by
  obtain ⟨origin, params, horigin, hparams, rfl⟩ := h
  unfold date
  cases hd : d.origin with
  | direct s =>
    rw [hd] at horigin
    cases horigin
    exact (x.series_sameButFatal "date" s hparams _).map _
  | composed parts =>
    rw [hd] at horigin
    cases horigin with
    | composed hyear hmonth =>
      exact (x.part_sameButFatal "date.year" hyear d.format .year).bind fun _ =>
        (x.part_sameButFatal "date.month" hmonth d.format .month).bind fun _ => .refl _

theorem titleIds_sameButFatal {ts us : List TitleId} (h : List.Forall₂ TitleId.SameButFatal ts us) :
    IsWithin (x.titleIds ts) (x.titleIds us) := by
  induction h with
  | nil => exact .refl _
  | cons ht _ ih =>
    obtain ⟨extractor, hextractor, rfl⟩ := ht
    exact (x.text_sameButFatal _ hextractor).bind fun _ => ih.bind fun _ => .refl _

theorem dimensions_sameButFatal {ds es : List Dimension}
    (h : List.Forall₂ Dimension.SameButFatal ds es) :
    IsWithin (x.dimensions ds) (x.dimensions es) := by
  induction h with
  | nil => exact .refl _
  | cons hd _ ih =>
    obtain ⟨extractor, hextractor, rfl⟩ := hd
    exact (x.text_sameButFatal _ hextractor).bind fun _ => ih.bind fun _ => .refl _

end Scope

/-- The fields hold the same values. -/
theorem fieldsOf_sameButFatal (x : Scope) {a b : Area} (h : a.SameButFatal b) :
    IsWithin (fieldsOf x a) (fieldsOf x b) := by
  have hmetric := h.metricRead
  have hdate := h.dateRead
  unfold fieldsOf
  generalize (a.headerMetric? <|> a.metric) = m at hmetric ⊢
  generalize (b.headerMetric? <|> b.metric) = m' at hmetric ⊢
  generalize (a.headerDate? <|> a.date) = d at hdate ⊢
  generalize (b.headerDate? <|> b.date) = d' at hdate ⊢
  cases hmetric with
  | none => exact .refl _
  | some hm =>
    refine (x.text_sameButFatal "metric" hm).bind fun metric => ?_
    cases hdate with
    | none => exact .refl _
    | some hd =>
      exact (x.date_sameButFatal hd).bind fun _ =>
        (x.text?_sameButFatal "title" h.title).bind fun _ =>
        (x.titleIds_sameButFatal h.titleIds).bind fun _ =>
        (x.dimensions_sameButFatal h.dimensions).bind fun _ =>
        (x.text?_sameButFatal "organization" h.organization).bind fun _ => .refl _

/-! ## 4. Records -/

/-- Whoever finds as much finds the same of several things. -/
theorem gather_isWithin {α β ε : Type} {f g : α → Except ε (Option β)}
    (h : ∀ a, IsWithin (f a) (g a)) (l : List α) : IsWithin (gather f l) (gather g l) := by
  induction l with
  | nil => exact .refl _
  | cons a rest ih => exact (h a).bind fun _ => ih.bind fun _ => .refl _

theorem evaluateArea_sameButFatal (i : Nat) {a b : Area} (h : a.SameButFatal b) (g : Grid) :
    IsWithin (evaluateArea i a g) (evaluateArea i b g) := by
  unfold evaluateArea
  rw [shapeOf_sameButFatal h]
  dsimp only
  split
  · exact .refl _
  · exact (fieldsOf_sameButFatal _ h).bind fun _ => .refl _

theorem evaluateAreas_sameButFatal (g : Grid) (i : Nat) {as bs : List Area}
    (h : List.Forall₂ Area.SameButFatal as bs) :
    IsWithin (evaluateAreas g i as) (evaluateAreas g i bs) := by
  induction h generalizing i with
  | nil => exact .refl _
  | cons ha _ ih =>
    exact (evaluateArea_sameButFatal i ha g).bind fun _ => (ih (i + 1)).bind fun _ => .refl _

section

variable {d e : Definition} (h : d.SameButFatal e)

include h

/-- A metric that may not occur ends the evaluation under a fatal action. Under another the
    definitions agree, and nothing else that is judged has to do with the action. -/
theorem judge_sameButFatal (r : Record) : IsWithin (judge d r) (judge e r) := by
  obtain ⟨areas, action, -, hfatal | rfl, rfl⟩ := h
  · refine .ite (.ite ?_)
    cases hd : d.onMetricCheckFailed with
    | fail | stop => exact .error _ _
    | skip | pass =>
      rw [hd] at hfatal
      cases hfatal
  · exact .refl _

/-- **Actions matter only on failure.** Where a definition finds its records in a grid, it finds
    the same with other actions in place of fatal ones. -/
theorem execute_sameButFatal {g : Grid} {rs : List Record} (hrs : execute d g = .ok rs) :
    execute e g = .ok rs := by
  have hjudge := judge_sameButFatal h
  obtain ⟨areas, action, hareas, -, rfl⟩ := h
  exact (evaluateAreas_sameButFatal g 0 hareas).bind (fun _ => gather_isWithin hjudge _) rs hrs

end

/-- Views by the month, with the year in the first column of a row and the month in the second, and
    one action for all that may go wrong. -/
def composedDates (action : Action) : Definition :=
  let params : Params := { onError := action }
  let column (col : Nat) : Source := .range { coord := ⟨0, col⟩, direction := .down }
  { name := "composed"
    availableMetrics := some ["Views"]
    onMetricCheckFailed := action
    areas := [{
      headers := {
        roles := []
        dataCells := { coord := ⟨0, 2⟩, direction := .down }
        dataDirection := .right }
      metric := some { source := .value (.text "Views"), params }
      date := some {
        origin := .composed ⟨{ source := column 0, params }, { source := column 1, params }⟩
        params }
      title := none
      titleIds := []
      dimensions := []
      organization := none }] }

theorem composedDates_sameButFatal {action : Action} (h : action.isFatal = true) (other : Action) :
    (composedDates action).SameButFatal (composedDates other) := by
  have hparams : Params.SameButFatal { onError := action } { onError := other } :=
    ⟨other, .inl h, rfl⟩
  refine ⟨(composedDates other).areas, other, .cons ?_ .nil, .inl h, rfl⟩
  exact {
    headers := ⟨[], .nil, rfl⟩
    metric := .some ⟨_, hparams, rfl⟩
    date := .some ⟨_, _, .composed ⟨_, hparams, rfl⟩ ⟨_, hparams, rfl⟩, hparams, rfl⟩
    title := .none
    titleIds := .nil
    dimensions := .nil
    organization := .none }

/-- Two months are found whether whatever goes wrong ends the evaluation or is passed over. -/
theorem composedDates_pass :
    let g := Grid.ofRows [[.text "2021", .text "3", .text "4"], [.text "2021", .text "4", .text "5"]]
    ∃ rs, execute (composedDates .fail) g = .ok rs ∧ execute (composedDates .pass) g = .ok rs ∧
      rs.map (·.date) = ["2021-03-01", "2021-04-01"] := by
  intro g
  have hrun : ((execute (composedDates .fail) g).toOption.any fun rs =>
      rs.map (·.date) == ["2021-03-01", "2021-04-01"]) = true := by decide +kernel
  obtain ⟨rs, hrs, hdates⟩ := exists_ok_of_any hrun
  exact ⟨rs, hrs, execute_sameButFatal (composedDates_sameButFatal rfl .pass) hrs,
    beq_iff_eq.1 hdates⟩

end UsageGrid.Extraction
