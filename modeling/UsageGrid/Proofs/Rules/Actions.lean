import Mathlib.Data.List.Forall2
import UsageGrid.Rules.Definition

/-!
# Other actions in place of fatal ones

A definition may react otherwise to what goes wrong: wherever an action ends the evaluation, any
action may stand in its place, at each extractor on its own, the two parts of a composed date
included, and where metrics are checked. All else stays (`Definition.SameButFatal`).
-/

namespace UsageGrid.Rules

/-! ## 1. Actions -/

/-- In the place of a fatal action any other may stand. -/
def Action.SameButFatal (a b : Action) : Prop := a.isFatal = true ∨ b = a

def Params.SameButFatal (p q : Params) : Prop :=
  ∃ onError, p.onError.SameButFatal onError ∧ q = { p with onError }

/-! ## 2. Extractors -/

def Extractor.SameButFatal (e f : Extractor) : Prop :=
  ∃ params, e.params.SameButFatal params ∧ f = { e with params }

def Dimension.SameButFatal (d e : Dimension) : Prop :=
  ∃ extractor, d.extractor.SameButFatal extractor ∧ e = { d with extractor }

def TitleId.SameButFatal (t u : TitleId) : Prop :=
  ∃ extractor, t.extractor.SameButFatal extractor ∧ u = { t with extractor }

def DatePart.SameButFatal (p q : DatePart) : Prop :=
  ∃ params, p.params.SameButFatal params ∧ q = { p with params }

inductive DateOrigin.SameButFatal : DateOrigin → DateOrigin → Prop
  | direct {s : Source} : SameButFatal (.direct s) (.direct s)
  | composed {year month year' month' : DatePart} (hyear : year.SameButFatal year')
      (hmonth : month.SameButFatal month') :
      SameButFatal (.composed ⟨year, month⟩) (.composed ⟨year', month'⟩)

def DateExtractor.SameButFatal (d e : DateExtractor) : Prop :=
  ∃ origin params, d.origin.SameButFatal origin ∧ d.params.SameButFatal params ∧
    e = { d with origin, params }

inductive HeaderRole.SameButFatal : HeaderRole → HeaderRole → Prop
  | metric {e f : Extractor} (h : e.SameButFatal f) : SameButFatal (.metric e) (.metric f)
  | date {d e : DateExtractor} (h : d.SameButFatal e) : SameButFatal (.date d) (.date e)

/-! ## 3. Areas and definitions -/

def DataHeaders.SameButFatal (h k : DataHeaders) : Prop :=
  ∃ roles, List.Forall₂ HeaderRole.SameButFatal h.roles roles ∧ k = { h with roles }

structure Area.SameButFatal (a b : Area) : Prop where
  headers : a.headers.SameButFatal b.headers
  metric : Option.Rel Extractor.SameButFatal a.metric b.metric
  date : Option.Rel DateExtractor.SameButFatal a.date b.date
  title : Option.Rel Extractor.SameButFatal a.title b.title
  titleIds : List.Forall₂ TitleId.SameButFatal a.titleIds b.titleIds
  dimensions : List.Forall₂ Dimension.SameButFatal a.dimensions b.dimensions
  organization : Option.Rel Extractor.SameButFatal a.organization b.organization

end UsageGrid.Rules

namespace UsageGrid

open Rules

/-- The definitions are the same, but for actions that are fatal in the first. -/
def Definition.SameButFatal (d e : Definition) : Prop :=
  ∃ areas onMetricCheckFailed, List.Forall₂ Area.SameButFatal d.areas areas ∧
    d.onMetricCheckFailed.SameButFatal onMetricCheckFailed ∧
    e = { d with areas, onMetricCheckFailed }

namespace Rules

/-! ## 4. Lists and options of parts -/

section

variable {α β : Type} {R : α → α → Prop} {S : β → β → Prop} {l k : List α} {o p : Option α}

theorem map_of_forall₂ {f : α → β} (hf : ∀ a b, R a b → f b = f a) (h : List.Forall₂ R l k) :
    k.map f = l.map f := by
  induction h with
  | nil => rfl
  | cons ha _ ih => rw [List.map_cons, List.map_cons, hf _ _ ha, ih]

theorem flatMap_of_forall₂ {f : α → List β} (hf : ∀ a b, R a b → f b = f a)
    (h : List.Forall₂ R l k) : k.flatMap f = l.flatMap f := by
  rw [List.flatMap_def, List.flatMap_def, map_of_forall₂ hf h]

theorem forall₂_toList (h : Option.Rel R o p) : List.Forall₂ R o.toList p.toList := by
  cases h with
  | some ha => exact .cons ha .nil
  | none => exact .nil

theorem findSome?_of_forall₂ {f : α → Option β} (hf : ∀ a b, R a b → Option.Rel S (f a) (f b))
    (h : List.Forall₂ R l k) : Option.Rel S (l.findSome? f) (k.findSome? f) := by
  induction h with
  | nil => exact .none
  | @cons a b _ _ hab _ ih =>
    rw [List.findSome?_cons, List.findSome?_cons]
    have hfab := hf a b hab
    generalize f a = x at hfab ⊢
    generalize f b = y at hfab ⊢
    cases hfab with
    | some hs => exact .some hs
    | none => exact ih

theorem orElse_of_rel {o' p' : Option α} (h : Option.Rel R o p) (h' : Option.Rel R o' p') :
    Option.Rel R (o <|> o') (p <|> p') := by
  cases h with
  | some ha => exact .some ha
  | none => exact h'

end

/-! ## 5. What stays -/

theorem Extractor.SameButFatal.source {e f : Extractor} (h : e.SameButFatal f) :
    f.source = e.source := by
  obtain ⟨_, -, rfl⟩ := h
  rfl

theorem DatePart.SameButFatal.source {p q : DatePart} (h : p.SameButFatal q) :
    q.source = p.source := by
  obtain ⟨_, -, rfl⟩ := h
  rfl

theorem DateExtractor.SameButFatal.sources {d e : DateExtractor} (h : d.SameButFatal e) :
    e.sources = d.sources := by
  obtain ⟨origin, params, horigin, -, rfl⟩ := h
  unfold DateExtractor.sources
  cases hd : d.origin with
  | direct s =>
    rw [hd] at horigin
    cases horigin
    rfl
  | composed parts =>
    rw [hd] at horigin
    cases horigin with
    | composed hyear hmonth =>
      dsimp only
      rw [hyear.source, hmonth.source]

theorem HeaderRole.SameButFatal.sources {r s : HeaderRole} (h : r.SameButFatal s) :
    s.sources = r.sources := by
  cases h with
  | metric h => exact congrArg (fun s => [s]) h.source
  | date h => exact h.sources

namespace Area.SameButFatal

variable {a b : Area}

theorem roles (h : a.SameButFatal b) :
    List.Forall₂ HeaderRole.SameButFatal a.headers.roles b.headers.roles := by
  obtain ⟨roles, hroles, hb⟩ := h.headers
  rw [hb]
  exact hroles

theorem dataCells (h : a.SameButFatal b) : b.headers.dataCells = a.headers.dataCells := by
  obtain ⟨roles, -, hb⟩ := h.headers
  rw [hb]

theorem dataDirection (h : a.SameButFatal b) :
    b.headers.dataDirection = a.headers.dataDirection := by
  obtain ⟨roles, -, hb⟩ := h.headers
  rw [hb]

/-- The metric that is read, wherever it stands. -/
theorem metricRead (h : a.SameButFatal b) :
    Option.Rel Extractor.SameButFatal (a.headerMetric? <|> a.metric) (b.headerMetric? <|> b.metric) := by
  refine orElse_of_rel (findSome?_of_forall₂ (fun r s hrs => ?_) h.roles) h.metric
  cases hrs with
  | metric h => exact .some h
  | date h => exact .none

/-- The date that is read, wherever it stands. -/
theorem dateRead (h : a.SameButFatal b) :
    Option.Rel DateExtractor.SameButFatal (a.headerDate? <|> a.date) (b.headerDate? <|> b.date) := by
  refine orElse_of_rel (findSome?_of_forall₂ (fun r s hrs => ?_) h.roles) h.date
  cases hrs with
  | metric h => exact .none
  | date h => exact .some h

end Area.SameButFatal

end Rules

end UsageGrid
