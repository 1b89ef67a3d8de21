import UsageGrid.Proofs.Extraction.Shape

/-!
# The fields of an area

An evaluation cleans every source of an area before it looks at any data cell. It gets through if
and only if every reading succeeds, and the fields that it has then hold the values of the readings
(`fieldsOf_eq_ok`), where the pairs find them by the axis of the source (`series_at`).
-/

namespace UsageGrid.Extraction

open Rules

/-! ## 1. Series -/

/-- The values of a reading that are used. -/
def Reading.series (r : Reading) (i : Nat) (a : Area) (g : Grid) : Series where
  axis := axisOf r.source a.headers.dataDirection
  values := (List.range (r.used a g)).map fun n => (r.outcome i g n).toOption.join

/-- An area with its number is read in a grid. -/
def scopeOf (i : Nat) (a : Area) (g : Grid) : Scope := ⟨i, g, shapeOf a g⟩

/-- The number of the value on an axis. -/
def Axis.index (x : Axis) (observation lane : Nat) : Nat :=
  match x with
  | .broadcast => 0
  | .lane => lane
  | .observation => observation

theorem Series.at_eq (s : Series) (o l : Nat) : s.at o l = s.values[s.axis.index o l]?.join := by
  unfold Series.at
  cases s.axis with
  | broadcast => rfl
  | lane => rfl
  | observation => rfl

theorem index_axisOf (r : Reading) (a : Area) (o l : Nat) :
    (axisOf r.source a.headers.dataDirection).index o l = r.index a o l := by
  unfold Reading.index
  cases r.source with
  | cell c => rfl
  | value v => rfl
  | range x =>
    rw [axisOf_range]
    show _ = if runsAcross a x then l else o
    cases runsAcross a x with
    | true => rfl
    | false => rfl

theorem index_lt_used (r : Reading) {a : Area} {g : Grid} {o l : Nat}
    (ho : o < observationCount a g) (hl : l < laneCount a g) : r.index a o l < r.used a g := by
  unfold Reading.index Reading.used
  cases r.source.range? with
  | none => exact Nat.one_pos
  | some x =>
    show (if runsAcross a x then l else o)
      < if runsAcross a x then laneCount a g else observationCount a g
    by_cases hacross : runsAcross a x = true
    · rw [if_pos hacross, if_pos hacross]
      exact hl
    · rw [if_neg hacross, if_neg hacross]
      exact ho

/-- A pair finds its value in the series. -/
theorem series_at (r : Reading) (i : Nat) {a : Area} {g : Grid} {o l : Nat}
    (ho : o < observationCount a g) (hl : l < laneCount a g) :
    (r.series i a g).at o l = r.valueAt i a g o l := by
  have hlt := index_lt_used r ho hl
  rw [Series.at_eq]
  show ((List.range (r.used a g)).map _)[(axisOf r.source a.headers.dataDirection).index o l]?.join
    = _
  rw [index_axisOf, List.getElem?_map, List.getElem?_range hlt]
  rfl

section Fields

variable {i : Nat} {a : Area} {g : Grid} (h : a.WellFormed) (hlanes : laneCount a g ≠ 0)

include h hlanes

theorem series_eq_ok {r : Reading} (hr : r ∈ readings a) {s : Series} :
    (scopeOf i a g).series r.role r.source r.params r.conversion = .ok s ↔
      r.Succeeds i a g ∧ s = r.series i a g := by
  show (Cleaning.cleanAll ⟨i, r.role, r.params, r.conversion⟩ none
      ((resolve r.source g).take ((shapeOf a g).count (axisOf r.source a.headers.dataDirection)))
    |>.map fun values => ⟨axisOf r.source a.headers.dataDirection, values⟩) = .ok s ↔ _
  rw [take_resolve h hlanes hr]
  exact map_eq_ok_of fun vs => Cleaning.cleanAll_range

/-! ## 2. Fields -/

theorem text_eq_ok {role : String} {e : Extractor} (hr : Reading.text role e ∈ readings a)
    {f : Field} :
    (scopeOf i a g).text role e = .ok f ↔
      (Reading.text role e).Succeeds i a g ∧ f = .plain ((Reading.text role e).series i a g) := by
  show ((scopeOf i a g).series (Reading.text role e).role (Reading.text role e).source
    (Reading.text role e).params (Reading.text role e).conversion).map Field.plain = .ok f ↔ _
  exact map_eq_ok_of fun s => series_eq_ok h hlanes hr

theorem text?_eq_ok {role : String} {e : Option Extractor}
    (hr : ∀ r ∈ e.map (Reading.text role), r ∈ readings a) {f : Option Field} :
    (scopeOf i a g).text? role e = .ok f ↔
      (∀ r ∈ e.map (Reading.text role), r.Succeeds i a g) ∧
      f = (e.map (Reading.text role)).map fun r => .plain (r.series i a g) := by
  cases e with
  | none =>
    show Except.ok none = .ok f ↔ _
    simp [eq_comm]
  | some e =>
    show ((scopeOf i a g).text role e).map some = .ok f ↔ _
    rw [map_eq_ok_of fun f => text_eq_ok h hlanes (hr _ rfl)]
    simp only [Option.map_some, Option.mem_def, Option.some.injEq, forall_eq']

omit h hlanes in
/-- Things that are read one after the other: all are read if and only if each is. -/
theorem each_eq_ok {α β ε : Type} {f : List α → Except ε (List β)} {one : α → Except ε β}
    (hnil : f [] = .ok [])
    (hcons : ∀ x rest, f (x :: rest) = (one x >>= fun y => (f rest).map (y :: ·)))
    {Good : α → Prop} {value : α → β} {l : List α}
    (hone : ∀ x ∈ l, ∀ y, one x = .ok y ↔ Good x ∧ y = value x) {ys : List β} :
    f l = .ok ys ↔ (∀ x ∈ l, Good x) ∧ ys = l.map value := by
  induction l generalizing ys with
  | nil =>
    rw [hnil]
    simp [eq_comm]
  | cons x rest ih =>
    rw [hcons, List.forall_mem_cons, List.map_cons]
    exact bind_eq_ok_of (hone x List.mem_cons_self) fun _ =>
      map_eq_ok_of fun _ => ih fun z hz => hone z (List.mem_cons_of_mem x hz)

omit h hlanes in
theorem titleIds_cons (x : Scope) (t : TitleId) (rest : List TitleId) :
    x.titleIds (t :: rest) =
      ((x.text ("title_id " ++ t.kind.name) t.extractor).map (t.kind, ·)
        >>= fun y => (x.titleIds rest).map (y :: ·)) := by
  rw [Scope.titleIds]
  cases x.text ("title_id " ++ t.kind.name) t.extractor with
  | error e => rfl
  | ok f => cases x.titleIds rest <;> rfl

omit h hlanes in
theorem dimensions_cons (x : Scope) (d : Dimension) (rest : List Dimension) :
    x.dimensions (d :: rest) =
      ((x.text ("dimension '" ++ d.name ++ "'") d.extractor).map (d.name, ·)
        >>= fun y => (x.dimensions rest).map (y :: ·)) := by
  rw [Scope.dimensions]
  cases x.text ("dimension '" ++ d.name ++ "'") d.extractor with
  | error e => rfl
  | ok f => cases x.dimensions rest <;> rfl

/-- A field under a name. -/
theorem named_eq_ok {κ : Type} {role : String} {e : Extractor} {name : κ}
    (hr : Reading.text role e ∈ readings a) (y : κ × Field) :
    ((scopeOf i a g).text role e).map (name, ·) = .ok y ↔
      (Reading.text role e).Succeeds i a g ∧
      y = (name, .plain ((Reading.text role e).series i a g)) :=
  map_eq_ok_of fun _ => text_eq_ok h hlanes hr

theorem titleIds_eq_ok {ts : List TitleId} (hr : ∀ t ∈ ts, Reading.titleId t ∈ readings a)
    {fs : List (TitleIdKind × Field)} :
    (scopeOf i a g).titleIds ts = .ok fs ↔
      (∀ t ∈ ts, (Reading.titleId t).Succeeds i a g) ∧
      fs = ts.map fun t => (t.kind, .plain ((Reading.titleId t).series i a g)) :=
  each_eq_ok (f := (scopeOf i a g).titleIds) rfl (titleIds_cons _)
    fun t ht y => named_eq_ok h hlanes (hr t ht) y

theorem dimensions_eq_ok {ds : List Dimension} (hr : ∀ d ∈ ds, Reading.dimension d ∈ readings a)
    {fs : List (String × Field)} :
    (scopeOf i a g).dimensions ds = .ok fs ↔
      (∀ d ∈ ds, (Reading.dimension d).Succeeds i a g) ∧
      fs = ds.map fun d => (d.name, .plain ((Reading.dimension d).series i a g)) :=
  each_eq_ok (f := (scopeOf i a g).dimensions) rfl (dimensions_cons _)
    fun d hd y => named_eq_ok h hlanes (hr d hd) y

omit h hlanes in
/-- The field of a date. -/
def dateField (i : Nat) (a : Area) (g : Grid) (d : DateExtractor) : Field :=
  match d.origin with
  | .direct s => .plain ((Reading.date d s).series i a g)
  | .composed parts =>
    .composed ((Reading.year d parts.year).series i a g)
      ((Reading.month d parts.month).series i a g)

theorem date_eq_ok {d : DateExtractor} (hr : ∀ r ∈ Reading.ofDate d, r ∈ readings a) {f : Field} :
    (scopeOf i a g).date d = .ok f ↔
      (∀ r ∈ Reading.ofDate d, r.Succeeds i a g) ∧ f = dateField i a g d := by
  unfold Scope.date dateField Reading.ofDate at *
  cases ho : d.origin with
  | direct s =>
    rw [ho] at hr
    have hs := hr _ (List.mem_singleton.2 rfl)
    show ((scopeOf i a g).series (Reading.date d s).role (Reading.date d s).source
      (Reading.date d s).params (Reading.date d s).conversion).map Field.plain = .ok f ↔ _
    rw [List.forall_mem_singleton]
    exact map_eq_ok_of fun _ => series_eq_ok h hlanes hs
  | composed parts =>
    rw [ho] at hr
    obtain ⟨hy, hm⟩ := List.forall_mem_cons.1 hr
    rw [List.forall_mem_singleton] at hm
    show ((scopeOf i a g).series (Reading.year d parts.year).role (Reading.year d parts.year).source
      (Reading.year d parts.year).params (Reading.year d parts.year).conversion >>= fun year =>
        ((scopeOf i a g).series (Reading.month d parts.month).role
          (Reading.month d parts.month).source (Reading.month d parts.month).params
          (Reading.month d parts.month).conversion).map (Field.composed year)) = .ok f ↔ _
    rw [List.forall_mem_cons, List.forall_mem_singleton]
    exact bind_eq_ok_of (fun _ => series_eq_ok h hlanes hy) fun _ =>
      map_eq_ok_of fun _ => series_eq_ok h hlanes hm

omit h hlanes in
/-- The readings of an area, one kind after the other. -/
theorem forall_readings {e : Extractor} {d : DateExtractor} (he : a.metric? = some e)
    (hd : a.date? = some d) {P : Reading → Prop} :
    (∀ r ∈ readings a, P r) ↔
      P (.metric e) ∧ (∀ r ∈ Reading.ofDate d, P r) ∧
      (∀ r ∈ a.title.map Reading.title, P r) ∧ (∀ t ∈ a.titleIds, P (.titleId t)) ∧
      (∀ x ∈ a.dimensions, P (.dimension x)) ∧
      (∀ r ∈ a.organization.map Reading.organization, P r) := by
  unfold readings
  rw [he, hd]
  simp only [List.forall_mem_append, List.forall_mem_map, Option.toList_some,
    List.forall_mem_singleton, List.flatMap_cons, List.flatMap_nil, List.append_nil, and_assoc,
    Option.mem_toList, Option.mem_def, Option.map_eq_some_iff, forall_exists_index, and_imp,
    forall_apply_eq_imp_iff₂]

/-- The fields of an area with a metric and a date. -/
def fieldsRead (i : Nat) (a : Area) (g : Grid) (e : Extractor) (d : DateExtractor) : Fields where
  metric := .plain ((Reading.metric e).series i a g)
  date := dateField i a g d
  title := (a.title.map Reading.title).map fun r => .plain (r.series i a g)
  titleIds := a.titleIds.map fun t => (t.kind, .plain ((Reading.titleId t).series i a g))
  dimensions := a.dimensions.map fun x => (x.name, .plain ((Reading.dimension x).series i a g))
  organization := (a.organization.map Reading.organization).map fun r => .plain (r.series i a g)

/-- **The fields of an area are read if and only if every reading succeeds.** -/
theorem fieldsOf_eq_ok {e : Extractor} {d : DateExtractor} (he : a.metric? = some e)
    (hd : a.date? = some d) {f : Option Fields} :
    fieldsOf (scopeOf i a g) a = .ok f ↔
      (∀ r ∈ readings a, r.Succeeds i a g) ∧ f = some (fieldsRead i a g e d) := by
  have hmetric : (a.headerMetric? <|> a.metric) = some e := he
  have hdate : (a.headerDate? <|> a.date) = some d := hd
  obtain ⟨rmetric, rdate, rtitle, rids, rdims, rorg⟩ :=
    (forall_readings he hd).1 fun r (hr : r ∈ readings a) => hr
  unfold fieldsOf
  rw [hmetric, hdate, forall_readings he hd]
  simp only [bind_eq_ok, pure_eq_ok, text_eq_ok h hlanes rmetric, date_eq_ok h hlanes rdate,
    text?_eq_ok h hlanes rtitle, titleIds_eq_ok h hlanes rids, dimensions_eq_ok h hlanes rdims,
    text?_eq_ok h hlanes rorg]
  constructor
  · rintro ⟨_, ⟨hm, rfl⟩, _, ⟨hdt, rfl⟩, _, ⟨ht, rfl⟩, _, ⟨hi, rfl⟩, _, ⟨hx, rfl⟩, _, ⟨ho, rfl⟩,
      rfl⟩
    exact ⟨⟨hm, hdt, ht, hi, hx, ho⟩, rfl⟩
  · rintro ⟨⟨hm, hdt, ht, hi, hx, ho⟩, rfl⟩
    exact ⟨_, ⟨hm, rfl⟩, _, ⟨hdt, rfl⟩, _, ⟨ht, rfl⟩, _, ⟨hi, rfl⟩, _, ⟨hx, rfl⟩, _, ⟨ho, rfl⟩, rfl⟩

end Fields

end UsageGrid.Extraction
