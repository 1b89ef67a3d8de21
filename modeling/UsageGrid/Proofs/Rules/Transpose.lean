import Mathlib.Data.Option.Basic
import UsageGrid.Proofs.Grid.Transpose
import UsageGrid.Proofs.Rules.WellFormed

/-!
# Transposed rule documents

A definition for transposed grids has row and column exchanged in every address, and every direction
with them; all else stays. It is well-formed if the definition is
(`Definition.WellFormed.transpose`).
-/

namespace UsageGrid.Rules

/-! ## 1. Transposing -/

def Range.transpose (r : Range) : Range :=
  { r with coord := r.coord.transpose, direction := r.direction.transpose }

def Source.transpose : Source → Source
  | .cell c => .cell c.transpose
  | .range r => .range r.transpose
  | .value s => .value s

def Extractor.transpose (e : Extractor) : Extractor := { e with source := e.source.transpose }

def Dimension.transpose (d : Dimension) : Dimension :=
  { d with extractor := d.extractor.transpose }

def TitleId.transpose (t : TitleId) : TitleId := { t with extractor := t.extractor.transpose }

def DatePart.transpose (p : DatePart) : DatePart := { p with source := p.source.transpose }

def Composed.transpose (c : Composed) : Composed := ⟨c.year.transpose, c.month.transpose⟩

def DateOrigin.transpose : DateOrigin → DateOrigin
  | .direct s => .direct s.transpose
  | .composed parts => .composed parts.transpose

def DateExtractor.transpose (d : DateExtractor) : DateExtractor :=
  { d with origin := d.origin.transpose }

def HeaderRole.transpose : HeaderRole → HeaderRole
  | .metric e => .metric e.transpose
  | .date d => .date d.transpose

def DataHeaders.transpose (h : DataHeaders) : DataHeaders where
  roles := h.roles.map HeaderRole.transpose
  dataCells := h.dataCells.transpose
  dataDirection := h.dataDirection.transpose

def Area.transpose (a : Area) : Area where
  headers := a.headers.transpose
  metric := a.metric.map Extractor.transpose
  date := a.date.map DateExtractor.transpose
  title := a.title.map Extractor.transpose
  titleIds := a.titleIds.map TitleId.transpose
  dimensions := a.dimensions.map Dimension.transpose
  organization := a.organization.map Extractor.transpose

/-! ## 2. Sources -/

theorem range?_transpose (s : Source) : s.transpose.range? = s.range?.map Range.transpose := by
  cases s <;> rfl

theorem DateExtractor.sources_transpose (d : DateExtractor) :
    d.transpose.sources = d.sources.map Source.transpose := by
  unfold sources transpose
  cases d.origin <;> rfl

theorem HeaderRole.sources_transpose (r : HeaderRole) :
    r.transpose.sources = r.sources.map Source.transpose := by
  cases r with
  | metric e => rfl
  | date d => exact d.sources_transpose

/-! ## 3. Well-formedness -/

theorem CoordFits.transpose {c : Coord} (h : CoordFits c) : CoordFits c.transpose := ⟨h.col, h.row⟩

theorem Range.WellFormed.transpose {r : Range} (h : r.WellFormed) : r.transpose.WellFormed :=
  ⟨h.coord.transpose, h.maxCount⟩

theorem Source.WellFormed.transpose {s : Source} (h : s.WellFormed) : s.transpose.WellFormed := by
  cases s with
  | cell c => exact CoordFits.transpose h
  | range r => exact Range.WellFormed.transpose h
  | value v => exact h

theorem Extractor.WellFormed.transpose {e : Extractor} (h : e.WellFormed) :
    e.transpose.WellFormed := ⟨h.source.transpose, h.params⟩

theorem Dimension.WellFormed.transpose {d : Dimension} (h : d.WellFormed) :
    d.transpose.WellFormed := ⟨h.extractor.transpose, h.notBlank, h.notReserved⟩

theorem TitleId.WellFormed.transpose {t : TitleId} (h : t.WellFormed) : t.transpose.WellFormed :=
  Extractor.WellFormed.transpose h

theorem DatePart.WellFormed.transpose {p : DatePart} (h : p.WellFormed) : p.transpose.WellFormed :=
  ⟨h.source.transpose, h.params, h.format⟩

theorem DateExtractor.WellFormed.transpose {d : DateExtractor} (h : d.WellFormed) :
    d.transpose.WellFormed where
  origin := by
    have horigin := h.origin
    unfold DateExtractor.transpose
    cases ho : d.origin with
    | direct s =>
      rw [ho] at horigin
      exact Source.WellFormed.transpose horigin
    | composed parts =>
      rw [ho] at horigin
      exact ⟨horigin.year.transpose, horigin.month.transpose⟩
  params := h.params
  format := h.format

theorem HeaderRole.WellFormed.transpose {r : HeaderRole} (h : r.WellFormed) :
    r.transpose.WellFormed := by
  cases r with
  | metric e => exact Extractor.WellFormed.transpose h
  | date d => exact DateExtractor.WellFormed.transpose h

theorem Source.RunsAcross.transpose {s : Source} {data : Direction} (h : s.RunsAcross data) :
    s.transpose.RunsAcross data.transpose := by
  intro r' hr'
  rw [range?_transpose] at hr'
  obtain ⟨r, hr, rfl⟩ := Option.map_eq_some_iff.1 hr'
  exact (isPerpendicular_transpose _ _).trans (h r hr)

theorem DataHeaders.WellFormed.transpose {x : DataHeaders} (h : x.WellFormed) :
    x.transpose.WellFormed where
  dataCells := h.dataCells.transpose
  lanes := (isPerpendicular_transpose _ _).trans h.lanes
  roles := List.forall_mem_map.2 fun r hr => (h.roles r hr).transpose
  across := by
    intro r' hr' s' hs'
    obtain ⟨r, hr, rfl⟩ := List.mem_map.1 hr'
    rw [HeaderRole.sources_transpose] at hs'
    obtain ⟨s, hs, rfl⟩ := List.mem_map.1 hs'
    exact (h.across r hr s hs).transpose

theorem Area.sourceCount_transpose (a : Area) (role : Role) (ofArea : Bool) :
    a.transpose.sourceCount role ofArea = a.sourceCount role ofArea := by
  unfold Area.sourceCount
  congr 1
  show (a.headers.roles.map HeaderRole.transpose).countP _ = _
  rw [List.countP_map]
  congr 1
  funext r
  cases r <;> rfl

theorem Area.dimensionNames_transpose (a : Area) :
    a.transpose.dimensions.map (·.name) = a.dimensions.map (·.name) := by
  show (a.dimensions.map Dimension.transpose).map _ = _
  rw [List.map_map]
  rfl

theorem Area.titleIdKinds_transpose (a : Area) :
    a.transpose.titleIds.map (·.kind) = a.titleIds.map (·.kind) := by
  show (a.titleIds.map TitleId.transpose).map _ = _
  rw [List.map_map]
  rfl

theorem Area.WellFormed.transpose {a : Area} (h : a.WellFormed) : a.transpose.WellFormed where
  headers := h.headers.transpose
  metric := Option.forall_mem_map.2 fun e he => (h.metric e he).transpose
  date := Option.forall_mem_map.2 fun e he => (h.date e he).transpose
  title := Option.forall_mem_map.2 fun e he => (h.title e he).transpose
  titleIds := List.forall_mem_map.2 fun t ht => (h.titleIds t ht).transpose
  dimensions := List.forall_mem_map.2 fun d hd => (h.dimensions d hd).transpose
  organization := Option.forall_mem_map.2 fun e he => (h.organization e he).transpose
  metricOnce := by
    rw [sourceCount_transpose, ← h.metricOnce]
    exact congrArg _ Option.isSome_map
  dateOnce := by
    rw [sourceCount_transpose, ← h.dateOnce]
    exact congrArg _ Option.isSome_map
  dimensionsDistinct := by
    rw [dimensionNames_transpose]
    exact h.dimensionsDistinct
  titleIdsDistinct := by
    rw [titleIdKinds_transpose]
    exact h.titleIdsDistinct

end UsageGrid.Rules

namespace UsageGrid.Definition

open Rules

def transpose (d : Definition) : Definition := { d with areas := d.areas.map Area.transpose }

/-- **A well-formed definition stays well-formed.** -/
theorem WellFormed.transpose {d : Definition} (h : d.WellFormed) : d.transpose.WellFormed where
  hasArea := fun hnil => h.hasArea (List.map_eq_nil_iff.1 hnil)
  areas := List.forall_mem_map.2 fun a ha => (h.areas a ha).transpose
  metricAliases := h.metricAliases
  dimensionAliases := h.dimensionAliases
  targetsNotReserved := h.targetsNotReserved
  notMerged := by
    intro a' ha'
    obtain ⟨a, ha, rfl⟩ := List.mem_map.1 ha'
    have hnames : (a.transpose.dimensions.map fun x => d.canonicalDimension x.name)
        = a.dimensions.map fun x => d.canonicalDimension x.name := by
      show (a.dimensions.map Dimension.transpose).map _ = _
      rw [List.map_map]
      rfl
    show (a.transpose.dimensions.map fun x => d.canonicalDimension x.name).Nodup
    rw [hnames]
    exact h.notMerged a ha

end UsageGrid.Definition
