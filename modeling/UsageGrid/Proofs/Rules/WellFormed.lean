import Mathlib.Algebra.Group.Nat.Defs
import UsageGrid.Rules.Definition

/-!
# Well-formed rule documents

What a definition has to be, said of the definition itself and not of a text or value that it is
read from:

* every number fits where the written form has room for it (`FitsInt64`, `Scalar.IsFinite`), and
  every date format is one;
* the lanes of an area, and the ranges in its headers, run across its data
  (`DataHeaders.WellFormed`);
* a metric and a date belong to every value, and no column has two sources (`Area.WellFormed`);
* renaming is a function that needs no second step (`Aliases.Consistent`), and brings no two columns
  together (`Definition.WellFormed`).
-/

namespace UsageGrid.Rules

/-! ## 1. Numbers and formats -/

/-- A count or an index that fits 64 bits with sign. -/
def FitsInt64 (n : Nat) : Prop := n < 2 ^ 63

def Scalar.IsFinite : Scalar → Prop
  | .nonFinite _ => False
  | _ => True

/-- A date format, if there is one, is a format. -/
def IsDateFormat (format : Option String) : Prop :=
  ∀ text ∈ format, Calendar.Format.isFormat text = true

/-! ## 2. Sources and extractors -/

structure CoordFits (c : Coord) : Prop where
  row : FitsInt64 c.row
  col : FitsInt64 c.col

structure Range.WellFormed (r : Range) : Prop where
  coord : CoordFits r.coord
  maxCount : ∀ n ∈ r.maxCount, FitsInt64 n

def Source.WellFormed : Source → Prop
  | .cell c => CoordFits c
  | .range r => r.WellFormed
  | .value s => s.IsFinite

/-- The value that stands in is finite. -/
def Params.WellFormed (p : Params) : Prop := ∀ s ∈ p.default, s.IsFinite

structure Extractor.WellFormed (e : Extractor) : Prop where
  source : e.source.WellFormed
  params : e.params.WellFormed

structure Dimension.WellFormed (d : Dimension) : Prop where
  extractor : d.extractor.WellFormed
  notBlank : Text.isBlankText d.name = false
  notReserved : isReserved d.name = false

def TitleId.WellFormed (t : TitleId) : Prop := t.extractor.WellFormed

structure DatePart.WellFormed (p : DatePart) : Prop where
  source : p.source.WellFormed
  params : p.params.WellFormed
  format : IsDateFormat p.format

structure Composed.WellFormed (c : Composed) : Prop where
  year : c.year.WellFormed
  month : c.month.WellFormed

def DateOrigin.WellFormed : DateOrigin → Prop
  | .direct s => s.WellFormed
  | .composed parts => parts.WellFormed

structure DateExtractor.WellFormed (d : DateExtractor) : Prop where
  origin : d.origin.WellFormed
  params : d.params.WellFormed
  format : IsDateFormat d.format

/-! ## 3. Areas -/

def HeaderRole.WellFormed : HeaderRole → Prop
  | .metric e => e.WellFormed
  | .date d => d.WellFormed

/-- If the source is a range, it runs across the direction. -/
def Source.RunsAcross (s : Source) (data : Direction) : Prop :=
  ∀ r ∈ s.range?, r.direction.isPerpendicular data = true

structure DataHeaders.WellFormed (h : DataHeaders) : Prop where
  dataCells : h.dataCells.WellFormed
  lanes : h.dataCells.direction.isPerpendicular h.dataDirection = true
  roles : ∀ r ∈ h.roles, r.WellFormed
  across : ∀ r ∈ h.roles, ∀ s ∈ r.sources, s.RunsAcross h.dataDirection

structure Area.WellFormed (a : Area) : Prop where
  headers : a.headers.WellFormed
  metric : ∀ e ∈ a.metric, e.WellFormed
  date : ∀ d ∈ a.date, d.WellFormed
  title : ∀ e ∈ a.title, e.WellFormed
  titleIds : ∀ t ∈ a.titleIds, t.WellFormed
  dimensions : ∀ d ∈ a.dimensions, d.WellFormed
  organization : ∀ e ∈ a.organization, e.WellFormed
  metricOnce : a.sourceCount .metric a.metric.isSome = 1
  dateOnce : a.sourceCount .date a.date.isSome = 1
  dimensionsDistinct : (a.dimensions.map (·.name)).Nodup
  titleIdsDistinct : (a.titleIds.map (·.kind)).Nodup

/-! ## 4. Definitions -/

/-- No name has two targets, and no target is renamed to another name. -/
structure Aliases.Consistent (aliases : Aliases) : Prop where
  oneTarget : ∀ name s t, (name, s) ∈ aliases → (name, t) ∈ aliases → s = t
  noChain : ∀ name s t, (name, s) ∈ aliases → (s, t) ∈ aliases → t = s

end UsageGrid.Rules

namespace UsageGrid

open Rules

structure Definition.WellFormed (d : Definition) : Prop where
  hasArea : d.areas ≠ []
  areas : ∀ a ∈ d.areas, a.WellFormed
  metricAliases : d.metricAliases.Consistent
  dimensionAliases : d.dimensionAliases.Consistent
  targetsNotReserved : ∀ p ∈ d.dimensionAliases, isReserved p.2 = false
  notMerged : ∀ a ∈ d.areas, (a.dimensions.map fun x => d.canonicalDimension x.name).Nodup

end UsageGrid
