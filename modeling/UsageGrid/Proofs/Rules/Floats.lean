import UsageGrid.Proofs.Json.Canonical
import UsageGrid.Proofs.Rules.Area

/-!
# Floating numbers in a rule document

A document holds floating numbers in two places: as values that it gives itself, in sources and as
defaults, and in its conditions. Where the numbers are replaced (`Definition.mapFloats`), those of
the written form are (`toJson_mapFloats`), and a well-formed document stays so
(`Definition.WellFormed.mapFloats`): no rule about documents looks at such a number.
-/

namespace UsageGrid.Rules

section

variable (f : Binary64 → Binary64)

/-! ## 1. Replaced numbers -/

def Scalar.mapFloats : Scalar → Scalar
  | .float x => .float (f x)
  | s => s

def Source.mapFloats : Source → Source
  | .value s => .value (s.mapFloats f)
  | s => s

def Params.mapFloats (p : Params) : Params :=
  { p with default := p.default.map (Scalar.mapFloats f) }

def Extractor.mapFloats (e : Extractor) : Extractor :=
  ⟨e.source.mapFloats f, e.params.mapFloats f⟩

def Dimension.mapFloats (d : Dimension) : Dimension :=
  { d with extractor := d.extractor.mapFloats f }

def TitleId.mapFloats (t : TitleId) : TitleId :=
  { t with extractor := t.extractor.mapFloats f }

def DatePart.mapFloats (p : DatePart) : DatePart :=
  { p with source := p.source.mapFloats f, params := p.params.mapFloats f }

def Composed.mapFloats (c : Composed) : Composed :=
  ⟨c.year.mapFloats f, c.month.mapFloats f⟩

def DateOrigin.mapFloats : DateOrigin → DateOrigin
  | .direct s => .direct (s.mapFloats f)
  | .composed parts => .composed (parts.mapFloats f)

def DateExtractor.mapFloats (d : DateExtractor) : DateExtractor :=
  { d with origin := d.origin.mapFloats f, params := d.params.mapFloats f }

def HeaderRole.mapFloats : HeaderRole → HeaderRole
  | .metric e => .metric (e.mapFloats f)
  | .date d => .date (d.mapFloats f)

def DataHeaders.mapFloats (h : DataHeaders) : DataHeaders :=
  { h with roles := h.roles.map (HeaderRole.mapFloats f) }

def Area.mapFloats (a : Area) : Area where
  headers := a.headers.mapFloats f
  metric := a.metric.map (Extractor.mapFloats f)
  date := a.date.map (DateExtractor.mapFloats f)
  title := a.title.map (Extractor.mapFloats f)
  titleIds := a.titleIds.map (TitleId.mapFloats f)
  dimensions := a.dimensions.map (Dimension.mapFloats f)
  organization := a.organization.map (Extractor.mapFloats f)

/-! ## 2. The written form -/

open Json

theorem mapFloats_ofOption {α : Type} {write : α → Json} {g : α → α}
    (h : ∀ a, write (g a) = (write a).mapFloats f) (o : Option α) :
    ofOption write (o.map g) = (ofOption write o).mapFloats f := by
  cases o with
  | none => rfl
  | some a => exact h a

theorem mapFloats_array {α : Type} {write : α → Json} {g : α → α}
    (h : ∀ a, write (g a) = (write a).mapFloats f) (l : List α) :
    Json.array ((l.map g).map write) = (Json.array (l.map write)).mapFloats f := by
  show _ = Json.array (mapItems f (l.map write))
  rw [mapItems_eq, List.map_map, List.map_map]
  exact congrArg Json.array (List.map_congr_left fun a _ => h a)

theorem mapFloats_ofTexts (l : List String) : (ofTexts l).mapFloats f = ofTexts l := by
  show Json.array (mapItems f (l.map .string)) = _
  rw [mapItems_eq, List.map_map]
  rfl

theorem Scalar.toJson_mapFloats (s : Scalar) :
    (s.mapFloats f).toJson = s.toJson.mapFloats f := by
  cases s <;> rfl

theorem Source.toJson_mapFloats (s : Source) :
    (s.mapFloats f).toJson = s.toJson.mapFloats f := by
  cases s with
  | cell c => rfl
  | range r =>
    show r.toJson = r.toJson.mapFloats f
    rw [Range.toJson_eq]
    cases r.maxCount <;> rfl
  | value s =>
    show Json.object [("value", (s.mapFloats f).toJson)] = _
    rw [s.toJson_mapFloats]
    rfl

theorem Params.toJson_mapFloats (p : Params) :
    (p.mapFloats f).toJson = p.toJson.mapFloats f := by
  obtain ⟨pattern, default, lastAsDefault, onError⟩ := p
  rw [Params.toJson_eq, Params.toJson_eq]
  show Json.object [_, (_, ofOption Scalar.toJson (default.map (Scalar.mapFloats f))), _, _] = _
  rw [mapFloats_ofOption f (Scalar.toJson_mapFloats f)]
  cases pattern <;> rfl

theorem Extractor.members_mapFloats (role : Role) (e : Extractor) :
    (e.mapFloats f).members role = mapMembers f (e.members role) := by
  show [("source", (e.source.mapFloats f).toJson), ("extract_params", (e.params.mapFloats f).toJson),
    ("role", .string role.name)] = _
  rw [Source.toJson_mapFloats, Params.toJson_mapFloats]
  rfl

theorem Extractor.toJson_mapFloats (role : Role) (e : Extractor) :
    (e.mapFloats f).toJson role = (e.toJson role).mapFloats f :=
  congrArg Json.object (e.members_mapFloats f role)

theorem Dimension.toJson_mapFloats (d : Dimension) :
    (d.mapFloats f).toJson = d.toJson.mapFloats f :=
  congrArg (fun members => Json.object (("name", .string d.name) :: members))
    (d.extractor.members_mapFloats f .dimension)

theorem TitleId.toJson_mapFloats (t : TitleId) :
    (t.mapFloats f).toJson = t.toJson.mapFloats f :=
  congrArg (fun members => Json.object (("name", .string t.kind.name) :: members))
    (t.extractor.members_mapFloats f .titleId)

theorem dateMembers_mapFloats (p : Params) (format : Option String) :
    dateMembers (p.mapFloats f) format = mapMembers f (dateMembers p format) := by
  unfold dateMembers
  rw [Params.toJson_mapFloats]
  cases format <;> rfl

theorem DatePart.toJson_mapFloats (p : DatePart) :
    (p.mapFloats f).toJson = p.toJson.mapFloats f := by
  show Json.object (("source", (p.source.mapFloats f).toJson)
    :: dateMembers (p.params.mapFloats f) p.format) = _
  rw [Source.toJson_mapFloats, dateMembers_mapFloats]
  rfl

theorem Composed.toJson_mapFloats (c : Composed) :
    (c.mapFloats f).toJson = c.toJson.mapFloats f := by
  show Json.object [("year", (c.year.mapFloats f).toJson), ("month", (c.month.mapFloats f).toJson)]
    = _
  rw [DatePart.toJson_mapFloats, DatePart.toJson_mapFloats]
  rfl

theorem DateExtractor.toJson_mapFloats (d : DateExtractor) :
    (d.mapFloats f).toJson = d.toJson.mapFloats f := by
  obtain ⟨origin, params, format⟩ := d
  cases origin with
  | direct s =>
    show Json.object (("source", (s.mapFloats f).toJson)
      :: dateMembers (params.mapFloats f) format) = _
    rw [Source.toJson_mapFloats, dateMembers_mapFloats]
    rfl
  | composed parts =>
    show Json.object (("composed", (parts.mapFloats f).toJson)
      :: dateMembers (params.mapFloats f) format) = _
    rw [Composed.toJson_mapFloats, dateMembers_mapFloats]
    rfl

theorem HeaderRole.toJson_mapFloats (r : HeaderRole) :
    (r.mapFloats f).toJson = r.toJson.mapFloats f := by
  cases r with
  | metric e => exact e.toJson_mapFloats f .metric
  | date d => exact d.toJson_mapFloats f

theorem DataHeaders.toJson_mapFloats (h : DataHeaders) :
    (h.mapFloats f).toJson = h.toJson.mapFloats f := by
  have hcells : h.dataCells.toJson.mapFloats f = h.dataCells.toJson :=
    (Source.toJson_mapFloats f (.range h.dataCells)).symm
  have hroles := mapFloats_array f (HeaderRole.toJson_mapFloats f) h.roles
  show Json.object [("roles", .array ((h.roles.map (HeaderRole.mapFloats f)).map HeaderRole.toJson)),
      ("data_cells", h.dataCells.toJson), ("data_direction", .string h.dataDirection.name)]
    = Json.object [("roles", (Json.array (h.roles.map HeaderRole.toJson)).mapFloats f),
      ("data_cells", h.dataCells.toJson.mapFloats f),
      ("data_direction", .string h.dataDirection.name)]
  rw [hroles, hcells]

theorem Area.toJson_mapFloats (a : Area) : (a.mapFloats f).toJson = a.toJson.mapFloats f := by
  unfold Area.toJson Area.mapFloats
  dsimp only
  rw [DataHeaders.toJson_mapFloats, mapFloats_ofOption f (Extractor.toJson_mapFloats f .metric),
    mapFloats_ofOption f (DateExtractor.toJson_mapFloats f),
    mapFloats_ofOption f (Extractor.toJson_mapFloats f .title),
    mapFloats_array f (TitleId.toJson_mapFloats f), mapFloats_array f (Dimension.toJson_mapFloats f),
    mapFloats_ofOption f (Extractor.toJson_mapFloats f .organization)]
  rfl

end

/-! ## 3. Well-formed documents -/

variable {f : Binary64 → Binary64}

theorem Scalar.IsFinite.mapFloats {s : Scalar} (h : s.IsFinite) : (s.mapFloats f).IsFinite := by
  cases s <;> exact h

theorem Source.WellFormed.mapFloats {s : Source} (h : s.WellFormed) :
    (s.mapFloats f).WellFormed := by
  cases s with
  | value s => exact Scalar.IsFinite.mapFloats h
  | _ => exact h

theorem Params.WellFormed.mapFloats {p : Params} (h : p.WellFormed) :
    (p.mapFloats f).WellFormed := by
  intro s hs
  obtain ⟨t, ht, rfl⟩ := Option.map_eq_some_iff.1 hs
  exact (h t ht).mapFloats

theorem Extractor.WellFormed.mapFloats {e : Extractor} (h : e.WellFormed) :
    (e.mapFloats f).WellFormed := ⟨h.source.mapFloats, h.params.mapFloats⟩

theorem Dimension.WellFormed.mapFloats {d : Dimension} (h : d.WellFormed) :
    (d.mapFloats f).WellFormed := ⟨h.extractor.mapFloats, h.notBlank, h.notReserved⟩

theorem TitleId.WellFormed.mapFloats {t : TitleId} (h : t.WellFormed) :
    (t.mapFloats f).WellFormed := Extractor.WellFormed.mapFloats h

theorem DatePart.WellFormed.mapFloats {p : DatePart} (h : p.WellFormed) :
    (p.mapFloats f).WellFormed := ⟨h.source.mapFloats, h.params.mapFloats, h.format⟩

theorem DateOrigin.WellFormed.mapFloats {o : DateOrigin} (h : o.WellFormed) :
    (o.mapFloats f).WellFormed := by
  cases o with
  | direct s => exact Source.WellFormed.mapFloats h
  | composed parts => exact ⟨h.year.mapFloats, h.month.mapFloats⟩

theorem DateExtractor.WellFormed.mapFloats {d : DateExtractor} (h : d.WellFormed) :
    (d.mapFloats f).WellFormed := ⟨h.origin.mapFloats, h.params.mapFloats, h.format⟩

theorem HeaderRole.WellFormed.mapFloats {r : HeaderRole} (h : r.WellFormed) :
    (r.mapFloats f).WellFormed := by
  cases r with
  | metric e => exact Extractor.WellFormed.mapFloats h
  | date d => exact DateExtractor.WellFormed.mapFloats h

theorem range?_mapFloats (s : Source) : (s.mapFloats f).range? = s.range? := by
  cases s <;> rfl

theorem sources_mapFloats (r : HeaderRole) :
    (r.mapFloats f).sources = r.sources.map (Source.mapFloats f) := by
  cases r with
  | metric e => rfl
  | date d =>
    obtain ⟨origin, params, format⟩ := d
    cases origin <;> rfl

theorem role_mapFloats (r : HeaderRole) : (r.mapFloats f).role = r.role := by
  cases r <;> rfl

theorem DataHeaders.WellFormed.mapFloats {h : DataHeaders} (hw : h.WellFormed) :
    (h.mapFloats f).WellFormed where
  dataCells := hw.dataCells
  lanes := hw.lanes
  roles := List.forall_mem_map.2 fun r hr => (hw.roles r hr).mapFloats
  across := by
    refine List.forall_mem_map.2 fun r hr s hs range hrange => ?_
    rw [sources_mapFloats] at hs
    obtain ⟨t, ht, rfl⟩ := List.mem_map.1 hs
    rw [range?_mapFloats] at hrange
    exact hw.across r hr t ht range hrange

theorem sourceCount_mapFloats (a : Area) (role : Role) (ofArea : Bool) :
    (a.mapFloats f).sourceCount role ofArea = a.sourceCount role ofArea := by
  have hcount : (fun r : HeaderRole => r.role == role) ∘ HeaderRole.mapFloats f
      = fun r => r.role == role := funext fun r => congrArg (· == role) (role_mapFloats r)
  unfold Area.sourceCount
  show List.countP _ (a.headers.roles.map (HeaderRole.mapFloats f)) + _ = _
  rw [List.countP_map, hcount]

theorem Area.WellFormed.mapFloats {a : Area} (h : a.WellFormed) : (a.mapFloats f).WellFormed where
  headers := h.headers.mapFloats
  metric := Option.forall_mem_map.2 fun e he => (h.metric e he).mapFloats
  date := Option.forall_mem_map.2 fun e he => (h.date e he).mapFloats
  title := Option.forall_mem_map.2 fun e he => (h.title e he).mapFloats
  titleIds := List.forall_mem_map.2 fun t ht => (h.titleIds t ht).mapFloats
  dimensions := List.forall_mem_map.2 fun d hd => (h.dimensions d hd).mapFloats
  organization := Option.forall_mem_map.2 fun e he => (h.organization e he).mapFloats
  metricOnce := by
    rw [sourceCount_mapFloats]
    exact Option.isSome_map.symm ▸ h.metricOnce
  dateOnce := by
    rw [sourceCount_mapFloats]
    exact Option.isSome_map.symm ▸ h.dateOnce
  dimensionsDistinct := by
    show ((a.dimensions.map (Dimension.mapFloats f)).map (·.name)).Nodup
    rw [List.map_map]
    exact h.dimensionsDistinct
  titleIdsDistinct := by
    show ((a.titleIds.map (TitleId.mapFloats f)).map (·.kind)).Nodup
    rw [List.map_map]
    exact h.titleIdsDistinct

end UsageGrid.Rules

namespace UsageGrid.Definition

open Rules Json

variable {f : Binary64 → Binary64}

/-- The document with its floating numbers replaced. -/
def mapFloats (f : Binary64 → Binary64) (d : Definition) : Definition :=
  { d with
    areas := d.areas.map (Area.mapFloats f)
    conditions := d.conditions.map (Json.mapFloats f) }

/-- **The numbers are replaced in the written form.** -/
theorem toJson_mapFloats (f : Binary64 → Binary64) (d : Definition) :
    (d.mapFloats f).toJson = d.toJson.mapFloats f := by
  have hareas := mapFloats_array f (Area.toJson_mapFloats f) d.areas
  have hconditions : conditionsToJson (d.conditions.map (Json.mapFloats f))
      = (conditionsToJson d.conditions).mapFloats f := by
    show Json.object [("conds", .array _), _] = Json.object [("conds", .array (mapItems f _)), _]
    rw [mapItems_eq]
    rfl
  have haliases (l : Aliases) : (Aliases.toJson l).mapFloats f = Aliases.toJson l := by
    show Json.array (mapItems f _) = _
    rw [mapItems_eq, List.map_map]
    rfl
  have havailable : (ofOption ofTexts d.availableMetrics).mapFloats f
      = ofOption ofTexts d.availableMetrics := by
    cases d.availableMetrics with
    | none => rfl
    | some l => exact mapFloats_ofTexts f l
  show Json.object [_, _, _, _, _, _, _,
      ("areas", .array ((d.areas.map (Area.mapFloats f)).map Area.toJson)), _, _,
      ("heuristics", conditionsToJson (d.conditions.map (Json.mapFloats f))), _]
    = Json.object [_, _, (_, (ofTexts d.platforms).mapFloats f),
      (_, (ofTexts d.metricsToSkip).mapFloats f), (_, (ofTexts d.titlesToSkip).mapFloats f),
      (_, (ofOption ofTexts d.availableMetrics).mapFloats f), _,
      (_, (Json.array (d.areas.map Area.toJson)).mapFloats f),
      (_, (Aliases.toJson d.metricAliases).mapFloats f),
      (_, (Aliases.toJson d.dimensionAliases).mapFloats f),
      (_, (conditionsToJson d.conditions).mapFloats f), _]
  rw [hareas, hconditions, haliases, haliases, havailable, mapFloats_ofTexts, mapFloats_ofTexts,
    mapFloats_ofTexts]
  rfl

theorem WellFormed.mapFloats {d : Definition} (h : d.WellFormed) : (d.mapFloats f).WellFormed where
  hasArea := by
    show d.areas.map _ ≠ []
    exact fun hnil => h.hasArea (List.map_eq_nil_iff.1 hnil)
  areas := List.forall_mem_map.2 fun a ha => (h.areas a ha).mapFloats
  metricAliases := h.metricAliases
  dimensionAliases := h.dimensionAliases
  targetsNotReserved := h.targetsNotReserved
  notMerged := by
    refine List.forall_mem_map.2 fun a ha => ?_
    show ((a.dimensions.map (Dimension.mapFloats f)).map _).Nodup
    rw [List.map_map]
    exact h.notMerged a ha

end UsageGrid.Definition
