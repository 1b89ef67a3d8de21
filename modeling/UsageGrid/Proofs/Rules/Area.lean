import UsageGrid.Proofs.Rules.Extractor

/-!
# Areas, read and written

The checks of an area, each as the condition under which it passes:

* `checkRoles_eq_ok`: the ranges of the header roles run across the data;
* `checkSourcedOnce_eq_ok`: a role has one source;
* `checkDistinct_eq_ok`: no name comes twice.

With these the decoder of an area gives well-formed ones only, and reads each back (`area_codec`).
-/

namespace UsageGrid.Rules

/-! ## 1. Headers -/

theorem list_forM_eq_ok {ε α : Type} {f : α → Except ε Unit} {l : List α} :
    l.forM f = .ok () ↔ ∀ a ∈ l, f a = .ok () := by
  induction l with
  | nil => simp [List.forM, pure, Except.pure]
  | cons a rest ih =>
    show (f a >>= fun _ => rest.forM f) = .ok () ↔ _
    rw [bind_eq_ok, List.forall_mem_cons]
    constructor
    · rintro ⟨_, ha, hrest⟩
      exact ⟨ha, ih.1 hrest⟩
    · rintro ⟨ha, hrest⟩
      exact ⟨(), ha, ih.2 hrest⟩

namespace DataHeaders

theorem checkPerpendicular_eq_ok {data : Direction} {path : Path} {s : Source} :
    checkPerpendicular data path s = .ok () ↔ s.RunsAcross data := by
  unfold checkPerpendicular Source.RunsAcross
  cases s with
  | cell c => simp [Source.range?]
  | value x => simp [Source.range?]
  | range r =>
    by_cases h : r.direction.isPerpendicular data = true
    · simp [Source.range?, h]
    · simp [Source.range?, h]

theorem sourcesAt_sources (path : Path) (r : HeaderRole) :
    (sourcesAt path r).map (·.2) = r.sources := by
  cases r with
  | metric e => rfl
  | date d =>
    obtain ⟨origin, params, format⟩ := d
    cases origin <;> rfl

theorem checkRole_eq_ok {data : Direction} {path : Path} {r : HeaderRole} :
    ((sourcesAt path r).forM fun (p, s) => checkPerpendicular data p s) = .ok ()
      ↔ ∀ s ∈ r.sources, s.RunsAcross data := by
  rw [list_forM_eq_ok, ← sourcesAt_sources path r]
  constructor
  · intro h s hs
    obtain ⟨⟨p, s⟩, hp, rfl⟩ := List.mem_map.1 hs
    exact checkPerpendicular_eq_ok.1 (h (p, s) hp)
  · rintro h ⟨p, s⟩ hp
    exact checkPerpendicular_eq_ok.2 (h s (List.mem_map_of_mem hp))

theorem checkRoles_eq_ok {data : Direction} {path : Path} {roles : List HeaderRole} {i : Nat} :
    checkRoles data path i roles = .ok ()
      ↔ ∀ r ∈ roles, ∀ s ∈ r.sources, s.RunsAcross data := by
  induction roles generalizing i with
  | nil => simp [checkRoles]
  | cons r rest ih =>
    rw [checkRoles, bind_eq_ok, List.forall_mem_cons]
    constructor
    · rintro ⟨_, hr, hrest⟩
      exact ⟨checkRole_eq_ok.1 hr, ih.1 hrest⟩
    · rintro ⟨hr, hrest⟩
      exact ⟨(), checkRole_eq_ok.2 hr, ih.2 hrest⟩

end DataHeaders

theorem dataHeaders_codec :
    Codec DataHeaders.decode DataHeaders.toJson DataHeaders.WellFormed where
  sound v path h hd := by
    simp only [DataHeaders.decode, bind_eq_ok, pure_eq_ok] at hd
    obtain ⟨f, -, data, -, dataCells, hcells, _, hlanes, roles, hroles, _, hacross, rfl⟩ := hd
    exact {
      dataCells := range_codec.part_sound hcells
      lanes := DataHeaders.checkPerpendicular_eq_ok.1 hlanes dataCells rfl
      roles := Fields.parts_sound headerRole_codec.sound hroles
      across := DataHeaders.checkRoles_eq_ok.1 hacross }
  complete h path hw := by
    let f : Fields := ⟨[("roles", .array (h.roles.map HeaderRole.toJson)),
      ("data_cells", h.dataCells.toJson), ("data_direction", .string h.dataDirection.name)], path⟩
    have hf : Fields.of ["roles", "data_cells", "data_direction"] h.toJson path = .ok f := rfl
    have hdata : f.leaf "data_direction" (Json.asWord Direction.words) = .ok h.dataDirection :=
      Fields.leaf_of_get? rfl (asWord_direction h.dataDirection)
    have hcells : f.part "data_cells" Range.decode = .ok h.dataCells :=
      range_codec.part rfl hw.dataCells
    have hlanes : DataHeaders.checkPerpendicular h.dataDirection (f.place "data_cells")
        (.range h.dataCells) = .ok () := by
      rw [DataHeaders.checkPerpendicular_eq_ok]
      rintro r ⟨⟩
      exact hw.lanes
    have hroles : f.parts "roles" HeaderRole.decode = .ok h.roles :=
      headerRole_codec.parts rfl hw.roles
    have hacross : DataHeaders.checkRoles h.dataDirection (f.place "roles") 0 h.roles = .ok () :=
      DataHeaders.checkRoles_eq_ok.2 hw.across
    unfold DataHeaders.decode
    rw [hf, ok_bind, hdata, ok_bind, hcells, ok_bind, hlanes, ok_bind, hroles, ok_bind, hacross]
    rfl

/-! ## 2. Areas -/

namespace Area

theorem checkSourcedOnce_eq_ok {a : Area} {path : Path} {role : Role} {ofArea : Bool} :
    a.checkSourcedOnce path role ofArea = .ok () ↔ a.sourceCount role ofArea = 1 := by
  unfold checkSourcedOnce
  split
  · rename_i h; simp [h]
  · rename_i h; simp [h]
  · rename_i h1
    exact ⟨fun h => (nomatch h), fun h => (h1 h).elim⟩

theorem checkDistinct_eq_ok {α : Type} [DecidableEq α] {path : Path} {problem : α → Problem}
    {l : List α} {i : Nat} {seen : List α} :
    checkDistinct path problem i seen l = .ok () ↔ l.Nodup ∧ ∀ a ∈ l, a ∉ seen := by
  induction l generalizing i seen with
  | nil => simp [checkDistinct]
  | cons a rest ih =>
    unfold checkDistinct
    by_cases ha : a ∈ seen
    · simp [ha]
    · rw [if_neg (by simpa using ha), ih, List.nodup_cons]
      constructor
      · rintro ⟨hn, hs⟩
        refine ⟨⟨fun hmem => hs a hmem List.mem_cons_self, hn⟩, ?_⟩
        intro b hb hbs
        rcases List.mem_cons.1 hb with rfl | hb
        · exact ha hbs
        · exact hs b hb (List.mem_cons_of_mem _ hbs)
      · rintro ⟨⟨hmem, hn⟩, hs⟩
        refine ⟨hn, fun b hb hbs => ?_⟩
        rcases List.mem_cons.1 hbs with rfl | hbs
        · exact hmem hb
        · exact hs b (List.mem_cons_of_mem _ hb) hbs

end Area

theorem area_codec : Codec Area.decode Area.toJson Area.WellFormed where
  sound v path a h := by
    simp only [Area.decode, bind_eq_ok, pure_eq_ok] at h
    obtain ⟨f, -, _, -, headers, hheaders, metric, hmetric, date, hdate, title, htitle, titleIds,
      htitleIds, dimensions, hdimensions, organization, horganization, _, hmetricOnce, _, hdateOnce,
      _, hnames, _, hkinds, rfl⟩ := h
    exact {
      headers := dataHeaders_codec.part_sound hheaders
      metric := (extractor_codec .metric).part?_sound hmetric
      date := dateExtractor_codec.part?_sound hdate
      title := (extractor_codec .title).part?_sound htitle
      titleIds := Fields.parts_sound titleId_codec.sound htitleIds
      dimensions := Fields.parts_sound dimension_codec.sound hdimensions
      organization := (extractor_codec .organization).part?_sound horganization
      metricOnce := Area.checkSourcedOnce_eq_ok.1 hmetricOnce
      dateOnce := Area.checkSourcedOnce_eq_ok.1 hdateOnce
      dimensionsDistinct := (Area.checkDistinct_eq_ok.1 hnames).1
      titleIdsDistinct := (Area.checkDistinct_eq_ok.1 hkinds).1 }
  complete a path h := by
    let f : Fields := ⟨[
      ("data_headers", a.headers.toJson),
      ("metrics", .ofOption (Extractor.toJson .metric) a.metric),
      ("dates", .ofOption DateExtractor.toJson a.date),
      ("titles", .ofOption (Extractor.toJson .title) a.title),
      ("title_ids", .array (a.titleIds.map TitleId.toJson)),
      ("dimensions", .array (a.dimensions.map Dimension.toJson)),
      ("organizations", .ofOption (Extractor.toJson .organization) a.organization),
      ("kind", .string kindWord)], path⟩
    have hf : Fields.of Area.fieldNames a.toJson path = .ok f := rfl
    have hkind : f.word "kind" kindWord false = .ok () := Fields.word_of_get? rfl
    have hheaders : f.part "data_headers" DataHeaders.decode = .ok a.headers :=
      dataHeaders_codec.part rfl h.headers
    have hmetric : f.part? "metrics" (Extractor.decode .metric) = .ok a.metric :=
      (extractor_codec .metric).part? (Fields.get?_ofOption rfl fun _ _ => rfl) h.metric
    have hdate : f.part? "dates" DateExtractor.decode = .ok a.date :=
      dateExtractor_codec.part? (Fields.get?_ofOption rfl fun _ _ => rfl) h.date
    have htitle : f.part? "titles" (Extractor.decode .title) = .ok a.title :=
      (extractor_codec .title).part? (Fields.get?_ofOption rfl fun _ _ => rfl) h.title
    have htitleIds : f.parts "title_ids" TitleId.decode = .ok a.titleIds :=
      titleId_codec.parts rfl h.titleIds
    have hdimensions : f.parts "dimensions" Dimension.decode = .ok a.dimensions :=
      dimension_codec.parts rfl h.dimensions
    have horganization : f.part? "organizations" (Extractor.decode .organization)
        = .ok a.organization :=
      (extractor_codec .organization).part? (Fields.get?_ofOption rfl fun _ _ => rfl) h.organization
    have hmetricOnce : a.checkSourcedOnce path .metric a.metric.isSome = .ok () :=
      Area.checkSourcedOnce_eq_ok.2 h.metricOnce
    have hdateOnce : a.checkSourcedOnce path .date a.date.isSome = .ok () :=
      Area.checkSourcedOnce_eq_ok.2 h.dateOnce
    have hnames : Area.checkDistinct (f.place "dimensions") .repeatedDimension 0 []
        (a.dimensions.map (·.name)) = .ok () :=
      Area.checkDistinct_eq_ok.2 ⟨h.dimensionsDistinct, fun _ _ => List.not_mem_nil⟩
    have hkinds : Area.checkDistinct (f.place "title_ids") .repeatedTitleId 0 []
        (a.titleIds.map (·.kind)) = .ok () :=
      Area.checkDistinct_eq_ok.2 ⟨h.titleIdsDistinct, fun _ _ => List.not_mem_nil⟩
    unfold Area.decode
    rw [hf, ok_bind, hkind, ok_bind, hheaders, ok_bind, hmetric, ok_bind, hdate, ok_bind, htitle,
      ok_bind, htitleIds, ok_bind, hdimensions, ok_bind, horganization, ok_bind]
    dsimp only
    rw [hmetricOnce, ok_bind, hdateOnce, ok_bind, hnames, ok_bind, hkinds]
    rfl

end UsageGrid.Rules
