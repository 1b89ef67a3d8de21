import UsageGrid.Proofs.Rules.Places
import UsageGrid.Rules.Definition
import UsageGrid.Rules.Example

/-!
# Where the faults of a document lie

The decoders of rule documents name places by hand, also where they check what has been decoded
already: of headers against the data, of names against each other, of aliases. Each place that is
named is one in the document (`isGuide_definition`), with two places kept in mind for later checks:

* the direction of a range is there wherever a source is one (`Directed`);
* the name of a dimension or a title identifier is there.

So every error but one points into the document (`ofJson_pointsInto`).
-/

namespace UsageGrid.Rules

variable {root : Json}

/-! ## 1. Sources -/

theorem isGuide_decodeCount : IsGuide root decodeCount fun _ _ => True := by
  intro v p hp
  have hin : p.IsIn root := ⟨v, hp⟩
  cases v with
  | int n =>
    unfold decodeCount
    dsimp only
    split
    · exact hin
    · split
      · exact hin
      · exact trivial
  | null | bool _ | float _ | string _ | array _ | object _ => exact hin

theorem isGuide_decodeCoord : IsGuide root decodeCoord fun _ _ => True := by
  intro v p hp
  refine (Fields.isGuide_of _ v p hp).bind ?_
  rintro f ⟨rfl, hf⟩
  exact (Fields.guides_part hf _ isGuide_decodeCount).bind fun _ _ =>
    (Fields.guides_part hf _ isGuide_decodeCount).bind fun _ _ => .pure trivial

/-- A range has a direction at its place. -/
def HasDirection (root : Json) (p : Path) (_ : Range) : Prop := (p.key "direction").IsIn root

namespace Range

theorem isGuide_decodeMaxCount : IsGuide root decodeMaxCount fun _ _ => True := by
  intro v p hp
  have hin : p.IsIn root := ⟨v, hp⟩
  cases v with
  | int n =>
    unfold decodeMaxCount
    dsimp only
    split
    · exact hin
    · split
      · exact hin
      · exact trivial
  | null | bool _ | float _ | string _ | array _ | object _ => exact hin

theorem isGuide : IsGuide root Range.decode (HasDirection root) := by
  intro v p hp
  refine (Fields.isGuide_of _ v p hp).bind ?_
  rintro f ⟨rfl, hf⟩
  refine (Fields.guides_part? hf _ isGuide_decodeMaxCount).bind fun _ _ => ?_
  refine (Fields.guides_part hf _ isGuide_decodeCoord).bind fun _ _ => ?_
  refine (Fields.guides_leaf hf _ _).bind fun _ hdirection => ?_
  obtain ⟨w, hw, -⟩ := hdirection
  exact .pure ⟨w, hw⟩

end Range

/-- If the source is a range, the direction is there. -/
def Directed (root : Json) (p : Path) (s : Source) : Prop :=
  ∀ r, s = .range r → HasDirection root p r

namespace Source

theorem isGuide_decodeValue : IsGuide root decodeValue fun _ _ => True := by
  intro v p hp
  refine (Fields.isGuide_of _ v p hp).bind ?_
  rintro f ⟨rfl, hf⟩
  exact (Fields.guides_leaf hf _ _).mono fun _ _ => trivial

theorem isGuide_decodeShape (shape : Shape) :
    IsGuide root (decodeShape shape) (Directed root) := by
  intro v p hp
  cases shape with
  | coord => exact (isGuide_decodeCoord v p hp).map fun _ _ => nofun
  | value => exact (isGuide_decodeValue v p hp).map fun _ _ => nofun
  | range =>
    refine (Range.isGuide v p hp).map fun r hr => ?_
    rintro _ ⟨⟩
    exact hr

theorem isGuide : IsGuide root Source.decode (Directed root) := by
  intro v p hp
  have hin : p.IsIn root := ⟨v, hp⟩
  cases v with
  | object members =>
    unfold Source.decode
    dsimp only
    split
    · exact hin
    · split
      · exact hin
      · exact isGuide_decodeShape _ _ p hp
      · exact hin
  | null | bool _ | int _ | float _ | string _ | array _ => exact hin

end Source

/-! ## 2. Extractors -/

theorem Params.isGuide : IsGuide root Params.decode fun _ _ => True := by
  intro v p hp
  refine (Fields.isGuide_of _ v p hp).bind ?_
  rintro f ⟨rfl, hf⟩
  refine (Fields.guides_leaf? hf _ _).bind fun regex hregex => ?_
  have hrest (pattern : Option Pattern) : Guides root (do
      let default ← f.leaf? "default" Scalar.read
      let lastAsDefault ← f.leaf? "last_value_as_default" Json.asBool
      let onError ← f.leaf? "on_validation_error" (Json.asWord Action.words)
      pure {
        pattern, default
        lastAsDefault := lastAsDefault.getD false
        onError := onError.getD .fail : Params }) fun _ => True :=
    (Fields.guides_leaf? hf _ _).bind fun _ _ => (Fields.guides_leaf? hf _ _).bind fun _ _ =>
      (Fields.guides_leaf? hf _ _).bind fun _ _ => .pure trivial
  cases regex with
  | none => exact hrest none
  | some text =>
    refine Guides.bind (Q := fun _ => True) ?_ fun pattern _ => hrest pattern
    obtain ⟨w, hw, -⟩ := hregex text rfl
    unfold decodePattern
    cases Pattern.ofText? text with
    | error e => exact ⟨w, hw⟩
    | ok q => exact trivial

section

variable {f : Fields} (hf : f.IsOf root)

include hf

theorem guides_checkRole (wanted : Role) : Guides root (checkRole f wanted) fun _ => True := by
  refine (Fields.guides_required hf "role").bind fun v hv => ?_
  have hin : (f.place "role").IsIn root := ⟨v, hv⟩
  cases v with
  | string s =>
    dsimp only
    split
    · exact trivial
    · exact hin
  | null | bool _ | int _ | float _ | array _ | object _ => exact hin

theorem guides_decodeParams : Guides root (decodeParams f) fun _ => True :=
  (Fields.guides_part? hf _ Params.isGuide).map fun _ _ => trivial

theorem guides_source :
    Guides root (f.part "source" Source.decode) (Directed root (f.path.key "source")) :=
  Fields.guides_part hf _ Source.isGuide

theorem guides_decodeDateFormat : Guides root (decodeDateFormat f) fun _ => True := by
  refine (Fields.guides_leaf? hf _ _).bind fun format hformat => ?_
  cases format with
  | none => exact trivial
  | some text =>
    obtain ⟨w, hw, -⟩ := hformat text rfl
    dsimp only
    split
    · exact trivial
    · exact ⟨w, hw⟩

end

theorem Extractor.isGuide (role : Role) :
    IsGuide root (Extractor.decode role) fun p e => Directed root (p.key "source") e.source := by
  intro v p hp
  refine (Fields.isGuide_of _ v p hp).bind ?_
  rintro f ⟨rfl, hf⟩
  refine (guides_checkRole hf role).bind fun _ _ => ?_
  refine (guides_source hf).bind fun s hs => ?_
  exact (guides_decodeParams hf).bind fun _ _ => .pure hs

/-- There is a name at the place. -/
def HasName {α : Type} (root : Json) (p : Path) (_ : α) : Prop := (p.key "name").IsIn root

theorem Dimension.guides_checkName {p : Path} (hp : p.IsIn root) (name : String) :
    Guides root (checkName p name) fun _ => True := by
  unfold checkName
  generalize Text.isBlankText name = isBlank
  generalize isReserved name = isReserved
  cases isBlank with
  | true => exact hp
  | false =>
    cases isReserved with
    | true => exact hp
    | false => exact trivial

theorem Dimension.isGuide : IsGuide root Dimension.decode (HasName root) := by
  intro v p hp
  refine (Fields.isGuide_of _ v p hp).bind ?_
  rintro f ⟨rfl, hf⟩
  refine (guides_checkRole hf .dimension).bind fun _ _ => ?_
  refine (Fields.guides_leaf hf _ _).bind fun name hname => ?_
  obtain ⟨w, hw, -⟩ := hname
  have hin : (f.place "name").IsIn root := ⟨w, hw⟩
  exact (guides_checkName hin name).bind fun _ _ =>
    (guides_source hf).bind fun _ _ => (guides_decodeParams hf).bind fun _ _ => .pure hin

theorem TitleId.isGuide : IsGuide root TitleId.decode (HasName root) := by
  intro v p hp
  refine (Fields.isGuide_of _ v p hp).bind ?_
  rintro f ⟨rfl, hf⟩
  refine (guides_checkRole hf .titleId).bind fun _ _ => ?_
  refine (Fields.guides_leaf hf _ _).bind fun kind hkind => ?_
  obtain ⟨w, hw, -⟩ := hkind
  exact (guides_source hf).bind fun _ _ => (guides_decodeParams hf).bind fun _ _ => .pure ⟨w, hw⟩

/-! ## 3. Dates -/

theorem DatePart.isGuide :
    IsGuide root DatePart.decode fun p d => Directed root (p.key "source") d.source := by
  intro v p hp
  refine (Fields.isGuide_of _ v p hp).bind ?_
  rintro f ⟨rfl, hf⟩
  refine (guides_checkRole hf .date).bind fun _ _ => ?_
  unfold Fields.has
  cases hcomposed : f.get? "composed" with
  | some w => exact ⟨w, Fields.in?_place hf _ hcomposed⟩
  | none =>
    refine (guides_source hf).bind fun s hs => ?_
    exact (guides_decodeParams hf).bind fun _ _ =>
      (guides_decodeDateFormat hf).bind fun _ _ => .pure hs

theorem Composed.isGuide : IsGuide root Composed.decode fun p c =>
    Directed root ((p.key "year").key "source") c.year.source ∧
      Directed root ((p.key "month").key "source") c.month.source := by
  intro v p hp
  refine (Fields.isGuide_of _ v p hp).bind ?_
  rintro f ⟨rfl, hf⟩
  refine (Fields.guides_part hf _ DatePart.isGuide).bind fun year hyear => ?_
  exact (Fields.guides_part hf _ DatePart.isGuide).bind fun month hmonth => .pure ⟨hyear, hmonth⟩

/-- The sources of a header role are directed. -/
def RoleDirected (root : Json) (p : Path) (r : HeaderRole) : Prop :=
  ∀ x ∈ DataHeaders.sourcesAt p r, Directed root x.1 x.2

theorem DateExtractor.guides_decodeOrigin {f : Fields} (hf : f.IsOf root) :
    Guides root (decodeOrigin f) fun o =>
      ∀ params format, RoleDirected root f.path (.date ⟨o, params, format⟩) := by
  unfold decodeOrigin
  split
  · refine (guides_source hf).map fun s hs params format => ?_
    exact List.forall_mem_singleton.2 hs
  · refine (Fields.guides_part hf _ Composed.isGuide).map fun parts hparts params format => ?_
    exact List.forall_mem_cons.2 ⟨hparts.1, List.forall_mem_singleton.2 hparts.2⟩
  · exact ⟨_, hf⟩
  · exact ⟨_, hf⟩

theorem DateExtractor.isGuide :
    IsGuide root DateExtractor.decode fun p d => RoleDirected root p (.date d) := by
  intro v p hp
  refine (Fields.isGuide_of _ v p hp).bind ?_
  rintro f ⟨rfl, hf⟩
  refine (guides_checkRole hf .date).bind fun _ _ => ?_
  refine (guides_decodeOrigin hf).bind fun o ho => ?_
  exact (guides_decodeParams hf).bind fun params _ =>
    (guides_decodeDateFormat hf).bind fun format _ => .pure (ho params format)

theorem HeaderRole.isGuide : IsGuide root HeaderRole.decode (RoleDirected root) := by
  intro v p hp
  have hkey : (p.key "role").in? root = v.get? "role" := Path.in?_key hp
  unfold HeaderRole.decode
  cases hrole : (v.get? "role").filter fun r => !r.isNull with
  | none => exact ⟨p, "role", v, rfl, hp, Fields.eq_null_of_filter hrole⟩
  | some r =>
    have hin : (p.key "role").IsIn root := ⟨r, hkey.trans (Option.eq_some_of_filter_eq_some hrole)⟩
    cases r with
    | string s =>
      dsimp only
      by_cases hmetric : s = Role.metric.name
      · rw [if_pos hmetric]
        refine (Extractor.isGuide .metric v p hp).map fun e he => ?_
        exact List.forall_mem_singleton.2 he
      · rw [if_neg hmetric]
        by_cases hdate : s = Role.date.name
        · rw [if_pos hdate]
          exact (DateExtractor.isGuide v p hp).map fun _ hd => hd
        · rw [if_neg hdate]
          exact hin
    | null | bool _ | int _ | float _ | array _ | object _ => exact hin

/-! ## 4. Headers -/

namespace DataHeaders

theorem guides_checkPerpendicular {p : Path} {s : Source} (h : Directed root p s)
    (data : Direction) : Guides root (checkPerpendicular data p s) fun _ => True := by
  cases s with
  | cell c => exact trivial
  | value x => exact trivial
  | range r =>
    unfold checkPerpendicular
    dsimp only
    split
    · exact trivial
    · exact h r rfl

theorem guides_checkRoles {p : Path} {i : Nat} {roles : List HeaderRole}
    (h : Each (RoleDirected root) p i roles) (data : Direction) :
    Guides root (checkRoles data p i roles) fun _ => True := by
  induction roles generalizing i with
  | nil => exact trivial
  | cons r rest ih =>
    refine Guides.bind (Q := fun _ => True) ?_ fun _ _ => ih h.2
    refine Guides.forM fun x hx => ?_
    exact guides_checkPerpendicular (h.1 x hx) data

theorem isGuide : IsGuide root DataHeaders.decode fun _ _ => True := by
  intro v p hp
  refine (Fields.isGuide_of _ v p hp).bind ?_
  rintro f ⟨rfl, hf⟩
  refine (Fields.guides_leaf hf _ _).bind fun data _ => ?_
  refine (Fields.guides_part hf _ Range.isGuide).bind fun cells hcells => ?_
  have hdirected : Directed root (f.place "data_cells") (.range cells) := by
    rintro _ ⟨⟩
    exact hcells
  refine (guides_checkPerpendicular hdirected data).bind fun _ _ => ?_
  refine (Fields.guides_parts hf _ HeaderRole.isGuide).bind fun roles hroles => ?_
  exact (guides_checkRoles hroles data).bind fun _ _ => .pure trivial

end DataHeaders

/-! ## 5. Areas -/

namespace Area

theorem guides_checkSourcedOnce {p : Path} (hp : p.IsIn root) (a : Area) (role : Role)
    (ofArea : Bool) : Guides root (a.checkSourcedOnce p role ofArea) fun _ => True := by
  unfold checkSourcedOnce
  split
  · exact hp
  · exact trivial
  · exact hp

theorem guides_checkDistinct {α β : Type} [DecidableEq β] {p : Path} (name : α → β)
    (problem : β → Problem) {i : Nat} {seen : List β} {as : List α}
    (h : Each (HasName root) p i as) :
    Guides root (checkDistinct p problem i seen (as.map name)) fun _ => True := by
  induction as generalizing i seen with
  | nil => exact trivial
  | cons a rest ih =>
    rw [List.map_cons]
    unfold checkDistinct
    split
    · exact h.1
    · exact ih h.2

theorem isGuide : IsGuide root Area.decode fun p a =>
    Each (HasName root) (p.key "dimensions") 0 a.dimensions := by
  intro v p hp
  refine (Fields.isGuide_of _ v p hp).bind ?_
  rintro f ⟨rfl, hf⟩
  have hin : f.path.IsIn root := ⟨_, hf⟩
  refine (Fields.guides_word hf _ _ _).bind fun _ _ => ?_
  refine (Fields.guides_part hf _ DataHeaders.isGuide).bind fun headers _ => ?_
  refine (Fields.guides_part? hf _ (Extractor.isGuide .metric)).bind fun metric _ => ?_
  refine (Fields.guides_part? hf _ DateExtractor.isGuide).bind fun date _ => ?_
  refine (Fields.guides_part? hf _ (Extractor.isGuide .title)).bind fun title _ => ?_
  refine (Fields.guides_parts hf _ TitleId.isGuide).bind fun titleIds htitleIds => ?_
  refine (Fields.guides_parts hf _ Dimension.isGuide).bind fun dimensions hdimensions => ?_
  refine (Fields.guides_part? hf _ (Extractor.isGuide .organization)).bind fun organization _ => ?_
  refine (guides_checkSourcedOnce hin _ _ _).bind fun _ _ => ?_
  refine (guides_checkSourcedOnce hin _ _ _).bind fun _ _ => ?_
  refine (guides_checkDistinct Dimension.name _ hdimensions).bind fun _ _ => ?_
  exact (guides_checkDistinct TitleId.kind _ htitleIds).bind fun _ _ => .pure hdimensions

end Area

/-! ## 6. Aliases -/

namespace Aliases

/-- There is something at the place. -/
def IsThere {α : Type} (root : Json) (p : Path) (_ : α) : Prop := p.IsIn root

theorem asItems_length {α : Type} {item : Json.Typed α} {i : Nat} {vs : List Json} {as : List α}
    (h : Json.asItems item i vs = .ok as) : as.length = vs.length := by
  induction vs generalizing i as with
  | nil =>
    cases h
    rfl
  | cons v rest ih =>
    obtain ⟨a, -, h⟩ := bind_eq_ok.1 h
    obtain ⟨as, has, h⟩ := bind_eq_ok.1 h
    cases h
    exact congrArg (· + 1) (ih has)

/-- A list that has been read has its items at their places. -/
theorem each_of_read {p : Path} {v : Json} (hp : p.in? root = some v) {aliases : Aliases}
    (h : read v = .ok aliases) : Each (IsThere root) p 0 aliases := by
  cases v with
  | array items =>
    refine Each.of_index (n := items.length) (fun j _ hj => ?_) ?_
    · exact ⟨items[j], (Path.in?_index hp j).trans (List.getElem?_eq_getElem hj)⟩
    · rw [Nat.zero_add]
      exact asItems_length h
  | null | bool _ | int _ | float _ | string _ | object _ => cases h

section

variable {p : Path}

theorem guides_checkTargets {i : Nat} {before aliases : Aliases}
    (h : Each (IsThere root) p i aliases) :
    Guides root (checkTargets p i before aliases) fun _ => True := by
  induction aliases generalizing i before with
  | nil => exact trivial
  | cons a rest ih =>
    obtain ⟨name, target⟩ := a
    unfold checkTargets
    split
    · split
      · exact ih h.2
      · exact h.1
    · exact ih h.2

theorem guides_checkChains {i : Nat} {all aliases : Aliases}
    (h : Each (IsThere root) p i aliases) :
    Guides root (checkChains p all i aliases) fun _ => True := by
  induction aliases generalizing i with
  | nil => exact trivial
  | cons a rest ih =>
    obtain ⟨name, target⟩ := a
    unfold checkChains
    split
    · split
      · exact h.1
      · exact ih h.2
    · exact ih h.2

theorem guides_check {aliases : Aliases} (h : Each (IsThere root) p 0 aliases) :
    Guides root (check p aliases) fun _ => True :=
  (guides_checkTargets h).bind fun _ _ => guides_checkChains h

theorem guides_checkReserved {i : Nat} {aliases : Aliases}
    (h : Each (IsThere root) p i aliases) :
    Guides root (checkReserved p i aliases) fun _ => True := by
  induction aliases generalizing i with
  | nil => exact trivial
  | cons a rest ih =>
    unfold checkReserved
    generalize isReserved a.2 = isReserved
    cases isReserved with
    | true => exact h.1
    | false => exact ih h.2

theorem guides_checkMerged {i : Nat} (aliases : Aliases) {seen : List (String × String)}
    {dimensions : List Dimension} (h : Each (HasName root) p i dimensions) :
    Guides root (checkMerged aliases p i seen dimensions) fun _ => True := by
  induction dimensions generalizing i seen with
  | nil => exact trivial
  | cons d rest ih =>
    unfold checkMerged
    dsimp only
    split
    · exact h.1
    · exact ih h.2

theorem guides_checkAreas {i : Nat} (aliases : Aliases) {areas : List Area}
    (h : Each (fun p a => Each (HasName root) (p.key "dimensions") 0 a.dimensions) p i areas) :
    Guides root (checkAreas aliases p i areas) fun _ => True := by
  induction areas generalizing i with
  | nil => exact trivial
  | cons a rest ih => exact (guides_checkMerged aliases h.1).bind fun _ _ => ih h.2

end

end Aliases

/-! ## 7. Documents -/

theorem isGuide_decodeConditions : IsGuide root decodeConditions fun _ _ => True := by
  intro v p hp
  refine (Fields.isGuide_of _ v p hp).bind ?_
  rintro f ⟨rfl, hf⟩
  refine (Fields.guides_word hf _ _ _).bind fun _ _ => ?_
  exact (Fields.guides_leaf? hf _ _).bind fun _ _ => .pure trivial

theorem isGuide_decodeFormatName : IsGuide root decodeFormatName fun _ _ => True := by
  intro v p hp
  refine (Fields.isGuide_of _ v p hp).bind ?_
  rintro f ⟨rfl, hf⟩
  exact (Fields.guides_leaf hf _ _).mono fun _ _ => trivial

theorem guides_aliases {f : Fields} (hf : f.IsOf root) (key : String) :
    Guides root (f.leaf? key Aliases.read) fun o =>
      Each (Aliases.IsThere root) (f.place key) 0 (o.getD []) := by
  refine (Fields.guides_leaf? hf key _).mono fun o ho => ?_
  cases o with
  | none => exact trivial
  | some aliases =>
    obtain ⟨v, hv, hread⟩ := ho aliases rfl
    exact Aliases.each_of_read hv hread

theorem isGuide_definition : IsGuide root Definition.decode fun _ _ => True := by
  intro v p hp
  refine (Fields.isGuide_of _ v p hp).bind ?_
  rintro f ⟨rfl, hf⟩
  refine (Fields.guides_word hf _ _ _).bind fun _ _ => ?_
  refine (Fields.guides_parts hf _ Area.isGuide).bind fun areas hareas => ?_
  cases areas with
  | nil => exact trivial
  | cons a rest =>
    refine (guides_aliases hf _).bind fun metricAliases hmetric => ?_
    refine (Aliases.guides_check hmetric).bind fun _ _ => ?_
    refine (guides_aliases hf _).bind fun dimensionAliases hdimension => ?_
    refine (Aliases.guides_check hdimension).bind fun _ _ => ?_
    refine (Aliases.guides_checkReserved hdimension).bind fun _ _ => ?_
    refine (Aliases.guides_checkAreas _ hareas).bind fun _ _ => ?_
    refine (Fields.guides_leaf hf _ _).bind fun _ _ => ?_
    refine (Fields.guides_part? hf _ isGuide_decodeFormatName).bind fun _ _ => ?_
    refine (Fields.guides_leaf? hf _ _).bind fun _ _ => ?_
    refine (Fields.guides_leaf? hf _ _).bind fun _ _ => ?_
    refine (Fields.guides_leaf? hf _ _).bind fun _ _ => ?_
    refine (Fields.guides_leaf? hf _ _).bind fun _ _ => ?_
    refine (Fields.guides_leaf? hf _ _).bind fun _ _ => ?_
    exact (Fields.guides_part? hf _ isGuide_decodeConditions).bind fun _ _ => .pure trivial

/-! ## 8. Errors -/

theorem ofJson_pointsInto {v : Json} {e : RuleError} (h : Definition.ofJson v = .error e) :
    e.PointsInto v :=
  (isGuide_definition v .root (Path.in?_root v)).pointsInto h

/-- **Errors point into the document.** Unless there are no areas, the message begins with a place.
    That is the whole document, or what is before its last step is in the document. If a field is
    missing, there is nothing under its key, or null; if anything else is wrong, there is something
    at the place itself. -/
theorem ofJson_place {v : Json} {e : RuleError} (h : Definition.ofJson v = .error e)
    (hareas : e ≠ .noAreas) :
    ∃ p, e.path = some p ∧ Quotes p e.message ∧
      (p = .root ∧ p.label = "<document>" ∨ p ≠ .root ∧ p.parent.IsIn v) ∧
      (e = .missingField p ∧ p.IsMissingIn v ∨ e ≠ .missingField p ∧ p.IsIn v) := by
  obtain ⟨p, hp, hplace⟩ := (ofJson_pointsInto h).place hareas
  refine ⟨p, hp, quotes_message hp, ?_, hplace⟩
  by_cases hroot : p = .root
  · exact .inl ⟨hroot, hroot ▸ rfl⟩
  · exact .inr ⟨hroot, hplace.elim (fun h => h.2.parent) fun h => h.2.parent⟩

/-- A document whose data run along the cells that they begin at. -/
def slantedDocument : Json :=
  .object [("areas", .array [.object [("data_headers", .object [
    ("roles", .array []),
    ("data_cells", exampleRange 1 1 "right"),
    ("data_direction", .string "right")])]])]

/-- Its error names the direction of these cells. -/
theorem slantedDocument_place : ∃ e p, Definition.ofJson slantedDocument = .error e ∧
    e ≠ .noAreas ∧ e.path = some p ∧ p.label = "areas[0].data_headers.data_cells.direction" ∧
    p.IsIn slantedDocument := by
  let place : Path := ((((Path.root.key "areas").index 0).key "data_headers").key
    "data_cells").key "direction"
  have herror : Definition.ofJson slantedDocument
      = .error (.notPerpendicular place .right .right) := by with_unfolding_all rfl
  obtain ⟨p, hp, -, -, hmissing | ⟨-, hin⟩⟩ := ofJson_place herror nofun
  · exact nomatch hmissing.1
  · obtain rfl := Option.some.inj hp
    exact ⟨_, place, herror, nofun, rfl, by decide +kernel, hin⟩

end UsageGrid.Rules
