import UsageGrid.Proofs.Json.Canonical
import UsageGrid.Rules.Definition
import UsageGrid.Rules.Example

/-!
# Null counts as absent

Where the grammar of rule documents knows a key, null may be left out of the object. What may be
left out of each part of a document is an `Omission`, built as the grammar is: of objects with the
keys they know and the parts under them (`Omission.object`), and of lists (`Omission.list`). Sources
are no such parts, for their keys say which shape they are of.

A decoder that does not see what is left out ignores the omission (`Omission.Ignores`). So it is for
an object if it is for the fields that are read of it (`Ignores.object`), and thus for each part of
the grammar in turn up to the whole document: `Definition.ofJson_omission`.
-/

namespace UsageGrid.Rules

open Json

/-! ## 1. What is left out -/

/-- What may be left out of a value: the value is related to what is left of it. Null stays null,
    and nothing else becomes null. -/
structure Omission where
  rel : Json → Json → Prop
  isNull : ∀ {v v'}, rel v v' → v'.isNull = v.isNull

namespace Omission

/-- What is under a key, before and after: the same, or less of a part. -/
def Under (parts : List (String × Omission)) (key : String) (v v' : Json) : Prop :=
  v' = v ∨ ∃ o, parts.lookup key = some o ∧ o.rel v v'

/-- Of the members of an object, null may be left out under any of the known keys. -/
inductive Members (known : List String) (parts : List (String × Omission)) :
    List (String × Json) → List (String × Json) → Prop
  | nil : Members known parts [] []
  | null {k : String} {ms ms' : List (String × Json)} (hk : k ∈ known)
      (rest : Members known parts ms ms') : Members known parts ((k, .null) :: ms) ms'
  | keep {k : String} {v v' : Json} {ms ms' : List (String × Json)} (value : Under parts k v v')
      (rest : Members known parts ms ms') : Members known parts ((k, v) :: ms) ((k, v') :: ms')

/-- An object that knows some keys, with parts under some of them. -/
inductive OfObject (known : List String) (parts : List (String × Omission)) : Json → Json → Prop
  | same (v : Json) : OfObject known parts v v
  | members {ms ms' : List (String × Json)} (h : Members known parts ms ms') :
      OfObject known parts (.object ms) (.object ms')

/-- A list with something left out of its items. -/
inductive OfList (o : Omission) : Json → Json → Prop
  | same (v : Json) : OfList o v v
  | items {l l' : List Json} (h : List.Forall₂ o.rel l l') : OfList o (.array l) (.array l')

def object (known : List String) (parts : List (String × Omission)) : Omission where
  rel := OfObject known parts
  isNull h := by cases h <;> rfl

def list (o : Omission) : Omission where
  rel := OfList o
  isNull h := by cases h <;> rfl

end Omission

/-! ## 2. The grammar -/

def Params.omission : Omission :=
  .object ["regex", "default", "last_value_as_default", "on_validation_error"] []

def Extractor.omission : Omission :=
  .object ["source", "extract_params", "role"] [("extract_params", Params.omission)]

/-- A dimension or a title identifier. -/
def namedOmission : Omission :=
  .object ["name", "source", "extract_params", "role"] [("extract_params", Params.omission)]

def DatePart.omission : Omission := .object dateFields [("extract_params", Params.omission)]

def Composed.omission : Omission :=
  .object ["year", "month"] [("year", DatePart.omission), ("month", DatePart.omission)]

def DateExtractor.omission : Omission :=
  .object dateFields [("composed", Composed.omission), ("extract_params", Params.omission)]

/-- A header role is a metric if it says so, and has the keys of a date otherwise. -/
def HeaderRole.omission : Omission where
  rel v v' :=
    v.get? "role" = some (.string Role.metric.name) ∧ Extractor.omission.rel v v' ∨
      v.get? "role" ≠ some (.string Role.metric.name) ∧ DateExtractor.omission.rel v v'
  isNull h := h.elim (fun h => Extractor.omission.isNull h.2)
    fun h => DateExtractor.omission.isNull h.2

def DataHeaders.omission : Omission :=
  .object ["roles", "data_cells", "data_direction"] [("roles", .list HeaderRole.omission)]

def Area.omission : Omission :=
  .object Area.fieldNames
    [("data_headers", DataHeaders.omission), ("metrics", Extractor.omission),
      ("dates", DateExtractor.omission), ("titles", Extractor.omission),
      ("title_ids", .list namedOmission), ("dimensions", .list namedOmission),
      ("organizations", Extractor.omission)]

/-- The conditions of a file, and the name of a format. -/
def conditionsOmission : Omission := .object ["conds", "kind"] []

def formatNameOmission : Omission := .object ["name"] []

def definitionOmission : Omission :=
  .object Definition.fieldNames
    [("areas", .list Area.omission), ("data_format", formatNameOmission),
      ("heuristics", conditionsOmission)]

/-! ## 3. Members -/

variable {α : Type} {known : List String} {parts : List (String × Omission)}

namespace Omission

theorem Under.isNull {key : String} {v v' : Json} (h : Under parts key v v') :
    v'.isNull = v.isNull := by
  obtain rfl | ⟨o, -, ho⟩ := h
  · rfl
  · exact o.isNull ho

namespace Members

variable {ms ms' : List (String × Json)}

theorem keys_sublist (h : Members known parts ms ms') :
    (ms'.map (·.1)).Sublist (ms.map (·.1)) := by
  induction h with
  | nil => exact .slnil
  | null _ _ ih => exact ih.cons _
  | keep _ _ ih => exact ih.cons_cons _

/-- The first key that is not known is the same. -/
theorem find?_unknown (h : Members known parts ms ms') :
    (ms'.find? fun m => !known.contains m.1).map (·.1)
      = (ms.find? fun m => !known.contains m.1).map (·.1) := by
  induction h with
  | nil => rfl
  | null hk _ ih => rw [ih, List.find?_cons_of_neg (by simpa using hk)]
  | @keep k v v' _ _ _ _ ih =>
    rw [List.find?_cons, List.find?_cons]
    dsimp only
    cases !known.contains k with
    | true => rfl
    | false => exact ih

/-- Where there was null, there may be nothing; anything else is still there. -/
theorem lookup (h : Members known parts ms ms') (hnodup : (ms.map (·.1)).Nodup) (key : String) :
    (∀ v ∈ Json.lookup ms key, v = .null) ∧ Json.lookup ms' key = none ∨
      ∃ v v', Json.lookup ms key = some v ∧ Json.lookup ms' key = some v' ∧
        Under parts key v v' := by
  induction h with
  | nil => exact .inl ⟨nofun, rfl⟩
  | @null k ms ms' hk rest ih =>
    obtain ⟨hnew, hnodup⟩ := List.nodup_cons.1 hnodup
    by_cases hkey : k = key
    · subst hkey
      have hgone : k ∉ ms'.map (·.1) := fun hmem => hnew (rest.keys_sublist.subset hmem)
      refine .inl ⟨?_, lookup_eq_none_iff.2 hgone⟩
      rw [lookup_cons_self]
      rintro _ ⟨⟩
      rfl
    · rw [lookup_cons_of_ne hkey]
      exact ih hnodup
  | @keep k v v' ms ms' value rest ih =>
    by_cases hkey : k = key
    · subst hkey
      exact .inr ⟨v, v', lookup_cons_self, lookup_cons_self, value⟩
    · rw [lookup_cons_of_ne hkey, lookup_cons_of_ne hkey]
      exact ih (List.nodup_cons.1 hnodup).2

theorem refl : ∀ ms : List (String × Json), Members known parts ms ms
  | [] => .nil
  | _ :: ms => .keep (.inl rfl) (refl ms)

theorem nulls {keys : List String} (hkeys : ∀ k ∈ keys, k ∈ known)
    (h : Members known parts ms ms') :
    Members known parts (keys.map (·, Json.null) ++ ms) ms' := by
  induction keys with
  | nil => exact h
  | cons k keys ih =>
    obtain ⟨hk, hkeys⟩ := List.forall_mem_cons.1 hkeys
    exact .null hk (ih hkeys)

/-- The value under a key, unless it is null, is still there. -/
theorem present (h : Members known parts ms ms') (hms : (Json.object ms).Distinct) (key : String) :
    (Json.lookup ms key).filter (!·.isNull) = none ∧
        (Json.lookup ms' key).filter (!·.isNull) = none ∨
      ∃ v v', (Json.lookup ms key).filter (!·.isNull) = some v ∧
        (Json.lookup ms' key).filter (!·.isNull) = some v' ∧ v.Distinct ∧
        Under parts key v v' := by
  rcases h.lookup hms.1 key with ⟨hnull, hnone⟩ | ⟨v, v', hv, hv', hunder⟩
  · refine .inl ⟨Option.filter_eq_none_iff.2 fun v hv => ?_, by rw [hnone]; rfl⟩
    rw [hnull v hv]
    exact Bool.false_ne_true
  · rw [hv, hv']
    cases hnull : v.isNull with
    | true =>
      refine .inl ⟨?_, ?_⟩
      · simp [Option.filter, hnull]
      · simp [Option.filter, hunder.isNull, hnull]
    | false =>
      refine .inr ⟨v, v', ?_, ?_, ?_, hunder⟩
      · simp [Option.filter, hnull]
      · simp [Option.filter, hunder.isNull, hnull]
      · exact (distinctMembers_iff ms).1 hms.2 _ ((lookup_eq_some_iff hms.1).1 hv)

end Members

/-- What is no part of its own is there as it was. -/
theorem OfObject.get?_eq {v v' : Json} (h : OfObject known parts v v') (hv : v.Distinct)
    {key : String} (hkey : parts.lookup key = none) :
    (v'.get? key).filter (!·.isNull) = (v.get? key).filter (!·.isNull) := by
  obtain _ | hmembers := h
  · rfl
  · unfold Json.get?
    rcases hmembers.present hv key with ⟨hw, hw'⟩ | ⟨w, w', hw, hw', -, rfl | ⟨o, ho, -⟩⟩
    · rw [hw, hw']
    · rw [hw, hw']
    · rw [hkey] at ho
      cases ho

end Omission

/-! ## 4. Fields -/

/-- The fields of an object, before and after. -/
structure Fields.Omits (parts : List (String × Omission)) (f f' : Fields) : Prop where
  path : f'.path = f.path
  get? : ∀ key, f.get? key = none ∧ f'.get? key = none ∨
    ∃ v v', f.get? key = some v ∧ f'.get? key = some v' ∧ v.Distinct ∧
      Omission.Under parts key v v'

/-- What is read does not depend on what is left out. -/
def Omission.Ignores (o : Omission) (decode : Decoder α) : Prop :=
  ∀ v v' path, v.Distinct → o.rel v v' → decode v' path = decode v path

/-- What is left out of the part under a key, if there is one, is ignored. -/
def Omission.IgnoredAt (parts : List (String × Omission)) (key : String) (decode : Decoder α) :
    Prop :=
  match parts.lookup key with
  | some o => o.Ignores decode
  | none => True

theorem Omission.Under.decode_eq {key : String} {decode : Decoder α} {v v' : Json}
    (h : Under parts key v v') (hdecode : IgnoredAt parts key decode) (hv : v.Distinct)
    (path : Path) : decode v' path = decode v path := by
  obtain rfl | ⟨o, ho, hrel⟩ := h
  · rfl
  · unfold IgnoredAt at hdecode
    rw [ho] at hdecode
    exact hdecode v v' path hv hrel

theorem Fields.of_omission {ms ms' : List (String × Json)} (hms : (Json.object ms).Distinct)
    (h : Omission.Members known parts ms ms') (path : Path) :
    (∃ e, Fields.of known (.object ms) path = .error e ∧
      Fields.of known (.object ms') path = .error e) ∨
    ∃ f f', Fields.of known (.object ms) path = .ok f ∧
      Fields.of known (.object ms') path = .ok f' ∧ f.Omits parts f' := by
  have hunknown := h.find?_unknown
  unfold Fields.of
  dsimp only
  cases hfind : ms.find? fun m => !known.contains m.1 with
  | some m =>
    rw [hfind] at hunknown
    obtain ⟨m', hm', hkey : m'.1 = m.1⟩ := Option.map_eq_some_iff.1 hunknown
    rw [hm']
    dsimp only
    rw [hkey]
    exact .inl ⟨_, rfl, rfl⟩
  | none =>
    rw [hfind] at hunknown
    rw [Option.map_eq_none_iff.1 hunknown]
    refine .inr ⟨_, _, rfl, rfl, rfl, fun key => ?_⟩
    exact h.present hms key

namespace Fields.Omits

variable {f f' : Fields} (h : f.Omits parts f') (key : String)

include h

theorem place : f'.place key = f.place key := by
  unfold Fields.place
  rw [h.path]

theorem has : f'.has key = f.has key := by
  unfold Fields.has
  rcases h.get? key with ⟨hv, hv'⟩ | ⟨v, v', hv, hv', -, -⟩
  · rw [hv, hv']
  · rw [hv, hv']
    rfl

theorem ofLeaf {type : Json.Typed α} (v : Json) : f'.ofLeaf key type v = f.ofLeaf key type v := by
  unfold Fields.ofLeaf
  rw [h.place]

/-! What is no part of its own is there as it was. -/

theorem get?_eq (hkey : parts.lookup key = none) : f'.get? key = f.get? key := by
  rcases h.get? key with ⟨hv, hv'⟩ | ⟨v, v', hv, hv', -, rfl | ⟨o, ho, -⟩⟩
  · rw [hv, hv']
  · rw [hv, hv']
  · rw [hkey] at ho
    cases ho

theorem required (hkey : parts.lookup key = none) : f'.required key = f.required key := by
  unfold Fields.required
  rw [h.get?_eq key hkey, h.place]

theorem leaf? (hkey : parts.lookup key = none) {type : Json.Typed α} :
    f'.leaf? key type = f.leaf? key type := by
  unfold Fields.leaf?
  simp only [h.get?_eq key hkey, h.ofLeaf]

theorem leaf (hkey : parts.lookup key = none) {type : Json.Typed α} :
    f'.leaf key type = f.leaf key type := by
  unfold Fields.leaf
  simp only [h.required key hkey, h.ofLeaf]

theorem word (hkey : parts.lookup key = none) {wanted : String} {isRequired : Bool} :
    f'.word key wanted isRequired = f.word key wanted isRequired := by
  unfold Fields.word
  rw [h.get?_eq key hkey, h.place]

/-! What is a part of its own reads as it did, where its decoder ignores what is left out. -/

theorem read {decode : Decoder α} (hdecode : Omission.IgnoredAt parts key decode) :
    f.get? key = none ∧ f'.get? key = none ∨
      ∃ v v', f.get? key = some v ∧ f'.get? key = some v' ∧
        ∀ path, decode v' path = decode v path := by
  rcases h.get? key with hnone | ⟨v, v', hv, hv', hdistinct, hunder⟩
  · exact .inl hnone
  · exact .inr ⟨v, v', hv, hv', hunder.decode_eq hdecode hdistinct⟩

theorem part? {decode : Decoder α} (hdecode : Omission.IgnoredAt parts key decode) :
    f'.part? key decode = f.part? key decode := by
  unfold Fields.part?
  rw [h.place]
  rcases h.read key hdecode with ⟨hv, hv'⟩ | ⟨v, v', hv, hv', hread⟩
  · rw [hv, hv']
  · rw [hv, hv']
    exact congrArg (·.map some) (hread _)

theorem part {decode : Decoder α} (hdecode : Omission.IgnoredAt parts key decode) :
    f'.part key decode = f.part key decode := by
  unfold Fields.part Fields.required
  rw [h.place]
  rcases h.read key hdecode with ⟨hv, hv'⟩ | ⟨v, v', hv, hv', hread⟩
  · rw [hv, hv']
  · rw [hv, hv']
    exact hread _

theorem list {decode : Decoder α} (hdecode : Omission.IgnoredAt parts key (decodeList decode)) :
    f'.parts key decode = f.parts key decode := by
  unfold Fields.parts
  rw [h.place]
  rcases h.read key hdecode with ⟨hv, hv'⟩ | ⟨v, v', hv, hv', hread⟩
  · rw [hv, hv']
  · rw [hv, hv']
    exact hread _

end Fields.Omits

/-! ## 5. What is left out is ignored -/

namespace Omission.Ignores

/-- Of an object, if the fields that are read do not tell. -/
theorem object {decode : Decoder α} {body : Path → Fields → Except RuleError α}
    (hdecode : ∀ v path, decode v path = Fields.of known v path >>= body path)
    (hbody : ∀ path f f', f.Omits parts f' → body path f' = body path f) :
    (Omission.object known parts).Ignores decode := by
  intro v v' path hv h
  obtain _ | hmembers := h
  · rfl
  · rw [hdecode, hdecode]
    rcases Fields.of_omission hv hmembers path with ⟨e, he, he'⟩ | ⟨f, f', hf, hf', homits⟩
    · rw [he, he']
    · rw [hf, hf']
      exact hbody path f f' homits

theorem decodeItems_eq {o : Omission} {decode : Decoder α} (ho : o.Ignores decode) {path : Path}
    {l l' : List Json} (hl : ∀ v ∈ l, v.Distinct) (h : List.Forall₂ o.rel l l') (i : Nat) :
    decodeItems decode path i l' = decodeItems decode path i l := by
  induction h generalizing i with
  | nil => rfl
  | cons hv _ ih =>
    obtain ⟨hhead, htail⟩ := List.forall_mem_cons.1 hl
    unfold decodeItems
    rw [ho _ _ _ hhead hv, ih htail]

theorem list {o : Omission} {decode : Decoder α} (ho : o.Ignores decode) :
    o.list.Ignores (decodeList decode) := by
  intro v v' path hv h
  obtain _ | hitems := h
  · rfl
  · exact ho.decodeItems_eq ((distinctItems_iff _).1 hv) hitems 0

end Omission.Ignores

/-! Extractors have their role and their parameters in common. -/

section

variable {f f' : Fields} (h : f.Omits parts f')

include h

theorem checkRole_omits (hkey : parts.lookup "role" = none) (wanted : Role) :
    checkRole f' wanted = checkRole f wanted := by
  unfold checkRole
  rw [h.required "role" hkey, h.place]

theorem decodeParams_omits (hkey : Omission.IgnoredAt parts "extract_params" Params.decode) :
    decodeParams f' = decodeParams f := by
  unfold decodeParams
  rw [h.part? "extract_params" hkey]

theorem decodeDateFormat_omits (hkey : parts.lookup "date_pattern" = none) :
    decodeDateFormat f' = decodeDateFormat f := by
  unfold decodeDateFormat
  rw [h.leaf? "date_pattern" hkey, h.place]

end

theorem Params.omission_ignores : Params.omission.Ignores Params.decode := by
  refine .object (fun _ _ => rfl) fun path f f' h => ?_
  simp only [h.leaf? "regex" rfl, h.leaf? "default" rfl, h.leaf? "last_value_as_default" rfl,
    h.leaf? "on_validation_error" rfl, h.place]

theorem Extractor.omission_ignores (role : Role) :
    Extractor.omission.Ignores (Extractor.decode role) := by
  refine .object (fun _ _ => rfl) fun path f f' h => ?_
  rw [checkRole_omits h rfl, h.part "source" trivial, decodeParams_omits h Params.omission_ignores]

theorem Dimension.omission_ignores : namedOmission.Ignores Dimension.decode := by
  refine .object (fun _ _ => rfl) fun path f f' h => ?_
  rw [checkRole_omits h rfl, h.leaf "name" rfl, h.part "source" trivial,
    decodeParams_omits h Params.omission_ignores, h.place]

theorem TitleId.omission_ignores : namedOmission.Ignores TitleId.decode := by
  refine .object (fun _ _ => rfl) fun path f f' h => ?_
  rw [checkRole_omits h rfl, h.leaf "name" rfl, h.part "source" trivial,
    decodeParams_omits h Params.omission_ignores]

theorem DatePart.omission_ignores : DatePart.omission.Ignores DatePart.decode := by
  refine .object (fun _ _ => rfl) fun path f f' h => ?_
  dsimp only
  rw [checkRole_omits h rfl, h.has, h.place, h.part "source" trivial,
    decodeParams_omits h Params.omission_ignores, decodeDateFormat_omits h rfl]

theorem Composed.omission_ignores : Composed.omission.Ignores Composed.decode := by
  refine .object (fun _ _ => rfl) fun path f f' h => ?_
  rw [h.part "year" DatePart.omission_ignores, h.part "month" DatePart.omission_ignores]

theorem DateExtractor.omission_ignores :
    DateExtractor.omission.Ignores DateExtractor.decode := by
  refine .object (fun _ _ => rfl) fun path f f' h => ?_
  have horigin : decodeOrigin f' = decodeOrigin f := by
    unfold decodeOrigin
    rw [h.has, h.has, h.part "source" trivial, h.part "composed" Composed.omission_ignores, h.path]
  rw [checkRole_omits h rfl, horigin, decodeParams_omits h Params.omission_ignores,
    decodeDateFormat_omits h rfl]

theorem HeaderRole.omission_ignores : HeaderRole.omission.Ignores HeaderRole.decode := by
  intro v v' path hv h
  have hrole : (v'.get? "role").filter (!·.isNull) = (v.get? "role").filter (!·.isNull) := by
    rcases h with ⟨-, h⟩ | ⟨-, h⟩
    · exact Omission.OfObject.get?_eq h hv rfl
    · exact Omission.OfObject.get?_eq h hv rfl
  unfold HeaderRole.decode
  rw [hrole]
  rcases h with ⟨hmetric, h⟩ | ⟨hother, h⟩
  · have hword : (Option.some (Json.string Role.metric.name)).filter (!·.isNull)
        = some (.string Role.metric.name) := rfl
    rw [hmetric, hword]
    dsimp only
    rw [if_pos rfl, if_pos rfl, Extractor.omission_ignores _ _ _ _ hv h]
  · cases hw : (v.get? "role").filter (!·.isNull) with
    | none => rfl
    | some w =>
      cases w with
      | string s =>
        have hs : s ≠ Role.metric.name := by
          rintro rfl
          exact hother (Option.filter_eq_some_iff.1 hw).1
        dsimp only
        rw [if_neg hs, if_neg hs, DateExtractor.omission_ignores _ _ _ hv h]
      | _ => rfl

theorem DataHeaders.omission_ignores : DataHeaders.omission.Ignores DataHeaders.decode := by
  refine .object (fun _ _ => rfl) fun path f f' h => ?_
  rw [h.leaf "data_direction" rfl, h.part "data_cells" trivial, h.place, h.place,
    h.list "roles" HeaderRole.omission_ignores.list]

theorem Area.omission_ignores : Area.omission.Ignores Area.decode := by
  refine .object (fun _ _ => rfl) fun path f f' h => ?_
  rw [h.word "kind" rfl, h.part "data_headers" DataHeaders.omission_ignores,
    h.part? "metrics" (Extractor.omission_ignores .metric),
    h.part? "dates" DateExtractor.omission_ignores,
    h.part? "titles" (Extractor.omission_ignores .title),
    h.list "title_ids" TitleId.omission_ignores.list,
    h.list "dimensions" Dimension.omission_ignores.list,
    h.part? "organizations" (Extractor.omission_ignores .organization), h.place, h.place]

theorem conditionsOmission_ignores : conditionsOmission.Ignores decodeConditions := by
  refine .object (fun _ _ => rfl) fun path f f' h => ?_
  rw [h.word "kind" rfl, h.leaf? "conds" rfl]

theorem formatNameOmission_ignores : formatNameOmission.Ignores decodeFormatName := by
  refine .object (fun _ _ => rfl) fun path f f' h => ?_
  rw [h.leaf "name" rfl]

theorem definitionOmission_ignores : definitionOmission.Ignores Definition.decode := by
  refine .object (fun _ _ => rfl) fun path f f' h => ?_
  simp only [h.word "kind" rfl, h.list "areas" Area.omission_ignores.list,
    h.leaf? "metric_aliases" rfl, h.leaf? "dimension_aliases" rfl, h.leaf "parser_name" rfl,
    h.part? "data_format" formatNameOmission_ignores, h.leaf? "platforms" rfl,
    h.leaf? "metrics_to_skip" rfl, h.leaf? "titles_to_skip" rfl, h.leaf? "available_metrics" rfl,
    h.leaf? "on_metric_check_failed" rfl, h.part? "heuristics" conditionsOmission_ignores, h.place]

end UsageGrid.Rules

namespace UsageGrid.Definition

open Rules

/-- **Null counts as absent**: a document holds the same definition, or is refused for the same
    reason at the same place, whichever nulls are left out of it under keys that are known there. -/
theorem ofJson_omission {v v' : Json} (hv : v.Distinct) (h : definitionOmission.rel v v') :
    ofJson v' = ofJson v :=
  definitionOmission_ignores v v' .root hv h

/-- A document with further members in its parts. -/
def sparseDocument (more : List String → List (String × Json)) : Json :=
  .object (more ["data_format", "available_metrics"] ++ [
    ("parser_name", .string "sparse"),
    ("areas", .array [.object (more ["titles", "title_ids"] ++ [
      ("data_headers", .object [
        ("roles", .array [.object (more ["source", "extract_params"] ++ [
          ("composed", .object [
            ("year", .object (more ["composed"] ++ [
              ("source", exampleRange 0 1 "right"), ("role", .string "date")])),
            ("month", .object [("source", exampleCoord 1 1), ("role", .string "date")])]),
          ("role", .string "date")])]),
        ("data_cells", exampleRange 2 1 "right"),
        ("data_direction", .string "down")]),
      ("metrics", .object [
        ("source", exampleCoord 0 0),
        ("extract_params", .object (more ["regex", "default"] ++ [
          ("last_value_as_default", .bool false)])),
        ("role", .string "metric")])])])])

/-- Nulls are left out of the document, of its area, of a header role, of a year and of
    parameters. -/
theorem sparseDocument_omission :
    let sparse := sparseDocument fun keys => keys.map (·, .null)
    let short := sparseDocument fun _ => []
    sparse.Distinct ∧ definitionOmission.rel sparse short ∧ ofJson short = ofJson sparse ∧
      (ofJson short).toOption.map (·.areas.length) = some 1 := by
  intro sparse short
  have hdistinct : sparse.Distinct := by
    simp [sparse, sparseDocument, exampleRange, exampleCoord, Json.Distinct, Json.DistinctItems,
      Json.DistinctMembers]
  have hrel : definitionOmission.rel sparse short := by
    refine .members (.nulls (by decide) (.keep (.inl rfl)
      (.keep (.inr ⟨_, rfl, .items (.cons ?area .nil)⟩) .nil)))
    refine .members (.nulls (by decide)
      (.keep (.inr ⟨_, rfl, ?headers⟩) (.keep (.inr ⟨_, rfl, ?metric⟩) .nil)))
    case metric =>
      exact .members (.keep (.inl rfl)
        (.keep (.inr ⟨_, rfl, .members (.nulls (by decide) (.refl _))⟩) (.refl _)))
    case headers =>
      refine .members (.keep (.inr ⟨_, rfl, .items (.cons (.inr ⟨?role, ?date⟩) .nil)⟩) (.refl _))
      case role => simp [Json.get?, Json.lookup, Role.name]
      refine .members (.nulls (by decide) (.keep (.inr ⟨_, rfl, ?composed⟩) (.refl _)))
      refine .members (.keep (.inr ⟨_, rfl, ?year⟩) (.refl _))
      exact .members (.nulls (by decide) (.refl _))
  exact ⟨hdistinct, hrel, ofJson_omission hdistinct hrel, by decide +kernel⟩

end UsageGrid.Definition
