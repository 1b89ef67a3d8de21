import UsageGrid.Rules.Example
import UsageGrid.Proofs.Rules.Aliases

/-!
# Rule documents, read and written

A document is read if and only if what it holds is well-formed, and what is written is read back as
it was (`definition_codec`). Nothing is lost between the two: the decoder of a definition and its
written form agree on every field.
-/

namespace UsageGrid.Rules

/-! ## 1. Lists of leaves -/

theorem asItems_map {α : Type} {item : Json.Typed α} {write : α → Json} {l : List α}
    (h : ∀ a ∈ l, item (write a) = .ok a) (i : Nat) :
    Json.asItems item i (l.map write) = .ok l := by
  induction l generalizing i with
  | nil => rfl
  | cons a rest ih =>
    have hrest := ih (fun b hb => h b (List.mem_cons_of_mem _ hb)) (i + 1)
    rw [List.map_cons, Json.asItems, h a List.mem_cons_self]
    show (Json.asItems item (i + 1) (rest.map write) >>= _) = _
    rw [hrest]
    rfl

theorem texts_ofTexts (l : List String) : Definition.texts (.ofTexts l) = .ok l := by
  have hone : ∀ s ∈ l, Json.asString (.string s) = .ok s := fun _ _ => rfl
  exact asItems_map hone 0

theorem conditions_array (l : List Json) : Json.asList Json.asAny (.array l) = .ok l := by
  have hone : ∀ v ∈ l, Json.asAny (id v) = .ok v := fun _ _ => rfl
  have h := asItems_map hone 0
  rwa [List.map_id] at h

theorem Aliases.read_toJson (l : Aliases) : Aliases.read l.toJson = .ok l := by
  have hone : ∀ p ∈ l, Json.asPair Json.asString Json.asString
      (.array [.string p.1, .string p.2]) = .ok p := fun _ _ => rfl
  exact asItems_map hone 0

/-! ## 2. Conditions and format -/

theorem conditions_codec : Codec decodeConditions conditionsToJson (fun _ => True) where
  sound _ _ _ _ := trivial
  complete l path _ := by
    let f : Fields := ⟨[("conds", .array l), ("kind", .string "and")], path⟩
    have hf : Fields.of ["conds", "kind"] (conditionsToJson l) path = .ok f := rfl
    have hkind : f.word "kind" "and" false = .ok () := Fields.word_of_get? rfl
    have hconds : f.leaf? "conds" (Json.asList Json.asAny) = .ok (some l) :=
      Fields.leaf?_of_get? rfl (conditions_array l)
    unfold decodeConditions
    rw [hf, ok_bind, hkind, ok_bind, hconds]
    rfl

theorem formatName_codec : Codec decodeFormatName formatNameToJson (fun _ => True) where
  sound _ _ _ _ := trivial
  complete name path _ := by
    let f : Fields := ⟨[("name", .string name)], path⟩
    have hf : Fields.of ["name"] (formatNameToJson name) path = .ok f := rfl
    have hname : f.leaf "name" Json.asString = .ok name := Fields.leaf_of_get? rfl rfl
    unfold decodeFormatName
    rw [hf, ok_bind, hname]

/-! ## 3. Definitions -/

theorem definition_codec :
    Codec Definition.decode Definition.toJson Definition.WellFormed where
  sound v path d h := by
    simp only [Definition.decode, bind_eq_ok] at h
    obtain ⟨f, -, _, -, areas, hareas, h⟩ := h
    split at h
    · exact absurd h throw_bind_ne_ok
    · rename_i hne
      simp only [bind_eq_ok, pure_eq_ok] at h
      obtain ⟨metricAliases, -, _, hmetric, dimensionAliases, -, _, hdimension, _, hreserved,
        _, hmerged, _, -, _, -, _, -, _, -, _, -, _, -, _, -, _, -, rfl⟩ := h
      exact {
        hasArea := by simpa using hne
        areas := Fields.parts_sound area_codec.sound hareas
        metricAliases := Aliases.check_eq_ok.1 hmetric
        dimensionAliases := Aliases.check_eq_ok.1 hdimension
        targetsNotReserved := Aliases.checkReserved_eq_ok.1 hreserved
        notMerged := Aliases.checkAreas_eq_ok.1 hmerged }
  complete d path h := by
    -- the facts stand in the order in which the decoder asks for them
    let f : Fields := ⟨[
      ("parser_name", .string d.name),
      ("data_format", formatNameToJson d.formatName),
      ("platforms", .ofTexts d.platforms),
      ("metrics_to_skip", .ofTexts d.metricsToSkip),
      ("titles_to_skip", .ofTexts d.titlesToSkip),
      ("available_metrics", .ofOption .ofTexts d.availableMetrics),
      ("on_metric_check_failed", .string d.onMetricCheckFailed.name),
      ("areas", .array (d.areas.map Area.toJson)),
      ("metric_aliases", Aliases.toJson d.metricAliases),
      ("dimension_aliases", Aliases.toJson d.dimensionAliases),
      ("heuristics", conditionsToJson d.conditions),
      ("kind", .string kindWord)], path⟩
    have hf : Fields.of Definition.fieldNames d.toJson path = .ok f := rfl
    have hkind : f.word "kind" kindWord false = .ok () := Fields.word_of_get? rfl
    have hareas : f.parts "areas" Area.decode = .ok d.areas := area_codec.parts rfl h.areas
    have hne : d.areas.isEmpty = false := by simpa using h.hasArea
    have hma : f.leaf? "metric_aliases" Aliases.read = .ok (some d.metricAliases) :=
      Fields.leaf?_of_get? rfl (Aliases.read_toJson _)
    have hmc : Aliases.check (f.place "metric_aliases") d.metricAliases = .ok () :=
      Aliases.check_eq_ok.2 h.metricAliases
    have hda : f.leaf? "dimension_aliases" Aliases.read = .ok (some d.dimensionAliases) :=
      Fields.leaf?_of_get? rfl (Aliases.read_toJson _)
    have hdc : Aliases.check (f.place "dimension_aliases") d.dimensionAliases = .ok () :=
      Aliases.check_eq_ok.2 h.dimensionAliases
    have hreserved : Aliases.checkReserved (f.place "dimension_aliases") 0 d.dimensionAliases
        = .ok () := Aliases.checkReserved_eq_ok.2 h.targetsNotReserved
    have hmerged : Aliases.checkAreas d.dimensionAliases (f.place "areas") 0 d.areas = .ok () :=
      Aliases.checkAreas_eq_ok.2 h.notMerged
    have hname : f.leaf "parser_name" Json.asString = .ok d.name := Fields.leaf_of_get? rfl rfl
    have hformat : f.part? "data_format" decodeFormatName = .ok (some d.formatName) :=
      Fields.part?_of_get? rfl (formatName_codec.complete _ _ trivial)
    have hplatforms : f.leaf? "platforms" Definition.texts = .ok (some d.platforms) :=
      Fields.leaf?_of_get? rfl (texts_ofTexts _)
    have hmetrics : f.leaf? "metrics_to_skip" Definition.texts = .ok (some d.metricsToSkip) :=
      Fields.leaf?_of_get? rfl (texts_ofTexts _)
    have htitles : f.leaf? "titles_to_skip" Definition.texts = .ok (some d.titlesToSkip) :=
      Fields.leaf?_of_get? rfl (texts_ofTexts _)
    have havailable : f.leaf? "available_metrics" Definition.texts = .ok d.availableMetrics :=
      Fields.leaf?_ofOption (Fields.get?_ofOption rfl fun _ _ => rfl) fun l _ => texts_ofTexts l
    have haction : f.leaf? "on_metric_check_failed" (Json.asWord Action.words)
        = .ok (some d.onMetricCheckFailed) :=
      Fields.leaf?_of_get? rfl (asWord_action _)
    have hconditions : f.part? "heuristics" decodeConditions = .ok (some d.conditions) :=
      Fields.part?_of_get? rfl (conditions_codec.complete _ _ trivial)
    unfold Definition.decode
    rw [hf, ok_bind, hkind, ok_bind, hareas, ok_bind, hne]
    show (f.leaf? "metric_aliases" Aliases.read >>= _) = _
    rw [hma, ok_bind]
    dsimp only [Option.getD_some]
    rw [hmc, ok_bind, hda, ok_bind]
    dsimp only [Option.getD_some]
    rw [hdc, ok_bind, hreserved, ok_bind, hmerged, ok_bind, hname, ok_bind, hformat, ok_bind,
      hplatforms, ok_bind, hmetrics, ok_bind, htitles, ok_bind, havailable, ok_bind, haction,
      ok_bind, hconditions]
    rfl

end UsageGrid.Rules

namespace UsageGrid.Definition

open Rules

/-- **The decoder accepts exactly the well-formed definitions, and loses nothing of them**: what it
    reads from any value is well-formed, and a definition, however it was made, is read back from
    its written form if and only if it is well-formed. -/
theorem ofJson_exact :
    (∀ v d, ofJson v = .ok d → d.WellFormed) ∧
    (∀ d : Definition, ofJson d.toJson = .ok d ↔ d.WellFormed) :=
  ⟨fun v d => definition_codec.sound v .root d, fun d => definition_codec.decode_write_iff d .root⟩

/-- The example document is read, so what is read from it is well-formed. -/
theorem exampleDocument_wellFormed :
    ∃ d, ofJson exampleDocument = .ok d ∧ d.WellFormed := by
  have h : (ofJson exampleDocument).isOk = true := by decide +kernel
  cases hd : ofJson exampleDocument with
  | error e => rw [hd] at h; cases h
  | ok d => exact ⟨d, rfl, ofJson_exact.1 _ _ hd⟩

end UsageGrid.Definition
