import UsageGrid.Rules.Area
import UsageGrid.Proofs.Rules.Source

/-!
# Extractors, read and written

Each extractor writes its role beside its source, and reads it back only at its own place. A date
writes its origin under one of two keys, and its format only where it has one, so the four forms of
a date are told apart by what they leave out (`dateExtractor_codec`).
-/

namespace UsageGrid.Rules

/-! ## 1. Shared parts -/

theorem checkRole_of_get? {f : Fields} {role : Role}
    (h : f.get? "role" = some (.string role.name)) : checkRole f role = .ok () := by
  simp only [checkRole, Fields.required, h, ok_bind, if_true]
  rfl

theorem decodeParams_sound {f : Fields} {p : Params} (h : decodeParams f = .ok p) :
    p.WellFormed := by
  obtain ⟨o, ho, rfl⟩ := map_eq_ok.1 h
  cases o with
  | none => exact fun s hs => nomatch hs
  | some p => exact params_codec.part?_sound ho p rfl

theorem decodeParams_of_get? {f : Fields} {p : Params} (hp : p.WellFormed)
    (h : f.get? "extract_params" = some p.toJson) : decodeParams f = .ok p := by
  unfold decodeParams
  rw [Fields.part?_of_get? h (params_codec.complete p _ hp)]
  rfl

theorem decodeDateFormat_sound {f : Fields} {format : Option String}
    (h : decodeDateFormat f = .ok format) : IsDateFormat format := by
  simp only [decodeDateFormat, bind_eq_ok] at h
  obtain ⟨o, -, h⟩ := h
  split at h
  · cases h
    exact fun t ht => nomatch ht
  · split at h
    · rename_i hformat
      cases h
      rintro t ⟨⟩
      exact hformat
    · exact absurd h throw_ne_ok

theorem decodeDateFormat_of_get? {f : Fields} {format : Option String} (hv : IsDateFormat format)
    (h : f.get? "date_pattern" = format.map .string) : decodeDateFormat f = .ok format := by
  have hread : f.leaf? "date_pattern" Json.asString = .ok format :=
    Fields.leaf?_ofOption h fun _ _ => rfl
  unfold decodeDateFormat
  rw [hread, ok_bind]
  cases format with
  | none => rfl
  | some text =>
    dsimp only
    rw [if_pos (hv text rfl)]
    rfl

/-! ## 2. Metrics, titles, organizations, dimensions -/

theorem extractor_codec (role : Role) :
    Codec (Extractor.decode role) (Extractor.toJson role) Extractor.WellFormed where
  sound v path e h := by
    simp only [Extractor.decode, bind_eq_ok, pure_eq_ok] at h
    obtain ⟨f, -, _, -, source, hsource, params, hparams, rfl⟩ := h
    exact ⟨source_codec.part_sound hsource, decodeParams_sound hparams⟩
  complete e path h := by
    let f : Fields := ⟨e.members role, path⟩
    have hf : Fields.of ["source", "extract_params", "role"] (e.toJson role) path = .ok f := rfl
    have hrole : checkRole f role = .ok () := checkRole_of_get? rfl
    have hsource : f.part "source" Source.decode = .ok e.source :=
      source_codec.part (Fields.get?_of_lookup rfl (isNull_source e.source)) h.source
    have hparams : decodeParams f = .ok e.params := decodeParams_of_get? h.params rfl
    unfold Extractor.decode
    rw [hf, ok_bind, hrole, ok_bind, hsource, ok_bind, hparams]
    rfl

theorem dimension_codec : Codec Dimension.decode Dimension.toJson Dimension.WellFormed where
  sound v path d h := by
    simp only [Dimension.decode, bind_eq_ok, pure_eq_ok] at h
    obtain ⟨f, -, _, -, name, -, _, hname, source, hsource, params, hparams, rfl⟩ := h
    unfold Dimension.checkName at hname
    split at hname
    · cases hname
    · rename_i hblank
      split at hname
      · cases hname
      · rename_i hreserved
        exact ⟨⟨source_codec.part_sound hsource, decodeParams_sound hparams⟩,
          by simpa using hblank, by simpa using hreserved⟩
  complete d path h := by
    let f : Fields := ⟨("name", .string d.name) :: d.extractor.members .dimension, path⟩
    have hf : Fields.of ["name", "source", "extract_params", "role"] d.toJson path = .ok f := rfl
    have hrole : checkRole f .dimension = .ok () := checkRole_of_get? rfl
    have hname : f.leaf "name" Json.asString = .ok d.name := Fields.leaf_of_get? rfl rfl
    have hcheck : Dimension.checkName (f.place "name") d.name = .ok () := by
      simp [Dimension.checkName, h.notBlank, h.notReserved]
    have hsource : f.part "source" Source.decode = .ok d.extractor.source :=
      source_codec.part (Fields.get?_of_lookup rfl (isNull_source _)) h.extractor.source
    have hparams : decodeParams f = .ok d.extractor.params :=
      decodeParams_of_get? h.extractor.params rfl
    unfold Dimension.decode
    rw [hf, ok_bind, hrole, ok_bind, hname, ok_bind, hcheck, ok_bind, hsource, ok_bind, hparams]
    rfl

theorem titleId_codec : Codec TitleId.decode TitleId.toJson TitleId.WellFormed where
  sound v path t h := by
    simp only [TitleId.decode, bind_eq_ok, pure_eq_ok] at h
    obtain ⟨f, -, _, -, kind, -, source, hsource, params, hparams, rfl⟩ := h
    exact ⟨source_codec.part_sound hsource, decodeParams_sound hparams⟩
  complete t path h := by
    let f : Fields := ⟨("name", .string t.kind.name) :: t.extractor.members .titleId, path⟩
    have hf : Fields.of ["name", "source", "extract_params", "role"] t.toJson path = .ok f := rfl
    have hrole : checkRole f .titleId = .ok () := checkRole_of_get? rfl
    have hkind : f.leaf "name" (Json.asWord TitleIdKind.words) = .ok t.kind :=
      Fields.leaf_of_get? rfl (asWord_titleIdKind t.kind)
    have hsource : f.part "source" Source.decode = .ok t.extractor.source :=
      source_codec.part (Fields.get?_of_lookup rfl (isNull_source _)) h.source
    have hparams : decodeParams f = .ok t.extractor.params := decodeParams_of_get? h.params rfl
    unfold TitleId.decode
    rw [hf, ok_bind, hrole, ok_bind, hkind, ok_bind, hsource, ok_bind, hparams]
    rfl

/-! ## 3. Dates -/

section

/-! A date object: its origin under a key, then what all dates have. -/

variable {key : String} (hkey : key = "source" ∨ key = "composed")
  (v : Json) (params : Params) (format : Option String) (path : Path)

include hkey

theorem of_dateMembers : Fields.of dateFields (.object ((key, v) :: dateMembers params format)) path
    = .ok ⟨(key, v) :: dateMembers params format, path⟩ := by
  rcases hkey with rfl | rfl <;> cases format <;> rfl

theorem get?_dateMembers_role : Fields.get? ⟨(key, v) :: dateMembers params format, path⟩ "role"
    = some (.string Role.date.name) := by
  rcases hkey with rfl | rfl <;> cases format <;> rfl

theorem get?_dateMembers_params :
    Fields.get? ⟨(key, v) :: dateMembers params format, path⟩ "extract_params"
      = some params.toJson := by
  rcases hkey with rfl | rfl <;> cases format <;> rfl

theorem get?_dateMembers_format :
    Fields.get? ⟨(key, v) :: dateMembers params format, path⟩ "date_pattern"
      = format.map .string := by
  rcases hkey with rfl | rfl <;> cases format <;> rfl

theorem get?_dateMembers_key (hv : v.isNull = false) :
    Fields.get? ⟨(key, v) :: dateMembers params format, path⟩ key = some v := by
  rcases hkey with rfl | rfl <;> exact Fields.get?_of_lookup rfl hv

end

theorem get?_dateMembers_composed (v : Json) (params : Params) (format : Option String)
    (path : Path) :
    Fields.get? ⟨("source", v) :: dateMembers params format, path⟩ "composed" = none := by
  cases format <;> rfl

theorem get?_dateMembers_source (v : Json) (params : Params) (format : Option String)
    (path : Path) :
    Fields.get? ⟨("composed", v) :: dateMembers params format, path⟩ "source" = none := by
  cases format <;> rfl

theorem datePart_codec : Codec DatePart.decode DatePart.toJson DatePart.WellFormed where
  sound v path p h := by
    simp only [DatePart.decode, bind_eq_ok] at h
    obtain ⟨f, -, _, -, h⟩ := h
    split at h
    · exact absurd h throw_bind_ne_ok
    · simp only [bind_eq_ok, pure_eq_ok] at h
      obtain ⟨source, hsource, params, hparams, format, hformat, rfl⟩ := h
      exact ⟨source_codec.part_sound hsource, decodeParams_sound hparams,
        decodeDateFormat_sound hformat⟩
  complete p path h := by
    have hkey : "source" = "source" ∨ "source" = "composed" := Or.inl rfl
    let f : Fields := ⟨("source", p.source.toJson) :: dateMembers p.params p.format, path⟩
    have hf : Fields.of dateFields p.toJson path = .ok f := of_dateMembers hkey _ _ _ _
    have hrole : checkRole f .date = .ok () :=
      checkRole_of_get? (get?_dateMembers_role hkey _ _ _ _)
    have hcomposed : f.has "composed" = false := by
      unfold Fields.has
      rw [get?_dateMembers_composed]
      rfl
    have hsource : f.part "source" Source.decode = .ok p.source :=
      source_codec.part (get?_dateMembers_key hkey _ _ _ _ (isNull_source _)) h.source
    have hparams : decodeParams f = .ok p.params :=
      decodeParams_of_get? h.params (get?_dateMembers_params hkey _ _ _ _)
    have hformat : decodeDateFormat f = .ok p.format :=
      decodeDateFormat_of_get? h.format (get?_dateMembers_format hkey _ _ _ _)
    unfold DatePart.decode
    rw [hf, ok_bind, hrole, ok_bind, hcomposed]
    show (f.part "source" Source.decode >>= _) = _
    rw [hsource, ok_bind, hparams, ok_bind, hformat]
    rfl

theorem composed_codec : Codec Composed.decode Composed.toJson Composed.WellFormed where
  sound v path c h := by
    simp only [Composed.decode, bind_eq_ok, pure_eq_ok] at h
    obtain ⟨f, -, year, hyear, month, hmonth, rfl⟩ := h
    exact ⟨datePart_codec.part_sound hyear, datePart_codec.part_sound hmonth⟩
  complete c path h := by
    let f : Fields := ⟨[("year", c.year.toJson), ("month", c.month.toJson)], path⟩
    have hf : Fields.of ["year", "month"] c.toJson path = .ok f := rfl
    have hyear : f.part "year" DatePart.decode = .ok c.year := datePart_codec.part rfl h.year
    have hmonth : f.part "month" DatePart.decode = .ok c.month := datePart_codec.part rfl h.month
    unfold Composed.decode
    rw [hf, ok_bind, hyear, ok_bind, hmonth]
    rfl

namespace DateExtractor

theorem decodeOrigin_sound {f : Fields} {o : DateOrigin} (h : decodeOrigin f = .ok o) :
    o.WellFormed := by
  unfold decodeOrigin at h
  split at h
  · obtain ⟨s, hs, rfl⟩ := map_eq_ok.1 h
    exact source_codec.part_sound hs
  · obtain ⟨c, hc, rfl⟩ := map_eq_ok.1 h
    exact composed_codec.part_sound hc
  · cases h
  · cases h

/-- The key of an origin and its written form. -/
def originMember : DateOrigin → String × Json
  | .direct s => ("source", s.toJson)
  | .composed parts => ("composed", parts.toJson)

theorem toJson_eq (d : DateExtractor) :
    d.toJson = .object (((originMember d.origin).1, (originMember d.origin).2)
      :: dateMembers d.params d.format) := by
  unfold toJson originMember
  cases d.origin <;> rfl

theorem originMember_key (o : DateOrigin) :
    (originMember o).1 = "source" ∨ (originMember o).1 = "composed" := by
  cases o with
  | direct s => exact Or.inl rfl
  | composed parts => exact Or.inr rfl

theorem decodeOrigin_originMember {o : DateOrigin} (ho : o.WellFormed) (params : Params)
    (format : Option String) (path : Path) :
    decodeOrigin ⟨((originMember o).1, (originMember o).2) :: dateMembers params format, path⟩
      = .ok o := by
  cases o with
  | direct s =>
    let f : Fields := ⟨("source", s.toJson) :: dateMembers params format, path⟩
    have hget : f.get? "source" = some s.toJson :=
      get?_dateMembers_key (Or.inl rfl) _ _ _ _ (isNull_source s)
    have hsource : f.has "source" = true := by rw [Fields.has, hget]; rfl
    have hcomposed : f.has "composed" = false := by rw [Fields.has, get?_dateMembers_composed]; rfl
    show decodeOrigin f = _
    rw [decodeOrigin, hsource, hcomposed]
    show (f.part "source" Source.decode).map DateOrigin.direct = _
    rw [source_codec.part hget ho]
    rfl
  | composed parts =>
    let f : Fields := ⟨("composed", parts.toJson) :: dateMembers params format, path⟩
    have hget : f.get? "composed" = some parts.toJson :=
      get?_dateMembers_key (Or.inr rfl) _ _ _ _ rfl
    have hsource : f.has "source" = false := by rw [Fields.has, get?_dateMembers_source]; rfl
    have hcomposed : f.has "composed" = true := by rw [Fields.has, hget]; rfl
    show decodeOrigin f = _
    rw [decodeOrigin, hsource, hcomposed]
    show (f.part "composed" Composed.decode).map DateOrigin.composed = _
    rw [composed_codec.part hget ho]
    rfl

end DateExtractor

theorem dateExtractor_codec :
    Codec DateExtractor.decode DateExtractor.toJson DateExtractor.WellFormed where
  sound v path d h := by
    simp only [DateExtractor.decode, bind_eq_ok, pure_eq_ok] at h
    obtain ⟨f, -, _, -, origin, horigin, params, hparams, format, hformat, rfl⟩ := h
    exact ⟨DateExtractor.decodeOrigin_sound horigin, decodeParams_sound hparams,
      decodeDateFormat_sound hformat⟩
  complete d path h := by
    have hkey := DateExtractor.originMember_key d.origin
    let f : Fields := ⟨((DateExtractor.originMember d.origin).1,
      (DateExtractor.originMember d.origin).2) :: dateMembers d.params d.format, path⟩
    have hf : Fields.of dateFields d.toJson path = .ok f := by
      rw [DateExtractor.toJson_eq]
      exact of_dateMembers hkey _ _ _ _
    have hrole : checkRole f .date = .ok () :=
      checkRole_of_get? (get?_dateMembers_role hkey _ _ _ _)
    have horigin : DateExtractor.decodeOrigin f = .ok d.origin :=
      DateExtractor.decodeOrigin_originMember h.origin _ _ _
    have hparams : decodeParams f = .ok d.params :=
      decodeParams_of_get? h.params (get?_dateMembers_params hkey _ _ _ _)
    have hformat : decodeDateFormat f = .ok d.format :=
      decodeDateFormat_of_get? h.format (get?_dateMembers_format hkey _ _ _ _)
    unfold DateExtractor.decode
    rw [hf, ok_bind, hrole, ok_bind, horigin, ok_bind, hparams, ok_bind, hformat]
    rfl

/-! ## 4. Header roles -/

theorem headerRole_codec : Codec HeaderRole.decode HeaderRole.toJson HeaderRole.WellFormed where
  sound v path r h := by
    unfold HeaderRole.decode at h
    split at h
    · cases h
    · split at h
      · obtain ⟨e, he, rfl⟩ := map_eq_ok.1 h
        exact (extractor_codec .metric).sound _ _ e he
      · split at h
        · obtain ⟨d, hd, rfl⟩ := map_eq_ok.1 h
          exact dateExtractor_codec.sound _ _ d hd
        · cases h
    · cases h
  complete r path h := by
    cases r with
    | metric e =>
      show (Extractor.decode .metric (e.toJson .metric) path).map HeaderRole.metric = _
      rw [(extractor_codec .metric).complete e path h]
      rfl
    | date d =>
      have hrole : (d.toJson.get? "role").filter (fun r => !r.isNull)
          = some (.string Role.date.name) := by
        rw [DateExtractor.toJson_eq]
        exact get?_dateMembers_role (DateExtractor.originMember_key d.origin) _ _ _ path
      show HeaderRole.decode d.toJson path = _
      unfold HeaderRole.decode
      rw [hrole]
      show (DateExtractor.decode d.toJson path).map HeaderRole.date = _
      rw [dateExtractor_codec.complete d path h]
      rfl

end UsageGrid.Rules
