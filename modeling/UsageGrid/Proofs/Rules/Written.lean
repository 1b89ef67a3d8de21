import UsageGrid.Proofs.Json.Parsed
import UsageGrid.Proofs.Json.Runs
import UsageGrid.Proofs.Rules.Definition
import UsageGrid.Proofs.Rules.Floats
import UsageGrid.Proofs.Rules.Order

/-!
# The written form of a document

What a document writes fits a text that is read back: the numbers and keys of its written form, and
how deep that is nested.
-/

/-!
## Numbers and keys

A text has room for what a well-formed document writes: its whole numbers fit 64 bits, and no object
has a key twice (`Definition.WellFormed.isWritable`), if that is so of its conditions. It is so of
the conditions of every document that has been read (`Definition.IsDecoded.conditions`).
-/

namespace UsageGrid.Json

/-- A text has room for the value, and tells its members apart. -/
structure IsWritable (v : Json) : Prop where
  fits : v.Fits
  distinct : v.Distinct

theorem IsProper.isWritable {v : Json} (h : v.IsProper) : v.IsWritable := ⟨h.fits, h.distinct⟩

namespace IsWritable

theorem null : IsWritable .null := ⟨trivial, trivial⟩

theorem bool (b : Bool) : IsWritable (.bool b) := ⟨trivial, trivial⟩

theorem string (s : String) : IsWritable (.string s) := ⟨trivial, trivial⟩

theorem float (x : Binary64) : IsWritable (.float x) := ⟨trivial, trivial⟩

theorem int {n : Int} (h : IsWhole64 n) : IsWritable (.int n) := ⟨h, trivial⟩

theorem array {items : List Json} (h : ∀ v ∈ items, v.IsWritable) : IsWritable (.array items) :=
  ⟨(fitsItems_iff items).2 fun v hv => (h v hv).fits,
    (distinctItems_iff items).2 fun v hv => (h v hv).distinct⟩

theorem object {members : List (String × Json)} (hkeys : (members.map (·.1)).Nodup)
    (h : ∀ m ∈ members, m.2.IsWritable) : IsWritable (.object members) :=
  ⟨(fitsMembers_iff members).2 fun m hm => (h m hm).fits,
    hkeys, (distinctMembers_iff members).2 fun m hm => (h m hm).distinct⟩

theorem list {α : Type} {write : α → Json} {l : List α} (h : ∀ a ∈ l, (write a).IsWritable) :
    IsWritable (.array (l.map write)) := array (List.forall_mem_map.2 h)

theorem texts (l : List String) : IsWritable (ofTexts l) := list fun s _ => string s

theorem ofOption {α : Type} {write : α → Json} {o : Option α}
    (h : ∀ a ∈ o, (write a).IsWritable) : IsWritable (Json.ofOption write o) := by
  cases o with
  | none => exact null
  | some a => exact h a rfl

end IsWritable

end UsageGrid.Json

namespace UsageGrid.Rules

open Json

theorem isWhole64_natCast {n : Nat} (h : FitsInt64 n) : IsWhole64 n := by
  have h' : n < 2 ^ 63 := h
  unfold IsWhole64
  omega

theorem CoordFits.isWritable {c : Coord} (h : CoordFits c) : (coordToJson c).IsWritable :=
  .object (by simp) (by
    simpa using ⟨IsWritable.int (isWhole64_natCast h.row), .int (isWhole64_natCast h.col)⟩)

theorem Range.WellFormed.isWritable {r : Range} (h : r.WellFormed) : r.toJson.IsWritable := by
  have hmax : (Json.ofOption (fun n : Nat => .int n) r.maxCount).IsWritable :=
    .ofOption fun n hn => .int (isWhole64_natCast (h.maxCount n hn))
  rw [Range.toJson_eq]
  exact .object (by simp) (by simpa using ⟨h.coord.isWritable, .string _, hmax⟩)

theorem isWritable_scalar (s : Scalar) : s.toJson.IsWritable := by
  cases s with
  | bool b => exact .bool b
  | int n =>
    refine .int ?_
    have hlo := Int64.le_toInt n
    have hhi := Int64.toInt_lt n
    unfold IsWhole64
    omega
  | float x => exact .float x
  | nonFinite x => exact .null
  | text s => exact .string s

theorem Source.WellFormed.isWritable {s : Source} (h : s.WellFormed) : s.toJson.IsWritable := by
  cases s with
  | cell c => exact CoordFits.isWritable h
  | range r => exact Range.WellFormed.isWritable h
  | value s => exact .object (by simp) (by simpa using isWritable_scalar s)

theorem isWritable_params (p : Params) : p.toJson.IsWritable := by
  have hpattern : (Json.ofOption .string (p.pattern.map (·.source))).IsWritable :=
    .ofOption fun s _ => .string s
  have hdefault : (Json.ofOption Scalar.toJson p.default).IsWritable :=
    .ofOption fun s _ => isWritable_scalar s
  rw [Params.toJson_eq]
  exact .object (by simp) (by simpa using ⟨hpattern, hdefault, .bool _, .string _⟩)

theorem Extractor.WellFormed.isWritable {e : Extractor} (h : e.WellFormed) (role : Role) :
    (e.toJson role).IsWritable :=
  .object (by simp [Extractor.members]) (by
    simpa [Extractor.members] using ⟨h.source.isWritable, isWritable_params _, .string _⟩)

theorem Dimension.WellFormed.isWritable {d : Dimension} (h : d.WellFormed) :
    d.toJson.IsWritable :=
  .object (by simp [Extractor.members]) (by
    simpa [Extractor.members] using
      ⟨.string _, h.extractor.source.isWritable, isWritable_params _, .string _⟩)

theorem TitleId.WellFormed.isWritable {t : TitleId} (h : t.WellFormed) : t.toJson.IsWritable :=
  .object (by simp [Extractor.members]) (by
    simpa [Extractor.members] using
      ⟨.string _, h.source.isWritable, isWritable_params _, .string _⟩)

/-- A date object is writable if its origin is. -/
theorem isWritable_dateMembers {key : String} (hkey : key = "source" ∨ key = "composed") {v : Json}
    (hv : v.IsWritable) (p : Params) (format : Option String) :
    (Json.object ((key, v) :: dateMembers p format)).IsWritable := by
  have hparams := isWritable_params p
  rcases hkey with rfl | rfl <;> cases format with
  | none =>
    exact .object (by simp [dateMembers]) (by simpa [dateMembers] using ⟨hv, hparams, .string _⟩)
  | some text =>
    exact .object (by simp [dateMembers])
      (by simpa [dateMembers] using ⟨hv, hparams, .string _, .string _⟩)

theorem DatePart.WellFormed.isWritable {p : DatePart} (h : p.WellFormed) : p.toJson.IsWritable :=
  isWritable_dateMembers (.inl rfl) h.source.isWritable _ _

theorem Composed.WellFormed.isWritable {c : Composed} (h : c.WellFormed) : c.toJson.IsWritable :=
  .object (by simp) (by simpa using ⟨h.year.isWritable, h.month.isWritable⟩)

theorem DateExtractor.WellFormed.isWritable {d : DateExtractor} (h : d.WellFormed) :
    d.toJson.IsWritable := by
  obtain ⟨origin, params, format⟩ := d
  cases origin with
  | direct s => exact isWritable_dateMembers (.inl rfl) (Source.WellFormed.isWritable h.origin) _ _
  | composed parts =>
    exact isWritable_dateMembers (.inr rfl) (Composed.WellFormed.isWritable h.origin) _ _

theorem HeaderRole.WellFormed.isWritable {r : HeaderRole} (h : r.WellFormed) :
    r.toJson.IsWritable := by
  cases r with
  | metric e => exact Extractor.WellFormed.isWritable h .metric
  | date d => exact DateExtractor.WellFormed.isWritable h

theorem DataHeaders.WellFormed.isWritable {h : DataHeaders} (hw : h.WellFormed) :
    h.toJson.IsWritable := by
  have hroles : (Json.array (h.roles.map HeaderRole.toJson)).IsWritable :=
    .list fun r hr => (hw.roles r hr).isWritable
  exact .object (by simp) (by simpa using ⟨hroles, hw.dataCells.isWritable, .string _⟩)

theorem Area.WellFormed.isWritable {a : Area} (h : a.WellFormed) : a.toJson.IsWritable := by
  have hextractor {role : Role} {o : Option Extractor} (ho : ∀ e ∈ o, e.WellFormed) :
      (Json.ofOption (Extractor.toJson role) o).IsWritable :=
    .ofOption fun e he => (ho e he).isWritable role
  have hdate : (Json.ofOption DateExtractor.toJson a.date).IsWritable :=
    .ofOption fun d hd => (h.date d hd).isWritable
  have htitleIds : (Json.array (a.titleIds.map TitleId.toJson)).IsWritable :=
    .list fun t ht => (h.titleIds t ht).isWritable
  have hdimensions : (Json.array (a.dimensions.map Dimension.toJson)).IsWritable :=
    .list fun d hd => (h.dimensions d hd).isWritable
  exact .object (by simp) (by
    simpa using
      ⟨h.headers.isWritable, hextractor h.metric, hdate, hextractor h.title, htitleIds,
        hdimensions, hextractor h.organization, .string _⟩)

end UsageGrid.Rules

namespace UsageGrid.Definition

open Rules Json

/-- **A text has room for a well-formed document.** -/
theorem WellFormed.isWritable {d : Definition} (h : d.WellFormed)
    (hconditions : ∀ c ∈ d.conditions, c.IsWritable) : d.toJson.IsWritable := by
  have hareas : (Json.array (d.areas.map Area.toJson)).IsWritable :=
    .list fun a ha => (h.areas a ha).isWritable
  have haliases (l : Aliases) : (Aliases.toJson l).IsWritable :=
    .list fun p _ => .array (by simpa using ⟨.string p.1, .string p.2⟩)
  have hformat : (formatNameToJson d.formatName).IsWritable :=
    .object (by simp) (by simpa using .string _)
  have hheuristics : (conditionsToJson d.conditions).IsWritable :=
    .object (by simp) (by simpa using ⟨.array hconditions, .string _⟩)
  have havailable : (Json.ofOption ofTexts d.availableMetrics).IsWritable :=
    .ofOption fun l _ => .texts l
  exact .object (by simp) (by
    simpa using
      ⟨.string _, hformat, .texts _, .texts _, .texts _, havailable, .string _, hareas,
        haliases _, haliases _, hheuristics, .string _⟩)

/-- **A document is read from its written form**, whatever the order of the members there. -/
theorem ofJson_canonical {d : Definition} (h : d.WellFormed)
    (hconditions : ∀ c ∈ d.conditions, c.IsProper) : ofJson d.toJson.canonical = .ok d := by
  have hdistinct := (h.isWritable fun c hc => (hconditions c hc).isWritable).distinct
  have hread : ofJson d.toJson = .ok d := definition_codec.complete d .root h
  have hsame : d.conditions.map Json.canonical = d.conditions :=
    (List.map_congr_left fun c hc => (hconditions c hc).canonical).trans (List.map_id _)
  exact (decode_canonical hdistinct hread).trans (by rw [hsame])

/-! ## Documents that have been read -/

/-- A document that has been read from a proper value. -/
def IsDecoded (d : Definition) : Prop := ∃ v : Json, v.IsProper ∧ ofJson v = .ok d

theorem isDecoded_of_ofText {text : String} {d : Definition} (h : ofText text = .ok d) :
    d.IsDecoded := by
  obtain ⟨v, hv, hd⟩ := bind_eq_ok.1 h
  exact ⟨v, isProper_of_parse (mapError_eq_ok.1 hv), hd⟩

theorem isProper_exampleDocument : exampleDocument.IsProper := by
  refine ⟨canonical_canonical _, fits_canonical ?_⟩
  simp [Fits, FitsMembers, FitsItems, exampleArea, exampleRange, exampleCoord, IsWhole64]

theorem fits_of_get? {known : List String} {v w : Json} {path : Path} {f : Fields} {key : String}
    (hv : v.Fits) (hf : Fields.of known v path = .ok f) (h : f.get? key = some w) : w.Fits := by
  obtain ⟨members, rfl, -, rfl⟩ := Fields.of_eq_ok.1 hf
  have hlookup : lookup members key = some w := (Option.filter_eq_some_iff.1 h).1
  obtain ⟨m, hm, rfl⟩ := Option.map_eq_some_iff.1 hlookup
  exact (fitsMembers_iff members).1 hv m (List.mem_of_find?_eq_some hm)

theorem decodeConditions_eq_ok {v : Json} {path : Path} {l : List Json}
    (h : decodeConditions v path = .ok l) :
    l = [] ∨ ∃ f, Fields.of ["conds", "kind"] v path = .ok f ∧ f.get? "conds" = some (.array l) := by
  simp only [decodeConditions, bind_eq_ok, pure_eq_ok] at h
  obtain ⟨f, hf, _, -, o, ho, rfl⟩ := h
  unfold Fields.leaf? at ho
  split at ho
  · rename_i w hget
    obtain ⟨l, hl, rfl⟩ := map_eq_ok.1 ho
    cases w with
    | array items =>
      have hitems : l = items :=
        Except.ok.inj ((mapError_eq_ok.1 hl).symm.trans (conditions_array items))
      exact .inr ⟨f, hf, hitems ▸ hget⟩
    | _ => cases hl
  · cases ho
    exact .inl rfl

/-- Where the conditions stand in what a document is read from. -/
theorem conditions_of_ofJson {v : Json} {d : Definition} (h : ofJson v = .ok d) :
    d.conditions = [] ∨ ∃ f w path g, Fields.of fieldNames v .root = .ok f ∧
      f.get? "heuristics" = some w ∧ Fields.of ["conds", "kind"] w path = .ok g ∧
      g.get? "conds" = some (.array d.conditions) := by
  simp only [ofJson, decode, bind_eq_ok] at h
  obtain ⟨f, hf, _, -, areas, -, h⟩ := h
  split at h
  · exact absurd h throw_bind_ne_ok
  simp only [bind_eq_ok, pure_eq_ok] at h
  obtain ⟨_, -, _, -, _, -, _, -, _, -, _, -, _, -, _, -, _, -, _, -, _, -, _, -, _, -, o, ho,
    rfl⟩ := h
  unfold Fields.part? at ho
  split at ho
  · rename_i w hget
    obtain ⟨l, hl, rfl⟩ := map_eq_ok.1 ho
    rcases decodeConditions_eq_ok hl with hnone | ⟨g, hg, hconds⟩
    · exact .inl hnone
    · exact .inr ⟨f, w, _, g, hf, hget, hg, hconds⟩
  · cases ho
    exact .inl rfl

namespace IsDecoded

variable {d : Definition} (h : d.IsDecoded)

include h

theorem wellFormed : d.WellFormed := by
  obtain ⟨v, -, hd⟩ := h
  exact definition_codec.sound v .root d hd

/-- **The conditions of a document that has been read are proper values.** -/
theorem conditions : ∀ c ∈ d.conditions, c.IsProper := by
  obtain ⟨v, hv, hd⟩ := h
  have hcanonical := decode_canonical hv.distinct hd
  rw [hv.canonical] at hcanonical
  have hsame : d = { d with conditions := d.conditions.map Json.canonical } :=
    Except.ok.inj (hd.symm.trans hcanonical)
  have hmap : d.conditions.map Json.canonical = d.conditions.map id := by
    rw [List.map_id]
    exact (congrArg Definition.conditions hsame).symm
  have hfits : ∀ c ∈ d.conditions, c.Fits := by
    rcases conditions_of_ofJson hd with hnone | ⟨f, w, path, g, hf, hw, hg, hconds⟩
    · rw [hnone]
      exact fun c hc => absurd hc List.not_mem_nil
    · have harray := fits_of_get? (fits_of_get? hv.fits hf hw) hg hconds
      exact (fitsItems_iff _).1 harray
  exact fun c hc => ⟨List.map_inj_left.1 hmap c hc, hfits c hc⟩

theorem isWritable : d.toJson.IsWritable :=
  h.wellFormed.isWritable fun c hc => (h.conditions c hc).isWritable

end IsDecoded

end UsageGrid.Definition

/-!
## How deep a document is nested

What a document writes of its own is nested to a fixed depth; only its conditions may be nested
deeper, and they stand as deep in it as in the text they were read from. So the written form of a
document that has been read is no deeper than the reader goes (`Definition.depth_toJson_le`).
-/

namespace UsageGrid.Rules

open Json

/-! ## 1. The parts of a document -/

theorem depth_scalar (s : Scalar) : s.toJson.depth = 0 := by
  cases s <;> rfl

theorem depth_source_le (s : Source) : s.toJson.depth ≤ 2 := by
  cases s with
  | cell c => exact Nat.le_succ 1
  | range r =>
    have hcoord : (coordToJson r.coord).depth ≤ 1 := Nat.le_refl 1
    have hmax : (ofOption (fun n : Nat => .int n) r.maxCount).depth ≤ 1 :=
      depth_ofOption_le (fun _ => Nat.zero_le 1) _
    show r.toJson.depth ≤ 2
    rw [Range.toJson_eq]
    exact depth_object_le (by simpa using ⟨hcoord, hmax⟩)
  | value s => exact depth_object_le (by simp [depth_scalar])

theorem depth_params_le (p : Params) : p.toJson.depth ≤ 2 := by
  have hpattern : (ofOption .string (p.pattern.map (·.source))).depth ≤ 1 :=
    depth_ofOption_le (fun _ => Nat.zero_le 1) _
  have hdefault := depth_ofOption_le (fun s => (depth_scalar s).trans_le (Nat.zero_le 1)) p.default
  rw [Params.toJson_eq]
  exact depth_object_le (by simpa using ⟨hpattern, hdefault⟩)

theorem depth_extractor_le (role : Role) (e : Extractor) : (e.toJson role).depth ≤ 3 :=
  depth_object_le (by
    simpa [Extractor.members] using ⟨depth_source_le e.source, depth_params_le e.params⟩)

theorem depth_dimension_le (d : Dimension) : d.toJson.depth ≤ 3 :=
  depth_object_le (by
    simpa [Extractor.members] using
      ⟨depth_source_le d.extractor.source, depth_params_le d.extractor.params⟩)

theorem depth_titleId_le (t : TitleId) : t.toJson.depth ≤ 3 :=
  depth_object_le (by
    simpa [Extractor.members] using
      ⟨depth_source_le t.extractor.source, depth_params_le t.extractor.params⟩)

/-- A date object is one deeper than its origin. -/
theorem depth_dateMembers_le {key : String} {v : Json} {n : Nat} (hv : v.depth ≤ n + 2) (p : Params)
    (format : Option String) : (Json.object ((key, v) :: dateMembers p format)).depth ≤ n + 3 := by
  have hparams := (depth_params_le p).trans (Nat.le_add_left 2 n)
  refine depth_object_le ?_
  cases format <;> simpa [dateMembers] using ⟨hv, hparams⟩

theorem depth_datePart_le (p : DatePart) : p.toJson.depth ≤ 3 :=
  depth_dateMembers_le (n := 0) (depth_source_le p.source) _ _

theorem depth_composed_le (c : Composed) : c.toJson.depth ≤ 4 :=
  depth_object_le (by simpa using ⟨depth_datePart_le c.year, depth_datePart_le c.month⟩)

theorem depth_dateExtractor_le (d : DateExtractor) : d.toJson.depth ≤ 5 := by
  obtain ⟨origin, params, format⟩ := d
  cases origin with
  | direct s =>
    exact depth_dateMembers_le (n := 2) ((depth_source_le s).trans (by decide)) _ _
  | composed parts => exact depth_dateMembers_le (n := 2) (depth_composed_le parts) _ _

theorem depth_role_le (r : HeaderRole) : r.toJson.depth ≤ 5 := by
  cases r with
  | metric e => exact (depth_extractor_le .metric e).trans (by decide)
  | date d => exact depth_dateExtractor_le d

theorem depth_headers_le (h : DataHeaders) : h.toJson.depth ≤ 7 := by
  have hroles := depth_list_le (l := h.roles) fun r _ => depth_role_le r
  have hcells : h.dataCells.toJson.depth ≤ 6 :=
    (depth_source_le (.range h.dataCells)).trans (by decide)
  exact depth_object_le (by simpa using ⟨hroles, hcells⟩)

theorem depth_area_le (a : Area) : a.toJson.depth ≤ 8 := by
  have hextractor {role : Role} (o : Option Extractor) :
      (Json.ofOption (Extractor.toJson role) o).depth ≤ 7 :=
    depth_ofOption_le (fun e => (depth_extractor_le role e).trans (by decide)) o
  have hdate : (Json.ofOption DateExtractor.toJson a.date).depth ≤ 7 :=
    depth_ofOption_le (fun d => (depth_dateExtractor_le d).trans (by decide)) a.date
  have htitleIds : (Json.array (a.titleIds.map TitleId.toJson)).depth ≤ 7 :=
    (depth_list_le fun t _ => depth_titleId_le t).trans (by decide)
  have hdimensions : (Json.array (a.dimensions.map Dimension.toJson)).depth ≤ 7 :=
    (depth_list_le fun d _ => depth_dimension_le d).trans (by decide)
  exact depth_object_le (by
    simpa using ⟨depth_headers_le a.headers, hextractor a.metric, hdate,
      hextractor a.title, htitleIds, hdimensions, hextractor a.organization⟩)

end UsageGrid.Rules

namespace UsageGrid.Definition

open Rules Json

/-! ## 2. Documents -/

/-- A document is as deep as what it has of its own, or as its conditions, which stand three levels
    down. -/
theorem depth_toJson_le_of {d : Definition} {n : Nat} (hown : 7 ≤ n)
    (hconditions : ∀ c ∈ d.conditions, c.depth ≤ n) : d.toJson.depth ≤ n + 3 := by
  have hareas : (Json.array (d.areas.map Area.toJson)).depth ≤ n + 2 :=
    depth_list_le fun a _ => (depth_area_le a).trans (Nat.succ_le_succ hown)
  have htexts (l : List String) : (ofTexts l).depth ≤ n + 2 :=
    (depth_texts_le l).trans (Nat.le_add_left 1 (n + 1))
  have hpair (p : String × String) : (Json.array [.string p.1, .string p.2]).depth ≤ n + 1 :=
    Nat.succ_le_succ (Nat.zero_le n)
  have haliases (l : Aliases) : (Aliases.toJson l).depth ≤ n + 2 :=
    depth_list_le fun p _ => hpair p
  have hformat : (formatNameToJson d.formatName).depth ≤ n + 2 :=
    depth_object_le (by simp)
  have hheuristics : (conditionsToJson d.conditions).depth ≤ n + 2 :=
    depth_object_le (by simpa using depth_array_le hconditions)
  have havailable : (Json.ofOption ofTexts d.availableMetrics).depth ≤ n + 2 :=
    depth_ofOption_le htexts _
  exact depth_object_le (by
    simpa using
      ⟨hformat, htexts _, htexts _, htexts _, havailable, hareas, haliases _, haliases _,
        hheuristics⟩)

/-- What stands in an object is less deep. -/
theorem depth_of_get? {known : List String} {v w : Json} {path : Path} {f : Fields} {key : String}
    (hf : Fields.of known v path = .ok f) (h : f.get? key = some w) : w.depth + 1 ≤ v.depth := by
  obtain ⟨members, rfl, -, rfl⟩ := Fields.of_eq_ok.1 hf
  have hlookup : lookup members key = some w := (Option.filter_eq_some_iff.1 h).1
  obtain ⟨m, hm, rfl⟩ := Option.map_eq_some_iff.1 hlookup
  exact Nat.succ_le_succ (depthMembers_le.1 le_rfl m (List.mem_of_find?_eq_some hm))

/-- The conditions stand three levels down in what the document is read from. -/
theorem depth_conditions {v : Json} {d : Definition} (h : ofJson v = .ok d) :
    ∀ c ∈ d.conditions, c.depth + 3 ≤ v.depth := by
  rcases conditions_of_ofJson h with hnone | ⟨f, w, path, g, hf, hw, hg, hconds⟩
  · rw [hnone]
    exact fun c hc => absurd hc List.not_mem_nil
  · intro c hc
    have hitem : c.depth + 1 ≤ (Json.array d.conditions).depth :=
      Nat.succ_le_succ (depthItems_le.1 le_rfl c hc)
    have harray := depth_of_get? hg hconds
    have hobject := depth_of_get? hf hw
    omega

/-- **A document that has been read can be read again where it is written**: it is no deeper than
    the reader goes. -/
theorem depth_toJson_le {text : String} {d : Definition} (h : ofText text = .ok d) :
    d.toJson.depth ≤ depthLimit := by
  obtain ⟨v, hv, hd⟩ := bind_eq_ok.1 h
  obtain ⟨w, hgives, rfl⟩ := parse_eq_ok.1 (mapError_eq_ok.1 hv)
  have hdepth : w.canonical.depth ≤ depthLimit :=
    (depth_canonical_le w).trans (depth_read (read_eq_ok.2 hgives))
  refine depth_toJson_le_of (n := 124) (by decide) fun c hc => ?_
  have := (depth_conditions hd c hc).trans hdepth
  unfold depthLimit at this
  omega

end UsageGrid.Definition
