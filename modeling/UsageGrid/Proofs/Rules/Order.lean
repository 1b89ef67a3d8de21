import UsageGrid.Proofs.Json.Canonical
import UsageGrid.Proofs.Rules.Definition

/-!
# The order of members makes no difference

A stored document is put into canonical form before it is read, and then it is read as it would have
been read before (`Orderless`, `decode_canonical`). Only conditions keep what was written: these are
canonical themselves afterwards. That no key comes twice is all that is needed of the value.
-/

namespace UsageGrid.Rules

open Json

variable {α : Type}

/-- What is read from a value with distinct keys is read from its canonical form as well. -/
def Orderless (decode : Decoder α) : Prop :=
  ∀ v path a, v.Distinct → decode v path = .ok a → decode v.canonical path = .ok a

/-- The same of a value of a fixed type. -/
def OrderlessLeaf (type : Typed α) : Prop :=
  ∀ v a, v.Distinct → type v = .ok a → type v.canonical = .ok a

/-! ## 1. Objects -/

theorem lookup_map (g : Json → Json) (members : List (String × Json)) (key : String) :
    lookup (members.map fun (k, v) => (k, g v)) key = (lookup members key).map g := by
  induction members with
  | nil => rfl
  | cons m rest ih =>
    obtain ⟨k, v⟩ := m
    unfold lookup at ih ⊢
    rw [List.map_cons, List.find?_cons, List.find?_cons]
    dsimp only
    cases (k == key) with
    | true => rfl
    | false => exact ih

theorem map_fst_canonicalMembers (members : List (String × Json)) :
    (canonicalMembers members).map (·.1) = members.map (·.1) := by
  rw [canonicalMembers_eq, List.map_map]
  rfl

theorem isNull_canonical (v : Json) : v.canonical.isNull = v.isNull := by
  cases v <;> rfl

section

variable {members : List (String × Json)} (h : (members.map (·.1)).Nodup)

include h

theorem lookup_canonical (key : String) :
    lookup (sortMembers (canonicalMembers members)) key
      = (lookup members key).map canonical := by
  rw [lookup_sortMembers (by rwa [map_fst_canonicalMembers]), canonicalMembers_eq]
  exact lookup_map canonical members key

theorem mem_keys_canonical (key : String) :
    key ∈ (sortMembers (canonicalMembers members)).map (·.1) ↔ key ∈ members.map (·.1) := by
  have hperm : (sortMembers (canonicalMembers members)).Perm (canonicalMembers members) :=
    sortMembers_perm (by rwa [map_fst_canonicalMembers])
  rw [(hperm.map _).mem_iff, map_fst_canonicalMembers]

end

/-- The same object with its members in order. -/
structure Fields.Sorts (f f' : Fields) : Prop where
  path : f'.path = f.path
  get? : ∀ key, f'.get? key = (f.get? key).map canonical
  distinct : ∀ key v, f.get? key = some v → v.Distinct

theorem Fields.of_eq_ok {known : List String} {v : Json} {path : Path} {f : Fields} :
    Fields.of known v path = .ok f ↔
      ∃ members, v = .object members ∧ (∀ k ∈ members.map (·.1), k ∈ known) ∧
        f = ⟨members, path⟩ := by
  unfold Fields.of
  cases v with
  | object members =>
    dsimp only
    cases hfind : members.find? fun (k, _) => !known.contains k with
    | some m =>
      obtain ⟨k, v⟩ := m
      have hunknown : k ∉ known := by simpa using List.find?_some hfind
      refine ⟨fun h => (nomatch h), ?_⟩
      rintro ⟨_, ⟨⟩, hknown, -⟩
      exact absurd (hknown k (List.mem_map_of_mem (List.mem_of_find?_eq_some hfind))) hunknown
    | none =>
      have hknown : ∀ k ∈ members.map (·.1), k ∈ known := by
        intro k hk
        obtain ⟨m, hm, rfl⟩ := List.mem_map.1 hk
        simpa using List.find?_eq_none.1 hfind m hm
      constructor
      · intro h
        exact ⟨members, rfl, hknown, (Except.ok.inj h).symm⟩
      · rintro ⟨_, ⟨⟩, -, rfl⟩
        rfl
  | _ =>
    refine ⟨fun h => (nomatch h), ?_⟩
    rintro ⟨_, ⟨⟩, -⟩

theorem Fields.of_canonical {known : List String} {v : Json} {path : Path} {f : Fields}
    (hv : v.Distinct) (h : Fields.of known v path = .ok f) :
    ∃ f', Fields.of known v.canonical path = .ok f' ∧ f.Sorts f' := by
  obtain ⟨members, rfl, hknown, rfl⟩ := Fields.of_eq_ok.1 h
  have hnodup := hv.1
  refine ⟨⟨sortMembers (canonicalMembers members), path⟩, ?_, rfl, fun key => ?_, ?_⟩
  · exact Fields.of_eq_ok.2
      ⟨_, rfl, fun k hk => hknown k ((mem_keys_canonical hnodup k).1 hk), rfl⟩
  · show Option.filter _ _ = Option.map _ (Option.filter _ _)
    rw [lookup_canonical hnodup]
    cases lookup members key with
    | none => rfl
    | some v =>
      simp only [Option.map_some, Option.filter, isNull_canonical]
      split <;> rfl
  · intro key v hget
    have hlookup : lookup members key = some v := (Option.filter_eq_some_iff.1 hget).1
    exact (distinctMembers_iff members).1 hv.2 _ ((lookup_eq_some_iff hnodup).1 hlookup)

/-! ## 2. Fields -/

namespace Fields.Sorts

variable {f f' : Fields} (s : f.Sorts f') {key : String}

include s

theorem place (key : String) : f'.place key = f.place key := congrArg (·.key key) s.path

theorem has (key : String) : f'.has key = f.has key := by
  unfold Fields.has
  rw [s.get?, Option.isSome_map]

theorem part {decode : Decoder α} (hd : Orderless decode) {a : α}
    (h : f.part key decode = .ok a) : f'.part key decode = .ok a := by
  simp only [Fields.part, bind_eq_ok, Fields.required] at h
  obtain ⟨v, hv, h⟩ := h
  split at hv
  · rename_i hget
    cases hv
    refine Fields.part_of_get? (v := v.canonical) (by rw [s.get?, hget]; rfl) ?_
    rw [s.place]
    exact hd v _ a (s.distinct _ _ hget) h
  · cases hv

theorem part?_eq {decode decode' : Decoder α} {g : α → α} {o : Option α}
    (hd : ∀ v path a, v.Distinct → decode v path = .ok a → decode' v.canonical path = .ok (g a))
    (h : f.part? key decode = .ok o) : f'.part? key decode' = .ok (o.map g) := by
  unfold Fields.part? at h ⊢
  rw [s.get?, s.place]
  split at h
  · rename_i v hget
    obtain ⟨a, ha, rfl⟩ := map_eq_ok.1 h
    rw [hget]
    show (decode' v.canonical _).map _ = _
    rw [hd v _ a (s.distinct _ _ hget) ha]
    rfl
  · rename_i hget
    cases h
    rw [hget]
    rfl

theorem part? {decode : Decoder α} (hd : Orderless decode) {o : Option α}
    (h : f.part? key decode = .ok o) : f'.part? key decode = .ok o := by
  have h' := s.part?_eq (g := id) hd h
  rwa [Option.map_id, id] at h'

theorem leaf {type : Typed α} (ht : OrderlessLeaf type) {a : α} (h : f.leaf key type = .ok a) :
    f'.leaf key type = .ok a := by
  simp only [Fields.leaf, bind_eq_ok, Fields.required, Fields.ofLeaf, mapError_eq_ok] at h
  obtain ⟨v, hv, h⟩ := h
  split at hv
  · rename_i hget
    cases hv
    exact Fields.leaf_of_get? (by rw [s.get?, hget]; rfl) (ht v a (s.distinct _ _ hget) h)
  · cases hv

theorem leaf? {type : Typed α} (ht : OrderlessLeaf type) {o : Option α}
    (h : f.leaf? key type = .ok o) : f'.leaf? key type = .ok o := by
  unfold Fields.leaf? at h
  split at h
  · rename_i v hget
    obtain ⟨a, ha, rfl⟩ := map_eq_ok.1 h
    exact Fields.leaf?_of_get? (by rw [s.get?, hget]; rfl)
      (ht v a (s.distinct _ _ hget) (mapError_eq_ok.1 ha))
  · rename_i hget
    cases h
    exact Fields.leaf?_of_none (by rw [s.get?, hget]; rfl)

theorem word {wanted : String} {isRequired : Bool} (h : f.word key wanted isRequired = .ok ()) :
    f'.word key wanted isRequired = .ok () := by
  unfold Fields.word at h ⊢
  rw [s.get?]
  cases hget : f.get? key with
  | none =>
    rw [hget] at h
    dsimp only [Option.map_none] at h ⊢
    split at h
    · cases h
    · rename_i hoptional
      rw [if_neg hoptional]
  | some v =>
    rw [hget] at h
    cases v with
    | string text =>
      rw [s.place]
      exact h
    | _ => cases h

end Fields.Sorts

theorem orderless_items {decode : Decoder α} (hd : Orderless decode) {path : Path}
    {items : List Json} (hitems : ∀ v ∈ items, v.Distinct) {i : Nat} {as : List α}
    (h : decodeItems decode path i items = .ok as) :
    decodeItems decode path i (items.map canonical) = .ok as := by
  induction items generalizing i as with
  | nil => exact h
  | cons v rest ih =>
    simp only [decodeItems, bind_eq_ok, pure_eq_ok] at h
    obtain ⟨a, ha, as, has, rfl⟩ := h
    obtain ⟨hv, hrest⟩ := List.forall_mem_cons.1 hitems
    rw [List.map_cons, decodeItems, hd v _ a hv ha, ok_bind, ih hrest has]
    rfl

theorem orderless_list {decode : Decoder α} (hd : Orderless decode) :
    Orderless (decodeList decode) := by
  intro v path as hv h
  unfold decodeList at h
  split at h
  · rename_i items
    show decodeItems decode path 0 (canonicalItems items) = _
    rw [canonicalItems_eq]
    exact orderless_items hd ((distinctItems_iff items).1 hv) h
  · cases h

theorem Fields.Sorts.parts {f f' : Fields} (s : f.Sorts f') {key : String} {decode : Decoder α}
    (hd : Orderless decode) {as : List α} (h : f.parts key decode = .ok as) :
    f'.parts key decode = .ok as := by
  unfold Fields.parts at h ⊢
  rw [s.get?, s.place]
  split at h
  · rename_i v hget
    rw [hget]
    exact orderless_list hd v _ as (s.distinct _ _ hget) h
  · rename_i hget
    rw [hget]
    exact h

/-! ## 3. Leaves -/

theorem orderless_string : OrderlessLeaf asString := by
  intro v a _ h
  cases v with
  | string s => exact h
  | _ => cases h

theorem orderless_bool : OrderlessLeaf asBool := by
  intro v a _ h
  cases v with
  | bool b => exact h
  | _ => cases h

theorem orderless_scalar : OrderlessLeaf Scalar.read := by
  intro v a _ h
  cases v with
  | array items => cases h
  | object members => cases h
  | _ => exact h

/-- A word may stand as the key of an object with one member. -/
theorem orderless_word (words : List (String × α)) : OrderlessLeaf (asWord words) := by
  intro v a _ h
  cases v with
  | object members =>
    match members with
    | [(k, w)] =>
      have hcanonical : (Json.object [(k, w)]).canonical = .object [(k, w.canonical)] := rfl
      rw [hcanonical]
      unfold asWord wordAndContent at h ⊢
      dsimp only [ok_bind] at h ⊢
      split at h
      · cases h
      · cases w with
        | null => exact h
        | _ => cases h
    | [] => cases h
    | _ :: _ :: _ => cases h
  | string s => exact h
  | _ => cases h

theorem asItems_canonical {type : Typed α} (ht : OrderlessLeaf type) {items : List Json}
    (hitems : ∀ v ∈ items, v.Distinct) {i : Nat} {as : List α}
    (h : asItems type i items = .ok as) : asItems type i (items.map canonical) = .ok as := by
  induction items generalizing i as with
  | nil => exact h
  | cons v rest ih =>
    simp only [asItems, bind_eq_ok, pure_eq_ok, mapError_eq_ok] at h
    obtain ⟨a, ha, as, has, rfl⟩ := h
    obtain ⟨hv, hrest⟩ := List.forall_mem_cons.1 hitems
    rw [List.map_cons, asItems, ht v a hv ha, mapError_ok, ok_bind, ih hrest has]
    rfl

theorem orderless_asList {type : Typed α} (ht : OrderlessLeaf type) :
    OrderlessLeaf (asList type) := by
  intro v as hv h
  cases v with
  | array items =>
    show asItems type 0 (canonicalItems items) = _
    rw [canonicalItems_eq]
    exact asItems_canonical ht ((distinctItems_iff items).1 hv) h
  | _ => cases h

theorem orderless_pair : OrderlessLeaf (asPair asString asString) := by
  intro v a hv h
  cases v with
  | array items =>
    match items with
    | [x, y] =>
      obtain ⟨hx, hy, -⟩ := hv
      simp only [asPair, bind_eq_ok, mapError_eq_ok] at h
      obtain ⟨s, hs, t, ht, h⟩ := h
      show asPair asString asString (.array [x.canonical, y.canonical]) = _
      simp only [asPair, orderless_string x s hx hs, orderless_string y t hy ht, mapError_ok,
        ok_bind]
      exact h
    | [] => cases h
    | [x] =>
      simp only [asPair, bind_eq_ok] at h
      obtain ⟨_, -, h⟩ := h
      cases h
    | x :: y :: z :: rest =>
      simp only [asPair, bind_eq_ok] at h
      obtain ⟨_, -, _, -, h⟩ := h
      exact absurd h throw_ne_ok
  | _ => cases h

/-! ## 4. Sources and parameters -/

theorem orderless_count : Orderless decodeCount := by
  intro v path n _ h
  cases v with
  | int k => exact h
  | _ => cases h

theorem orderless_maxCount : Orderless Range.decodeMaxCount := by
  intro v path n _ h
  cases v with
  | int k => exact h
  | _ => cases h

theorem orderless_coord : Orderless decodeCoord := by
  intro v path c hv h
  simp only [decodeCoord, bind_eq_ok, pure_eq_ok] at h
  obtain ⟨f, hf, row, hrow, col, hcol, rfl⟩ := h
  obtain ⟨f', hf', s⟩ := Fields.of_canonical hv hf
  unfold decodeCoord
  rw [hf', ok_bind, s.part orderless_count hrow, ok_bind, s.part orderless_count hcol]
  rfl

theorem orderless_range : Orderless Range.decode := by
  intro v path r hv h
  simp only [Range.decode, bind_eq_ok, pure_eq_ok] at h
  obtain ⟨f, hf, maxCount, hmax, coord, hcoord, direction, hdirection, rfl⟩ := h
  obtain ⟨f', hf', s⟩ := Fields.of_canonical hv hf
  unfold Range.decode
  rw [hf', ok_bind, s.part? orderless_maxCount hmax, ok_bind, s.part orderless_coord hcoord,
    ok_bind, s.leaf (orderless_word _) hdirection]
  rfl

theorem orderless_value : Orderless Source.decodeValue := by
  intro v path a hv h
  simp only [Source.decodeValue, bind_eq_ok] at h
  obtain ⟨f, hf, hvalue⟩ := h
  obtain ⟨f', hf', s⟩ := Fields.of_canonical hv hf
  unfold Source.decodeValue
  rw [hf', ok_bind, s.leaf orderless_scalar hvalue]

theorem orderless_shape (shape : Source.Shape) : Orderless (Source.decodeShape shape) := by
  intro v path a hv h
  cases shape with
  | coord =>
    obtain ⟨c, hc, rfl⟩ := map_eq_ok.1 h
    exact map_eq_ok.2 ⟨c, orderless_coord v path c hv hc, rfl⟩
  | range =>
    obtain ⟨r, hr, rfl⟩ := map_eq_ok.1 h
    exact map_eq_ok.2 ⟨r, orderless_range v path r hv hr, rfl⟩
  | value =>
    obtain ⟨x, hx, rfl⟩ := map_eq_ok.1 h
    exact map_eq_ok.2 ⟨x, orderless_value v path x hv hx, rfl⟩

/-- The shape shows in which keys there are. -/
theorem shapesOf_congr {keys keys' : List String} (h : ∀ key, key ∈ keys' ↔ key ∈ keys) :
    Source.shapesOf keys' = Source.shapesOf keys := by
  refine List.filter_congr fun shape _ => ?_
  rw [Bool.eq_iff_iff, List.any_eq_true, List.any_eq_true]
  exact exists_congr fun key => and_congr_left fun _ => h key

theorem orderless_source : Orderless Source.decode := by
  intro v path a hv h
  cases v with
  | object members =>
    have hkeys := mem_keys_canonical hv.1
    unfold Source.decode at h
    dsimp only at h
    split at h
    · cases h
    · rename_i hstray
      have hstray' : ((sortMembers (canonicalMembers members)).map (·.1)).find? Source.isStray
          = none :=
        List.find?_eq_none.2 fun key hkey => List.find?_eq_none.1 hstray key ((hkeys key).1 hkey)
      have hshapes := shapesOf_congr hkeys
      show Source.decode (.object (sortMembers (canonicalMembers members))) path = _
      unfold Source.decode
      dsimp only
      rw [hstray', hshapes]
      split at h
      · cases h
      · rename_i shape hshape
        exact orderless_shape shape _ path a hv h
      · cases h
  | _ => cases h

theorem orderless_params : Orderless Params.decode := by
  intro v path p hv h
  simp only [Params.decode, bind_eq_ok] at h
  obtain ⟨f, hf, regex, hregex, h⟩ := h
  obtain ⟨f', hf', s⟩ := Fields.of_canonical hv hf
  unfold Params.decode
  rw [hf', ok_bind, s.leaf? orderless_string hregex, ok_bind]
  cases regex with
  | none =>
    simp only [bind_eq_ok, pure_eq_ok] at h
    obtain ⟨pattern, rfl, default, hdefault, last, hlast, action, haction, rfl⟩ := h
    show (f'.leaf? "default" Scalar.read >>= _) = _
    rw [s.leaf? orderless_scalar hdefault, ok_bind, s.leaf? orderless_bool hlast, ok_bind,
      s.leaf? (orderless_word _) haction]
    rfl
  | some text =>
    simp only [bind_eq_ok, pure_eq_ok] at h
    obtain ⟨pattern, hpattern, default, hdefault, last, hlast, action, haction, rfl⟩ := h
    dsimp only
    rw [s.place, hpattern, ok_bind, s.leaf? orderless_scalar hdefault, ok_bind,
      s.leaf? orderless_bool hlast, ok_bind, s.leaf? (orderless_word _) haction]
    rfl

/-! ## 5. Extractors -/

namespace Fields.Sorts

variable {f f' : Fields} (s : f.Sorts f')

include s

theorem checkRole {role : Role} (h : Rules.checkRole f role = .ok ()) :
    Rules.checkRole f' role = .ok () := by
  simp only [Rules.checkRole, bind_eq_ok, Fields.required] at h
  obtain ⟨v, hv, h⟩ := h
  split at hv
  · rename_i hget
    cases hv
    cases v with
    | string text =>
      dsimp only at h
      split at h
      · rename_i htext
        subst htext
        exact checkRole_of_get? (by rw [s.get?, hget]; rfl)
      · exact absurd h throw_ne_ok
    | _ => exact absurd h throw_ne_ok
  · cases hv

theorem decodeParams {p : Params} (h : Rules.decodeParams f = .ok p) :
    Rules.decodeParams f' = .ok p := by
  obtain ⟨o, ho, rfl⟩ := map_eq_ok.1 h
  exact map_eq_ok.2 ⟨o, s.part? orderless_params ho, rfl⟩

theorem decodeDateFormat {format : Option String} (h : Rules.decodeDateFormat f = .ok format) :
    Rules.decodeDateFormat f' = .ok format := by
  simp only [Rules.decodeDateFormat, bind_eq_ok] at h
  obtain ⟨o, ho, h⟩ := h
  unfold Rules.decodeDateFormat
  rw [s.leaf? orderless_string ho, ok_bind, s.place]
  exact h

end Fields.Sorts

theorem orderless_extractor (role : Role) : Orderless (Extractor.decode role) := by
  intro v path e hv h
  simp only [Extractor.decode, bind_eq_ok, pure_eq_ok] at h
  obtain ⟨f, hf, _, hrole, source, hsource, params, hparams, rfl⟩ := h
  obtain ⟨f', hf', s⟩ := Fields.of_canonical hv hf
  unfold Extractor.decode
  rw [hf', ok_bind, s.checkRole hrole, ok_bind, s.part orderless_source hsource, ok_bind,
    s.decodeParams hparams]
  rfl

theorem orderless_dimension : Orderless Dimension.decode := by
  intro v path d hv h
  simp only [Dimension.decode, bind_eq_ok, pure_eq_ok] at h
  obtain ⟨f, hf, _, hrole, name, hname, _, hcheck, source, hsource, params, hparams, rfl⟩ := h
  obtain ⟨f', hf', s⟩ := Fields.of_canonical hv hf
  unfold Dimension.decode
  rw [hf', ok_bind, s.checkRole hrole, ok_bind, s.leaf orderless_string hname, ok_bind, s.place,
    hcheck, ok_bind, s.part orderless_source hsource, ok_bind, s.decodeParams hparams]
  rfl

theorem orderless_titleId : Orderless TitleId.decode := by
  intro v path t hv h
  simp only [TitleId.decode, bind_eq_ok, pure_eq_ok] at h
  obtain ⟨f, hf, _, hrole, kind, hkind, source, hsource, params, hparams, rfl⟩ := h
  obtain ⟨f', hf', s⟩ := Fields.of_canonical hv hf
  unfold TitleId.decode
  rw [hf', ok_bind, s.checkRole hrole, ok_bind, s.leaf (orderless_word _) hkind, ok_bind,
    s.part orderless_source hsource, ok_bind, s.decodeParams hparams]
  rfl

theorem orderless_datePart : Orderless DatePart.decode := by
  intro v path p hv h
  simp only [DatePart.decode, bind_eq_ok] at h
  obtain ⟨f, hf, _, hrole, h⟩ := h
  obtain ⟨f', hf', s⟩ := Fields.of_canonical hv hf
  split at h
  · exact absurd h throw_bind_ne_ok
  · rename_i hcomposed
    simp only [bind_eq_ok, pure_eq_ok] at h
    obtain ⟨source, hsource, params, hparams, format, hformat, rfl⟩ := h
    unfold DatePart.decode
    rw [hf', ok_bind, s.checkRole hrole, ok_bind, s.has, if_neg hcomposed]
    show (f'.part "source" Source.decode >>= _) = _
    rw [s.part orderless_source hsource, ok_bind, s.decodeParams hparams, ok_bind,
      s.decodeDateFormat hformat]
    rfl

theorem orderless_composed : Orderless Composed.decode := by
  intro v path c hv h
  simp only [Composed.decode, bind_eq_ok, pure_eq_ok] at h
  obtain ⟨f, hf, year, hyear, month, hmonth, rfl⟩ := h
  obtain ⟨f', hf', s⟩ := Fields.of_canonical hv hf
  unfold Composed.decode
  rw [hf', ok_bind, s.part orderless_datePart hyear, ok_bind, s.part orderless_datePart hmonth]
  rfl

theorem Fields.Sorts.decodeOrigin {f f' : Fields} (s : f.Sorts f') {o : DateOrigin}
    (h : DateExtractor.decodeOrigin f = .ok o) : DateExtractor.decodeOrigin f' = .ok o := by
  unfold DateExtractor.decodeOrigin at h ⊢
  rw [s.has, s.has]
  split at h
  · obtain ⟨source, hsource, rfl⟩ := map_eq_ok.1 h
    exact map_eq_ok.2 ⟨source, s.part orderless_source hsource, rfl⟩
  · obtain ⟨parts, hparts, rfl⟩ := map_eq_ok.1 h
    exact map_eq_ok.2 ⟨parts, s.part orderless_composed hparts, rfl⟩
  · cases h
  · cases h

theorem orderless_dateExtractor : Orderless DateExtractor.decode := by
  intro v path d hv h
  simp only [DateExtractor.decode, bind_eq_ok, pure_eq_ok] at h
  obtain ⟨f, hf, _, hrole, origin, horigin, params, hparams, format, hformat, rfl⟩ := h
  obtain ⟨f', hf', s⟩ := Fields.of_canonical hv hf
  unfold DateExtractor.decode
  rw [hf', ok_bind, s.checkRole hrole, ok_bind, s.decodeOrigin horigin, ok_bind,
    s.decodeParams hparams, ok_bind, s.decodeDateFormat hformat]
  rfl

/-! ## 6. Areas and documents -/

theorem orderless_headerRole : Orderless HeaderRole.decode := by
  intro v path r hv h
  unfold HeaderRole.decode at h ⊢
  have hrole : (v.canonical.get? "role").filter (fun r => !r.isNull)
      = ((v.get? "role").filter fun r => !r.isNull).map canonical := by
    cases v with
    | object members =>
      show (lookup (sortMembers (canonicalMembers members)) "role").filter _
        = ((lookup members "role").filter _).map _
      rw [lookup_canonical hv.1]
      cases lookup members "role" with
      | none => rfl
      | some w =>
        simp only [Option.map_some, Option.filter, isNull_canonical]
        split <;> rfl
    | _ => rfl
  rw [hrole]
  split at h
  · cases h
  · rename_i text hget
    rw [hget]
    dsimp only [Option.map_some, Json.canonical]
    split at h
    · rename_i hmetric
      obtain ⟨e, he, rfl⟩ := map_eq_ok.1 h
      rw [if_pos hmetric]
      exact map_eq_ok.2 ⟨e, orderless_extractor .metric v path e hv he, rfl⟩
    · rename_i hmetric
      rw [if_neg hmetric]
      split at h
      · rename_i hdate
        obtain ⟨d, hd, rfl⟩ := map_eq_ok.1 h
        rw [if_pos hdate]
        exact map_eq_ok.2 ⟨d, orderless_dateExtractor v path d hv hd, rfl⟩
      · cases h
  · cases h

theorem orderless_dataHeaders : Orderless DataHeaders.decode := by
  intro v path a hv h
  simp only [DataHeaders.decode, bind_eq_ok, pure_eq_ok] at h
  obtain ⟨f, hf, direction, hdirection, cells, hcells, _, hacross, roles, hroles, _, hcheck, rfl⟩ :=
    h
  obtain ⟨f', hf', s⟩ := Fields.of_canonical hv hf
  unfold DataHeaders.decode
  rw [hf', ok_bind, s.leaf (orderless_word _) hdirection, ok_bind, s.part orderless_range hcells,
    ok_bind, s.place, hacross, ok_bind, s.parts orderless_headerRole hroles, ok_bind, s.place,
    hcheck]
  rfl

theorem orderless_area : Orderless Area.decode := by
  intro v path a hv h
  simp only [Area.decode, bind_eq_ok, pure_eq_ok] at h
  obtain ⟨f, hf, _, hkind, headers, hheaders, metric, hmetric, date, hdate, title, htitle, titleIds,
    htitleIds, dimensions, hdimensions, organization, horganization, _, hmetricOnce, _, hdateOnce,
    _, hnames, _, hkinds, rfl⟩ := h
  obtain ⟨f', hf', s⟩ := Fields.of_canonical hv hf
  unfold Area.decode
  rw [hf', ok_bind, s.word hkind, ok_bind, s.part orderless_dataHeaders hheaders, ok_bind,
    s.part? (orderless_extractor .metric) hmetric, ok_bind, s.part? orderless_dateExtractor hdate,
    ok_bind, s.part? (orderless_extractor .title) htitle, ok_bind,
    s.parts orderless_titleId htitleIds, ok_bind, s.parts orderless_dimension hdimensions, ok_bind,
    s.part? (orderless_extractor .organization) horganization, ok_bind]
  dsimp only
  rw [hmetricOnce, ok_bind, hdateOnce, ok_bind, s.place, hnames, ok_bind, s.place, hkinds]
  rfl

/-- Conditions are kept as they are, so they are in canonical form afterwards. -/
theorem decodeConditions_canonical {v : Json} {path : Path} {l : List Json} (hv : v.Distinct)
    (h : decodeConditions v path = .ok l) :
    decodeConditions v.canonical path = .ok (l.map canonical) := by
  simp only [decodeConditions, bind_eq_ok, pure_eq_ok] at h
  obtain ⟨f, hf, _, hkind, o, ho, rfl⟩ := h
  obtain ⟨f', hf', s⟩ := Fields.of_canonical hv hf
  have ho' : f'.leaf? "conds" (asList asAny) = .ok (o.map (List.map canonical)) := by
    unfold Fields.leaf? at ho
    split at ho
    · rename_i w hget
      obtain ⟨as, has, rfl⟩ := map_eq_ok.1 ho
      refine Fields.leaf?_of_get? (by rw [s.get?, hget]; rfl) ?_
      cases w with
      | array items =>
        obtain rfl := Except.ok.inj ((conditions_array items).symm.trans (mapError_eq_ok.1 has))
        show asList asAny (.array (canonicalItems items)) = _
        rw [canonicalItems_eq, conditions_array]
      | _ => cases has
    · rename_i hget
      cases ho
      exact Fields.leaf?_of_none (by rw [s.get?, hget]; rfl)
  unfold decodeConditions
  rw [hf', ok_bind, s.word hkind, ok_bind, ho']
  cases o <;> rfl

theorem orderless_formatName : Orderless decodeFormatName := by
  intro v path name hv h
  simp only [decodeFormatName, bind_eq_ok] at h
  obtain ⟨f, hf, hname⟩ := h
  obtain ⟨f', hf', s⟩ := Fields.of_canonical hv hf
  unfold decodeFormatName
  rw [hf', ok_bind, s.leaf orderless_string hname]

end UsageGrid.Rules

namespace UsageGrid.Definition

open Rules

/-- **A document is read from its canonical form as it was before**, with its conditions in
    canonical form. -/
theorem decode_canonical {v : Json} {path : Path} {d : Definition} (hv : v.Distinct)
    (h : decode v path = .ok d) :
    decode v.canonical path = .ok { d with conditions := d.conditions.map Json.canonical } := by
  simp only [decode, bind_eq_ok] at h
  obtain ⟨f, hf, _, hkind, areas, hareas, h⟩ := h
  obtain ⟨f', hf', s⟩ := Fields.of_canonical hv hf
  split at h
  · exact absurd h throw_bind_ne_ok
  rename_i hne
  simp only [bind_eq_ok, pure_eq_ok] at h
  obtain ⟨metricAliases, hma, _, hmetric, dimensionAliases, hda, _, hdimension, _, hreserved,
    _, hmerged, name, hname, format, hformat, platforms, hplatforms, metrics, hmetrics, titles,
    htitles, available, havailable, action, haction, conditions, hconditions, rfl⟩ := h
  have htexts : OrderlessLeaf texts := orderless_asList orderless_string
  have haliases : OrderlessLeaf Aliases.read := orderless_asList orderless_pair
  have hconditions' : f'.part? "heuristics" decodeConditions
      = .ok (conditions.map (List.map Json.canonical)) :=
    s.part?_eq (fun v path l hv h => decodeConditions_canonical hv h) hconditions
  unfold decode
  rw [hf', ok_bind, s.word hkind, ok_bind, s.parts orderless_area hareas, ok_bind, if_neg hne]
  show (f'.leaf? "metric_aliases" Aliases.read >>= _) = _
  rw [s.leaf? haliases hma, ok_bind, s.place]
  dsimp only
  rw [hmetric, ok_bind, s.leaf? haliases hda, ok_bind, s.place, hdimension, ok_bind, hreserved, ok_bind, s.place, hmerged, ok_bind,
    s.leaf orderless_string hname, ok_bind, s.part? orderless_formatName hformat, ok_bind,
    s.leaf? htexts hplatforms, ok_bind, s.leaf? htexts hmetrics, ok_bind, s.leaf? htexts htitles,
    ok_bind, s.leaf? htexts havailable, ok_bind, s.leaf? (orderless_word _) haction, ok_bind,
    hconditions']
  cases conditions <;> rfl

end UsageGrid.Definition
