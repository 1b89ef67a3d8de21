import UsageGrid.Rules.Params
import UsageGrid.Proofs.Rules.Codec
import UsageGrid.Proofs.Rules.WellFormed

/-!
# Sources and parameters, read and written

A source is an object of one of three shapes, and its decoder sees from the keys which one
(`source_codec`). The leaves below it are words, numbers and scalars; of these only a number that is
not finite, or one past 64 bits, is lost on the way.
-/

namespace UsageGrid.Rules

/-! ## 1. Words and scalars -/

theorem asWord_direction (d : Direction) :
    Json.asWord Direction.words (.string d.name) = .ok d := by
  cases d <;> rfl

theorem asWord_action (a : Action) : Json.asWord Action.words (.string a.name) = .ok a := by
  cases a <;> rfl

theorem asWord_titleIdKind (k : TitleIdKind) :
    Json.asWord TitleIdKind.words (.string k.name) = .ok k := by
  cases k <;> rfl

theorem isInt64_toInt (n : Int64) : Json.isInt64 n.toInt = true := by
  have hlo := Int64.le_toInt n
  have hhi := Int64.toInt_lt n
  simp only [Json.isInt64, Bool.and_eq_true, decide_eq_true_eq]
  exact ⟨hlo, hhi⟩

theorem isInt64_natCast {n : Nat} (h : FitsInt64 n) : Json.isInt64 n = true := by
  have h' : n < 2 ^ 63 := h
  simp only [Json.isInt64, Bool.and_eq_true, decide_eq_true_eq]
  have hpow : (Nat.pow 2 63 : Int) = 2 ^ 63 := rfl
  omega

theorem fitsInt64_toNat {n : Int} (h : Json.isInt64 n = true) : FitsInt64 n.toNat := by
  simp only [Json.isInt64, Bool.and_eq_true, decide_eq_true_eq] at h
  have hpow : (Nat.pow 2 63 : Int) = 2 ^ 63 := rfl
  show n.toNat < 2 ^ 63
  omega

namespace Scalar

theorem read_isFinite {v : Json} {s : Scalar} (h : read v = .ok s) : s.IsFinite := by
  unfold read at h
  split at h
  · cases h; trivial
  · split at h
    · cases h; trivial
    · split at h
      · cases h; trivial
      · cases h
  · cases h; trivial
  · cases h; trivial
  · cases h

theorem read_toJson {s : Scalar} (h : s.IsFinite) : read s.toJson = .ok s := by
  cases s with
  | bool b => rfl
  | int n => simp [read, toJson, isInt64_toInt]
  | float x => rfl
  | nonFinite x => exact h.elim
  | text s => rfl

theorem isNull_toJson {s : Scalar} (h : s.IsFinite) : s.toJson.isNull = false := by
  cases s with
  | nonFinite x => exact h.elim
  | _ => rfl

end Scalar

/-! ## 2. Cells and ranges -/

theorem count_codec : Codec decodeCount (fun n => .int n) FitsInt64 where
  sound v path n h := by
    unfold decodeCount at h
    split at h
    · split at h
      · cases h
      · rename_i hn
        split at h
        · cases h
        · cases h
          exact fitsInt64_toNat (by simpa using hn)
    · cases h
  complete n path h := by
    simp [decodeCount, isInt64_natCast h]

theorem maxCount_codec : Codec Range.decodeMaxCount (fun n => .int n) FitsInt64 where
  sound v path n h := by
    unfold Range.decodeMaxCount at h
    split at h
    · split at h
      · cases h
      · rename_i hn
        split at h
        · cases h
        · cases h
          exact fitsInt64_toNat (by simpa using hn)
    · cases h
  complete n path h := by
    simp [Range.decodeMaxCount, isInt64_natCast h]

theorem coord_codec : Codec decodeCoord coordToJson CoordFits where
  sound v path c h := by
    simp only [decodeCoord, bind_eq_ok, pure_eq_ok] at h
    obtain ⟨f, -, row, hrow, col, hcol, rfl⟩ := h
    exact ⟨count_codec.part_sound hrow, count_codec.part_sound hcol⟩
  complete c path h := by
    let f : Fields := ⟨[("row", .int c.row), ("col", .int c.col)], path⟩
    have hf : Fields.of ["row", "col"] (coordToJson c) path = .ok f := rfl
    have hrow : f.part "row" decodeCount = .ok c.row := count_codec.part rfl h.row
    have hcol : f.part "col" decodeCount = .ok c.col := count_codec.part rfl h.col
    unfold decodeCoord
    rw [hf, ok_bind, hrow, ok_bind, hcol]
    rfl

theorem Range.toJson_eq (r : Range) : r.toJson = .object [("coord", coordToJson r.coord),
    ("direction", .string r.direction.name),
    ("max_count", Json.ofOption (fun n : Nat => .int n) r.maxCount)] := by
  unfold Range.toJson
  cases r.maxCount <;> rfl

theorem range_codec : Codec Range.decode Range.toJson Range.WellFormed where
  sound v path r h := by
    simp only [Range.decode, bind_eq_ok, pure_eq_ok] at h
    obtain ⟨f, -, maxCount, hmax, coord, hcoord, direction, -, rfl⟩ := h
    exact ⟨coord_codec.part_sound hcoord, maxCount_codec.part?_sound hmax⟩
  complete r path h := by
    let f : Fields := ⟨[("coord", coordToJson r.coord), ("direction", .string r.direction.name),
      ("max_count", Json.ofOption (fun n : Nat => .int n) r.maxCount)], path⟩
    have hf : Fields.of ["coord", "direction", "max_count"] r.toJson path = .ok f := by
      rw [Range.toJson_eq]
      rfl
    have hmax : f.part? "max_count" Range.decodeMaxCount = .ok r.maxCount :=
      maxCount_codec.part? (Fields.get?_ofOption rfl fun _ _ => rfl) h.maxCount
    have hcoord : f.part "coord" decodeCoord = .ok r.coord := coord_codec.part rfl h.coord
    have hdirection : f.leaf "direction" (Json.asWord Direction.words) = .ok r.direction :=
      Fields.leaf_of_get? rfl (asWord_direction r.direction)
    unfold Range.decode
    rw [hf, ok_bind, hmax, ok_bind, hcoord, ok_bind, hdirection]
    rfl

/-! ## 3. Sources -/

theorem value_codec : Codec Source.decodeValue Source.valueToJson Scalar.IsFinite where
  sound v path s h := by
    simp only [Source.decodeValue, bind_eq_ok, Fields.leaf, Fields.ofLeaf, mapError_eq_ok] at h
    obtain ⟨f, -, w, -, hw⟩ := h
    exact Scalar.read_isFinite hw
  complete s path h := by
    let f : Fields := ⟨[("value", s.toJson)], path⟩
    have hf : Fields.of ["value"] (Source.valueToJson s) path = .ok f := rfl
    have hget : f.get? "value" = some s.toJson :=
      Fields.get?_of_lookup rfl (Scalar.isNull_toJson h)
    have hvalue : f.leaf "value" Scalar.read = .ok s :=
      Fields.leaf_of_get? hget (Scalar.read_toJson h)
    unfold Source.decodeValue
    rw [hf, ok_bind, hvalue]

theorem source_codec : Codec Source.decode Source.toJson Source.WellFormed where
  sound v path s h := by
    unfold Source.decode at h
    split at h
    · dsimp only at h
      split at h
      · cases h
      · split at h
        · cases h
        · rename_i shape _
          cases shape with
          | coord =>
            obtain ⟨c, hc, rfl⟩ := map_eq_ok.1 h
            exact coord_codec.sound _ _ c hc
          | range =>
            obtain ⟨r, hr, rfl⟩ := map_eq_ok.1 h
            exact range_codec.sound _ _ r hr
          | value =>
            obtain ⟨x, hx, rfl⟩ := map_eq_ok.1 h
            exact value_codec.sound _ _ x hx
        · cases h
    · cases h
  complete s path h := by
    cases s with
    | cell c =>
      show (decodeCoord (coordToJson c) path).map Source.cell = _
      rw [coord_codec.complete c path h]
      rfl
    | range r =>
      show (Range.decode r.toJson path).map Source.range = _
      rw [range_codec.complete r path h]
      rfl
    | value x =>
      show (Source.decodeValue (Source.valueToJson x) path).map Source.value = _
      rw [value_codec.complete x path h]
      rfl

theorem isNull_source (s : Source) : s.toJson.isNull = false := by
  cases s <;> rfl

/-! ## 4. Parameters -/

theorem decodePattern_source (q : Pattern) (path : Path) :
    Params.decodePattern path q.source = .ok q := by
  have hq : Pattern.ofText? q.source = .ok q := by
    unfold Pattern.ofText?
    split
    · rename_i h
      exact congrArg Except.ok (Pattern.eq_of_source rfl)
    · rename_i h
      exact nomatch q.reads.symm.trans h
  simp [Params.decodePattern, hq, mapError_ok]

theorem Params.toJson_eq (p : Params) : p.toJson = .object [
    ("regex", Json.ofOption .string (p.pattern.map (·.source))),
    ("default", Json.ofOption Scalar.toJson p.default),
    ("last_value_as_default", .bool p.lastAsDefault),
    ("on_validation_error", .string p.onError.name)] := by
  unfold Params.toJson
  cases p.pattern <;> cases p.default <;> rfl

theorem params_codec : Codec Params.decode Params.toJson Params.WellFormed where
  sound v path p h := by
    simp only [Params.decode, bind_eq_ok] at h
    obtain ⟨f, -, regex, -, h⟩ := h
    -- with and without a pattern the other fields are read alike
    have hrest : ∃ default, f.leaf? "default" Scalar.read = .ok default ∧ p.default = default := by
      split at h
      · simp only [bind_eq_ok, pure_eq_ok] at h
        obtain ⟨_, -, default, hdefault, _, -, _, -, rfl⟩ := h
        exact ⟨default, hdefault, rfl⟩
      · simp only [bind_eq_ok, pure_eq_ok] at h
        obtain ⟨_, -, default, hdefault, _, -, _, -, rfl⟩ := h
        exact ⟨default, hdefault, rfl⟩
    obtain ⟨default, hdefault, hp⟩ := hrest
    intro s hs
    obtain ⟨w, hw⟩ := Fields.leaf?_sound hdefault s (hp ▸ hs)
    exact Scalar.read_isFinite hw
  complete p path h := by
    let f : Fields := ⟨[("regex", Json.ofOption .string (p.pattern.map (·.source))),
      ("default", Json.ofOption Scalar.toJson p.default),
      ("last_value_as_default", .bool p.lastAsDefault),
      ("on_validation_error", .string p.onError.name)], path⟩
    have hf : Fields.of ["regex", "default", "last_value_as_default", "on_validation_error"]
        p.toJson path = .ok f := by
      rw [Params.toJson_eq]
      rfl
    have hregex : f.leaf? "regex" Json.asString = .ok (p.pattern.map (·.source)) :=
      Fields.leaf?_ofOption (Fields.get?_ofOption rfl fun _ _ => rfl) fun _ _ => rfl
    have hdefault : f.leaf? "default" Scalar.read = .ok p.default :=
      Fields.leaf?_ofOption
        (Fields.get?_ofOption rfl fun s hs => Scalar.isNull_toJson (h s hs))
        fun s hs => Scalar.read_toJson (h s hs)
    have hlast : f.leaf? "last_value_as_default" Json.asBool = .ok (some p.lastAsDefault) :=
      Fields.leaf?_of_get? rfl rfl
    have haction : f.leaf? "on_validation_error" (Json.asWord Action.words)
        = .ok (some p.onError) :=
      Fields.leaf?_of_get? rfl (asWord_action p.onError)
    unfold Params.decode
    rw [hf, ok_bind, hregex, ok_bind]
    obtain ⟨pattern, default, lastAsDefault, onError⟩ := p
    cases pattern with
    | none =>
      show (f.leaf? "default" Scalar.read >>= _) = _
      rw [hdefault, ok_bind, hlast, ok_bind, haction]
      rfl
    | some q =>
      dsimp only [Option.map_some]
      rw [decodePattern_source, map_ok, ok_bind, hdefault, ok_bind, hlast, ok_bind, haction]
      rfl

end UsageGrid.Rules
