import UsageGrid.Proofs.Json.Canonical
import UsageGrid.Proofs.Rules.Order
import UsageGrid.Proofs.Rules.Source
import UsageGrid.Rules.Example

/-!
# Which values are sources

A source is an object of one of three shapes. What it has to hold is said of its members
(`Source.IsHeldBy`): a row and a column, a coordinate and a direction with at most a count besides,
or a value. Main statement, `Source.decode_shape`: these objects are read, as the source that they
hold, and no other value is; the error is about the shape exactly where the keys belong to none or
to several (`Source.IsAmbiguous`).
-/

namespace UsageGrid.Rules

open Json

variable {α β : Type} {f : Fields} {key : String} {v : Json} {path : Path}
  {members : List (String × Json)}

/-! ## 1. What an object holds -/

/-- The object has no other keys than these. -/
def HasOnly (keys : List String) (members : List (String × Json)) : Prop :=
  ∀ k ∈ members.map (·.1), k ∈ keys

instance (keys : List String) (members : List (String × Json)) :
    Decidable (HasOnly keys members) :=
  inferInstanceAs (Decidable (∀ k ∈ members.map (·.1), k ∈ keys))

/-- The members of an address. -/
structure IsCoord (members : List (String × Json)) (c : Coord) : Prop where
  keys : HasOnly ["row", "col"] members
  row : lookup members "row" = some (.int c.row)
  col : lookup members "col" = some (.int c.col)
  fits : CoordFits c

/-- The word of a direction, which may stand as a key with nothing under it. -/
inductive IsDirection : Json → Direction → Prop
  | word (d : Direction) : IsDirection (.string d.name) d
  | key (d : Direction) : IsDirection (.object [(d.name, .null)]) d

/-- A count under a key: none where the key is absent or holds null. -/
inductive IsMaxCount : Option Json → Option Nat → Prop
  | absent : IsMaxCount none none
  | null : IsMaxCount (some .null) none
  | count {n : Nat} (fits : FitsInt64 n) : IsMaxCount (some (.int n)) (some n)

/-- The members of a range. -/
structure IsRange (members : List (String × Json)) (r : Range) : Prop where
  keys : HasOnly ["coord", "direction", "max_count"] members
  coord : ∃ ms, lookup members "coord" = some (.object ms) ∧ IsCoord ms r.coord
  direction : ∃ w, lookup members "direction" = some w ∧ IsDirection w r.direction
  maxCount : IsMaxCount (lookup members "max_count") r.maxCount

/-- A boolean, a number or a text, as the scalar that it is. A whole number is a floating one where
    it does not fit 64 bits with sign. -/
inductive IsScalar : Json → Scalar → Prop
  | bool (b : Bool) : IsScalar (.bool b) (.bool b)
  | int {n : Int} (fits : isInt64 n = true) : IsScalar (.int n) (.int (Int64.ofInt n))
  | past {n : Int} {x : Binary64} (past : isInt64 n = false)
      (nearest : Binary64.ofInt? n = some x) : IsScalar (.int n) (.float x)
  | float (x : Binary64) : IsScalar (.float x) (.float x)
  | text (s : String) : IsScalar (.string s) (.text s)

/-- The members of a value. -/
structure IsValue (members : List (String × Json)) (s : Scalar) : Prop where
  keys : HasOnly ["value"] members
  value : ∃ w, lookup members "value" = some w ∧ IsScalar w s

namespace Source

/-- The members are those of the source. -/
def IsHeldBy (members : List (String × Json)) : Source → Prop
  | .cell c => IsCoord members c
  | .range r => IsRange members r
  | .value s => IsValue members s

/-- There is no key, a key that belongs to no shape, or keys that belong to two. -/
def IsAmbiguous (members : List (String × Json)) : Prop :=
  members = [] ∨ (∃ k ∈ members.map (·.1), ∀ s : Shape, k ∉ s.keys) ∨
    ∃ s t : Shape, s ≠ t ∧ (∃ k ∈ members.map (·.1), k ∈ s.keys) ∧
      ∃ k ∈ members.map (·.1), k ∈ t.keys

end Source

/-! ## 2. Fields that are read -/

namespace Fields

theorem get?_eq_some : f.get? key = some v ↔ lookup f.members key = some v ∧ v.isNull = false := by
  unfold get?
  rw [Option.filter_eq_some_iff, Bool.not_eq_true']

theorem part_eq_ok {decode : Decoder α} {a : α} : f.part key decode = .ok a ↔
    ∃ v, f.get? key = some v ∧ decode v (f.place key) = .ok a := by
  unfold part required
  cases f.get? key <;> simp

theorem leaf_eq_ok {type : Typed α} {a : α} : f.leaf key type = .ok a ↔
    ∃ v, f.get? key = some v ∧ type v = .ok a := by
  unfold leaf required ofLeaf
  cases f.get? key <;> simp [mapError_eq_ok]

theorem part?_eq_ok {decode : Decoder α} {o : Option α} : f.part? key decode = .ok o ↔
    (f.get? key = none ∧ o = none) ∨
      ∃ v a, f.get? key = some v ∧ decode v (f.place key) = .ok a ∧ o = some a := by
  unfold part?
  cases hget : f.get? key with
  | none => simp [eq_comm]
  | some v =>
    rw [map_eq_ok]
    constructor
    · rintro ⟨a, ha, rfl⟩
      exact .inr ⟨v, a, rfl, ha, rfl⟩
    · rintro (⟨⟨⟩, -⟩ | ⟨_, a, ⟨⟩, ha, rfl⟩)
      exact ⟨a, ha, rfl⟩

theorem get?_eq_none : f.get? key = none ↔
    lookup f.members key = none ∨ lookup f.members key = some .null := by
  unfold get?
  cases lookup f.members key with
  | none => simp
  | some v => cases v <;> simp [isNull]

end Fields

/-- What is left of a whole number by the checks of a count. -/
theorem checkedCount_eq_ok {k : Int} {n : Nat} {e e' : RuleError} :
    (if !isInt64 k then .error e else if k < 0 then .error e' else .ok k.toNat
      : Except RuleError Nat) = .ok n ↔ k = n ∧ FitsInt64 n := by
  constructor
  · intro h
    split at h
    · cases h
    · rename_i hk
      split at h
      · cases h
      · obtain rfl := Except.ok.inj h
        exact ⟨(Int.toNat_of_nonneg (by omega)).symm, fitsInt64_toNat (by simpa using hk)⟩
  · rintro ⟨rfl, hn⟩
    simp [isInt64_natCast hn]

theorem decodeCount_eq_ok {n : Nat} :
    decodeCount v path = .ok n ↔ v = .int n ∧ FitsInt64 n := by
  cases v with
  | int k => exact checkedCount_eq_ok.trans (by rw [Json.int.injEq])
  | _ => exact iff_of_false nofun nofun

theorem decodeMaxCount_eq_ok {n : Nat} :
    Range.decodeMaxCount v path = .ok n ↔ v = .int n ∧ FitsInt64 n := by
  cases v with
  | int k => exact checkedCount_eq_ok.trans (by rw [Json.int.injEq])
  | _ => exact iff_of_false nofun nofun

/-- A word is written by itself, or as a key with nothing under it. -/
theorem asWord_eq_ok {words : List (String × α)} {a : α} : asWord words v = .ok a ↔
    ∃ word, words.lookup word = some a ∧ (v = .string word ∨ v = .object [(word, .null)]) := by
  constructor
  · intro h
    simp only [asWord, bind_eq_ok] at h
    obtain ⟨⟨word, content⟩, hword, h⟩ := h
    split at h
    · cases h
    · rename_i b hb
      unfold wordAndContent at hword
      split at hword
      · cases hword
        cases h
        exact ⟨word, hb, .inl rfl⟩
      · cases hword
        split at h
        · rename_i hnone
          cases hnone
        · rename_i hnull
          cases hnull
          cases h
          exact ⟨word, hb, .inr rfl⟩
        · exact absurd h throw_ne_ok
      · cases hword
      · cases hword
  · rintro ⟨word, hword, rfl | rfl⟩
    · simp only [asWord, wordAndContent, ok_bind, hword]
      rfl
    · simp only [asWord, wordAndContent, ok_bind, hword]
      rfl

theorem lookup_direction {word : String} {d : Direction} :
    Direction.words.lookup word = some d ↔ word = d.name := by
  constructor
  · intro h
    obtain ⟨before, after, hwords, -⟩ := List.lookup_eq_some_iff.1 h
    have hmem : (word, d) ∈ Direction.words := hwords ▸ by simp
    revert hmem
    cases d <;> simp [Direction.words, Direction.name]
  · rintro rfl
    cases d <;> rfl

theorem asWord_direction_eq_ok {d : Direction} :
    asWord Direction.words v = .ok d ↔ IsDirection v d := by
  simp only [asWord_eq_ok, lookup_direction, exists_eq_left]
  constructor
  · rintro (rfl | rfl)
    · exact .word d
    · exact .key d
  · rintro (_ | _)
    · exact .inl rfl
    · exact .inr rfl

theorem scalar_read_eq_ok {s : Scalar} : Scalar.read v = .ok s ↔ IsScalar v s := by
  constructor
  · intro h
    unfold Scalar.read at h
    split at h
    · cases h
      exact .bool _
    · split at h
      · rename_i hn
        cases h
        exact .int hn
      · rename_i hn
        split at h
        · rename_i x hx
          cases h
          exact .past (Bool.eq_false_iff.2 hn) hx
        · cases h
    · cases h
      exact .float _
    · cases h
      exact .text _
    · cases h
  · intro h
    cases h with
    | bool | float | text => rfl
    | int fits => exact if_pos fits
    | past past nearest =>
      unfold Scalar.read
      simp only [past, nearest]
      rfl

/-! ## 3. The shapes -/

theorem decodeCoord_eq_ok {c : Coord} :
    decodeCoord v path = .ok c ↔ ∃ members, v = .object members ∧ IsCoord members c := by
  simp only [decodeCoord, bind_eq_ok, pure_eq_ok, Fields.of_eq_ok, Fields.part_eq_ok,
    decodeCount_eq_ok, Fields.get?_eq_some]
  constructor
  · rintro ⟨_, ⟨members, rfl, hkeys, rfl⟩, row, ⟨_, ⟨hrow, -⟩, rfl, hrowFits⟩, col,
      ⟨_, ⟨hcol, -⟩, rfl, hcolFits⟩, rfl⟩
    exact ⟨members, rfl, hkeys, hrow, hcol, hrowFits, hcolFits⟩
  · rintro ⟨members, rfl, hkeys, hrow, hcol, hrowFits, hcolFits⟩
    exact ⟨_, ⟨members, rfl, hkeys, rfl⟩, _, ⟨_, ⟨hrow, rfl⟩, rfl, hrowFits⟩, _,
      ⟨_, ⟨hcol, rfl⟩, rfl, hcolFits⟩, rfl⟩

theorem part?_maxCount_eq_ok {o : Option Nat} :
    f.part? key Range.decodeMaxCount = .ok o ↔ IsMaxCount (lookup f.members key) o := by
  rw [Fields.part?_eq_ok]
  constructor
  · rintro (⟨hget, rfl⟩ | ⟨_, n, hget, hn, rfl⟩)
    · rcases Fields.get?_eq_none.1 hget with hnone | hnull
      · exact hnone ▸ .absent
      · exact hnull ▸ .null
    · obtain ⟨rfl, hfits⟩ := decodeMaxCount_eq_ok.1 hn
      exact (Fields.get?_eq_some.1 hget).1 ▸ .count hfits
  · intro h
    generalize hlookup : lookup f.members key = o' at h
    cases h with
    | absent => exact .inl ⟨Fields.get?_eq_none.2 (.inl hlookup), rfl⟩
    | null => exact .inl ⟨Fields.get?_eq_none.2 (.inr hlookup), rfl⟩
    | count fits =>
      exact .inr
        ⟨_, _, Fields.get?_eq_some.2 ⟨hlookup, rfl⟩, decodeMaxCount_eq_ok.2 ⟨rfl, fits⟩, rfl⟩

theorem isNull_of_isDirection {d : Direction} (h : IsDirection v d) : v.isNull = false := by
  cases h <;> rfl

theorem isNull_of_isScalar {s : Scalar} (h : IsScalar v s) : v.isNull = false := by
  cases h <;> rfl

theorem decodeRange_eq_ok {r : Range} :
    Range.decode v path = .ok r ↔ ∃ members, v = .object members ∧ IsRange members r := by
  simp only [Range.decode, bind_eq_ok, pure_eq_ok, Fields.of_eq_ok, part?_maxCount_eq_ok,
    Fields.part_eq_ok, decodeCoord_eq_ok, Fields.leaf_eq_ok, asWord_direction_eq_ok,
    Fields.get?_eq_some]
  constructor
  · rintro ⟨_, ⟨members, rfl, hkeys, rfl⟩, maxCount, hmax, coord, ⟨_, ⟨hcoord, -⟩, ms, rfl, hms⟩,
      direction, ⟨w, ⟨hdirection, -⟩, hw⟩, rfl⟩
    exact ⟨members, rfl, hkeys, ⟨ms, hcoord, hms⟩, ⟨w, hdirection, hw⟩, hmax⟩
  · rintro ⟨members, rfl, hkeys, ⟨ms, hcoord, hms⟩, ⟨w, hdirection, hw⟩, hmax⟩
    exact ⟨_, ⟨members, rfl, hkeys, rfl⟩, _, hmax, _, ⟨_, ⟨hcoord, rfl⟩, ms, rfl, hms⟩, _,
      ⟨w, ⟨hdirection, isNull_of_isDirection hw⟩, hw⟩, rfl⟩

theorem decodeValue_eq_ok {s : Scalar} :
    Source.decodeValue v path = .ok s ↔ ∃ members, v = .object members ∧ IsValue members s := by
  simp only [Source.decodeValue, bind_eq_ok, Fields.of_eq_ok, Fields.leaf_eq_ok,
    scalar_read_eq_ok, Fields.get?_eq_some]
  constructor
  · rintro ⟨_, ⟨members, rfl, hkeys, rfl⟩, w, ⟨hvalue, -⟩, hw⟩
    exact ⟨members, rfl, hkeys, w, hvalue, hw⟩
  · rintro ⟨members, rfl, hkeys, w, hvalue, hw⟩
    exact ⟨_, ⟨members, rfl, hkeys, rfl⟩, w, ⟨hvalue, isNull_of_isScalar hw⟩, hw⟩

/-! ## 4. The choice of a shape -/

namespace Source

theorem isStray_eq_true {k : String} : isStray k = true ↔ ∀ s : Shape, k ∉ s.keys := by
  simp only [isStray, List.all_eq_true, Bool.not_eq_true', List.contains_eq_mem,
    decide_eq_false_iff_not]
  refine ⟨fun h s => h s ?_, fun h s _ => h s⟩
  cases s <;> simp [Shape.all]

theorem mem_shapesOf {keys : List String} {s : Shape} :
    s ∈ shapesOf keys ↔ ∃ k ∈ keys, k ∈ s.keys := by
  have hall : s ∈ Shape.all := by cases s <;> simp [Shape.all]
  simp only [shapesOf, List.mem_filter, hall, true_and, List.any_eq_true, List.contains_eq_mem,
    decide_eq_true_eq]

theorem nodup_shapesOf (keys : List String) : (shapesOf keys).Nodup :=
  List.Nodup.filter _ (by decide)

/-- The keys of one shape are of no other. -/
theorem eq_of_mem_keys {s t : Shape} : ∀ k ∈ s.keys, k ∈ t.keys → s = t := by
  cases s <;> cases t <;> decide

/-- An object with keys of one shape only is not ambiguous. -/
theorem not_isAmbiguous {shape : Shape} (hkeys : HasOnly shape.keys members)
    (hne : members ≠ []) : ¬ IsAmbiguous members := by
  rintro (hnil | ⟨k, hk, hnone⟩ | ⟨s, t, hst, ⟨k, hk, hs⟩, l, hl, ht⟩)
  · exact hne hnil
  · exact hnone shape (hkeys k hk)
  · have hs := eq_of_mem_keys k (hkeys k hk) hs
    have ht := eq_of_mem_keys l (hkeys l hl) ht
    exact hst (hs.symm.trans ht)

/-- **Either the object is ambiguous, or its keys belong to one shape**, by which it is read. -/
theorem decode_object (members : List (String × Json)) (path : Path) :
    (IsAmbiguous members ∧ ∃ c, decode (.object members) path = .error (.ambiguousSource path c)) ∨
    ∃ shape : Shape, members ≠ [] ∧ HasOnly shape.keys members ∧
      decode (.object members) path = decodeShape shape (.object members) path := by
  unfold decode
  dsimp only
  cases hstray : (members.map (·.1)).find? isStray with
  | some k =>
    have hk : ∃ k ∈ members.map (·.1), ∀ s : Shape, k ∉ s.keys :=
      ⟨k, List.mem_of_find?_eq_some hstray, isStray_eq_true.1 (List.find?_some hstray)⟩
    exact .inl ⟨.inr (.inl hk), _, rfl⟩
  | none =>
    have hshape : ∀ k ∈ members.map (·.1), ∃ s : Shape, k ∈ s.keys := by
      intro k hk
      by_contra hnone
      exact List.find?_eq_none.1 hstray k hk (isStray_eq_true.2 fun s hs => hnone ⟨s, hs⟩)
    have hmem := @mem_shapesOf (members.map (·.1))
    have hnodup := nodup_shapesOf (members.map (·.1))
    dsimp only
    generalize shapesOf (members.map (·.1)) = shapes at hmem hnodup
    match shapes with
    | [] =>
      have hnone : members = [] := by
        cases members with
        | nil => rfl
        | cons m rest =>
          obtain ⟨s, hs⟩ := hshape m.1 List.mem_cons_self
          exact absurd (hmem.2 ⟨m.1, List.mem_cons_self, hs⟩) List.not_mem_nil
      exact .inl ⟨.inl hnone, _, rfl⟩
    | [shape] =>
      obtain ⟨k, hk, -⟩ := hmem.1 (List.mem_singleton_self shape)
      refine .inr ⟨shape, ?_, fun k hk => ?_, rfl⟩
      · rintro rfl
        cases hk
      · obtain ⟨s, hs⟩ := hshape k hk
        exact List.mem_singleton.1 (hmem.2 ⟨k, hk, hs⟩) ▸ hs
    | s :: t :: rest =>
      have hne : s ≠ t := fun h => (List.nodup_cons.1 hnodup).1 (h ▸ List.mem_cons_self)
      exact .inl ⟨.inr (.inr ⟨s, t, hne, hmem.1 (by simp), hmem.1 (by simp)⟩), _, rfl⟩

theorem decode_of_hasOnly {shape : Shape} (hkeys : HasOnly shape.keys members) (hne : members ≠ [])
    (path : Path) :
    decode (.object members) path = decodeShape shape (.object members) path := by
  rcases decode_object members path with ⟨hambiguous, -⟩ | ⟨shape', -, hkeys', h⟩
  · exact absurd hambiguous (not_isAmbiguous hkeys hne)
  · obtain ⟨m, hm⟩ := List.exists_mem_of_ne_nil members hne
    have hm : m.1 ∈ members.map (·.1) := List.mem_map_of_mem hm
    rw [h, eq_of_mem_keys m.1 (hkeys m.1 hm) (hkeys' m.1 hm)]

/-! ## 5. Errors that are not about the shape -/

/-- No error of the computation says that a source is ambiguous. -/
def IsPlain (x : Except RuleError α) : Prop := ∀ p c, x ≠ .error (.ambiguousSource p c)

namespace IsPlain

theorem ok (a : α) : IsPlain (.ok a : Except RuleError α) := nofun

theorem bind {x : Except RuleError α} {g : α → Except RuleError β} (hx : IsPlain x)
    (hg : ∀ a, IsPlain (g a)) : IsPlain (x >>= g) := by
  intro p c h
  rcases bind_eq_error.1 h with h | ⟨a, -, h⟩
  · exact hx p c h
  · exact hg a p c h

theorem map {x : Except RuleError α} (hx : IsPlain x) (g : α → β) : IsPlain (x.map g) :=
  fun p c h => hx p c (map_eq_error.1 h)

theorem fields (known : List String) (v : Json) (path : Path) :
    IsPlain (Fields.of known v path) := by
  unfold Fields.of
  split
  · split <;> exact nofun
  · exact nofun

theorem required (f : Fields) (key : String) : IsPlain (f.required key) := by
  unfold Fields.required
  split <;> exact nofun

theorem part {decode : Decoder α} (hd : ∀ v path, IsPlain (decode v path)) (f : Fields)
    (key : String) : IsPlain (f.part key decode) :=
  (required f key).bind fun v => hd v _

theorem leaf (f : Fields) (key : String) (type : Typed α) : IsPlain (f.leaf key type) := by
  refine (required f key).bind fun v p c h => ?_
  obtain ⟨m, -, h⟩ := mapError_eq_error.1 h
  cases h

theorem count (v : Json) (path : Path) : IsPlain (decodeCount v path) := by
  unfold decodeCount
  split
  · split_ifs <;> exact nofun
  · exact nofun

theorem maxCount (f : Fields) (key : String) :
    IsPlain (f.part? key Range.decodeMaxCount) := by
  unfold Fields.part? Range.decodeMaxCount
  split
  · refine map ?_ some
    split
    · split_ifs <;> exact nofun
    · exact nofun
  · exact nofun

theorem coord (v : Json) (path : Path) : IsPlain (decodeCoord v path) :=
  (fields _ v path).bind fun f => (part count f _).bind fun _ => (part count f _).bind fun _ => ok _

theorem shape (s : Shape) (v : Json) (path : Path) : IsPlain (decodeShape s v path) := by
  cases s with
  | coord => exact (coord v path).map _
  | range =>
    refine map ?_ _
    exact (fields _ v path).bind fun f => (maxCount f _).bind fun _ =>
      (part coord f _).bind fun _ => (leaf f _ _).bind fun _ => ok _
  | value => exact ((fields _ v path).bind fun f => leaf f _ _).map _

end IsPlain

/-! ## 6. What is read, and what is not -/

/-- The shape of a source. -/
def shape : Source → Shape
  | .cell _ => .coord
  | .range _ => .range
  | .value _ => .value

theorem IsHeldBy.hasOnly {s : Source} (h : IsHeldBy members s) :
    HasOnly s.shape.keys members ∧ members ≠ [] := by
  have hne {key : String} {w : Json} (hlookup : lookup members key = some w) : members ≠ [] := by
    rintro rfl
    cases hlookup
  cases s with
  | cell c => exact ⟨IsCoord.keys h, hne (IsCoord.row h)⟩
  | range r =>
    obtain ⟨ms, hcoord, -⟩ := IsRange.coord h
    exact ⟨IsRange.keys h, hne hcoord⟩
  | value x =>
    obtain ⟨w, hvalue, -⟩ := IsValue.value h
    exact ⟨IsValue.keys h, hne hvalue⟩

/-- The object holds the source if its shape is read as the source. -/
theorem decodeShape_eq_ok {s : Source} :
    decodeShape s.shape (.object members) path = .ok s ↔ IsHeldBy members s := by
  cases s with
  | cell c => simp [shape, decodeShape, map_eq_ok, decodeCoord_eq_ok, IsHeldBy]
  | range r => simp [shape, decodeShape, map_eq_ok, decodeRange_eq_ok, IsHeldBy]
  | value x => simp [shape, decodeShape, map_eq_ok, decodeValue_eq_ok, IsHeldBy]

theorem shape_eq_of_decodeShape {t : Shape} {s : Source} (h : decodeShape t v path = .ok s) :
    s.shape = t := by
  cases t with
  | coord | range | value =>
    obtain ⟨_, -, rfl⟩ := map_eq_ok.1 h
    rfl

theorem decode_eq_ok {s : Source} :
    decode v path = .ok s ↔ ∃ members, v = .object members ∧ IsHeldBy members s := by
  constructor
  · intro h
    cases v with
    | object members =>
      rcases decode_object members path with ⟨-, c, herror⟩ | ⟨shape, -, -, hshape⟩
      · rw [herror] at h
        cases h
      · rw [hshape] at h
        obtain rfl := shape_eq_of_decodeShape h
        exact ⟨members, rfl, decodeShape_eq_ok.1 h⟩
    | _ => cases h
  · rintro ⟨members, rfl, h⟩
    rw [decode_of_hasOnly h.hasOnly.1 h.hasOnly.2]
    exact decodeShape_eq_ok.2 h

theorem decode_ambiguous {p : Path} :
    (∃ c, decode (.object members) path = .error (.ambiguousSource p c)) ↔
      p = path ∧ IsAmbiguous members := by
  constructor
  · rintro ⟨c, h⟩
    rcases decode_object members path with ⟨hambiguous, c', herror⟩ | ⟨shape, -, -, hshape⟩
    · rw [herror] at h
      cases h
      exact ⟨rfl, hambiguous⟩
    · exact absurd (hshape ▸ h) (IsPlain.shape shape _ path p c)
  · rintro ⟨rfl, hambiguous⟩
    rcases decode_object members p with ⟨-, herror⟩ | ⟨shape, hne, hkeys, -⟩
    · exact herror
    · exact absurd hambiguous (not_isAmbiguous hkeys hne)

/-- A boolean, a number or a text. -/
def IsAtom : Json → Prop
  | .bool _ | .int _ | .float _ | .string _ => True
  | .null | .array _ | .object _ => False

theorem exists_isScalar {w : Json} (hw : w.Fits) : (∃ s, IsScalar w s) ↔ IsAtom w := by
  constructor
  · rintro ⟨s, h⟩
    cases h <;> trivial
  · intro h
    cases w with
    | bool b => exact ⟨_, .bool b⟩
    | float x => exact ⟨_, .float x⟩
    | string text => exact ⟨_, .text text⟩
    | int n =>
      by_cases hfits : isInt64 n = true
      · exact ⟨_, .int hfits⟩
      · -- past the range with sign it is positive, and below the limit of a text
        have hpast : isInt64 n = false := Bool.eq_false_iff.2 hfits
        obtain ⟨hlo, hhi⟩ := hw
        have hpow : (Nat.pow 2 63 : Int) = 2 ^ 63 := rfl
        have hmax : n.toNat ≤ significandMax := by
          have : significandMax = 2 ^ 64 - 1 := rfl
          omega
        have hn : (n.toNat : Int) = n := by
          simp only [isInt64, Bool.and_eq_false_iff, decide_eq_false_iff_not] at hpast
          omega
        obtain ⟨x, hx, -⟩ := ofInt?_isSome hmax
        exact ⟨_, .past hpast (hn ▸ hx)⟩
    | null | array _ | object _ => exact h.elim

/-- The only value under the only key is read if it is a scalar. -/
theorem exists_decode_value {w : Json} (hw : w.Fits) :
    (∃ s, decode (.object [("value", w)]) path = .ok s) ↔ IsAtom w := by
  rw [← exists_isScalar hw]
  have hlookup : lookup [("value", w)] "value" = some w := rfl
  constructor
  · rintro ⟨s, h⟩
    obtain ⟨_, ⟨⟩, hheld⟩ := decode_eq_ok.1 h
    have hshape : s.shape = .value :=
      eq_of_mem_keys "value" (hheld.hasOnly.1 _ List.mem_cons_self) List.mem_cons_self
    cases s with
    | value x =>
      obtain ⟨w', hw', hx⟩ := IsValue.value hheld
      obtain rfl := Option.some.inj (hlookup.symm.trans hw')
      exact ⟨x, hx⟩
    | cell | range => cases hshape
  · rintro ⟨x, hx⟩
    have hvalue : IsValue [("value", w)] x :=
      ⟨fun k hk => hk, w, hlookup, hx⟩
    exact ⟨.value x, decode_eq_ok.2 ⟨_, rfl, hvalue⟩⟩

/-- A count below zero is found before anything else of a range is read. -/
theorem decode_negativeCount (hkeys : HasOnly Shape.range.keys members) {n : Int}
    (hfits : isInt64 n = true) (hneg : n < 0)
    (hcount : lookup members "max_count" = some (.int n)) :
    decode (.object members) path = .error (.negativeCount (path.key "max_count") n) := by
  have hne : members ≠ [] := by
    rintro rfl
    cases hcount
  have hof : Fields.of Shape.range.keys (.object members) path = .ok ⟨members, path⟩ :=
    Fields.of_eq_ok.2 ⟨members, rfl, hkeys, rfl⟩
  have hget : Fields.get? ⟨members, path⟩ "max_count" = some (.int n) :=
    Fields.get?_eq_some.2 ⟨hcount, rfl⟩
  have hdecode : Range.decodeMaxCount (.int n) (path.key "max_count")
      = .error (.negativeCount (path.key "max_count") n) := by
    simp [Range.decodeMaxCount, hfits, hneg]
  rw [decode_of_hasOnly hkeys hne]
  show (Fields.of Shape.range.keys (.object members) path >>= _ : Except _ Range).map _ = _
  rw [hof, ok_bind]
  unfold Fields.part?
  rw [hget]
  dsimp only
  rw [show Fields.place ⟨members, path⟩ "max_count" = path.key "max_count" from rfl, hdecode]
  rfl

/-- **A source is read exactly where a value has one shape**, as the source that its members hold; a
    value stands alone and is a boolean, a number or a text. Of an object, the error is about the
    shape exactly where there are no keys, a key of no shape, or keys of two; a range with a count
    below zero is told so. -/
theorem decode_shape (v : Json) (hv : v.Fits) (path : Path) :
    (∀ s, decode v path = .ok s ↔ ∃ members, v = .object members ∧ IsHeldBy members s) ∧
    (∀ w, v = .object [("value", w)] → ((∃ s, decode v path = .ok s) ↔ IsAtom w)) ∧
    ∀ members, v = .object members →
      (∀ p, (∃ c, decode v path = .error (.ambiguousSource p c)) ↔
        p = path ∧ IsAmbiguous members) ∧
      (HasOnly ["coord", "direction", "max_count"] members →
        ∀ n < 0, lookup members "max_count" = some (.int n) →
          decode v path = .error (.negativeCount (path.key "max_count") n)) := by
  refine ⟨fun s => decode_eq_ok, ?_, ?_⟩
  · rintro w rfl
    exact exists_decode_value hv.1
  · rintro members rfl
    refine ⟨fun p => decode_ambiguous, fun hkeys n hneg hcount => ?_⟩
    obtain ⟨m, hm, hvalue⟩ := Option.map_eq_some_iff.1 hcount
    have hfits : Fits m.2 := (fitsMembers_iff members).1 hv m (List.mem_of_find?_eq_some hm)
    rw [hvalue] at hfits
    obtain ⟨hlo, -⟩ := hfits
    refine decode_negativeCount hkeys ?_ hneg hcount
    have hpow : (Nat.pow 2 63 : Int) = 2 ^ 63 := rfl
    simp only [isInt64, Bool.and_eq_true, decide_eq_true_eq]
    omega

/-- A range whose direction is a key, and one with a count below zero and no address. -/
theorem keyedRange_shape :
    let range := Json.object [("max_count", .null), ("coord", exampleCoord 0 1),
      ("direction", .object [("right", .null)])]
    let shortRange := Json.object [("max_count", .int (-1))]
    range.Fits ∧ decode range .root = .ok (.range ⟨⟨0, 1⟩, .right, none⟩) ∧
    shortRange.Fits ∧
    decode shortRange .root = .error (.negativeCount (Path.root.key "max_count") (-1)) := by
  intro range shortRange
  have hrange : range.Fits := by
    refine ⟨trivial, ?_, ⟨trivial, trivial⟩, trivial⟩
    exact ⟨⟨by decide, by decide⟩, ⟨by decide, by decide⟩, trivial⟩
  have hshort : shortRange.Fits := ⟨⟨by decide, by decide⟩, trivial⟩
  refine ⟨hrange, ((decode_shape range hrange .root).1 _).2 ⟨_, rfl, ?_⟩, hshort, ?_⟩
  · have hzero : FitsInt64 0 := Nat.two_pow_pos 63
    have hone : FitsInt64 1 := Nat.one_lt_two_pow (by decide)
    exact ⟨by decide, ⟨_, rfl, by decide, rfl, rfl, hzero, hone⟩, ⟨_, rfl, .key .right⟩, .null⟩
  · exact ((decode_shape shortRange hshort .root).2.2 _ rfl).2 (by decide) (-1) (by decide) rfl

end Source

end UsageGrid.Rules
