import UsageGrid.Rules.Fields
import UsageGrid.Proofs.Outcome

/-!
# Reading and writing parts of a document

A part of a document has a decoder, a written form, and a condition on its values. They belong
together (`Codec`) when the decoder gives only values that meet the condition, and reads each of
these back from its written form:

* `Codec.decode_write_iff`: then a value is read back exactly if it meets the condition;
* `Codec.list`: an array of parts;
* `Fields.part_sound` … `Fields.parts_sound`: what a field that has been read is;
* `Codec.part` … `Codec.parts`: a field that has been written is read back.
-/

namespace UsageGrid.Rules

variable {α : Type}

/-- What a decoder gives meets the condition, and what meets it is read back. -/
structure Codec (decode : Decoder α) (write : α → Json) (Holds : α → Prop) : Prop where
  sound : ∀ v path a, decode v path = .ok a → Holds a
  complete : ∀ a path, Holds a → decode (write a) path = .ok a

theorem Codec.decode_write_iff {decode : Decoder α} {write : α → Json} {Holds : α → Prop}
    (c : Codec decode write Holds) (a : α) (path : Path) :
    decode (write a) path = .ok a ↔ Holds a :=
  ⟨c.sound _ _ _, c.complete a path⟩

/-! ## 1. Arrays -/

theorem decodeItems_sound {decode : Decoder α} {Holds : α → Prop}
    (h : ∀ v path a, decode v path = .ok a → Holds a) (path : Path) (i : Nat) (items : List Json)
    (as : List α) (hd : decodeItems decode path i items = .ok as) : ∀ a ∈ as, Holds a := by
  induction items generalizing i as with
  | nil =>
    cases hd
    exact fun a ha => absurd ha List.not_mem_nil
  | cons v rest ih =>
    simp only [decodeItems, bind_eq_ok, pure_eq_ok] at hd
    obtain ⟨a, ha, as, has, rfl⟩ := hd
    intro b hb
    rcases List.mem_cons.1 hb with rfl | hb
    · exact h _ _ _ ha
    · exact ih (i + 1) as has b hb

theorem decodeItems_write {decode : Decoder α} {write : α → Json} {Holds : α → Prop}
    (h : ∀ a path, Holds a → decode (write a) path = .ok a) (path : Path) (i : Nat) (as : List α)
    (has : ∀ a ∈ as, Holds a) : decodeItems decode path i (as.map write) = .ok as := by
  induction as generalizing i with
  | nil => rfl
  | cons a rest ih =>
    have ha := h a (path.index i) (has a List.mem_cons_self)
    have hrest := ih (i + 1) fun b hb => has b (List.mem_cons_of_mem _ hb)
    simp only [List.map_cons, decodeItems, ha, hrest, ok_bind]
    rfl

theorem Codec.list {decode : Decoder α} {write : α → Json} {Holds : α → Prop}
    (c : Codec decode write Holds) :
    Codec (decodeList decode) (fun as => .array (as.map write)) (fun as => ∀ a ∈ as, Holds a) where
  sound v path as h := by
    unfold decodeList at h
    split at h
    · exact decodeItems_sound c.sound path 0 _ as h
    · cases h
  complete as path h := decodeItems_write c.complete path 0 as h

/-! ## 2. Fields that have been read -/

namespace Fields

variable {f : Fields} {key : String}

theorem part_sound {decode : Decoder α} {a : α} (h : f.part key decode = .ok a) :
    ∃ v, decode v (f.place key) = .ok a := by
  simp only [part, bind_eq_ok] at h
  obtain ⟨v, -, h⟩ := h
  exact ⟨v, h⟩

theorem part?_sound {decode : Decoder α} {o : Option α} (h : f.part? key decode = .ok o) :
    ∀ a ∈ o, ∃ v, decode v (f.place key) = .ok a := by
  unfold part? at h
  split at h
  · rename_i v _
    obtain ⟨a, ha, rfl⟩ := map_eq_ok.1 h
    rintro b ⟨⟩
    exact ⟨v, ha⟩
  · cases h
    exact fun a ha => nomatch ha

theorem parts_sound {decode : Decoder α} {Holds : α → Prop}
    (hd : ∀ v path a, decode v path = .ok a → Holds a) {as : List α}
    (h : f.parts key decode = .ok as) : ∀ a ∈ as, Holds a := by
  unfold parts at h
  split at h
  · rename_i v _
    unfold decodeList at h
    split at h
    · exact decodeItems_sound hd _ 0 _ as h
    · cases h
  · cases h
    exact fun a ha => absurd ha List.not_mem_nil

end Fields

theorem Codec.part_sound {decode : Decoder α} {write : α → Json} {Holds : α → Prop}
    (c : Codec decode write Holds) {f : Fields} {key : String} {a : α}
    (h : f.part key decode = .ok a) : Holds a := by
  obtain ⟨v, hv⟩ := Fields.part_sound h
  exact c.sound v _ a hv

theorem Codec.part?_sound {decode : Decoder α} {write : α → Json} {Holds : α → Prop}
    (c : Codec decode write Holds) {f : Fields} {key : String} {o : Option α}
    (h : f.part? key decode = .ok o) : ∀ a ∈ o, Holds a := by
  intro a ha
  obtain ⟨v, hv⟩ := Fields.part?_sound h a ha
  exact c.sound v _ a hv

/-! ## 3. Fields that have been written -/

namespace Fields

variable {f : Fields} {key : String}

theorem get?_of_lookup {v : Json} (h : Json.lookup f.members key = some v)
    (hv : v.isNull = false) : f.get? key = some v := by
  simp [get?, h, hv]

/-- A value that is null where it is missing is found exactly where it is there. -/
theorem get?_ofOption {write : α → Json} {o : Option α}
    (h : Json.lookup f.members key = some (Json.ofOption write o))
    (hw : ∀ a ∈ o, (write a).isNull = false) : f.get? key = o.map write := by
  cases o with
  | none => simp [get?, h, Json.ofOption, Json.isNull]
  | some a => exact get?_of_lookup h (hw a rfl)

theorem leaf_of_get? {type : Json.Typed α} {v : Json} {a : α} (h : f.get? key = some v)
    (ha : type v = .ok a) : f.leaf key type = .ok a := by
  simp [leaf, required, ofLeaf, h, ha, mapError_ok]

theorem leaf?_of_get? {type : Json.Typed α} {v : Json} {a : α} (h : f.get? key = some v)
    (ha : type v = .ok a) : f.leaf? key type = .ok (some a) := by
  simp [leaf?, ofLeaf, h, ha, mapError_ok]

theorem leaf?_of_none {type : Json.Typed α} (h : f.get? key = none) :
    f.leaf? key type = .ok none := by
  simp [leaf?, h]

theorem leaf?_ofOption {type : Json.Typed α} {write : α → Json} {o : Option α}
    (h : f.get? key = o.map write) (ho : ∀ a ∈ o, type (write a) = .ok a) :
    f.leaf? key type = .ok o := by
  cases o with
  | none => exact leaf?_of_none h
  | some a => exact leaf?_of_get? h (ho a rfl)

theorem leaf?_sound {type : Json.Typed α} {o : Option α} (h : f.leaf? key type = .ok o) :
    ∀ a ∈ o, ∃ v, type v = .ok a := by
  unfold leaf? at h
  split at h
  · rename_i v _
    obtain ⟨a, ha, rfl⟩ := map_eq_ok.1 h
    rintro b ⟨⟩
    exact ⟨v, mapError_eq_ok.1 ha⟩
  · cases h
    exact fun a ha => nomatch ha

theorem part_of_get? {decode : Decoder α} {v : Json} {a : α} (h : f.get? key = some v)
    (ha : decode v (f.place key) = .ok a) : f.part key decode = .ok a := by
  simp [part, required, h, ha]

theorem part?_of_get? {decode : Decoder α} {v : Json} {a : α} (h : f.get? key = some v)
    (ha : decode v (f.place key) = .ok a) : f.part? key decode = .ok (some a) := by
  simp [part?, h, ha]

theorem word_of_get? {wanted : String} {isRequired : Bool}
    (h : f.get? key = some (.string wanted)) : f.word key wanted isRequired = .ok () := by
  simp [word, h]

end Fields

namespace Codec

variable {decode : Decoder α} {write : α → Json} {Holds : α → Prop} {f : Fields} {key : String}

theorem part (c : Codec decode write Holds) {a : α} (h : f.get? key = some (write a))
    (ha : Holds a) : f.part key decode = .ok a :=
  Fields.part_of_get? h (c.complete a _ ha)

/-- A part that need not be there is written as null where it is not. -/
theorem part? (c : Codec decode write Holds) {o : Option α} (h : f.get? key = o.map write)
    (ho : ∀ a ∈ o, Holds a) : f.part? key decode = .ok o := by
  cases o with
  | none => simp only [Fields.part?, h, Option.map_none]
  | some a => exact Fields.part?_of_get? h (c.complete a _ (ho a rfl))

theorem parts (c : Codec decode write Holds) {as : List α}
    (h : f.get? key = some (.array (as.map write))) (has : ∀ a ∈ as, Holds a) :
    f.parts key decode = .ok as := by
  simp only [Fields.parts, h]
  exact c.list.complete as _ has

end Codec

end UsageGrid.Rules
