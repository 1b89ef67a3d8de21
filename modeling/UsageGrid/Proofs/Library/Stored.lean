import UsageGrid.Library.Stored
import UsageGrid.Proofs.Json.RoundTrip
import UsageGrid.Proofs.Rules.Written

/-!
# Stored definitions in their files

What is written of a stored definition is read back, with its floating numbers as they are read back
(`ofText_toText`); but not if it is nested deeper than the reader goes (`ofText_toText_deep`), which
no writer looks at. A definition can be stored (`IsStorable`) when its document has been read and its
uses are counted in 32 bits.
-/

namespace UsageGrid.Json.Record

/-! ## 1. Records with all their fields in order -/

variable {r : Record} {members : List (String × Json)}

/-- A member fits its field. -/
def Suits (m : String × Json) (f : Field) : Prop := m.1 = f.name ∧ f.check m.2 = .ok ()

theorem suits_of {α : Type} {type : Typed α} {v : Json} {a : α} (name : String)
    (h : type v = .ok a) : Suits (name, v) (Field.of name type) :=
  ⟨rfl, map_eq_ok.2 ⟨a, h, rfl⟩⟩

theorem suits_ofOption {α : Type} {type : Typed α} {v : Json} {o : Option α} (name : String)
    (h : asOption type v = .ok o) : Suits (name, v) (Field.ofOption name type) :=
  ⟨rfl, map_eq_ok.2 ⟨o, h, rfl⟩⟩

theorem find?_field {fields : List Field} (h : (fields.map (·.name)).Nodup) {f : Field}
    (hf : f ∈ fields) : fields.find? (·.name == f.name) = some f := by
  induction fields with
  | nil => exact absurd hf List.not_mem_nil
  | cons g rest ih =>
    obtain ⟨hg, hrest⟩ := List.nodup_cons.1 h
    rcases List.mem_cons.1 hf with rfl | hf
    · exact List.find?_cons_of_pos (beq_self_eq_true _)
    · have hne : (g.name == f.name) = false :=
        beq_false_of_ne fun he => hg (List.mem_map.2 ⟨f, hf, he.symm⟩)
      rw [List.find?_cons_of_neg (by simp [hne])]
      exact ih hrest hf

theorem checkMembers_suit (hnodup : (r.fields.map (·.name)).Nodup) {fields : List Field}
    (h : List.Forall₂ Suits members fields) (hfields : ∀ f ∈ fields, f ∈ r.fields)
    (hdistinct : (fields.map (·.name)).Nodup) {seen : List String}
    (hseen : ∀ f ∈ fields, f.name ∉ seen) (i : Nat) :
    r.checkMembers i seen members = .ok () := by
  induction h generalizing seen i with
  | nil => rfl
  | @cons m f ms fs hm _ ih =>
    obtain ⟨k, v⟩ := m
    obtain ⟨rfl, hcheck⟩ := hm
    obtain ⟨hf, hfs⟩ := List.forall_mem_cons.1 hfields
    obtain ⟨hnew, hseen⟩ := List.forall_mem_cons.1 hseen
    obtain ⟨hname, hnames⟩ := List.nodup_cons.1 hdistinct
    have hfresh : seen.contains f.name = false := by simpa using hnew
    have hrest : r.checkMembers (i + 1) (f.name :: seen) ms = .ok () := by
      refine ih hfs hnames (fun g hg hmem => ?_) (i + 1)
      rcases List.mem_cons.1 hmem with he | hmem
      · exact hname (List.mem_map.2 ⟨g, hg, he⟩)
      · exact hseen g hg hmem
    unfold checkMembers
    rw [find?_field hnodup hf]
    dsimp only
    rw [hfresh, hcheck]
    exact hrest

theorem collect_suit (hnodup : (members.map (·.1)).Nodup) {rest : List (String × Json)}
    {fields : List Field} (h : List.Forall₂ Suits rest fields) (hrest : ∀ m ∈ rest, m ∈ members) :
    collect members fields = .ok rest := by
  induction h with
  | nil => rfl
  | @cons m f ms fs hm _ ih =>
    obtain ⟨k, v⟩ := m
    obtain ⟨rfl, -⟩ := hm
    obtain ⟨hmem, hms⟩ := List.forall_mem_cons.1 hrest
    unfold collect
    rw [(lookup_eq_some_iff hnodup).2 hmem]
    show (collect members fs >>= _) = _
    rw [ih hms]
    rfl

/-- **A record is read from its members**, if these are its fields in order. -/
theorem read_suit (hnodup : (r.fields.map (·.name)).Nodup)
    (h : List.Forall₂ Suits members r.fields) : r.read (.object members) = .ok members := by
  have hnames : members.map (·.1) = r.fields.map (·.name) := by
    refine List.forall₂_eq_eq_eq ▸ ?_
    exact List.forall₂_map_left_iff.2 (List.forall₂_map_right_iff.2 (h.imp fun _ _ hm => hm.1))
  unfold read
  dsimp only
  rw [checkMembers_suit hnodup h (fun _ hf => hf) hnodup (fun _ _ => List.not_mem_nil) 0]
  exact collect_suit (hnames ▸ hnodup) h fun _ hm => hm

end UsageGrid.Json.Record

namespace UsageGrid

/-! ## 2. What is read back -/

/-- A definition that can be stored. -/
structure Definition.IsStorable (d : Definition) : Prop where
  wellFormed : d.WellFormed
  conditions : ∀ c ∈ d.conditions, c.IsProper

theorem Definition.IsDecoded.isStorable {d : Definition} (h : d.IsDecoded) : d.IsStorable :=
  ⟨h.wellFormed, h.conditions⟩

namespace StoredDefinition

open Json

structure IsStorable (d : StoredDefinition) : Prop where
  definition : d.definition.IsStorable
  useCount : d.useCount < countBound

/-- With its floating numbers replaced. -/
def mapFloats (f : Binary64 → Binary64) (d : StoredDefinition) : StoredDefinition :=
  { d with definition := d.definition.mapFloats f, successRate := f d.successRate }

/-- With its floating numbers as they are read back. -/
def reread (d : StoredDefinition) : StoredDefinition := d.mapFloats rereadFloat

theorem toJson_mapFloats (f : Binary64 → Binary64) (d : StoredDefinition) :
    (d.mapFloats f).toJson = d.toJson.mapFloats f := by
  have hlast : (Json.ofOption .string d.lastUsed).mapFloats f = .ofOption .string d.lastUsed := by
    cases d.lastUsed <;> rfl
  show Json.object [_, _, _, (_, (d.definition.mapFloats f).toJson), _, _, _, _]
    = Json.object [_, _, (_, (ofTexts d.platforms).mapFloats f),
      (_, d.definition.toJson.mapFloats f), _,
      (_, (Json.ofOption .string d.lastUsed).mapFloats f), _, _]
  rw [Definition.toJson_mapFloats, Rules.mapFloats_ofTexts, hlast]
  rfl

theorem readDocument_toJson {d : Definition} (h : d.IsStorable) :
    readDocument d.toJson = .ok d := by
  unfold readDocument Dataflow.readDefinition
  rw [Definition.ofJson_canonical h.wellFormed h.conditions]

/-- The members of the written form. -/
def members (d : StoredDefinition) : List (String × Json) :=
  [("id", .string d.id), ("name", .string d.name), ("platforms", .ofTexts d.platforms),
    ("definition", d.definition.toJson), ("created_at", .string d.createdAt),
    ("last_used", .ofOption .string d.lastUsed), ("success_rate", .float d.successRate),
    ("use_count", .int d.useCount)]

theorem toJson_eq (d : StoredDefinition) : d.toJson = .object d.members := rfl

/-- The written form holds the definition. -/
theorem read_toJson {d : StoredDefinition} (h : d.IsStorable) : read d.toJson = .ok d := by
  have hplatforms : asList asString (ofTexts d.platforms) = .ok d.platforms :=
    Rules.texts_ofTexts d.platforms
  have hlast : asOption asString (Json.ofOption .string d.lastUsed) = .ok d.lastUsed := by
    cases d.lastUsed <;> rfl
  have hcount : asUInt32 (.int d.useCount) = .ok d.useCount := by
    have hbound : (0 : Int) ≤ d.useCount ∧ (d.useCount : Int) < (Nat.pow 2 32 : Nat) :=
      ⟨Int.natCast_nonneg _, Int.ofNat_lt.2 h.useCount⟩
    unfold asUInt32 asUIntBelow
    dsimp only
    rw [if_pos hbound, Int.toNat_natCast]
  have hdocument := readDocument_toJson h.definition
  have hrecord : record.read d.toJson = .ok d.members := by
    refine Record.read_suit (by simp [record, Field.of, Field.ofOption]) ?_
    have hstring (name text : String) : Record.Suits (name, .string text) (.of name asString) :=
      Record.suits_of name rfl
    exact .cons (hstring _ _) <| .cons (hstring _ _) <| .cons (Record.suits_of _ hplatforms) <|
      .cons (Record.suits_of _ hdocument) <| .cons (hstring _ _) <|
      .cons (Record.suits_ofOption _ hlast) <|
      .cons (Record.suits_of _ (rfl : asFloat (.float d.successRate) = .ok d.successRate)) <|
      .cons (Record.suits_of _ hcount) .nil
  have hget {α : Type} {name : String} {v : Json} (type : Typed α)
      (hv : d.members.lookup name = some v) :
      Record.Values.get d.members name type = type v := by
    unfold Record.Values.get
    rw [hv]
  unfold read
  rw [hrecord, ok_bind, hget asString rfl, hget asString rfl, hget (asList asString) rfl, hplatforms,
    hget readDocument rfl, hdocument, hget asString rfl, hget (asOption asString) rfl, hlast,
    hget asFloat rfl, hget asUInt32 rfl, hcount]
  rfl

theorem IsStorable.mapFloats {d : StoredDefinition} (h : d.IsStorable)
    (f : Binary64 → Binary64) : (d.mapFloats f).IsStorable where
  definition := {
    wellFormed := h.definition.wellFormed.mapFloats
    conditions := List.forall_mem_map.2 fun c hc => (h.definition.conditions c hc).mapFloats f }
  useCount := h.useCount

theorem IsStorable.isWritable {d : StoredDefinition} (h : d.IsStorable) :
    d.toJson.IsWritable := by
  have hdefinition := h.definition.wellFormed.isWritable fun c hc =>
    (h.definition.conditions c hc).isWritable
  have hlast : (Json.ofOption .string d.lastUsed).IsWritable := .ofOption fun s _ => .string s
  have hcount : IsWhole64 d.useCount := by
    have hbound : d.useCount < 2 ^ 32 := h.useCount
    unfold IsWhole64
    omega
  exact .object (by simp) (by
    simpa using ⟨.string _, .string _, .texts _, hdefinition, .string _, hlast, .float _,
      .int hcount⟩)

theorem knows_members (d : StoredDefinition) : ∀ m ∈ d.members, record.knows m.1 = true := by
  simp [members, record, Record.knows, Field.of, Field.ofOption]

section

variable {d : StoredDefinition} (h : d.IsStorable)

include h

/-- **A stored definition is read back from its file**, up to its floating numbers. -/
theorem ofText_toText (hdepth : d.toJson.depth ≤ depthLimit) : ofText d.toText = .ok d.reread := by
  refine readAs_pretty h.isWritable.fits d.knows_members hdepth ?_
  show read (d.toJson.mapFloats rereadFloat) = _
  rw [← toJson_mapFloats]
  exact read_toJson (h.mapFloats _)

/-- **What is nested too deep is not read back**, though it can be written. -/
theorem ofText_toText_deep (hdepth : depthLimit < d.toJson.depth) :
    ∃ fault, ofText d.toText = .error fault :=
  readAs_pretty_deep h.isWritable.fits d.knows_members read hdepth

end

end StoredDefinition

end UsageGrid
