import UsageGrid.Proofs.Table.Lossless

/-!
# The names of dimensions

A document names dimensions in two places: where an area declares them, and as the targets of its
aliases.

* The decoder takes a name for a dimension unless it is blank or reserved (`isDimensionName_iff`).
* A record has the dimensions of its area under the names that the aliases give them. These are
  distinct and never reserved, and each is one that the decoder takes, unless it is the blank target
  of an alias (`execute_isNamedBy`).
* Nothing keeps an alias from a blank target (`blankTarget_not_named`).
-/

namespace UsageGrid.Rules

/-! ## 1. Names that the decoder takes -/

/-- The decoder takes a dimension of this name. -/
def IsDimensionName (n : String) : Prop :=
  ∃ v path d, Dimension.decode v path = .ok d ∧ d.name = n

/-- A dimension with the same value everywhere. -/
def constantDimension (n : String) : Dimension := ⟨n, ⟨.value (.text ""), {}⟩⟩

theorem isDimensionName_iff {n : String} :
    IsDimensionName n ↔ Text.isBlankText n = false ∧ isReserved n = false := by
  constructor
  · rintro ⟨v, path, d, hd, rfl⟩
    have hwell := dimension_codec.sound v path d hd
    exact ⟨hwell.notBlank, hwell.notReserved⟩
  · rintro ⟨hblank, hreserved⟩
    have hwell : (constantDimension n).WellFormed :=
      ⟨⟨trivial, fun s hs => nomatch hs⟩, hblank, hreserved⟩
    exact ⟨_, .root, _, dimension_codec.complete _ .root hwell, rfl⟩

/-! ## 2. Names after the aliases -/

theorem renamed_of_mem {aliases : Aliases} (h : aliases.Consistent) {name target : String}
    (hmem : (name, target) ∈ aliases) : renamed aliases name = target := by
  unfold renamed
  rw [Aliases.lookup_of_mem h.oneTarget hmem]
  rfl

/-- A name that is not blank becomes blank by an alias, and by no other way. -/
theorem isBlankText_renamed {aliases : Aliases} (h : aliases.Consistent) {name : String}
    (hname : Text.isBlankText name = false) :
    Text.isBlankText (renamed aliases name) = true ↔
      ∃ target, (name, target) ∈ aliases ∧ Text.isBlankText target = true := by
  constructor
  · intro hblank
    rcases renamed_eq_or_mem aliases name with hsame | hmem
    · rw [hsame, hname] at hblank
      cases hblank
    · exact ⟨_, hmem, hblank⟩
  · rintro ⟨target, hmem, hblank⟩
    rw [renamed_of_mem h hmem]
    exact hblank

end UsageGrid.Rules

namespace UsageGrid.Extraction

open Rules

/-! ## 3. Names of records -/

/-- The record has the dimensions of the area, under names that the aliases of the document give
    them. -/
structure IsNamedBy (d : Definition) (a : Area) (r : Record) : Prop where
  names : r.dimensions.map (·.1) = a.dimensions.map fun x => d.canonicalDimension x.name
  distinct : (r.dimensions.map (·.1)).Nodup
  free : ∀ n ∈ r.dimensions.map (·.1), isReserved n = false
  accepted : ∀ n ∈ r.dimensions.map (·.1), IsDimensionName n ↔ Text.isBlankText n = false
  blank : ∀ x ∈ a.dimensions, Text.isBlankText (d.canonicalDimension x.name) = true ↔
    ∃ target, (x.name, target) ∈ d.dimensionAliases ∧ Text.isBlankText target = true

theorem isNamedBy_canonical {d : Definition} (hd : d.WellFormed) {a : Area} (ha : a ∈ d.areas)
    {s : Record} (hs : s.dimensions.map (·.1) = a.dimensions.map (·.name))
    (hwell : (canonical d s).WellFormed) : IsNamedBy d a (canonical d s) where
  names := by
    have hrenamed : (canonical d s).dimensions.map (·.1)
        = (s.dimensions.map (·.1)).map d.canonicalDimension := by
      simp [canonical]
    rw [hrenamed, hs, List.map_map]
    rfl
  distinct := hwell.distinct
  free := hwell.free
  accepted n hn := by
    rw [isDimensionName_iff]
    exact and_iff_left (hwell.free n hn)
  blank x hx := isBlankText_renamed hd.dimensionAliases ((hd.areas a ha).dimensions x hx).notBlank

/-- **The names of the dimensions of a record are distinct and not reserved, and such as the decoder
    takes, unless an alias makes them blank.** -/
theorem execute_isNamedBy {v : Json} {d : Definition} {g : Grid} {rs : List Record}
    (hd : Definition.ofJson v = .ok d) (h : execute d g = .ok rs) :
    ∀ r ∈ rs, ∃ a ∈ d.areas, IsNamedBy d a r := by
  intro r hr
  have hwell : d.WellFormed := definition_codec.sound _ _ _ hd
  obtain ⟨a, ha, i, o, l, s, hat, rfl⟩ := mem_execute hwell h hr
  obtain ⟨-, -, hnames⟩ := recordAt_eq_some hat
  exact ⟨a, ha, isNamedBy_canonical hwell ha hnames (execute_wellFormed hwell h hr)⟩

/-- The records of the store have the names of their area, one of them after an alias. -/
theorem storeDocument_isNamedBy :
    ∃ d rs r, Definition.ofJson Table.storeDocument = .ok d ∧ execute d exampleGrid = .ok rs ∧
      r ∈ rs ∧ r.dimensions.map (·.1) = ["Platform", "Access"] ∧ ∃ a ∈ d.areas, IsNamedBy d a r := by
  have hrun : ((Definition.ofJson Table.storeDocument).toOption.any fun d =>
      (execute d exampleGrid).toOption.any fun rs =>
        rs.any fun r => r.dimensions.map (·.1) == ["Platform", "Access"]) = true := by
    decide +kernel
  obtain ⟨d, hd, hrun⟩ := exists_ok_of_any hrun
  obtain ⟨rs, hrs, hrun⟩ := exists_ok_of_any hrun
  obtain ⟨r, hr, hnames⟩ := List.any_eq_true.1 hrun
  exact ⟨d, rs, r, hd, hrs, hr, beq_iff_eq.1 hnames, execute_isNamedBy hd hrs r hr⟩

/-! ## 4. Blank targets -/

/-- A document with an alias to a blank. -/
def blankTargetDocument : Json :=
  .object [
    ("parser_name", .string "blank_target"),
    ("dimension_aliases", .array [.array [.string "Platform", .string " "]]),
    ("areas", .array [exampleArea])]

/-- **Not every name in a record is one that the decoder takes**: an alias to a blank is accepted. -/
theorem blankTarget_not_named :
    ¬ ∀ v d, Definition.ofJson v = .ok d → ∀ g rs, execute d g = .ok rs →
      ∀ r ∈ rs, (r.dimensions.map (·.1)).Nodup ∧ ∀ n ∈ r.dimensions.map (·.1), IsDimensionName n := by
  intro h
  have hrun : ((Definition.ofJson blankTargetDocument).toOption.any fun d =>
      (execute d exampleGrid).toOption.any fun rs =>
        rs.any fun r => (r.dimensions.map (·.1)).contains " ") = true := by
    decide +kernel
  obtain ⟨d, hd, hrun⟩ := exists_ok_of_any hrun
  obtain ⟨rs, hrs, hrun⟩ := exists_ok_of_any hrun
  obtain ⟨r, hr, hblank⟩ := List.any_eq_true.1 hrun
  have hname := (h _ d hd _ rs hrs r hr).2 " " (List.contains_iff_mem.1 hblank)
  exact absurd (isDimensionName_iff.1 hname).1 (by decide)

end UsageGrid.Extraction
