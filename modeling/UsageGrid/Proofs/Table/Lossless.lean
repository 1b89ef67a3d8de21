import UsageGrid.Proofs.Decimal.Whole
import UsageGrid.Proofs.Extraction.Execute
import UsageGrid.Proofs.Json.Canonical

/-!
# A table loses nothing of its records

The names of the columns, and those of the fields of one record, stand in one order (`layout`).

* No name of a dimension is that of another column, and no two dimensions of a record have one name,
  whatever the aliases (`Record.WellFormed`). So it is for all records that a document finds
  (`execute_wellFormed`).
* Then no field of a row covers another: a row has the fields of its record, and shows each of them
  (`Row.Shows`).
* The table has a column for each field that occurs, and no other that may be left out
  (`IsTableOf`).
-/

namespace UsageGrid

open Rules

/-! ## 1. Columns in their order -/

namespace Table

/-- The columns before the dimensions, as far as they are given. -/
def leading (organization title : Bool) (kinds : List TitleIdKind) : List String :=
  (if organization then ["organization"] else []) ++ (if title then ["title"] else [])
    ++ kinds.map TitleIdKind.name

/-- The columns of every measurement. -/
def measures : List String := ["metric", "date", "value"]

/-- The columns that are given, in their order. -/
def layout (organization title : Bool) (kinds : List TitleIdKind) (names : List String) :
    List String :=
  leading organization title kinds ++ names ++ measures

theorem mem_leading {organization title : Bool} {kinds : List TitleIdKind} {f : String} :
    f ∈ leading organization title kinds ↔
      (organization = true ∧ f = "organization") ∨ (title = true ∧ f = "title") ∨
      ∃ k ∈ kinds, k.name = f := by
  unfold leading
  rw [List.mem_append, List.mem_append, List.mem_map, or_assoc]
  cases organization <;> cases title <;> simp

theorem mem_layout {organization title : Bool} {kinds : List TitleIdKind} {names : List String}
    {f : String} :
    f ∈ layout organization title kinds names ↔
      f ∈ leading organization title kinds ∨ f ∈ names ∨ f ∈ measures := by
  unfold layout
  rw [List.mem_append, List.mem_append, or_assoc]

theorem isReserved_name (k : TitleIdKind) : isReserved k.name = true := by
  cases k <;> decide +kernel

theorem isReserved_fixed : ∀ f ∈ fixedColumns, isReserved f = true := by
  decide +kernel

theorem isReserved_measures {f : String} (h : f ∈ measures) : isReserved f = true :=
  isReserved_fixed f (List.mem_append_right ["organization", "title"] h)

theorem isReserved_leading {organization title : Bool} {kinds : List TitleIdKind} {f : String}
    (h : f ∈ leading organization title kinds) : isReserved f = true := by
  rcases mem_leading.1 h with ⟨-, rfl⟩ | ⟨-, rfl⟩ | ⟨k, -, rfl⟩
  · exact isReserved_fixed _ (by decide)
  · exact isReserved_fixed _ (by decide)
  · exact isReserved_name k

theorem name_injective {k l : TitleIdKind} (h : k.name = l.name) : k = l := by
  cases k <;> cases l <;> first | rfl | exact absurd h (by decide)

/-- Columns whose names are reserved differ from each other and from all dimensions. -/
theorem nodup_layout {organization title : Bool} {kinds : List TitleIdKind} {names : List String}
    (hkinds : kinds.Sublist TitleIdKind.all) (hnames : names.Nodup)
    (hfree : ∀ n ∈ names, isReserved n = false) :
    (layout organization title kinds names).Nodup := by
  have hall : (leading true true TitleIdKind.all ++ measures).Nodup := by decide
  have hreserved : (leading organization title kinds ++ measures).Nodup := by
    refine hall.sublist (List.Sublist.append_right (.append (.append ?_ ?_) (hkinds.map _)) _)
    · cases organization <;> simp
    · cases title <;> simp
  unfold layout
  -- the dimensions last, the reserved names stand together
  rw [List.append_assoc, (List.perm_append_comm.append_left _).nodup_iff, ← List.append_assoc,
    List.nodup_append]
  refine ⟨hreserved, hnames, fun f hf n hn he => ?_⟩
  have hf : isReserved f = true :=
    (List.mem_append.1 hf).elim isReserved_leading isReserved_measures
  rw [he, hfree n hn] at hf
  cases hf

end Table

/-! ## 2. Records -/

namespace Record

/-- The names of the fields that a record has. -/
def fieldNames (r : Record) : List String :=
  Table.layout r.organization.isSome r.title.isSome (r.titleIds.map (·.1))
    (r.dimensions.map (·.1))

/-- No field of the record has the name of another. -/
structure WellFormed (r : Record) : Prop where
  titleIds : (r.titleIds.map (·.1)).Sublist TitleIdKind.all
  distinct : (r.dimensions.map (·.1)).Nodup
  free : ∀ n ∈ r.dimensions.map (·.1), isReserved n = false

theorem WellFormed.nodup {r : Record} (h : r.WellFormed) : r.fieldNames.Nodup :=
  Table.nodup_layout h.titleIds h.distinct h.free

/-- Of several keys those remain, in their order, that have a value. -/
theorem keys_filterMap_sublist {κ β : Type} (value : κ → Option β) (keys : List κ) :
    ((keys.filterMap fun k => (value k).map fun v => (k, v)).map (·.1)).Sublist keys := by
  induction keys with
  | nil => exact .slnil
  | cons k rest ih =>
    rw [List.filterMap_cons]
    cases value k with
    | none => exact ih.cons k
    | some v => exact ih.cons_cons k

theorem orderTitleIds_sublist (ids : List (TitleIdKind × String)) :
    ((orderTitleIds ids).map (·.1)).Sublist TitleIdKind.all :=
  keys_filterMap_sublist _ _

end Record

namespace Rules

/-- The name of a dimension is that of no other column, after the aliases as before. -/
theorem isReserved_renamed {aliases : Aliases} {name : String}
    (hname : isReserved name = false) (hto : ∀ p ∈ aliases, isReserved p.2 = false) :
    isReserved (renamed aliases name) = false := by
  rcases renamed_eq_or_mem aliases name with hsame | hmem
  · rw [hsame]
    exact hname
  · exact hto (name, renamed aliases name) hmem

end Rules

/-- **No field of a record that a document finds has the name of another.** -/
theorem execute_wellFormed {d : Definition} (hd : d.WellFormed) {g : Grid} {rs : List Record}
    (h : Extraction.execute d g = .ok rs) {r : Record} (hr : r ∈ rs) : r.WellFormed := by
  obtain ⟨a, ha, i, o, l, s, hat, rfl⟩ := Extraction.mem_execute hd h hr
  obtain ⟨-, ⟨ids, hids⟩, hnames⟩ := Extraction.recordAt_eq_some hat
  have hrenamed : (Extraction.canonical d s).dimensions.map (·.1)
      = a.dimensions.map fun x => d.canonicalDimension x.name := by
    have : (Extraction.canonical d s).dimensions.map (·.1)
        = (s.dimensions.map (·.1)).map d.canonicalDimension := by
      simp [Extraction.canonical]
    rw [this, hnames, List.map_map]
    rfl
  constructor
  · show (s.titleIds.map (·.1)).Sublist _
    rw [hids]
    exact Record.orderTitleIds_sublist ids
  · rw [hrenamed]
    exact hd.notMerged a ha
  · rw [hrenamed]
    intro n hn
    obtain ⟨x, hx, rfl⟩ := List.mem_map.1 hn
    exact isReserved_renamed ((hd.areas a ha).dimensions x hx).notReserved hd.targetsNotReserved

/-! ## 3. Rows -/

/-- The row has the fields of the record and no others, and each of them shows its value. -/
structure Row.Shows (row : Row) (r : Record) : Prop where
  distinct : r.fieldNames.Nodup
  fields : (row.map (·.1)).Perm r.fieldNames
  organization : Json.lookup row "organization" = r.organization.map .string
  title : Json.lookup row "title" = r.title.map .string
  titleIds : ∀ k, Json.lookup row k.name = (r.titleIds.lookup k).map .string
  dimensions : ∀ p ∈ r.dimensions, Json.lookup row p.1 = some (.string p.2)
  metric : Json.lookup row "metric" = some (.string r.metric)
  date : Json.lookup row "date" = some (.string r.date)
  value : ∃ v x, Json.lookup row "value" = some v ∧ Json.asFloat v = .ok x ∧
    x.sameValue r.value = true

namespace Table

theorem keys_fieldsOf (r : Record) : (fieldsOf r).map (·.1) = r.fieldNames := by
  unfold fieldsOf Record.fieldNames layout leading measures
  cases r.organization <;> cases r.title <;> simp [Function.comp_def]

section Rows

variable {r : Record} (h : r.WellFormed)

include h

theorem lookup_row {f : String} :
    Json.lookup (Json.sortMembers (fieldsOf r)) f = Json.lookup (fieldsOf r) f :=
  Json.lookup_sortMembers (by rw [keys_fieldsOf]; exact h.nodup)

theorem lookup_of_mem {f : String} {v : Json} (hmem : (f, v) ∈ fieldsOf r) :
    Json.lookup (Json.sortMembers (fieldsOf r)) f = some v := by
  rw [lookup_row h]
  exact (Json.lookup_eq_some_iff (by rw [keys_fieldsOf]; exact h.nodup)).2 hmem

/-- A reserved name is that of a field only if the record has the field that it is reserved for. -/
theorem not_mem_fieldNames {f : String} (hf : isReserved f = true)
    (horganization : f = "organization" → r.organization = none)
    (htitle : f = "title" → r.title = none)
    (hids : ∀ k, k.name = f → r.titleIds.lookup k = none)
    (hlast : f ∉ measures) : f ∉ r.fieldNames := by
  intro hmem
  rcases mem_layout.1 hmem with hlead | hn | hin
  · rcases mem_leading.1 hlead with ⟨hsome, he⟩ | ⟨hsome, he⟩ | ⟨k, hk, he⟩
    · rw [horganization he] at hsome
      cases hsome
    · rw [htitle he] at hsome
      cases hsome
    · obtain ⟨p, hp, rfl⟩ := List.mem_map.1 hk
      have := List.lookup_eq_none_iff.1 (hids p.1 he) p hp
      simp at this
  · have := h.free f hn
    rw [hf] at this
    cases this
  · exact hlast hin

/-- A field that a record need not have. -/
theorem lookup_optional {f : String} {o : Option String}
    (hsome : ∀ v, o = some v → (f, Json.string v) ∈ fieldsOf r)
    (hnone : o = none → f ∉ r.fieldNames) :
    Json.lookup (Json.sortMembers (fieldsOf r)) f = o.map .string := by
  cases o with
  | some v => exact lookup_of_mem h (hsome v rfl)
  | none =>
    rw [lookup_row h, Option.map_none, Json.lookup_eq_none_iff, keys_fieldsOf]
    exact hnone rfl

theorem lookup_organization :
    Json.lookup (Json.sortMembers (fieldsOf r)) "organization" = r.organization.map .string :=
  lookup_optional h (fun v hv => by simp [fieldsOf, hv]) fun hnone =>
    not_mem_fieldNames h (isReserved_fixed _ (by decide)) (fun _ => hnone)
      (fun he => absurd he (by decide)) (fun k he => absurd he (by cases k <;> decide)) (by decide)

theorem lookup_title :
    Json.lookup (Json.sortMembers (fieldsOf r)) "title" = r.title.map .string :=
  lookup_optional h (fun v hv => by simp [fieldsOf, hv]) fun hnone =>
    not_mem_fieldNames h (isReserved_fixed _ (by decide)) (fun he => absurd he (by decide))
      (fun _ => hnone) (fun k he => absurd he (by cases k <;> decide)) (by decide)

theorem lookup_titleId (k : TitleIdKind) :
    Json.lookup (Json.sortMembers (fieldsOf r)) k.name = (r.titleIds.lookup k).map .string := by
  refine lookup_optional h (fun v hv => ?_) fun hnone => ?_
  · obtain ⟨before, after, hids, -⟩ := List.lookup_eq_some_iff.1 hv
    simp [fieldsOf, hids]
  · refine not_mem_fieldNames h (isReserved_name k) (fun he => absurd he ?_)
      (fun he => absurd he ?_) (fun l hl => name_injective hl ▸ hnone) ?_
    · cases k <;> decide
    · cases k <;> decide
    · cases k <;> decide

/-- **The row of a record shows it.** -/
theorem shows_row : Row.Shows (Json.sortMembers (fieldsOf r)) r where
  distinct := h.nodup
  fields := by
    have hnodup : ((fieldsOf r).map (·.1)).Nodup := by
      rw [keys_fieldsOf]
      exact h.nodup
    have := (Json.sortMembers_perm hnodup).map (·.1)
    rwa [keys_fieldsOf] at this
  organization := lookup_organization h
  title := lookup_title h
  titleIds := lookup_titleId h
  dimensions p hp := lookup_of_mem h (by
    obtain ⟨n, v⟩ := p
    simp [fieldsOf, hp])
  metric := lookup_of_mem h (by simp [fieldsOf])
  date := lookup_of_mem h (by simp [fieldsOf])
  value := by
    obtain ⟨x, hx, hsame⟩ := asFloat_number r.value
    exact ⟨number r.value, x, lookup_of_mem h (by simp [fieldsOf]), hx, hsame⟩

end Rows

/-! ## 4. Columns -/

/-- The kinds that the title identifiers of records have, in the order of the kinds. -/
structure AreKindsOf (kinds : List TitleIdKind) (rs : List Record) : Prop where
  order : kinds.Sublist TitleIdKind.all
  occur : ∀ k, k ∈ kinds ↔ ∃ r ∈ rs, k ∈ r.titleIds.map (·.1)

/-- The names of dimensions as the records bring them. -/
def namesSeen (rs : List Record) : List String := rs.flatMap fun r => r.dimensions.map (·.1)

/-- The names that the dimensions of records have, in the order in which they are first seen. -/
structure AreNamesOf (names : List String) (rs : List Record) : Prop where
  order : names.Pairwise fun m n => (namesSeen rs).idxOf m < (namesSeen rs).idxOf n
  occur : ∀ n, n ∈ names ↔ ∃ r ∈ rs, n ∈ r.dimensions.map (·.1)

theorem AreNamesOf.nodup {names : List String} {rs : List Record} (h : AreNamesOf names rs) :
    names.Nodup :=
  h.order.imp fun hlt he => absurd hlt (by rw [he]; exact Nat.lt_irrefl _)

theorem titleIdKinds_areKindsOf (rs : List Record) : AreKindsOf (titleIdKinds rs) rs where
  order := List.filter_sublist
  occur k := by
    have hall : k ∈ TitleIdKind.all := by cases k <;> decide
    simp [titleIdKinds, hall]

/-- Names are gathered as they are first seen. `seen` are those that have been passed. -/
theorem foldl_firstSeen (more seen names : List String)
    (hoccur : ∀ n, n ∈ names ↔ n ∈ seen)
    (horder : names.Pairwise fun m n => seen.idxOf m < seen.idxOf n) :
    let all := more.foldl (fun names n => if names.contains n then names else names ++ [n]) names
    (∀ n, n ∈ all ↔ n ∈ seen ++ more) ∧
      all.Pairwise fun m n => (seen ++ more).idxOf m < (seen ++ more).idxOf n := by
  induction more generalizing seen names with
  | nil =>
    rw [List.append_nil]
    exact ⟨hoccur, horder⟩
  | cons x rest ih =>
    -- a name that has been seen stays where it was
    have hstay : names.Pairwise fun m n => (seen ++ [x]).idxOf m < (seen ++ [x]).idxOf n := by
      refine horder.imp_of_mem fun hm hn hlt => ?_
      rwa [List.idxOf_append, List.idxOf_append, if_pos ((hoccur _).1 hm),
        if_pos ((hoccur _).1 hn)]
    have hsplit : seen ++ x :: rest = seen ++ [x] ++ rest := by simp
    rw [List.foldl_cons, hsplit]
    by_cases hx : x ∈ names
    · rw [if_pos (List.contains_iff_mem.2 hx)]
      refine ih _ _ (fun n => ?_) hstay
      rw [List.mem_append, List.mem_singleton, hoccur]
      exact ⟨.inl, fun h => h.elim id fun he => he ▸ (hoccur x).1 hx⟩
    · rw [if_neg fun hc => hx (List.contains_iff_mem.1 hc)]
      refine ih _ _ (fun n => ?_) ?_
      · rw [List.mem_append, List.mem_append, hoccur]
      · refine List.pairwise_append.2 ⟨hstay, List.pairwise_singleton _ _, fun m hm n hn => ?_⟩
        have hseen := (hoccur m).1 hm
        rw [List.mem_singleton.1 hn, List.idxOf_append, List.idxOf_append, if_pos hseen,
          if_neg fun hin => hx ((hoccur x).2 hin)]
        exact Nat.lt_of_lt_of_le (List.idxOf_lt_length_iff.2 hseen) (Nat.le_add_left _ _)

theorem dimensionNames_areNamesOf (rs : List Record) : AreNamesOf (dimensionNames rs) rs := by
  have h := foldl_firstSeen (namesSeen rs) [] [] (fun _ => Iff.rfl) .nil
  rw [List.nil_append] at h
  refine ⟨h.2, fun n => ?_⟩
  rw [← List.mem_flatMap]
  exact h.1 n

theorem fields_columnsOf (rs : List Record) :
    (columnsOf rs).map (·.field)
      = layout (rs.any fun r => r.organization.isSome) (rs.any fun r => r.title.isSome)
          (titleIdKinds rs) (dimensionNames rs) := by
  have hcolumn : ∀ needed c, (columnIf needed c).map (·.field)
      = if needed then [c.field] else [] := by
    intro needed c
    cases needed <;> rfl
  unfold columnsOf layout leading measures
  simp only [List.map_append, hcolumn, List.map_map]
  congr 2
  exact List.map_id _

/-! ## 5. Tables -/

/-- What the table of records is: its columns are distinct, in their order and none too many, and
    its rows show the records one by one. -/
structure IsTableOf (t : Table) (rs : List Record) : Prop where
  distinct : (t.columns.map (·.field)).Nodup
  order : ∃ kinds names, AreKindsOf kinds rs ∧ AreNamesOf names rs ∧
    t.columns.map (·.field) = layout (rs.any fun r => r.organization.isSome)
      (rs.any fun r => r.title.isSome) kinds names
  occur : ∀ f, f ∈ t.columns.map (·.field) ↔ f ∈ measures ∨ ∃ r ∈ rs, f ∈ r.fieldNames
  length : t.rows.length = rs.length
  rows : ∀ n (h : n < t.rows.length) (h' : n < rs.length), Row.Shows t.rows[n] rs[n]
  columned : ∀ row ∈ t.rows, ∀ f ∈ row.map (·.1), f ∈ t.columns.map (·.field)

/-- A column is there if it always is or if a record has its field. -/
theorem mem_fields {rs : List Record} {f : String} :
    f ∈ (columnsOf rs).map (·.field) ↔ f ∈ measures ∨ ∃ r ∈ rs, f ∈ r.fieldNames := by
  have hleading : f ∈ leading (rs.any fun r => r.organization.isSome)
      (rs.any fun r => r.title.isSome) (titleIdKinds rs) ↔
      ∃ r ∈ rs, f ∈ leading r.organization.isSome r.title.isSome (r.titleIds.map (·.1)) := by
    simp only [mem_leading, List.any_eq_true, (titleIdKinds_areKindsOf rs).occur]
    constructor
    · rintro (⟨⟨r, hr, hsome⟩, he⟩ | ⟨⟨r, hr, hsome⟩, he⟩ | ⟨k, ⟨r, hr, hk⟩, he⟩)
      · exact ⟨r, hr, .inl ⟨hsome, he⟩⟩
      · exact ⟨r, hr, .inr (.inl ⟨hsome, he⟩)⟩
      · exact ⟨r, hr, .inr (.inr ⟨k, hk, he⟩)⟩
    · rintro ⟨r, hr, ⟨hsome, he⟩ | ⟨hsome, he⟩ | ⟨k, hk, he⟩⟩
      · exact .inl ⟨⟨r, hr, hsome⟩, he⟩
      · exact .inr (.inl ⟨⟨r, hr, hsome⟩, he⟩)
      · exact .inr (.inr ⟨k, ⟨r, hr, hk⟩, he⟩)
  rw [fields_columnsOf, mem_layout, hleading, (dimensionNames_areNamesOf rs).occur]
  constructor
  · rintro (⟨r, hr, hf⟩ | ⟨r, hr, hf⟩ | hf)
    · exact .inr ⟨r, hr, mem_layout.2 (.inl hf)⟩
    · exact .inr ⟨r, hr, mem_layout.2 (.inr (.inl hf))⟩
    · exact .inl hf
  · rintro (hf | ⟨r, hr, hf⟩)
    · exact .inr (.inr hf)
    · rcases mem_layout.1 hf with hf | hf | hf
      · exact .inl ⟨r, hr, hf⟩
      · exact .inr (.inl ⟨r, hr, hf⟩)
      · exact .inr (.inr hf)

theorem ofRecords_isTableOf {rs : List Record} (h : ∀ r ∈ rs, r.WellFormed) :
    IsTableOf (ofRecords rs) rs where
  distinct := by
    show ((columnsOf rs).map (·.field)).Nodup
    have hnames := dimensionNames_areNamesOf rs
    rw [fields_columnsOf]
    refine nodup_layout (titleIdKinds_areKindsOf rs).order hnames.nodup fun n hn => ?_
    obtain ⟨r, hr, hin⟩ := (hnames.occur n).1 hn
    exact (h r hr).free n hin
  order := ⟨_, _, titleIdKinds_areKindsOf rs, dimensionNames_areNamesOf rs, fields_columnsOf rs⟩
  occur _ := mem_fields
  length := List.length_map _
  rows n hrow hn := by
    have : (ofRecords rs).rows[n] = Json.sortMembers (fieldsOf rs[n]) := List.getElem_map _
    rw [this]
    exact shows_row (h _ (List.getElem_mem hn))
  columned row hrow f hf := by
    obtain ⟨r, hr, rfl⟩ := List.mem_map.1 hrow
    exact mem_fields.2 (.inr ⟨r, hr, (shows_row (h r hr)).fields.mem_iff.1 hf⟩)

/-- **The table of a document loses nothing of the records that the document finds.** Its columns
    are distinct and in their order, and one that may be left out is there if and only if a record
    has its field; row by row it has the fields of the records and shows every one of them. -/
theorem execute_lossless {v : Json} {d : Definition} {g : Grid} {rs : List Record}
    (hd : Definition.ofJson v = .ok d) (h : Extraction.execute d g = .ok rs) :
    ofGrid d g = .ok (ofRecords rs) ∧ IsTableOf (ofRecords rs) rs := by
  have hwell : d.WellFormed := definition_codec.sound _ _ _ hd
  refine ⟨?_, ofRecords_isTableOf fun r hr => execute_wellFormed hwell h hr⟩
  unfold ofGrid
  rw [h, map_ok]

/-- A document whose records have fields of all sorts; one dimension is renamed. -/
def storeDocument : Json :=
  .object [
    ("parser_name", .string "store_reports"),
    ("dimension_aliases", .array [.array [.string "Kind", .string "Access"]]),
    ("areas", .array [.object [
      ("data_headers", .object [
        ("roles", .array [.object [
          ("source", exampleRange 0 1 "right"), ("role", .string "date")]]),
        ("data_cells", exampleRange 1 1 "right"),
        ("data_direction", .string "down")]),
      ("metrics", .object [("source", exampleRange 1 0 "down"), ("role", .string "metric")]),
      ("title_ids", .array [.object [
        ("name", .string "DOI"), ("source", .object [("value", .string "10.1000/1")]),
        ("role", .string "title_id")]]),
      ("dimensions", .array [
        .object [("name", .string "Platform"), ("source", .object [("value", .string "Web")]),
          ("role", .string "dimension")],
        .object [("name", .string "Kind"), ("source", .object [("value", .string "Open")]),
          ("role", .string "dimension")]]),
      ("organizations", .object [
        ("source", .object [("value", .string "Library")]), ("role", .string "organization")])]])]

/-- The example grid has three records under this document, and its table seven columns. -/
theorem storeDocument_isTableOf :
    ∃ d rs, Definition.ofJson storeDocument = .ok d ∧
      Extraction.execute d Extraction.exampleGrid = .ok rs ∧ rs.length = 3 ∧
      IsTableOf (ofRecords rs) rs ∧
      (ofRecords rs).columns.map (·.field)
        = ["organization", "DOI", "Platform", "Access", "metric", "date", "value"] := by
  have hrun : ((Definition.ofJson storeDocument).toOption.any fun d =>
      (Extraction.execute d Extraction.exampleGrid).toOption.any fun rs =>
        rs.length == 3 && (ofRecords rs).columns.map (·.field)
          == ["organization", "DOI", "Platform", "Access", "metric", "date", "value"])
      = true := by decide +kernel
  obtain ⟨d, hd, hrun⟩ := (Option.any_eq_true _ _).1 hrun
  obtain ⟨rs, hrs, hrun⟩ := (Option.any_eq_true _ _).1 hrun
  rw [toOption_eq_some] at hd hrs
  rw [Bool.and_eq_true, beq_iff_eq, beq_iff_eq] at hrun
  exact ⟨d, rs, hd, hrs, hrun.1, (execute_lossless hd hrs).2, hrun.2⟩

end Table

end UsageGrid
