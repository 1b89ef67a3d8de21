import Mathlib.Data.String.Basic
import UsageGrid.Json.Basic
import UsageGrid.Proofs.Json.Number

/-!
# Values, their members and their canonical form

What a text can hold of a value comes first, then members in the order of their keys, and the
canonical form, in which every object has its members in that order.
-/

/-!
## What a text can hold of a value

How deep arrays and objects are nested in a value (`depth`), whether its whole numbers have the
width that a text can hold (`Fits`), whether a key tells its member (`Distinct`), and the value with
every floating number replaced by what is read where it was written (`reread`).
-/

namespace UsageGrid.Json

mutual

/-- How many arrays and objects are nested in each other at most. -/
def depth : Json → Nat
  | .array items => depthItems items + 1
  | .object members => depthMembers members + 1
  | _ => 0

def depthItems : List Json → Nat
  | [] => 0
  | v :: rest => max (depth v) (depthItems rest)

def depthMembers : List (String × Json) → Nat
  | [] => 0
  | (_, v) :: rest => max (depth v) (depthMembers rest)

end

mutual

/-- The whole numbers in the value fit 64 bits. -/
def Fits : Json → Prop
  | .int n => IsWhole64 n
  | .array items => FitsItems items
  | .object members => FitsMembers members
  | _ => True

def FitsItems : List Json → Prop
  | [] => True
  | v :: rest => Fits v ∧ FitsItems rest

def FitsMembers : List (String × Json) → Prop
  | [] => True
  | (_, v) :: rest => Fits v ∧ FitsMembers rest

end

mutual

/-- No object in the value has a key twice. -/
def Distinct : Json → Prop
  | .array items => DistinctItems items
  | .object members => (members.map (·.1)).Nodup ∧ DistinctMembers members
  | _ => True

def DistinctItems : List Json → Prop
  | [] => True
  | v :: rest => Distinct v ∧ DistinctItems rest

def DistinctMembers : List (String × Json) → Prop
  | [] => True
  | (_, v) :: rest => Distinct v ∧ DistinctMembers rest

end

mutual

/-- The value with its floating numbers replaced. -/
def mapFloats (f : Binary64 → Binary64) : Json → Json
  | .float x => .float (f x)
  | .array items => .array (mapItems f items)
  | .object members => .object (mapMembers f members)
  | v => v

def mapItems (f : Binary64 → Binary64) : List Json → List Json
  | [] => []
  | v :: rest => mapFloats f v :: mapItems f rest

def mapMembers (f : Binary64 → Binary64) : List (String × Json) → List (String × Json)
  | [] => []
  | (k, v) :: rest => (k, mapFloats f v) :: mapMembers f rest

end

/-- The value with its floating numbers as they are read back. -/
abbrev reread (v : Json) : Json := v.mapFloats rereadFloat

end UsageGrid.Json

/-!
## Members in the order of their keys

Where no key comes twice, putting members in order only permutes them (`sortMembers_perm`), and a
key has at most one value: what a look-up finds does not depend on the order
(`lookup_eq_some_iff`, `lookup_sortMembers`).
-/

namespace UsageGrid.Json

variable {members : List (String × Json)} {key : String} {value : Json}

/-! ## 1. Sorting -/

/-- A new key replaces nothing. -/
theorem insertMember_perm (h : key ∉ members.map (·.1)) :
    (insertMember key value members).Perm ((key, value) :: members) := by
  induction members with
  | nil => exact .refl _
  | cons m rest ih =>
    obtain ⟨k, v⟩ := m
    rw [List.map_cons, List.mem_cons, not_or] at h
    unfold insertMember
    rw [if_neg h.1]
    by_cases hlt : key < k
    · rw [if_pos hlt]
    · rw [if_neg hlt]
      exact ((ih h.2).cons (k, v)).trans (.swap _ _ _)

theorem foldl_insertMember_perm (sorted : List (String × Json))
    (h : ((members ++ sorted).map (·.1)).Nodup) :
    (members.foldl (fun sorted (k, v) => insertMember k v sorted) sorted).Perm
      (members ++ sorted) := by
  -- the members that have been put in place join those in order
  induction members generalizing sorted with
  | nil => exact .refl _
  | cons m rest ih =>
    obtain ⟨k, v⟩ := m
    have hmiddle : ((rest ++ (k, v) :: sorted).map (·.1)).Nodup :=
      (List.perm_middle.map _).nodup_iff.2 h
    have hnew : k ∉ sorted.map (·.1) := by
      rw [List.map_append, List.map_cons] at hmiddle
      exact (List.nodup_cons.1 (List.nodup_append.1 hmiddle).2.1).1
    have hput : (insertMember k v sorted).Perm ((k, v) :: sorted) := insertMember_perm hnew
    have hrest : (rest ++ insertMember k v sorted).Perm (rest ++ (k, v) :: sorted) :=
      hput.append_left rest
    exact ((ih _ ((hrest.map _).nodup_iff.2 hmiddle)).trans hrest).trans List.perm_middle

theorem sortMembers_perm (h : (members.map (·.1)).Nodup) :
    (sortMembers members).Perm members := by
  have := foldl_insertMember_perm [] (by rwa [List.append_nil])
  rwa [List.append_nil] at this

/-! ## 2. Looking up -/

theorem lookup_cons_self : lookup ((key, value) :: members) key = some value := by
  simp [lookup]

theorem lookup_cons_of_ne {k : String} (h : k ≠ key) :
    lookup ((k, value) :: members) key = lookup members key := by
  simp [lookup, h]

/-- With distinct keys the value under a key is that of the member with the key. -/
theorem lookup_eq_some_iff (h : (members.map (·.1)).Nodup) :
    lookup members key = some value ↔ (key, value) ∈ members := by
  unfold lookup
  induction members with
  | nil => simp
  | cons m rest ih =>
    obtain ⟨k, v⟩ := m
    obtain ⟨hk, hrest⟩ := List.nodup_cons.1 h
    by_cases he : k = key
    · subst he
      have hout : (k, value) ∉ rest := fun hmem => hk (List.mem_map.2 ⟨_, hmem, rfl⟩)
      simp [hout, eq_comm]
    · have hbeq : (k == key) = false := by simpa using he
      rw [List.find?_cons_of_neg (by simp [hbeq]), ih hrest, List.mem_cons, Prod.mk.injEq]
      exact ⟨.inr, fun h => h.elim (fun hc => absurd hc.1.symm he) id⟩

theorem lookup_eq_none_iff : lookup members key = none ↔ key ∉ members.map (·.1) := by
  unfold lookup
  rw [Option.map_eq_none_iff, List.find?_eq_none, List.mem_map]
  constructor
  · rintro h ⟨m, hm, rfl⟩
    exact h m hm (beq_self_eq_true _)
  · exact fun h m hm he => h ⟨m, hm, eq_of_beq he⟩

theorem lookup_sortMembers (h : (members.map (·.1)).Nodup) :
    lookup (sortMembers members) key = lookup members key := by
  have hperm := sortMembers_perm h
  have hsorted : ((sortMembers members).map (·.1)).Nodup := (hperm.map _).nodup_iff.2 h
  apply Option.ext
  intro v
  rw [lookup_eq_some_iff hsorted, lookup_eq_some_iff h, hperm.mem_iff]

end UsageGrid.Json

/-!
## Canonical values

In a canonical value every object has its members in the order of their keys, each key once. What is
put into canonical form is canonical (`canonical_canonical`), and a key tells its member there
(`distinct_canonical`). The canonical form does not look into numbers (`canonical_mapFloats`).
-/

namespace UsageGrid.Json

/-! ## 1. Sorted members -/

/-- The keys rise. -/
def SortedMembers (members : List (String × Json)) : Prop :=
  members.Pairwise fun m n => m.1 < n.1

theorem SortedMembers.nodup {members : List (String × Json)} (h : SortedMembers members) :
    (members.map (·.1)).Nodup :=
  List.pairwise_map.2 (h.imp fun hlt => ne_of_lt hlt)

theorem mem_insertMember {key : String} {value : Json} {members : List (String × Json)}
    {m : String × Json} (h : m ∈ insertMember key value members) :
    m = (key, value) ∨ m ∈ members := by
  induction members with
  | nil => exact .inl (List.mem_singleton.1 h)
  | cons n rest ih =>
    obtain ⟨k, v⟩ := n
    unfold insertMember at h
    split at h
    · exact (List.mem_cons.1 h).imp_right fun h => List.mem_cons_of_mem _ h
    · split at h
      · exact List.mem_cons.1 h
      · rcases List.mem_cons.1 h with rfl | h
        · exact .inr List.mem_cons_self
        · exact (ih h).imp_right fun h => List.mem_cons_of_mem _ h

theorem sorted_insertMember {members : List (String × Json)} (h : SortedMembers members)
    (key : String) (value : Json) : SortedMembers (insertMember key value members) := by
  induction members with
  | nil => exact List.pairwise_singleton _ _
  | cons n rest ih =>
    obtain ⟨k, v⟩ := n
    obtain ⟨hk, hrest⟩ := List.pairwise_cons.1 h
    unfold insertMember
    split
    · rename_i heq
      subst heq
      exact List.pairwise_cons.2 ⟨hk, hrest⟩
    · split
      · rename_i hlt
        refine List.pairwise_cons.2 ⟨fun m hm => ?_, h⟩
        rcases List.mem_cons.1 hm with rfl | hm
        · exact hlt
        · exact hlt.trans (hk m hm)
      · rename_i hne hnlt
        have hlt : k < key := lt_of_le_of_ne (not_lt.1 hnlt) (Ne.symm hne)
        refine List.pairwise_cons.2 ⟨fun m hm => ?_, ih hrest⟩
        rcases mem_insertMember hm with rfl | hm
        · exact hlt
        · exact hk m hm

theorem foldl_insertMember (members sorted : List (String × Json)) (h : SortedMembers sorted) :
    SortedMembers (members.foldl (fun sorted (k, v) => insertMember k v sorted) sorted) ∧
      ∀ m ∈ members.foldl (fun sorted (k, v) => insertMember k v sorted) sorted,
        m ∈ members ∨ m ∈ sorted := by
  induction members generalizing sorted with
  | nil => exact ⟨h, fun m hm => .inr hm⟩
  | cons n rest ih =>
    obtain ⟨hsorted, hmem⟩ := ih _ (sorted_insertMember h n.1 n.2)
    refine ⟨hsorted, fun m hm => ?_⟩
    rcases hmem m hm with hm | hm
    · exact .inl (List.mem_cons_of_mem _ hm)
    · rcases mem_insertMember hm with rfl | hm
      · exact .inl List.mem_cons_self
      · exact .inr hm

theorem sorted_sortMembers (members : List (String × Json)) : SortedMembers (sortMembers members) :=
  (foldl_insertMember members [] List.Pairwise.nil).1

theorem mem_of_mem_sortMembers {members : List (String × Json)} {m : String × Json}
    (h : m ∈ sortMembers members) : m ∈ members :=
  ((foldl_insertMember members [] List.Pairwise.nil).2 m h).resolve_right List.not_mem_nil

theorem insertMember_last {key : String} {value : Json} {members : List (String × Json)}
    (h : ∀ m ∈ members, m.1 < key) :
    insertMember key value members = members ++ [(key, value)] := by
  induction members with
  | nil => rfl
  | cons n rest ih =>
    obtain ⟨k, v⟩ := n
    have hk : k < key := h _ List.mem_cons_self
    unfold insertMember
    rw [if_neg (ne_of_gt hk), if_neg hk.asymm, ih fun m hm => h m (List.mem_cons_of_mem _ hm)]
    rfl

/-- Sorted members stay as they are. -/
theorem sortMembers_of_sorted {members : List (String × Json)} (h : SortedMembers members) :
    sortMembers members = members := by
  have hfold (rest sorted : List (String × Json)) (h : SortedMembers (sorted ++ rest)) :
      rest.foldl (fun sorted (k, v) => insertMember k v sorted) sorted = sorted ++ rest := by
    induction rest generalizing sorted with
    | nil => exact (List.append_nil _).symm
    | cons n rest ih =>
      have hlast : ∀ m ∈ sorted, m.1 < n.1 := fun m hm =>
        (List.pairwise_append.1 h).2.2 m hm n List.mem_cons_self
      have hsplit : sorted ++ n :: rest = sorted ++ [n] ++ rest := by simp
      rw [List.foldl_cons]
      dsimp only
      rw [insertMember_last hlast, hsplit]
      exact ih _ (hsplit ▸ h)
  exact hfold members [] h

/-! ## 2. The canonical form -/

theorem canonicalItems_eq (items : List Json) : canonicalItems items = items.map canonical := by
  induction items with
  | nil => rfl
  | cons v rest ih => rw [canonicalItems, ih, List.map_cons]

theorem canonicalMembers_eq (members : List (String × Json)) :
    canonicalMembers members = members.map fun (k, v) => (k, canonical v) := by
  induction members with
  | nil => rfl
  | cons m rest ih =>
    obtain ⟨k, v⟩ := m
    rw [canonicalMembers, ih, List.map_cons]

theorem canonical_array {items : List Json} (h : ∀ v ∈ items, v.canonical = v) :
    (Json.array items).canonical = .array items := by
  show Json.array (canonicalItems items) = _
  rw [canonicalItems_eq, List.map_congr_left h, List.map_id']

/-- Where keys rise and the values are canonical, so is the object. -/
theorem canonical_object {members : List (String × Json)} (hsorted : SortedMembers members)
    (h : ∀ m ∈ members, m.2.canonical = m.2) :
    (Json.object members).canonical = .object members := by
  have hsame : canonicalMembers members = members := by
    rw [canonicalMembers_eq]
    conv_rhs => rw [← List.map_id members]
    exact List.map_congr_left fun m hm => congrArg (Prod.mk m.1) (h m hm)
  show Json.object (sortMembers (canonicalMembers members)) = _
  rw [hsame, sortMembers_of_sorted hsorted]

theorem distinctItems_iff (items : List Json) : DistinctItems items ↔ ∀ v ∈ items, v.Distinct := by
  induction items with
  | nil => simp [DistinctItems]
  | cons v rest ih => simp [DistinctItems, ih]

theorem distinctMembers_iff (members : List (String × Json)) :
    DistinctMembers members ↔ ∀ m ∈ members, m.2.Distinct := by
  induction members with
  | nil => simp [DistinctMembers]
  | cons m rest ih => simp [DistinctMembers, ih]

theorem fitsItems_iff (items : List Json) : FitsItems items ↔ ∀ v ∈ items, v.Fits := by
  induction items with
  | nil => simp [FitsItems]
  | cons v rest ih => simp [FitsItems, ih]

theorem fitsMembers_iff (members : List (String × Json)) :
    FitsMembers members ↔ ∀ m ∈ members, m.2.Fits := by
  induction members with
  | nil => simp [FitsMembers]
  | cons m rest ih => simp [FitsMembers, ih]

theorem depthItems_le {items : List Json} {n : Nat} :
    depthItems items ≤ n ↔ ∀ v ∈ items, v.depth ≤ n := by
  induction items with
  | nil => simp [depthItems]
  | cons v rest ih => simp [depthItems, ih]

theorem depthMembers_le {members : List (String × Json)} {n : Nat} :
    depthMembers members ≤ n ↔ ∀ m ∈ members, m.2.depth ≤ n := by
  induction members with
  | nil => simp [depthMembers]
  | cons m rest ih => simp [depthMembers, ih]

@[simp] theorem depth_string (s : String) : (Json.string s).depth = 0 := rfl

@[simp] theorem depth_bool (b : Bool) : (Json.bool b).depth = 0 := rfl

theorem depth_array_le {items : List Json} {n : Nat} (h : ∀ v ∈ items, v.depth ≤ n) :
    (Json.array items).depth ≤ n + 1 :=
  Nat.succ_le_succ (depthItems_le.2 h)

theorem depth_object_le {members : List (String × Json)} {n : Nat}
    (h : ∀ m ∈ members, m.2.depth ≤ n) : (Json.object members).depth ≤ n + 1 :=
  Nat.succ_le_succ (depthMembers_le.2 h)

theorem depth_list_le {α : Type} {write : α → Json} {n : Nat} {l : List α}
    (h : ∀ a ∈ l, (write a).depth ≤ n) : (Json.array (l.map write)).depth ≤ n + 1 :=
  depth_array_le (List.forall_mem_map.2 h)

theorem depth_ofOption_le {α : Type} {write : α → Json} {n : Nat} (h : ∀ a, (write a).depth ≤ n)
    (o : Option α) : (Json.ofOption write o).depth ≤ n := by
  cases o with
  | none => exact Nat.zero_le n
  | some a => exact h a

theorem depth_texts_le (l : List String) : (ofTexts l).depth ≤ 1 :=
  depth_list_le fun _ _ => Nat.le_refl 0

mutual

/-- What holds of the parts of a value is said of each of its canonical parts. -/
theorem canonical_facts : ∀ v : Json, v.canonical.canonical = v.canonical ∧ v.canonical.Distinct ∧
    (v.Fits → v.canonical.Fits)
  | .null | .bool _ | .int _ | .float _ | .string _ => ⟨rfl, trivial, id⟩
  | .array items => by
    have h := canonical_factsItems items
    show (Json.array (canonicalItems items)).canonical = .array (canonicalItems items) ∧
      DistinctItems (canonicalItems items) ∧ (FitsItems items → FitsItems (canonicalItems items))
    rw [distinctItems_iff, fitsItems_iff, fitsItems_iff, canonicalItems_eq]
    refine ⟨canonical_array (List.forall_mem_map.2 fun v hv => (h v hv).1), ?_, ?_⟩
    · intro v hv
      obtain ⟨w, hw, rfl⟩ := List.mem_map.1 hv
      exact (h w hw).2.1
    · intro hfits v hv
      obtain ⟨w, hw, rfl⟩ := List.mem_map.1 hv
      exact (h w hw).2.2 (hfits w hw)
  | .object members => by
    have h := canonical_factsMembers members
    have hmem : ∀ m ∈ sortMembers (canonicalMembers members),
        ∃ w ∈ members, m = (w.1, w.2.canonical) := by
      intro m hm
      have := mem_of_mem_sortMembers hm
      rw [canonicalMembers_eq] at this
      obtain ⟨w, hw, rfl⟩ := List.mem_map.1 this
      exact ⟨w, hw, rfl⟩
    have hsorted := sorted_sortMembers (canonicalMembers members)
    show (Json.object (sortMembers (canonicalMembers members))).canonical
        = .object (sortMembers (canonicalMembers members)) ∧
      (((sortMembers (canonicalMembers members)).map (·.1)).Nodup ∧
        DistinctMembers (sortMembers (canonicalMembers members))) ∧
      (FitsMembers members → FitsMembers (sortMembers (canonicalMembers members)))
    rw [distinctMembers_iff, fitsMembers_iff, fitsMembers_iff]
    refine ⟨canonical_object hsorted fun m hm => ?_, ⟨hsorted.nodup, fun m hm => ?_⟩,
      fun hfits m hm => ?_⟩
    · obtain ⟨w, hw, rfl⟩ := hmem m hm
      exact (h w hw).1
    · obtain ⟨w, hw, rfl⟩ := hmem m hm
      exact (h w hw).2.1
    · obtain ⟨w, hw, rfl⟩ := hmem m hm
      exact (h w hw).2.2 (hfits w hw)

theorem canonical_factsItems : ∀ items : List Json, ∀ v ∈ items,
    v.canonical.canonical = v.canonical ∧ v.canonical.Distinct ∧ (v.Fits → v.canonical.Fits)
  | [] => fun _ hv => absurd hv List.not_mem_nil
  | v :: rest => List.forall_mem_cons.2 ⟨canonical_facts v, canonical_factsItems rest⟩

theorem canonical_factsMembers : ∀ members : List (String × Json), ∀ m ∈ members,
    m.2.canonical.canonical = m.2.canonical ∧ m.2.canonical.Distinct ∧
      (m.2.Fits → m.2.canonical.Fits)
  | [] => fun _ hm => absurd hm List.not_mem_nil
  | (_, v) :: rest => List.forall_mem_cons.2 ⟨canonical_facts v, canonical_factsMembers rest⟩

end

theorem canonical_canonical (v : Json) : v.canonical.canonical = v.canonical :=
  (canonical_facts v).1

theorem distinct_canonical (v : Json) : v.canonical.Distinct := (canonical_facts v).2.1

theorem fits_canonical {v : Json} (h : v.Fits) : v.canonical.Fits := (canonical_facts v).2.2 h

theorem mem_keys_insertMember {key k : String} {value : Json} {members : List (String × Json)} :
    k ∈ (insertMember key value members).map (·.1) ↔ k = key ∨ k ∈ members.map (·.1) := by
  induction members with
  | nil => simp [insertMember]
  | cons n rest ih =>
    obtain ⟨l, v⟩ := n
    unfold insertMember
    split
    · rename_i heq
      subst heq
      simp
    · split
      · simp
      · simp only [List.map_cons, List.mem_cons, ih]
        tauto

/-- Every key of the members is one of the members put in order. -/
theorem mem_keys_sortMembers {k : String} {members : List (String × Json)} :
    k ∈ (sortMembers members).map (·.1) ↔ k ∈ members.map (·.1) := by
  have hfold (sorted : List (String × Json)) :
      k ∈ (members.foldl (fun sorted (k, v) => insertMember k v sorted) sorted).map (·.1)
        ↔ k ∈ members.map (·.1) ∨ k ∈ sorted.map (·.1) := by
    induction members generalizing sorted with
    | nil => simp
    | cons n rest ih =>
      rw [List.foldl_cons, ih, mem_keys_insertMember, List.map_cons, List.mem_cons]
      tauto
  rw [sortMembers, hfold]
  simp

mutual

/-- The canonical form is not deeper. -/
theorem depth_canonical_le : ∀ v : Json, v.canonical.depth ≤ v.depth
  | .null | .bool _ | .int _ | .float _ | .string _ => Nat.le_refl _
  | .array items => by
    have h := depth_canonicalItems_le items
    show depthItems (canonicalItems items) + 1 ≤ depthItems items + 1
    omega
  | .object members => by
    have h := depthMembers_le.1 (depth_canonicalMembers_le members)
    have hsorted : depthMembers (sortMembers (canonicalMembers members)) ≤ depthMembers members :=
      depthMembers_le.2 fun m hm => h m (mem_of_mem_sortMembers hm)
    show depthMembers (sortMembers (canonicalMembers members)) + 1 ≤ depthMembers members + 1
    omega

theorem depth_canonicalItems_le : ∀ items : List Json,
    depthItems (canonicalItems items) ≤ depthItems items
  | [] => Nat.le_refl _
  | v :: rest => max_le_max (depth_canonical_le v) (depth_canonicalItems_le rest)

theorem depth_canonicalMembers_le : ∀ members : List (String × Json),
    depthMembers (canonicalMembers members) ≤ depthMembers members
  | [] => Nat.le_refl _
  | (_, v) :: rest => max_le_max (depth_canonical_le v) (depth_canonicalMembers_le rest)

end

/-! ## 3. Replaced numbers -/

theorem mapItems_eq (f : Binary64 → Binary64) (items : List Json) :
    mapItems f items = items.map (mapFloats f) := by
  induction items with
  | nil => rfl
  | cons v rest ih => rw [mapItems, ih, List.map_cons]

theorem mapMembers_eq (f : Binary64 → Binary64) (members : List (String × Json)) :
    mapMembers f members = members.map fun (k, v) => (k, mapFloats f v) := by
  induction members with
  | nil => rfl
  | cons m rest ih =>
    obtain ⟨k, v⟩ := m
    rw [mapMembers, ih, List.map_cons]

theorem lookup_mapMembers (f : Binary64 → Binary64) (members : List (String × Json)) (key : String) :
    lookup (mapMembers f members) key = (lookup members key).map (mapFloats f) := by
  rw [mapMembers_eq]
  unfold lookup
  rw [List.find?_map, Option.map_map, Option.map_map]
  rfl

theorem insertMember_mapMembers (f : Binary64 → Binary64) (key : String) (value : Json)
    (members : List (String × Json)) :
    insertMember key (value.mapFloats f) (mapMembers f members)
      = mapMembers f (insertMember key value members) := by
  induction members with
  | nil => rfl
  | cons n rest ih =>
    obtain ⟨k, v⟩ := n
    unfold mapMembers insertMember
    split
    · rfl
    · split
      · rfl
      · rw [ih]

theorem sortMembers_mapMembers (f : Binary64 → Binary64) (members : List (String × Json)) :
    sortMembers (mapMembers f members) = mapMembers f (sortMembers members) := by
  have hfold (sorted : List (String × Json)) :
      (mapMembers f members).foldl (fun sorted (k, v) => insertMember k v sorted)
          (mapMembers f sorted)
        = mapMembers f (members.foldl (fun sorted (k, v) => insertMember k v sorted) sorted) := by
    induction members generalizing sorted with
    | nil => rfl
    | cons n rest ih =>
      rw [mapMembers, List.foldl_cons, List.foldl_cons]
      dsimp only
      rw [insertMember_mapMembers, ih]
  exact hfold []

mutual

/-- Numbers can be replaced before the members are put in order or after it. -/
theorem canonical_mapFloats (f : Binary64 → Binary64) :
    ∀ v : Json, (v.mapFloats f).canonical = v.canonical.mapFloats f
  | .null | .bool _ | .int _ | .float _ | .string _ => rfl
  | .array items => congrArg Json.array (canonicalItems_mapItems f items)
  | .object members => by
    show Json.object (sortMembers (canonicalMembers (mapMembers f members)))
      = .object (mapMembers f (sortMembers (canonicalMembers members)))
    rw [canonicalMembers_mapMembers, sortMembers_mapMembers]

theorem canonicalItems_mapItems (f : Binary64 → Binary64) :
    ∀ items : List Json, canonicalItems (mapItems f items) = mapItems f (canonicalItems items)
  | [] => rfl
  | v :: rest => congrArg₂ List.cons (canonical_mapFloats f v) (canonicalItems_mapItems f rest)

theorem canonicalMembers_mapMembers (f : Binary64 → Binary64) :
    ∀ members : List (String × Json),
      canonicalMembers (mapMembers f members) = mapMembers f (canonicalMembers members)
  | [] => rfl
  | (k, v) :: rest =>
    congrArg₂ List.cons (congrArg (Prod.mk k) (canonical_mapFloats f v))
      (canonicalMembers_mapMembers f rest)

end

mutual

theorem fits_mapFloats (f : Binary64 → Binary64) : ∀ v : Json, v.Fits → (v.mapFloats f).Fits
  | .null, h | .bool _, h | .int _, h | .float _, h | .string _, h => h
  | .array items, h => fitsItems_mapItems f items h
  | .object members, h => fitsMembers_mapMembers f members h

theorem fitsItems_mapItems (f : Binary64 → Binary64) :
    ∀ items : List Json, FitsItems items → FitsItems (mapItems f items)
  | [], h => h
  | v :: rest, h => ⟨fits_mapFloats f v h.1, fitsItems_mapItems f rest h.2⟩

theorem fitsMembers_mapMembers (f : Binary64 → Binary64) :
    ∀ members : List (String × Json), FitsMembers members → FitsMembers (mapMembers f members)
  | [], h => h
  | (_, v) :: rest, h => ⟨fits_mapFloats f v h.1, fitsMembers_mapMembers f rest h.2⟩

end

end UsageGrid.Json
