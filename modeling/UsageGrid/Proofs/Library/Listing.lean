import Mathlib.Data.String.Basic
import Mathlib.Data.List.Sort
import UsageGrid.Library.Basic

/-!
# The list of a library

A library lists its definitions in the order of their ids, each id once (`Ordered`). Putting one in
replaces the one of its id (`mem_insert`, `insert_eq_map`), and two lists in order with the same
definitions are the same list (`Ordered.ext`).
-/

namespace UsageGrid.Library

/-- The ids rise. -/
def Ordered (list : List StoredDefinition) : Prop := list.Pairwise fun d e => d.id < e.id

variable {list list' : List StoredDefinition} {d e : StoredDefinition}

/-! ## 1. What an order gives -/

theorem ordered_nil : Ordered [] := .nil

theorem Ordered.filter (h : Ordered list) (p : StoredDefinition → Bool) :
    Ordered (list.filter p) := List.Pairwise.filter p h

theorem Ordered.nodup_ids (h : Ordered list) : (list.map (·.id)).Nodup :=
  List.pairwise_map.2 (h.imp fun hlt => hlt.ne)

/-- An id has one definition. -/
theorem Ordered.eq_of_id (h : Ordered list) (hd : d ∈ list) (he : e ∈ list) (hid : d.id = e.id) :
    d = e := List.inj_on_of_nodup_map h.nodup_ids hd he hid

theorem Ordered.nodup (h : Ordered list) : list.Nodup := h.nodup_ids.of_map

/-- **Two lists in order with the same definitions are the same.** -/
theorem Ordered.ext (h : Ordered list) (h' : Ordered list') (hmem : ∀ d, d ∈ list ↔ d ∈ list') :
    list = list' := by
  have hperm : list.Perm list' := (List.perm_ext_iff_of_nodup h.nodup h'.nodup).2 hmem
  exact hperm.eq_of_pairwise (fun d e _ _ hde hed => absurd hed hde.asymm) h h'

/-! ## 2. Putting in -/

theorem mem_of_mem_insert (h : e ∈ insert d list) : e = d ∨ e ∈ list := by
  induction list with
  | nil => exact .inl (List.mem_singleton.1 h)
  | cons f rest ih =>
    unfold insert at h
    split at h
    · exact (List.mem_cons.1 h).imp_right (List.mem_cons_of_mem f)
    · split at h
      · exact List.mem_cons.1 h
      · rcases List.mem_cons.1 h with rfl | h
        · exact .inr List.mem_cons_self
        · exact (ih h).imp_right (List.mem_cons_of_mem f)

theorem mem_insert (h : Ordered list) :
    e ∈ insert d list ↔ e = d ∨ (e ∈ list ∧ e.id ≠ d.id) := by
  induction list with
  | nil => simp [insert]
  | cons f rest ih =>
    obtain ⟨hf, hrest⟩ := List.pairwise_cons.1 h
    have hother : e ∈ rest → e.id ≠ f.id := fun he => ne_of_gt (hf e he)
    unfold insert
    split
    · rename_i hid
      rw [List.mem_cons, List.mem_cons, hid]
      constructor
      · rintro (rfl | he)
        · exact .inl rfl
        · exact .inr ⟨.inr he, hother he⟩
      · rintro (rfl | ⟨rfl | he, hne⟩)
        · exact .inl rfl
        · exact absurd rfl hne
        · exact .inr he
    · rename_i hid
      split
      · rename_i hlt
        have hall : ∀ g ∈ f :: rest, g.id ≠ d.id := by
          intro g hg
          rcases List.mem_cons.1 hg with rfl | hg
          · exact ne_of_gt hlt
          · exact ne_of_gt (hlt.trans (hf g hg))
        rw [List.mem_cons]
        exact or_congr_right ⟨fun he => ⟨he, hall e he⟩, And.left⟩
      · rw [List.mem_cons, ih hrest, List.mem_cons]
        constructor
        · rintro (rfl | rfl | ⟨he, hne⟩)
          · exact .inr ⟨.inl rfl, Ne.symm hid⟩
          · exact .inl rfl
          · exact .inr ⟨.inr he, hne⟩
        · rintro (rfl | ⟨rfl | he, hne⟩)
          · exact .inr (.inl rfl)
          · exact .inl rfl
          · exact .inr (.inr ⟨he, hne⟩)

theorem Ordered.insert (h : Ordered list) (d : StoredDefinition) :
    Ordered (Library.insert d list) := by
  induction list with
  | nil => exact List.pairwise_singleton _ _
  | cons f rest ih =>
    obtain ⟨hf, hrest⟩ := List.pairwise_cons.1 h
    unfold Library.insert
    split
    · rename_i hid
      exact List.pairwise_cons.2 ⟨hid ▸ hf, hrest⟩
    · rename_i hid
      split
      · rename_i hlt
        refine List.pairwise_cons.2 ⟨fun g hg => ?_, h⟩
        rcases List.mem_cons.1 hg with rfl | hg
        · exact hlt
        · exact hlt.trans (hf g hg)
      · rename_i hge
        have hlt : f.id < d.id := lt_of_le_of_ne (not_lt.1 hge) (Ne.symm hid)
        refine List.pairwise_cons.2 ⟨fun g hg => ?_, ih hrest⟩
        rcases (mem_insert hrest).1 hg with rfl | ⟨hg, -⟩
        · exact hlt
        · exact hf g hg

/-- **Where an id is there, its definition is replaced.** -/
theorem insert_eq_map (h : Ordered list) (hid : ∃ e ∈ list, e.id = d.id) :
    Library.insert d list = list.map fun e => if e.id = d.id then d else e := by
  obtain ⟨e, he, hid⟩ := hid
  induction list with
  | nil => exact absurd he List.not_mem_nil
  | cons f rest ih =>
    obtain ⟨hf, hrest⟩ := List.pairwise_cons.1 h
    rw [List.map_cons]
    unfold Library.insert
    by_cases heq : d.id = f.id
    · have hkept : rest.map (fun e => if e.id = d.id then d else e) = rest.map id :=
        List.map_congr_left fun g hg => if_neg (heq ▸ ne_of_gt (hf g hg))
      rw [if_pos heq, if_pos heq.symm, hkept, List.map_id]
    · have herest : e ∈ rest :=
        (List.mem_cons.1 he).resolve_left fun hef => heq (hef ▸ hid.symm)
      have hlt : f.id < d.id := hid ▸ hf e herest
      rw [if_neg heq, if_neg hlt.asymm, if_neg (Ne.symm heq), ih hrest herest]

/-! ## 3. Libraries -/

variable {l : Library}

theorem get_eq_ok {id : String} (h : l.get id = .ok d) : d ∈ l.list ∧ d.id = id := by
  unfold get at h
  split at h
  · rename_i hfind
    cases h
    exact ⟨List.mem_of_find?_eq_some hfind, by simpa using List.find?_some hfind⟩
  · cases h

theorem get_of_mem (h : Ordered l.list) (hd : d ∈ l.list) : l.get d.id = .ok d := by
  unfold get
  cases hfind : l.list.find? (·.id == d.id) with
  | none => exact absurd (List.find?_eq_none.1 hfind d hd) (by simp)
  | some e =>
    have hid : e.id = d.id := by simpa using List.find?_some hfind
    exact congrArg Except.ok (h.eq_of_id (List.mem_of_find?_eq_some hfind) hd hid)

theorem get_eq_notFound {id : String} {e : LibraryError} (h : l.get id = .error e) :
    e = .notFound id ∧ id ∉ l.ids := by
  unfold get at h
  split at h
  · cases h
  · rename_i hfind
    cases h
    refine ⟨rfl, fun hid => ?_⟩
    obtain ⟨d, hd, rfl⟩ := List.mem_map.1 hid
    exact absurd (List.find?_eq_none.1 hfind d hd) (by simp)

theorem mem_servingOf {platform : String} :
    d ∈ l.servingOf platform ↔ d ∈ l.list ∧ d.serves platform = true := by
  unfold servingOf
  rw [List.mem_mergeSort, List.mem_filter]

theorem nodup_servingOf (h : Ordered l.list) (platform : String) :
    ((l.servingOf platform).map (·.id)).Nodup :=
  ((List.mergeSort_perm _ _).map _).nodup_iff.2 (h.filter _).nodup_ids

theorem mem_erase {id : String} : d ∈ (l.erase id).list ↔ d ∈ l.list ∧ d.id ≠ id := by
  show d ∈ l.list.filter _ ↔ _
  rw [List.mem_filter, bne_iff_ne]

end UsageGrid.Library
