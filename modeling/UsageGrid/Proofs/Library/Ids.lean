import Mathlib.Data.List.Nodup
import Mathlib.Data.List.Perm.Subperm
import UsageGrid.Library.Basic
import UsageGrid.Proofs.Text.Letters

/-!
# New ids

A new id is none of those that are taken (`freeId_not_mem`): the candidates are all different, and
there is one more of them than ids are taken. It can name a file (`IsName.freeId`), for it is made of
letters, numbers and hyphens.
-/

namespace UsageGrid.Library

/-! ## 1. Candidates -/

theorem candidate_injective (base : String) : Function.Injective (candidate base) := by
  have hlength (n : Nat) : base ≠ base ++ "-" ++ toString (n + 2) := by
    intro h
    have hchars := congrArg (fun s => s.toList.length) h
    simp at hchars
  intro m n h
  cases m with
  | zero =>
    cases n with
    | zero => rfl
    | succ n => exact absurd h (hlength n)
  | succ m =>
    cases n with
    | zero => exact absurd h.symm (hlength m)
    | succ n =>
      have hnumber : toString (m + 2) = toString (n + 2) := by
        unfold candidate at h
        simpa using h
      have hdigits : Nat.toDigits 10 (m + 2) = Nat.toDigits 10 (n + 2) :=
        String.ofList_injective hnumber
      have hvalue := congrArg (fun ds => Nat.ofDigitChars 10 ds 0) hdigits
      simp only [Nat.ofDigitChars_ten_toDigits] at hvalue
      omega

theorem freeId_eq (taken : List String) (base : String) :
    freeId taken base ∉ taken ∧ ∃ n, freeId taken base = candidate base n := by
  unfold freeId
  dsimp only
  cases hfind : ((List.range (taken.length + 1)).map (candidate base)).find?
      fun id => !taken.contains id with
  | some id =>
    obtain ⟨n, -, hn⟩ := List.mem_map.1 (List.mem_of_find?_eq_some hfind)
    exact ⟨by simpa using List.find?_some hfind, n, hn.symm⟩
  | none =>
    -- otherwise there would be more taken ids than there are
    have hall : ∀ id ∈ (List.range (taken.length + 1)).map (candidate base), id ∈ taken :=
      fun id hid => by simpa using List.find?_eq_none.1 hfind id hid
    have hnodup : ((List.range (taken.length + 1)).map (candidate base)).Nodup :=
      List.nodup_range.map (candidate_injective base)
    have hlength := (List.subperm_of_subset hnodup hall).length_le
    rw [List.length_map, List.length_range] at hlength
    omega

/-- **A new id is not taken.** -/
theorem freeId_not_mem (taken : List String) (base : String) : freeId taken base ∉ taken :=
  (freeId_eq taken base).1

/-! ## 2. Names -/

/-- An id that can name a file. -/
structure IsName (id : String) : Prop where
  notEmpty : id ≠ ""
  noSlash : '/' ∉ id.toList

theorem noSlash_of_digits {cs : List Char} (h : ∀ c ∈ cs, c.isDigit = true) : '/' ∉ cs :=
  fun hslash => absurd (h '/' hslash) (by decide)

theorem noSlash_toString (n : Nat) : '/' ∉ (toString n).toList := by
  have hdigits : (toString n).toList = Nat.toDigits 10 n := String.toList_ofList
  rw [hdigits]
  exact noSlash_of_digits fun c hc => Nat.isDigit_of_mem_toDigits (by decide) (by decide) hc

theorem noSlash_runsFrom {run cs r : List Char} (hrun : '/' ∉ run) (h : r ∈ runsFrom run cs) :
    '/' ∉ r := by
  induction cs generalizing run with
  | nil =>
    unfold runsFrom at h
    split at h
    · cases h
    · rw [List.mem_singleton.1 h, List.mem_reverse]
      exact hrun
  | cons c rest ih =>
    unfold runsFrom at h
    split at h
    · rename_i hc
      refine ih (fun hmem => ?_) h
      rcases List.mem_cons.1 hmem with hslash | hmem
      · rw [← hslash, Text.isAlphanumeric_slash] at hc
        exact absurd hc Bool.false_ne_true
      · exact hrun hmem
    · split at h
      · exact ih List.not_mem_nil h
      · rcases List.mem_cons.1 h with rfl | h
        · rwa [List.mem_reverse]
        · exact ih List.not_mem_nil h

theorem noSlash_intercalate {pieces : List (List Char)} (h : ∀ p ∈ pieces, '/' ∉ p) :
    '/' ∉ List.intercalate ['-'] pieces := by
  induction pieces with
  | nil => simp
  | cons p rest ih =>
    obtain ⟨hp, hrest⟩ := List.forall_mem_cons.1 h
    cases rest with
    | nil => rwa [List.intercalate_singleton]
    | cons q rest =>
      rw [List.intercalate_cons_cons]
      simp only [List.mem_append, not_or]
      exact ⟨⟨hp, by decide⟩, ih hrest⟩

theorem noSlash_slug (name : String) : '/' ∉ (slug name).toList := by
  have hruns : ∀ r ∈ runsFrom [] (Text.lower name).toList, '/' ∉ r :=
    fun r hr => noSlash_runsFrom List.not_mem_nil hr
  unfold slug
  split
  · decide
  · rw [String.toList_intercalate, List.map_map]
    refine noSlash_intercalate fun p hp => ?_
    obtain ⟨r, hr, rfl⟩ := List.mem_map.1 hp
    rw [Function.comp_apply, String.toList_ofList]
    exact hruns r hr

/-- **A new id can name a file.** -/
theorem isName_freeId (taken : List String) (name : String) {stamp : String}
    (h : ∀ c ∈ stamp.toList, c.isDigit = true) :
    IsName (freeId taken (slug name ++ "-" ++ stamp)) := by
  have hbase : IsName (slug name ++ "-" ++ stamp) := by
    refine ⟨fun hempty => ?_, ?_⟩
    · have := congrArg (fun s => s.toList.length) hempty
      simp at this
    · simp [noSlash_slug, noSlash_of_digits h]
  obtain ⟨-, n, hn⟩ := freeId_eq taken (slug name ++ "-" ++ stamp)
  rw [hn]
  cases n with
  | zero => exact hbase
  | succ n =>
    refine ⟨fun hempty => ?_, ?_⟩
    · have := congrArg (fun s => s.toList.length) hempty
      unfold candidate at this
      simp at this
    · unfold candidate
      rw [String.toList_append, String.toList_append]
      simp only [List.mem_append, not_or]
      exact ⟨⟨hbase.noSlash, by decide⟩, noSlash_toString _⟩

end UsageGrid.Library
