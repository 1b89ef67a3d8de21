import Mathlib.Data.List.Basic
import UsageGrid.Text.Letters

/-!
# Letters and lower case

The tables of characters are long texts: their lines are taken as lists of characters
(`itemsOf_cons`) before anything is computed from them.

* The table of lower case moves the capitals of ASCII and leaves its other characters as they are, so
  the lower case of an ASCII text is its ASCII lower case (`lower_ascii`).
* No range of a set begins lower than the ranges that it was made of (`IsAbove.unions`). So a
  character below all the tables of a set is not in it: the letters and numbers begin with the digit
  zero, and the slash stands just before (`isAlphanumeric_slash`).
-/

namespace UsageGrid.Text

/-- The items of a line from its characters: a literal is one already. -/
theorem itemsOf_cons (cs : List Char) (lines : List String) :
    itemsOf (String.ofList cs :: lines) = splitOnChar ' ' cs ++ itemsOf lines := by
  unfold itemsOf
  rw [List.flatMap_cons, String.toList_ofList]

/-! ## 1. Lower case -/

/-- The table on all of ASCII. -/
theorem lowerCase_agrees :
    ((List.range 128).all fun n => lowerCase.apply n == (Char.ofNat n).toLower.toNat) = true := by
  -- the kernel takes the text of a literal apart byte by byte, but not its characters
  unfold lowerCase CaseMap.ofLines
  repeat rw [itemsOf_cons]
  decide +kernel

theorem lowerCase_apply_ascii {c : Char} (h : c.toNat < 128) :
    lowerCase.apply c.toNat = c.toLower.toNat := by
  have h' := List.all_eq_true.1 lowerCase_agrees c.toNat (List.mem_range.2 h)
  rw [Char.ofNat_toNat] at h'
  exact eq_of_beq h'

theorem lowerChars_ascii (before : List Char) {cs : List Char} (h : ∀ c ∈ cs, c.toNat < 128) :
    lowerChars before cs = cs.map Char.toLower := by
  induction cs generalizing before with
  | nil => rfl
  | cons c rest ih =>
    have hc : c.toNat < 128 := h c List.mem_cons_self
    unfold lowerChars
    rw [if_neg (by omega), if_neg (by omega), lowerCase_apply_ascii hc, Char.ofNat_toNat,
      ih (c :: before) fun d hd => h d (List.mem_cons_of_mem c hd)]
    rfl

/-- **The lower case of an ASCII text is its ASCII lower case.** -/
theorem lower_ascii {s : String} (h : ∀ c ∈ s.toList, c.toNat < 128) : lower s = asciiLower s := by
  unfold lower asciiLower
  rw [lowerChars_ascii [] h]

/-! ## 2. Where a set of characters begins -/

namespace Ranges

variable {n : Nat}

/-- All ranges begin above a code point. -/
def IsAbove (n : Nat) (r : Ranges) : Prop := ∀ p ∈ r.items, n < p.1

theorem IsAbove.contains {r : Ranges} {c : Char} (h : IsAbove c.toNat r) :
    r.contains c = false := by
  unfold Ranges.contains
  cases hitems : r.items with
  | nil => rfl
  | cons p rest =>
    have hlow : c.toNat < p.1 := h p (hitems ▸ List.mem_cons_self)
    exact if_pos hlow

/-- A range that is joined with others begins where it did. -/
theorem fst_mem_absorb {lo hi : Nat} {ps : List (Nat × Nat)} {p : Nat × Nat}
    (h : p ∈ absorb lo hi ps) : p.1 = lo ∨ ∃ q ∈ ps, p.1 = q.1 := by
  induction ps generalizing lo hi with
  | nil => exact .inl (List.mem_singleton.1 h ▸ rfl)
  | cons q rest ih =>
    unfold absorb at h
    split at h
    · rcases ih h with hlo | ⟨r, hr, hp⟩
      · exact .inl hlo
      · exact .inr ⟨r, List.mem_cons_of_mem _ hr, hp⟩
    · rcases List.mem_cons.1 h with rfl | h
      · exact .inl rfl
      · rcases ih h with hlo | ⟨r, hr, hp⟩
        · exact .inr ⟨q, List.mem_cons_self, hlo⟩
        · exact .inr ⟨r, List.mem_cons_of_mem _ hr, hp⟩

theorem isAbove_ofPairs {ps : List (Nat × Nat)} (h : ∀ p ∈ ps, n < p.1) :
    IsAbove n (ofPairs ps) := by
  have hsorted : ∀ p ∈ ps.mergeSort startsFirst, n < p.1 := fun p hp =>
    h p (List.mem_mergeSort.1 hp)
  intro p hp
  have hp : p ∈ joined (ps.mergeSort startsFirst) := hp
  cases hlist : ps.mergeSort startsFirst with
  | nil =>
    rw [hlist] at hp
    cases hp
  | cons q rest =>
    rw [hlist] at hp hsorted
    rcases fst_mem_absorb hp with hlo | ⟨r, hr, hlo⟩
    · exact hlo ▸ hsorted q List.mem_cons_self
    · exact hlo ▸ hsorted r (List.mem_cons_of_mem _ hr)

/-- **A union begins where one of its parts does.** -/
theorem IsAbove.unions {rs : List Ranges} (h : ∀ r ∈ rs, IsAbove n r) :
    IsAbove n (unions rs) := by
  refine isAbove_ofPairs fun p hp => ?_
  obtain ⟨r, hr, hp⟩ := List.mem_flatMap.1 hp
  exact h r hr p hp

theorem isAbove_ofLines {lines : List String}
    (h : ∀ item ∈ itemsOf lines, ∀ p ∈ ofItem item, n < p.1) : IsAbove n (ofLines lines) := by
  refine isAbove_ofPairs fun p hp => ?_
  obtain ⟨item, hitem, hp⟩ := List.mem_flatMap.1 hp
  exact h item hitem p hp

theorem isAbove_categoryL : IsAbove 0x2F categoryL := by
  refine .unions (List.forall_mem_cons.2 ⟨.unions ?_, ?_⟩)
  · simp only [List.forall_mem_cons]
    refine ⟨isAbove_ofLines ?_, isAbove_ofLines ?_, isAbove_ofLines ?_, nofun⟩ <;>
    (repeat rw [itemsOf_cons]) <;> decide +kernel
  · simp only [List.forall_mem_cons]
    refine ⟨isAbove_ofLines ?_, isAbove_ofLines ?_, nofun⟩ <;>
    (repeat rw [itemsOf_cons]) <;> decide +kernel

theorem isAbove_categoryN : IsAbove 0x2F categoryN := by
  refine .unions ?_
  simp only [List.forall_mem_cons]
  refine ⟨isAbove_ofLines ?_, isAbove_ofLines ?_, isAbove_ofLines ?_, nofun⟩ <;>
    (repeat rw [itemsOf_cons]) <;> decide +kernel

theorem isAbove_alphabetic : IsAbove 0x2F alphabetic := by
  refine .unions (List.forall_mem_cons.2 ⟨isAbove_categoryL, ?_⟩)
  simp only [List.forall_mem_cons]
  refine ⟨isAbove_ofLines ?_, isAbove_ofLines ?_, nofun⟩ <;>
    (repeat rw [itemsOf_cons]) <;> decide +kernel

theorem isAbove_alphanumeric : IsAbove 0x2F alphanumeric := by
  refine .unions (List.forall_mem_cons.2 ⟨isAbove_alphabetic,
    List.forall_mem_cons.2 ⟨isAbove_categoryN, ?_⟩⟩)
  simp only [List.forall_mem_cons]
  refine ⟨isAbove_ofLines ?_, isAbove_ofLines ?_, nofun⟩ <;>
    (repeat rw [itemsOf_cons]) <;> decide +kernel

end Ranges

/-- **A slash is no letter and no number.** -/
theorem isAlphanumeric_slash : isAlphanumeric '/' = false :=
  Ranges.IsAbove.contains (c := '/') Ranges.isAbove_alphanumeric

end UsageGrid.Text
