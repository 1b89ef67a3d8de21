import Mathlib.Data.List.Basic
import Mathlib.Data.List.Infix
import Mathlib.Data.List.TakeWhile
import UsageGrid.Text.Ranges
import UsageGrid.Text.Blank
import UsageGrid.Text.Find

/-!
# Parts of a text

The pieces of a text between separators, and the first place of a text in another.
-/

/-!
## The pieces of a text between separators

A text is its pieces with a separator in front of each but the first, and no piece holds one; this
is what the pieces are (`splitOnChar_eq_cons_iff`).
-/

namespace UsageGrid.Text

variable {sep : Char}

theorem splitOnChar_cons (c : Char) (cs : List Char) : splitOnChar sep (c :: cs) =
    if c = sep then [] :: splitOnChar sep cs
    else match splitOnChar sep cs with
      | [] => [[c]]
      | p :: ps => (c :: p) :: ps := rfl

theorem splitOnChar_ne_nil (cs : List Char) : splitOnChar sep cs ≠ [] := by
  cases cs with
  | nil => exact List.cons_ne_nil _ _
  | cons c rest =>
    rw [splitOnChar_cons]
    split
    · exact List.cons_ne_nil _ _
    · split <;> exact List.cons_ne_nil _ _

/-- A text without separators is one piece. -/
theorem splitOnChar_of_not_mem {cs : List Char} (h : sep ∉ cs) : splitOnChar sep cs = [cs] := by
  induction cs with
  | nil => rfl
  | cons c rest ih =>
    obtain ⟨hc, hrest⟩ := not_or.1 (List.mem_cons.not.1 h)
    rw [splitOnChar_cons, if_neg (Ne.symm hc), ih hrest]

/-- A separator parts the pieces before it from those after it. -/
theorem splitOnChar_append (a b : List Char) :
    splitOnChar sep (a ++ sep :: b) = splitOnChar sep a ++ splitOnChar sep b := by
  induction a with
  | nil =>
    rw [List.nil_append, splitOnChar_cons, if_pos rfl]
    rfl
  | cons c rest ih =>
    rw [List.cons_append, splitOnChar_cons, splitOnChar_cons, ih]
    split
    · rfl
    · obtain ⟨p, ps, hps⟩ := List.exists_cons_of_ne_nil (@splitOnChar_ne_nil sep rest)
      rw [hps]
      rfl

/-- Every text consists of pieces. -/
theorem exists_pieces (sep : Char) (cs : List Char) :
    ∃ p ps, cs = p ++ ps.flatMap (sep :: ·) ∧ ∀ q ∈ p :: ps, sep ∉ q := by
  induction cs with
  | nil => exact ⟨[], [], rfl, by simp⟩
  | cons c rest ih =>
    obtain ⟨p, ps, rfl, hfree⟩ := ih
    by_cases hc : c = sep
    · subst hc
      exact ⟨[], p :: ps, rfl, by simpa using hfree⟩
    · obtain ⟨hp, hps⟩ := List.forall_mem_cons.1 hfree
      refine ⟨c :: p, ps, rfl, List.forall_mem_cons.2 ⟨?_, hps⟩⟩
      exact List.mem_cons.not.2 (not_or.2 ⟨Ne.symm hc, hp⟩)

/-- A text is parted into the pieces that it consists of. -/
theorem splitOnChar_pieces {p : List Char} {ps : List (List Char)}
    (h : ∀ q ∈ p :: ps, sep ∉ q) : splitOnChar sep (p ++ ps.flatMap (sep :: ·)) = p :: ps := by
  induction ps generalizing p with
  | nil =>
    rw [List.flatMap_nil, List.append_nil]
    exact splitOnChar_of_not_mem (h p List.mem_cons_self)
  | cons q rest ih =>
    obtain ⟨hp, hrest⟩ := List.forall_mem_cons.1 h
    rw [List.flatMap_cons, List.cons_append, splitOnChar_append, splitOnChar_of_not_mem hp,
      ih hrest]
    rfl

/-- **The pieces are those without separators that the text consists of.** -/
theorem splitOnChar_eq_cons_iff {cs p : List Char} {ps : List (List Char)} :
    splitOnChar sep cs = p :: ps ↔
      cs = p ++ ps.flatMap (sep :: ·) ∧ ∀ q ∈ p :: ps, sep ∉ q := by
  constructor
  · intro h
    obtain ⟨q, qs, rfl, hfree⟩ := exists_pieces sep cs
    rw [splitOnChar_pieces hfree] at h
    cases h
    exact ⟨rfl, hfree⟩
  · rintro ⟨rfl, hfree⟩
    exact splitOnChar_pieces hfree

end UsageGrid.Text

/-!
## The first place of a text in another

A text that is found is cut out at its first place (`cutAt?_append`), and nothing is found across a
character that it does not have (`cutAt?_separated`).
-/

namespace UsageGrid.Text

variable {part a b cs : List Char} {c x : Char}

/-! ## 1. Found, and where -/

/-- A text is dropped part by part. -/
theorem dropStart?_append (a b cs : List Char) :
    dropStart? (a ++ b) cs = (dropStart? a cs).bind (dropStart? b) := by
  induction a generalizing cs with
  | nil => rfl
  | cons x a ih =>
    cases cs with
    | nil => rfl
    | cons c cs =>
      rw [List.cons_append, dropStart?, dropStart?]
      split
      · exact ih cs
      · rfl

/-- A text at the beginning is found there. -/
theorem cutAt?_start (hne : part ≠ []) : cutAt? part (part ++ b) = some ([], b) := by
  obtain ⟨c, rest, rfl⟩ := List.exists_cons_of_ne_nil hne
  rw [List.cons_append, cutAt?, ← List.cons_append, dropStart?_eq_some.2 rfl]

/-- Where a text does not begin, it is found in what follows. -/
theorem cutAt?_cons (h : ¬ part <+: c :: cs) :
    cutAt? part (c :: cs) = (cutAt? part cs).map fun (before, after) => (c :: before, after) := by
  rw [cutAt?]
  split
  · rename_i rest hrest
    exact absurd ⟨rest, (dropStart?_eq_some.1 hrest).symm⟩ h
  · rfl

theorem cutAt?_eq_none_iff : cutAt? part cs = none ↔ ¬ part <:+: cs := by
  induction cs with
  | nil =>
    unfold cutAt?
    split
    · rename_i hnil
      simp [hnil]
    · rename_i hne
      simpa using hne
  | cons c cs ih =>
    rw [List.infix_cons_iff, not_or, ← ih]
    by_cases h : part <+: c :: cs
    · obtain ⟨rest, hrest⟩ := id h
      rw [cutAt?, dropStart?_eq_some.2 hrest.symm]
      simp [h]
    · rw [cutAt?_cons h, Option.map_eq_none_iff]
      exact (and_iff_right h).symm

/-- **The first place is found**: there is none that begins before it. -/
theorem cutAt?_append (hne : part ≠ []) (h : ¬ part <:+: a ++ part.dropLast) :
    cutAt? part (a ++ (part ++ b)) = some (a, b) := by
  have hpart : part.dropLast ++ [part.getLast hne] = part := List.dropLast_append_getLast hne
  induction a with
  | nil => exact cutAt?_start hne
  | cons c a ih =>
    obtain ⟨hstart, hrest⟩ := not_or.1 (List.infix_cons_iff.not.1 h)
    rw [List.cons_append, cutAt?_cons, ih hrest]
    · rfl
    · intro hstarts
      have hbefore : c :: (a ++ part.dropLast) <+: c :: (a ++ (part ++ b)) := by
        refine ⟨[part.getLast hne] ++ b, ?_⟩
        conv_rhs => rw [← hpart]
        simp
      refine hstart (List.prefix_of_prefix_length_le hstarts hbefore ?_)
      have := List.length_pos_iff.2 hne
      show part.length ≤ (c :: (a ++ part.dropLast)).length
      simp only [List.length_cons, List.length_append, List.length_dropLast]
      omega

/-- A text that occurs is found, there or before. -/
theorem exists_cutAt? (hne : part ≠ []) (a b : List Char) :
    ∃ before rest, cutAt? part (a ++ (part ++ b)) = some (before, rest) ∧ b <:+ rest := by
  induction a with
  | nil => exact ⟨[], b, cutAt?_start hne, List.suffix_refl b⟩
  | cons c a ih =>
    obtain ⟨before, rest, hcut, hrest⟩ := ih
    by_cases hstarts : part <+: c :: (a ++ (part ++ b))
    · obtain ⟨more, hmore⟩ := hstarts
      refine ⟨[], more, ?_, ?_⟩
      · rw [List.cons_append, ← hmore]
        exact cutAt?_start hne
      · refine List.suffix_of_suffix_length_le ⟨c :: (a ++ part), by simp⟩ ⟨part, hmore⟩ ?_
        have hlength := congrArg List.length hmore
        simp only [List.length_append, List.length_cons] at hlength
        omega
    · refine ⟨c :: before, rest, ?_, hrest⟩
      rw [List.cons_append, cutAt?_cons hstarts, hcut]
      rfl

/-- Before its first place a text does not occur. -/
theorem not_infix_of_cutAt? {before after : List Char} (hne : part ≠ [])
    (h : cutAt? part cs = some (before, after)) : ¬ part <:+: before := by
  rintro ⟨a, b, rfl⟩
  have hcs : cs = a ++ (part ++ (b ++ part ++ after)) := by
    rw [eq_append_of_cutAt? h]
    simp
  obtain ⟨before', rest, hcut, hrest⟩ := exists_cutAt? hne a (b ++ part ++ after)
  rw [← hcs, h] at hcut
  cases hcut
  have hlength := hrest.length_le
  have hpart := List.length_pos_iff.2 hne
  simp only [List.length_append] at hlength
  omega

/-! ## 2. Characters that part a text -/

theorem prefix_separated (hx : x ∉ part) : part <+: a ++ x :: b ↔ part <+: a := by
  constructor
  · intro h
    have hbefore : a ++ [x] <+: a ++ x :: b := ⟨b, by simp⟩
    rcases List.prefix_or_prefix_of_prefix h hbefore with hpart | hpart
    · rcases List.prefix_concat_iff.1 hpart with rfl | hpart
      · exact absurd (List.mem_append_right _ List.mem_cons_self) hx
      · exact hpart
    · exact absurd (hpart.subset (List.mem_append_right _ List.mem_cons_self)) hx
  · exact fun h => h.trans (List.prefix_append _ _)

theorem infix_separated (hx : x ∉ part) :
    part <:+: a ++ x :: b ↔ part <:+: a ∨ part <:+: b := by
  induction a with
  | nil =>
    rw [List.nil_append, List.infix_cons_iff, ← List.nil_append (x :: b), prefix_separated hx]
    simp
  | cons c a ih =>
    rw [List.cons_append, List.infix_cons_iff, ih, ← List.cons_append, prefix_separated hx,
      List.infix_cons_iff, or_assoc]

/-- **Nothing is found across a character that it does not have.** -/
theorem cutAt?_separated (hne : part ≠ []) (hx : x ∉ part) (h : ¬ part <:+: a) :
    cutAt? part (a ++ x :: b)
      = (cutAt? part b).map fun (before, after) => (a ++ x :: before, after) := by
  induction a with
  | nil =>
    refine cutAt?_cons fun hstarts => hne ?_
    rwa [← List.nil_append (x :: b), prefix_separated hx, List.prefix_nil] at hstarts
  | cons c a ih =>
    obtain ⟨hstart, hrest⟩ := not_or.1 (List.infix_cons_iff.not.1 h)
    rw [List.cons_append, cutAt?_cons, ih hrest, Option.map_map]
    · rfl
    · rwa [← List.cons_append, prefix_separated hx]

/-- Two characters are not found across a place where the second does not follow. -/
theorem pair_infix_append {y : Char} (hb : b.head? ≠ some y) :
    [x, y] <:+: a ++ b ↔ [x, y] <:+: a ∨ [x, y] <:+: b := by
  constructor
  · intro h
    induction a with
    | nil => exact .inr h
    | cons c a ih =>
      rw [List.cons_append] at h
      rcases List.infix_cons_iff.1 h with hstart | hrest
      · obtain ⟨rfl, hnext⟩ := List.cons_prefix_cons.1 hstart
        cases a with
        | nil =>
          obtain ⟨rest, rfl⟩ := hnext
          exact absurd rfl hb
        | cons d a =>
          obtain ⟨rfl, -⟩ := List.cons_prefix_cons.1 hnext
          exact .inl ⟨[], a, rfl⟩
      · exact (ih hrest).imp_left fun h => h.trans (List.suffix_cons _ _).isInfix
  · rintro (h | h)
    · exact h.trans (List.prefix_append _ _).isInfix
    · exact h.trans (List.suffix_append _ _).isInfix

theorem pair_infix_flatten {y : Char} {pieces : List (List Char)}
    (h : ∀ a ∈ pieces, a.head? ≠ some y) :
    [x, y] <:+: pieces.flatten ↔ ∃ a ∈ pieces, [x, y] <:+: a := by
  -- the second character does not begin what follows a piece either
  have hhead : ∀ l : List (List Char), (∀ a ∈ l, a.head? ≠ some y) →
      l.flatten.head? ≠ some y := by
    intro l hl
    induction l with
    | nil => simp
    | cons a l ih =>
      rw [List.flatten_cons, List.head?_append]
      cases ha : a.head? with
      | none => exact ih fun b hb => hl b (List.mem_cons_of_mem _ hb)
      | some c =>
        have hc := hl a List.mem_cons_self
        rw [ha] at hc
        exact hc
  induction pieces with
  | nil => simp
  | cons a l ih =>
    have hl : ∀ b ∈ l, b.head? ≠ some y := fun b hb => h b (List.mem_cons_of_mem _ hb)
    rw [List.flatten_cons, pair_infix_append (hhead l hl), List.exists_mem_cons_iff]
    exact or_congr_right (ih hl)

/-! ## 3. Space around a text -/

/-- Trimming takes the blanks around a text that has none at its ends. -/
theorem trimChars_around (ha : ∀ c ∈ a, isBlank c = true) (hb : ∀ c ∈ b, isBlank c = true)
    (hfirst : ∀ c, cs.head? = some c → isBlank c = false)
    (hlast : ∀ c, cs.getLast? = some c → isBlank c = false) (hne : cs ≠ []) :
    trimChars (a ++ (cs ++ b)) = cs := by
  have hstart : (a ++ (cs ++ b)).dropWhile isBlank = cs ++ b := by
    rw [List.dropWhile_append_of_pos ha]
    refine dropWhile_eq_self fun c hc => hfirst c ?_
    rwa [List.head?_append_of_ne_nil _ hne] at hc
  have hend : (cs ++ b).reverse.dropWhile isBlank = cs.reverse := by
    rw [List.reverse_append, List.dropWhile_append_of_pos fun c hc => hb c (List.mem_reverse.1 hc)]
    exact dropWhile_eq_self fun c hc => hlast c (by rwa [List.head?_reverse] at hc)
  unfold trimChars
  rw [hstart, hend, List.reverse_reverse]

/-- Trimming takes nothing but blanks. -/
theorem trimChars_split (cs : List Char) : ∃ a b, cs = a ++ (trimChars cs ++ b) ∧
    (∀ c ∈ a, isBlank c = true) ∧ ∀ c ∈ b, isBlank c = true := by
  refine ⟨cs.takeWhile isBlank, ((cs.dropWhile isBlank).reverse.takeWhile isBlank).reverse, ?_,
    fun c hc => List.mem_takeWhile_imp hc,
    fun c hc => List.mem_takeWhile_imp (List.mem_reverse.1 hc)⟩
  unfold trimChars
  rw [← List.reverse_append, List.takeWhile_append_dropWhile, List.reverse_reverse,
    List.takeWhile_append_dropWhile]

/-- A text without blanks is trimmed. -/
theorem trimChars_eq_self (h : ∀ c ∈ cs, isBlank c = false) : trimChars cs = cs := by
  have hfront : cs.dropWhile isBlank = cs :=
    dropWhile_eq_self fun c hc => h c (List.mem_of_mem_head? hc)
  have hback : cs.reverse.dropWhile isBlank = cs.reverse :=
    dropWhile_eq_self fun c hc => h c (List.mem_reverse.1 (List.mem_of_mem_head? hc))
  unfold trimChars
  rw [hfront, hback, List.reverse_reverse]

/-- Nothing is left of blanks alone. -/
theorem trimChars_eq_nil_iff : trimChars cs = [] ↔ ∀ c ∈ cs, isBlank c = true := by
  constructor
  · intro h
    obtain ⟨a, b, hcs, ha, hb⟩ := trimChars_split cs
    rw [h] at hcs
    rw [hcs]
    exact List.forall_mem_append.2 ⟨ha, hb⟩
  · intro h
    unfold trimChars
    rw [List.dropWhile_eq_nil_iff.2 h]
    rfl

/-- Trimming leaves all characters that are no blanks. -/
theorem filter_trimChars (cs : List Char) :
    (trimChars cs).filter (fun c => !isBlank c) = cs.filter fun c => !isBlank c := by
  obtain ⟨a, b, hcs, ha, hb⟩ := trimChars_split cs
  have hnone {l : List Char} (hl : ∀ c ∈ l, isBlank c = true) :
      l.filter (fun c => !isBlank c) = [] := by
    rw [List.filter_eq_nil_iff]
    intro c hc
    simp [hl c hc]
  conv_rhs => rw [hcs]
  rw [List.filter_append, List.filter_append, hnone ha, hnone hb, List.append_nil, List.nil_append]

/-- The text is not empty, and no blank ends it. -/
def EndsSolid (cs : List Char) : Prop := ∃ c, cs.getLast? = some c ∧ isBlank c = false

theorem EndsSolid.append (h : EndsSolid b) (a : List Char) : EndsSolid (a ++ b) := by
  obtain ⟨c, hc, hsolid⟩ := h
  exact ⟨c, by rw [List.getLast?_append, hc, Option.some_or], hsolid⟩

/-- Trimming takes blanks only in front if none ends the text. -/
theorem EndsSolid.trimChars_eq (h : EndsSolid cs) : trimChars cs = cs.dropWhile isBlank := by
  obtain ⟨c, hc, hsolid⟩ := h
  have hback : (cs.dropWhile isBlank).reverse.dropWhile isBlank
      = (cs.dropWhile isBlank).reverse := by
    refine dropWhile_eq_self fun e he => ?_
    rw [List.head?_reverse] at he
    have hlast : cs.getLast? = some e := by
      conv_lhs => rw [← List.takeWhile_append_dropWhile (p := isBlank) (l := cs)]
      rw [List.getLast?_append, he, Option.some_or]
    rw [hc] at hlast
    cases hlast
    exact hsolid
  unfold trimChars
  rw [hback, List.reverse_reverse]

/-- What stands behind a text that does not end in a blank is not reached by dropping blanks. -/
theorem EndsSolid.dropWhile_append (h : EndsSolid cs) (b : List Char) :
    (cs ++ b).dropWhile isBlank = cs.dropWhile isBlank ++ b := by
  obtain ⟨c, hc, hsolid⟩ := h
  rw [List.dropWhile_append]
  split
  · rename_i hempty
    have hall := List.dropWhile_eq_nil_iff.1 (List.isEmpty_iff.1 hempty) c (List.mem_of_getLast? hc)
    rw [hsolid] at hall
    cases hall
  · rfl

end UsageGrid.Text
