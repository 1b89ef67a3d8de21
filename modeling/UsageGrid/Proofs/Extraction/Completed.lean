import UsageGrid.Extraction.Period
import UsageGrid.Proofs.Calendar.Written

/-!
# What is filled in

A pattern is completed by the parts that it does not mention, and the text by their values
(`completed_eq`). So a text is read by the items of its pattern and those of what is filled in, one
after the other (`readPartial?_eq_some`).

A part is mentioned if one of its specifiers occurs as it stands: `%-m` mentions no month.
-/

namespace UsageGrid.Extraction

open UsageGrid.Calendar

/-! ## 1. Mentions -/

theorem occursIn_iff {part whole : String} :
    Text.occursIn part whole = true ↔ part.toList <:+: whole.toList := by
  unfold Text.occursIn
  cases hcut : Text.cutAt? part.toList whole.toList with
  | none => simpa using Text.cutAt?_eq_none_iff.1 hcut
  | some r =>
    obtain ⟨before, after⟩ := r
    exact ⟨fun _ => ⟨before, after, (Text.eq_append_of_cutAt? hcut).symm⟩, fun _ => rfl⟩

theorem mentions_iff {p : String} {specifiers : List String} :
    mentions p specifiers = true ↔ ∃ s ∈ specifiers, s.toList <:+: p.toList := by
  unfold mentions
  rw [List.any_eq_true]
  simp only [occursIn_iff]

/-- No specifier has a blank. -/
def AreWords (specifiers : List String) : Prop := ∀ s ∈ specifiers, ' ' ∉ s.toList

instance (specifiers : List String) : Decidable (AreWords specifiers) :=
  inferInstanceAs (Decidable (∀ _ ∈ specifiers, _))

/-- Nothing is mentioned by what stands behind a blank and does not mention it itself. -/
theorem mentions_append {p q : String} {specifiers : List String} (hs : AreWords specifiers)
    (hq : q.toList.head? = some ' ') (hnone : mentions q specifiers = false) :
    mentions (p ++ q) specifiers = mentions p specifiers := by
  obtain ⟨rest, hrest⟩ : ∃ rest, q.toList = ' ' :: rest := by
    cases hlist : q.toList with
    | nil => rw [hlist] at hq; cases hq
    | cons c rest => rw [hlist] at hq; cases hq; exact ⟨rest, rfl⟩
  have hbehind : ∀ s ∈ specifiers, ¬ s.toList <:+: rest := fun s hs h => by
    have : mentions q specifiers = true :=
      mentions_iff.2 ⟨s, hs, hrest ▸ h.trans (List.suffix_cons _ _).isInfix⟩
    rw [hnone] at this
    cases this
  rw [Bool.eq_iff_iff, mentions_iff, mentions_iff, String.toList_append, hrest]
  constructor
  · rintro ⟨s, hmem, h⟩
    exact ⟨s, hmem, ((Text.infix_separated (hs s hmem)).1 h).resolve_right (hbehind s hmem)⟩
  · rintro ⟨s, hmem, h⟩
    exact ⟨s, hmem, (Text.infix_separated (hs s hmem)).2 (.inl h)⟩

/-! ## 2. Fillers -/

/-- A part that is filled in: its digits, and what they say. -/
structure Filler where
  digits : List Char
  quantity : Quantity

/-- What is filled in for a pattern that mentions year, month and day or not. -/
def fillers (year month day : Bool) : List Filler :=
  (if year then [] else [⟨['2', '0', '0', '0'], .year⟩])
    ++ (if month then [] else [⟨['0', '1'], .month⟩])
    ++ if day then [] else [⟨['0', '1'], .day⟩]

/-- What a pattern lacks. -/
def lacking (p : String) : List Filler := fillers (mentionsYear p) (mentionsMonth p) (mentionsDay p)

def fillerText (l : List Filler) : List Char := l.flatMap fun x => ' ' :: x.digits

def fillerFormat (l : List Filler) : Format :=
  l.flatMap fun x => [.space [' '], .number x.quantity .zero]

theorem stamp_not_mem_fillerFormat (l : List Filler) : Item.stamp ∉ fillerFormat l := by
  intro h
  obtain ⟨x, -, h⟩ := List.mem_flatMap.1 h
  simp at h

theorem fillIn_eq (mentioned : String → Bool) (value specifier text p : String) :
    fillIn mentioned value specifier (text, p)
      = (text ++ (if mentioned p then "" else value),
          p ++ if mentioned p then "" else specifier) := by
  unfold fillIn
  dsimp only
  split <;> simp

/-- What is filled in mentions no other part. -/
theorem mentions_filled {p q : String} {specifiers : List String} (hs : AreWords specifiers)
    (hq : q.toList.head? = some ' ') (hnone : mentions q specifiers = false) (b : Bool) :
    mentions (p ++ if b then "" else q) specifiers = mentions p specifiers := by
  cases b with
  | true => simp
  | false => exact mentions_append hs hq hnone

theorem filledText_eq (year month day : Bool) :
    (if year then "" else " 2000") ++ ((if month then "" else " 01") ++ if day then "" else " 01")
      = String.ofList (fillerText (fillers year month day)) := by
  cases year <;> cases month <;> cases day <;> rfl

theorem filledPattern_eq (year month day : Bool) :
    Format.ofText?
        ((if year then "" else " %Y") ++ ((if month then "" else " %m") ++ if day then "" else " %d"))
      = some (fillerFormat (fillers year month day)) := by
  cases year <;> cases month <;> cases day <;> rfl

/-- A text and its pattern are completed by what the pattern lacks. -/
theorem completed_eq (text p : String) :
    ∃ q, completed text p = (text ++ String.ofList (fillerText (lacking p)), p ++ q) ∧
      Format.ofText? q = some (fillerFormat (lacking p)) := by
  have hmonth : ∀ b : Bool, mentionsMonth (p ++ if b then "" else " %Y") = mentionsMonth p :=
    mentions_filled (by decide) rfl (by decide)
  have hday : ∀ b c : Bool, mentionsDay (p ++ (if b then "" else " %Y") ++ if c then "" else " %m")
      = mentionsDay p := fun b c =>
    (mentions_filled (by decide) rfl (by decide) c).trans
      (mentions_filled (by decide) rfl (by decide) b)
  refine ⟨_, ?_, filledPattern_eq _ _ _⟩
  unfold completed lacking
  rw [fillIn_eq, fillIn_eq, fillIn_eq, hmonth, hday, String.append_assoc, String.append_assoc,
    String.append_assoc, String.append_assoc, filledText_eq]

/-! ## 3. Reading -/

/-- **A text is read by the items of its pattern, then by those of what the pattern lacks.** -/
theorem readPartial?_eq_some {text p : String} {F : Format} {d : Date}
    (hF : Format.ofText? p = some F) :
    readPartial? text p = some d ↔
      ∃ f, Reader.items? {} (F ++ fillerFormat (lacking p))
          (Text.trimChars text.toList ++ fillerText (lacking p)) = some (f, []) ∧
        f.toDate? = some d := by
  obtain ⟨q, hcompleted, hq⟩ := completed_eq (Text.trim text) p
  obtain ⟨H, hH, halike⟩ := Format.ofText?_append hF hq
  have hchars : (Text.trim text ++ String.ofList (fillerText (lacking p))).toList
      = Text.trimChars text.toList ++ fillerText (lacking p) := by
    rw [String.toList_append, String.toList_ofList, Text.trim, String.toList_ofList]
  have hread : readPartial? text p
      = H.readDate? (Text.trimChars text.toList ++ fillerText (lacking p)) := by
    unfold readPartial?
    rw [hcompleted]
    dsimp only
    rw [hH, hchars]
    rfl
  rw [hread, Format.readDate?_eq_some]
  simp only [halike.reads]

end UsageGrid.Extraction
