import Mathlib.Tactic.IntervalCases
import UsageGrid.Calendar.Writer
import UsageGrid.Proofs.Calendar.Reader

/-!
# Formats, written and read

Formats may be put together, and what an item of a format writes is read back by it.
-/

/-!
## Formats put together

Plain text in a format is gathered into longer items, so the items of two texts put together are not
quite those of the one and those of the other. They read and write the same (`Alike`):

* a character of plain text may stand as an item of its own (`addPlain_alike`);
* the format of two texts is like the one format behind the other (`ofText?_append`).
-/

namespace UsageGrid.Calendar.Format

open Reader

variable {F F' G G' H : Format}

/-! ## 1. Formats that read and write the same -/

/-- The formats read the same from every text, and write the same for every date. -/
structure Alike (F G : Format) : Prop where
  reads : ∀ f cs, items? f F cs = items? f G cs
  writes : ∀ d, F.writeDate? d = G.writeDate? d

namespace Alike

theorem refl (F : Format) : Alike F F := ⟨fun _ _ => rfl, fun _ => rfl⟩

theorem symm (h : Alike F G) : Alike G F :=
  ⟨fun f cs => (h.reads f cs).symm, fun d => (h.writes d).symm⟩

theorem trans (h : Alike F G) (h' : Alike G H) : Alike F H :=
  ⟨fun f cs => (h.reads f cs).trans (h'.reads f cs), fun d => (h.writes d).trans (h'.writes d)⟩

end Alike

theorem writeDate?_cons (d : Date) (i : Item) (F : Format) :
    writeDate? d (i :: F)
      = (Writer.item? d i).bind fun a => (F.writeDate? d).map fun b => a ++ b := by
  rw [writeDate?]
  cases Writer.item? d i with
  | none => rfl
  | some a => cases F.writeDate? d <;> rfl

theorem writeDate?_append (d : Date) (F G : Format) :
    writeDate? d (F ++ G) = (F.writeDate? d).bind fun a => (G.writeDate? d).map fun b => a ++ b := by
  induction F with
  | nil => simp [writeDate?]
  | cons i F ih =>
    rw [List.cons_append, writeDate?_cons, writeDate?_cons, ih]
    cases Writer.item? d i with
    | none => rfl
    | some a =>
      cases writeDate? d F with
      | none => rfl
      | some b => cases writeDate? d G <;> simp

theorem Alike.append (h : Alike F F') (h' : Alike G G') : Alike (F ++ G) (F' ++ G') where
  reads f cs := by
    rw [items?_append, items?_append, h.reads]
    exact Option.bind_congr fun r _ => h'.reads r.1 r.2
  writes d := by rw [writeDate?_append, writeDate?_append, h.writes, h'.writes]

theorem Alike.cons (i : Item) (h : Alike F G) : Alike (i :: F) (i :: G) :=
  (Alike.refl [i]).append h

/-! ## 2. Plain text -/

/-- A character of plain text as an item of its own. -/
def plain (c : Char) : Item := if Text.isBlank c then .space [c] else .literal [c]

/-- Blanks that stand together are read as one. -/
theorem space_alike (a b : List Char) (F : Format) :
    Alike (.space (a ++ b) :: F) (.space a :: .space b :: F) where
  reads f cs := by rw [items?_space, items?_space, items?_space, dropBlanks_dropBlanks]
  writes d := by
    simp only [writeDate?_cons, Writer.item?, Option.bind_some]
    cases writeDate? d F <;> simp

theorem literal_alike (a b : List Char) (F : Format) :
    Alike (.literal (a ++ b) :: F) (.literal a :: .literal b :: F) where
  reads f cs := by
    rw [items?_literal, items?_literal, Text.dropStart?_append, Option.bind_assoc]
    exact Option.bind_congr fun r _ => (items?_literal f b F r).symm
  writes d := by
    simp only [writeDate?_cons, Writer.item?, Option.bind_some]
    cases writeDate? d F <;> simp

/-- **A character of plain text may stand by itself.** -/
theorem addPlain_alike (c : Char) (F : Format) : Alike (addPlain c F) (plain c :: F) := by
  unfold addPlain plain
  split
  · split
    · exact space_alike [c] _ _
    · exact .refl _
  · split
    · exact .refl _
    · exact literal_alike [c] _ _
  · split <;> exact .refl _

/-! ## 3. Texts put together -/

/-- **The format of two texts is like the one format behind the other.** -/
theorem itemsFrom_append {seen : Option (List Char)} {a b : List Char}
    (hF : itemsFrom seen a = some F) (hG : itemsFrom none b = some G) :
    ∃ H, itemsFrom seen (a ++ b) = some H ∧ Alike H (F ++ G) := by
  induction a generalizing seen F with
  | nil =>
    cases seen with
    | none =>
      cases hF
      exact ⟨G, hG, .refl _⟩
    | some seen => cases hF
  | cons c a ih =>
    cases seen with
    | none =>
      rw [List.cons_append, itemsFrom]
      rw [itemsFrom] at hF
      split at hF
      · rename_i hc
        rw [if_pos hc]
        exact ih hF
      · rename_i hc
        rw [if_neg hc]
        obtain ⟨F', hF', rfl⟩ := Option.map_eq_some_iff.1 hF
        obtain ⟨H, hH, halike⟩ := ih hF'
        refine ⟨addPlain c H, by rw [hH, Option.map_some], ?_⟩
        -- by itself, the character stands in front of what follows in both
        exact (addPlain_alike c H).trans ((halike.cons (plain c)).trans
          ((addPlain_alike c F').symm.append (.refl G)))
    | some seen =>
      rw [List.cons_append, itemsFrom]
      rw [itemsFrom] at hF
      split at hF
      · exact ih hF
      · obtain ⟨F', hF', rfl⟩ := Option.map_eq_some_iff.1 hF
        obtain ⟨H, hH, halike⟩ := ih hF'
        refine ⟨_, by rw [hH, Option.map_some], ?_⟩
        rw [List.append_assoc]
        exact (Alike.refl _).append halike
      · cases hF

theorem ofText?_append {p q : String} (hF : ofText? p = some F) (hG : ofText? q = some G) :
    ∃ H, ofText? (p ++ q) = some H ∧ Alike H (F ++ G) := by
  unfold ofText? at hF hG ⊢
  rw [String.toList_append]
  exact itemsFrom_append hF hG

end UsageGrid.Calendar.Format

/-!
## What is written is read back

Numbers, names of months and plain text are read as they are written, whatever follows that is no
digit (`takes_number`, `takes_month`, `reads_plain`). An item that comes after blanks may find those
in front of its own text gone; it takes what it would have taken with them (`Takes`, `Reads`).
-/

namespace UsageGrid.Calendar

open Decimal Reader

variable {F : Format} {i : Item} {cs ds w : List Char} {a b said : List (Slot × Int)} {n most : Nat}

/-! ## 1. Numerals -/

/-- A number in digits, with or without blanks in front. -/
def IsNumeral (most n : Nat) (cs : List Char) : Prop :=
  ∃ blanks ds, cs = blanks ++ ds ∧ (∀ c ∈ blanks, Text.isBlank c = true) ∧
    TakesDigits (some most) n ds []

theorem takesDigits_filled {width : Nat} (hwidth : 0 < width) (hn : n < 10 ^ width) (k : Nat)
    (hk : k ≤ width) : TakesDigits (some width) n (filled k n) [] where
  ne_nil he := absurd (List.append_eq_nil_iff.1 he).2 Nat.toDigits_ne_nil
  digits _ := isDigit_filled
  value := natOfDigits_filled k n
  length_le := by
    rintro _ ⟨⟩
    have := (Nat.length_toDigits_le_iff (by decide) hwidth).2 hn
    rw [length_filled_eq]
    omega
  ends := .inr endsNumber_nil

theorem takesDigits_toDigits {width : Nat} (hwidth : 0 < width) (hn : n < 10 ^ width) :
    TakesDigits (some width) n (Nat.toDigits 10 n) [] := by
  have hfilled : filled 0 n = Nat.toDigits 10 n := by simp [filled, Writer.fill]
  exact hfilled ▸ takesDigits_filled hwidth hn 0 (Nat.zero_le _)

/-- A number that is written is a numeral, however it is padded. -/
theorem isNumeral_unsigned {width : Nat} (hwidth : 0 < width) (hn : n < 10 ^ width)
    (padding : Padding) : IsNumeral width n (Writer.unsigned width padding n) := by
  cases padding with
  | none => exact ⟨[], _, rfl, by simp, takesDigits_toDigits hwidth hn⟩
  | zero => exact ⟨[], _, rfl, by simp, takesDigits_filled hwidth hn width (Nat.le_refl _)⟩
  | blank =>
    refine ⟨_, _, rfl, fun c hc => ?_, takesDigits_toDigits hwidth hn⟩
    rw [List.eq_of_mem_replicate hc]
    rfl

theorem IsNumeral.endsSolid (h : IsNumeral most n cs) : Text.EndsSolid cs := by
  obtain ⟨blanks, ds, rfl, -, hds⟩ := h
  have hlast := hds.digits _ (List.getLast_mem hds.ne_nil)
  exact Text.EndsSolid.append
    ⟨_, List.getLast?_eq_some_getLast hds.ne_nil, isBlank_of_isDigit hlast⟩ _

namespace Reader

theorem dropBlanks_append {blanks : List Char} (h : ∀ c ∈ blanks, Text.isBlank c = true)
    (cs : List Char) : dropBlanks (blanks ++ cs) = dropBlanks cs := List.dropWhile_append_of_pos h

theorem dropBlanks_eq_self (h : ∀ c, cs.head? = some c → Text.isBlank c = false) :
    dropBlanks cs = cs := Text.dropWhile_eq_self h

/-- Digits are read as a number without a sign, also where there may be one. -/
theorem signed?_digits {most : Option Nat} {c : Char} (hc : isDigit c = true) (cs : List Char) :
    signed? most (c :: cs) = (digits? most (c :: cs)).map fun (n, rest) => ((n : Int), rest) := by
  unfold signed?
  split
  · rename_i h
    cases h
    cases hc
  · rename_i h
    cases h
    cases hc
  · rfl

theorem number?_numeral {q : Quantity} (hq : q.width = some most) (hw : IsNumeral most n w)
    {rest : List Char} (hrest : EndsNumber rest) :
    number? q (w ++ rest) = some (q.fields n, rest) := by
  obtain ⟨blanks, ds, rfl, hblanks, hds⟩ := hw
  obtain ⟨c, cs, rfl⟩ := List.exists_cons_of_ne_nil hds.ne_nil
  have hc : isDigit c = true := hds.digits c List.mem_cons_self
  have hfront : dropBlanks (blanks ++ (c :: cs) ++ rest) = (c :: cs) ++ rest := by
    rw [List.append_assoc, dropBlanks_append hblanks]
    refine dropBlanks_eq_self ?_
    rintro _ ⟨⟩
    exact isBlank_of_isDigit hc
  have hdigits : digits? q.width ((c :: cs) ++ rest) = some (n, rest) := by
    rw [hq, digits?_append hds.digits hds.ne_nil (hds.length_le _ rfl) hrest, hds.value]
  have hsigned : signed? q.width ((c :: cs) ++ rest) = some ((n : Int), rest) := by
    rw [List.cons_append, signed?_digits hc, ← List.cons_append, hdigits]
    rfl
  unfold number?
  rw [hfront]
  dsimp only
  rw [hsigned, hdigits]
  split <;> rfl

end Reader

/-! ## 2. Items -/

/-- The item takes this text, whatever follows that is no digit, and does so with the blanks in front
    of it gone as well. -/
def Takes (i : Item) (w : List Char) (a : List (Slot × Int)) : Prop :=
  ∀ rest, EndsNumber rest →
    item? i (w ++ rest) = some (a, rest) ∧ item? i (dropBlanks (w ++ rest)) = some (a, rest)

theorem takes_number {q : Quantity} (hq : q.width = some most) (hw : IsNumeral most n w)
    (padding : Padding) : Takes (.number q padding) w (q.fields n) := by
  intro rest hrest
  have hnumber := number?_numeral hq hw hrest
  refine ⟨hnumber, ?_⟩
  show number? q (dropBlanks (w ++ rest)) = _
  rw [number?_dropBlanks]
  exact hnumber

theorem endsSolid_month {long : Bool} (hn : 1 ≤ n ∧ n ≤ 12)
    (hw : Writer.name? monthNames long (n - 1) = some w) : Text.EndsSolid w := by
  obtain ⟨h1, h12⟩ := hn
  interval_cases n <;> cases long <;> cases hw <;> exact ⟨_, rfl, rfl⟩

theorem takes_month {long : Bool} (hn : 1 ≤ n ∧ n ≤ 12)
    (hw : Writer.name? monthNames long (n - 1) = some w) :
    Takes (.month long) w [(.month, (n : Int))] := by
  intro rest _
  obtain ⟨h1, h12⟩ := hn
  interval_cases n <;> cases long <;> cases hw <;> exact ⟨rfl, rfl⟩

/-! ## 3. Items one after the other -/

/-- The format reads the whole text and says this, with the blanks in front and without. -/
def Reads (F : Format) (cs : List Char) (said : List (Slot × Int)) : Prop :=
  said? F cs = some (said, []) ∧ said? F (dropBlanks cs) = some (said, [])

theorem Takes.reads (hi : Takes i w a) (hcs : EndsNumber cs) (hF : Reads F cs b) :
    Reads (i :: F) (w ++ cs) (a ++ b) := by
  obtain ⟨hitem, hdropped⟩ := hi cs hcs
  exact ⟨said?_cons_eq_some.2 ⟨a, b, cs, hitem, hF.1, rfl⟩,
    said?_cons_eq_some.2 ⟨a, b, cs, hdropped, hF.1, rfl⟩⟩

/-- **Plain text is read as it is written.** Blanks of the format that follow each other find none
    left. -/
theorem reads_plain (s : List Char) (hF : Reads F cs said) :
    Reads (s.map Format.plain ++ F) (s ++ cs) said := by
  induction s with
  | nil => exact hF
  | cons c s ih =>
    rw [List.map_cons, List.cons_append, List.cons_append]
    unfold Format.plain
    by_cases hc : Text.isBlank c = true
    · have hdrop : dropBlanks (c :: (s ++ cs)) = dropBlanks (s ++ cs) :=
        List.dropWhile_cons_of_pos hc
      rw [if_pos hc]
      unfold Reads
      rw [said?_space, said?_space, dropBlanks_dropBlanks, hdrop]
      exact ⟨ih.2, ih.2⟩
    · have hdrop : dropBlanks (c :: (s ++ cs)) = c :: (s ++ cs) := List.dropWhile_cons_of_neg hc
      have hsaid : said? (.literal [c] :: (s.map Format.plain ++ F)) (c :: (s ++ cs))
          = some (said, []) := by
        refine said?_cons_eq_some.2 ⟨[], said, s ++ cs, ?_, ih.1, rfl⟩
        have hstart : Text.dropStart? [c] (c :: (s ++ cs)) = some (s ++ cs) :=
          Text.dropStart?_eq_some.2 rfl
        rw [item?_literal, hstart, Option.map_some]
      rw [if_neg hc]
      unfold Reads
      rw [hdrop]
      exact ⟨hsaid, hsaid⟩

end UsageGrid.Calendar
