/-!
# Blank characters and trimming

Cells, numbers, names and notes are compared and shown without the blanks around them. A blank is a
character with the Unicode property `White_Space`:

* `isBlank` is that property, and contains every character core calls whitespace;
* `trimChars` removes blanks at both ends, `trim` does so for a `String`;
* `trimChars_trimChars`: a trimmed text has nothing left to trim.
-/

namespace UsageGrid.Text

/-! ## 1. The property -/

/-- The Unicode property `White_Space`, 25 code points in all. -/
def isBlank (c : Char) : Bool :=
  let n := c.toNat
  (9 ≤ n && n ≤ 13) || n == 0x20 || n == 0x85 || n == 0xA0 || n == 0x1680
    || (0x2000 ≤ n && n ≤ 0x200A) || n == 0x2028 || n == 0x2029 || n == 0x202F
    || n == 0x205F || n == 0x3000

/-! ## 2. Trimming -/

/-- The text from its first to its last character that is no blank. -/
def trimChars (cs : List Char) : List Char :=
  ((cs.dropWhile isBlank).reverse.dropWhile isBlank).reverse

/-- The text without the blanks at its two ends. -/
def trim (s : String) : String :=
  String.ofList (trimChars s.toList)

/-- Nothing but blanks. -/
def isBlankText (s : String) : Bool :=
  s.toList.all isBlank

/-! ## 3. Laws -/

/-- A list whose first element fails the test loses nothing. -/
theorem dropWhile_eq_self {p : Char → Bool} :
    ∀ {cs : List Char}, (∀ c, cs.head? = some c → p c = false) → cs.dropWhile p = cs
  | [], _ => rfl
  | c :: _, h => by simp [List.dropWhile, h c rfl]

theorem head?_dropWhile {p : Char → Bool} :
    ∀ {cs : List Char} {c : Char}, (cs.dropWhile p).head? = some c → p c = false
  | [], _, h => by simp at h
  | d :: ds, c, h => by
      by_cases hd : p d
      · exact head?_dropWhile (by simpa [List.dropWhile, hd] using h)
      · have hc : d = c := by simpa [List.dropWhile, hd] using h
        subst hc
        simpa using hd

/-- Cutting the tail keeps the first character of what remains. -/
theorem head?_reverse_dropWhile_reverse {p : Char → Bool} {cs : List Char} {c : Char}
    (h : ((cs.reverse.dropWhile p).reverse).head? = some c) : cs.head? = some c := by
  have hs : cs.reverse.dropWhile p <:+ cs.reverse := List.dropWhile_suffix p
  obtain ⟨t, ht⟩ := hs
  have hc : cs = (cs.reverse.dropWhile p).reverse ++ t.reverse := by
    have := congrArg List.reverse ht
    simpa [List.reverse_append] using this.symm
  rw [hc]
  cases hr : (cs.reverse.dropWhile p).reverse with
  | nil => simp [hr] at h
  | cons d ds => simpa [hr] using h

theorem trimChars_head {cs : List Char} {c : Char} (h : (trimChars cs).head? = some c) :
    isBlank c = false :=
  head?_dropWhile (head?_reverse_dropWhile_reverse h)

theorem trimChars_last {cs : List Char} {c : Char} (h : (trimChars cs).reverse.head? = some c) :
    isBlank c = false := by
  unfold trimChars at h
  rw [List.reverse_reverse] at h
  exact head?_dropWhile h

/-- **A trimmed text has nothing left to trim.** -/
theorem trimChars_trimChars (cs : List Char) : trimChars (trimChars cs) = trimChars cs := by
  have h₁ : (trimChars cs).dropWhile isBlank = trimChars cs :=
    dropWhile_eq_self fun _ h => trimChars_head h
  have h₂ : (trimChars cs).reverse.dropWhile isBlank = (trimChars cs).reverse :=
    dropWhile_eq_self fun _ h => trimChars_last h
  calc trimChars (trimChars cs)
      = (((trimChars cs).dropWhile isBlank).reverse.dropWhile isBlank).reverse := rfl
    _ = trimChars cs := by rw [h₁, h₂, List.reverse_reverse]

end UsageGrid.Text
