import Mathlib.Data.List.Basic
import UsageGrid.Encoding.Utf8
import UsageGrid.Encoding.Utf16

/-!
# Encodings of Unicode, written and read

In UTF-8 and in both orders of UTF-16, the bytes that a text is written as are read as the text.
-/

/-!
## UTF-8, written and read

The bytes of a character are a first byte, which says how many are to come and where the next one
may lie, and six more bits in each byte that follows. So they are read as the character, whatever
stands behind them (`decodeFrom_encodeChar`), and the bytes of a text as the text (`decode_encode`).

The bytes are those that the language itself has for a text (`toList_toUTF8`). None of them is 0xF5
or more (`lt_of_mem_encode`), and they begin with the mark only if the text does
(`head?_of_mark_prefix`).
-/

namespace UsageGrid

/-- The bytes of an array from a place on, behind those that have been read, the last one first. -/
theorem toList_loop (b : ByteArray) (i : Nat) (r : List UInt8) :
    ByteArray.toList.loop b i r = r.reverse ++ b.data.toList.drop i := by
  by_cases hi : i < b.size
  · have hlength : i < b.data.toList.length := hi
    have hget : b.get! i = b.data.toList[i] := getElem!_pos b.data i hi
    rw [ByteArray.toList.loop, if_pos hi, toList_loop b (i + 1), List.drop_eq_getElem_cons hlength,
      hget, List.reverse_cons, List.append_assoc]
    rfl
  · have hlength : b.data.toList.length ≤ i := Nat.not_lt.1 hi
    rw [ByteArray.toList.loop, if_neg hi, List.drop_eq_nil_of_le hlength, List.append_nil]
termination_by b.size - i

end UsageGrid

namespace UsageGrid.Encoding.Utf8

/-! ## 1. Reading byte by byte -/

section

variable {b : Nat} (hb : b < 256) (rest : List UInt8)

include hb

theorem toNat_toUInt8 : b.toUInt8.toNat = b := Nat.mod_eq_of_lt hb

theorem decodeFrom_whole {c : Char} (h : start b = .whole c) :
    decodeFrom none (b.toUInt8 :: rest) = some c :: decodeFrom none rest := by
  rw [decodeFrom]
  simp only [toNat_toUInt8 hb, h, List.nil_append]

theorem decodeFrom_pending {p : Pending} (h : start b = .pending p) :
    decodeFrom none (b.toUInt8 :: rest) = decodeFrom (some p) rest := by
  rw [decodeFrom]
  simp only [toNat_toUInt8 hb, h, List.nil_append]

/-- A byte that fits brings six more bits. -/
theorem decodeFrom_more {v owed least greatest : Nat} (hfits : least ≤ b ∧ b ≤ greatest) :
    decodeFrom (some ⟨v, owed + 2, least, greatest⟩) (b.toUInt8 :: rest)
      = decodeFrom (some ⟨v * 64 + (b - 0x80), owed + 1, 0x80, 0xBF⟩) rest := by
  have howed : ¬ owed + 2 ≤ 1 := by omega
  rw [decodeFrom]
  simp only [toNat_toUInt8 hb, if_pos hfits, Pending.extend, if_neg howed, List.nil_append]
  rfl

/-- The last byte ends the character. -/
theorem decodeFrom_last {v least greatest : Nat} (hfits : least ≤ b ∧ b ≤ greatest) :
    decodeFrom (some ⟨v, 1, least, greatest⟩) (b.toUInt8 :: rest)
      = some (Char.ofNat (v * 64 + (b - 0x80))) :: decodeFrom none rest := by
  rw [decodeFrom]
  simp only [toNat_toUInt8 hb, if_pos hfits, Pending.extend, if_pos (Nat.le_refl 1),
    List.nil_append]

end

/-! ## 2. First bytes -/

theorem start_two {m : Nat} (hlow : 2 ≤ m) (hm : m < 32) :
    start (0xC0 + m) = .pending ⟨m, 1, 0x80, 0xBF⟩ := by
  unfold start
  rw [if_neg (by omega), if_neg (by omega), if_pos (by omega), Nat.add_sub_cancel_left]

/-- The first of three bytes: the second one leaves out short forms and surrogates. -/
theorem start_three {m x : Nat} (hm : m < 16) (hx : 0x80 ≤ x ∧ x ≤ 0xBF)
    (hshort : m = 0 → 0xA0 ≤ x) (hsurrogate : m = 13 → x ≤ 0x9F) :
    ∃ least greatest, start (0xE0 + m) = .pending ⟨m, 2, least, greatest⟩ ∧
      least ≤ x ∧ x ≤ greatest := by
  unfold start
  rw [if_neg (by omega), if_neg (by omega), if_neg (by omega)]
  by_cases h0 : m = 0
  · subst h0
    exact ⟨0xA0, 0xBF, rfl, hshort rfl, hx.2⟩
  · rw [if_neg (by omega)]
    by_cases h13 : m = 13
    · subst h13
      exact ⟨0x80, 0x9F, rfl, hx.1, hsurrogate rfl⟩
    · rw [if_neg (by omega), if_pos (by omega), Nat.add_sub_cancel_left]
      exact ⟨0x80, 0xBF, rfl, hx⟩

/-- The first of four bytes: the second one leaves out short forms and what is too large. -/
theorem start_four {m x : Nat} (hm : m < 5) (hx : 0x80 ≤ x ∧ x ≤ 0xBF)
    (hshort : m = 0 → 0x90 ≤ x) (hlarge : m = 4 → x ≤ 0x8F) :
    ∃ least greatest, start (0xF0 + m) = .pending ⟨m, 3, least, greatest⟩ ∧
      least ≤ x ∧ x ≤ greatest := by
  unfold start
  rw [if_neg (by omega), if_neg (by omega), if_neg (by omega), if_neg (by omega),
    if_neg (by omega), if_neg (by omega)]
  by_cases h0 : m = 0
  · subst h0
    exact ⟨0x90, 0xBF, rfl, hshort rfl, hx.2⟩
  · rw [if_neg (by omega)]
    by_cases h4 : m = 4
    · subst h4
      exact ⟨0x80, 0x8F, rfl, hx.1, hlarge rfl⟩
    · rw [if_pos (by omega), Nat.add_sub_cancel_left]
      exact ⟨0x80, 0xBF, rfl, hx⟩

/-! ## 3. Characters and texts -/

/-- A character is no surrogate, and at most 0x10FFFF. -/
theorem toNat_range (c : Char) : c.toNat < 0xD800 ∨ 0xDFFF < c.toNat ∧ c.toNat < 0x110000 := c.valid

theorem ofNat_eq {c : Char} {n : Nat} (h : n = c.toNat) : Char.ofNat n = c := by
  rw [h, Char.ofNat_toNat]

/-- **The bytes of a character are read as the character**, whatever follows. -/
theorem decodeFrom_encodeChar (c : Char) (rest : List UInt8) :
    decodeFrom none (encodeChar c ++ rest) = some c :: decodeFrom none rest := by
  have hvalid := toNat_range c
  unfold encodeChar
  dsimp only
  generalize hn : c.toNat = n at *
  by_cases h1 : n < 0x80
  · rw [if_pos h1]
    have hstart : start n = .whole c := by
      unfold start
      rw [if_pos h1, ofNat_eq hn.symm]
    exact decodeFrom_whole (by omega) rest hstart
  rw [if_neg h1]
  by_cases h2 : n < 0x800
  · rw [if_pos h2]
    show decodeFrom none ((0xC0 + n / 64).toUInt8 :: (0x80 + n % 64).toUInt8 :: rest) = _
    rw [decodeFrom_pending (by omega) _ (start_two (by omega) (by omega)),
      decodeFrom_last (by omega) _ (by omega), ofNat_eq (c := c) (by omega)]
  rw [if_neg h2]
  by_cases h3 : n < 0x10000
  · rw [if_pos h3]
    obtain ⟨least, greatest, hstart, hfits⟩ := start_three (m := n / 4096)
      (x := 0x80 + n / 64 % 64) (by omega) (by omega) (by omega) (by omega)
    show decodeFrom none ((0xE0 + n / 4096).toUInt8 :: (0x80 + n / 64 % 64).toUInt8
      :: (0x80 + n % 64).toUInt8 :: rest) = _
    rw [decodeFrom_pending (by omega) _ hstart, decodeFrom_more (by omega) _ hfits,
      decodeFrom_last (by omega) _ (by omega), ofNat_eq (c := c) (by omega)]
  · rw [if_neg h3]
    obtain ⟨least, greatest, hstart, hfits⟩ := start_four (m := n / 262144)
      (x := 0x80 + n / 4096 % 64) (by omega) (by omega) (by omega) (by omega)
    show decodeFrom none ((0xF0 + n / 262144).toUInt8 :: (0x80 + n / 4096 % 64).toUInt8
      :: (0x80 + n / 64 % 64).toUInt8 :: (0x80 + n % 64).toUInt8 :: rest) = _
    rw [decodeFrom_pending (by omega) _ hstart, decodeFrom_more (by omega) _ hfits,
      decodeFrom_more (by omega) _ (by omega), decodeFrom_last (by omega) _ (by omega),
      ofNat_eq (c := c) (by omega)]

/-- **The bytes of a text are read as the text.** -/
theorem decode_encode (cs : List Char) : decode (encode cs) = cs.map some := by
  unfold decode encode
  induction cs with
  | nil => rfl
  | cons c rest ih => rw [List.flatMap_cons, decodeFrom_encodeChar, ih, List.map_cons]

/-! ## 4. The bytes themselves -/

theorem encodeChar_eq (c : Char) : encodeChar c = String.utf8EncodeChar c := by
  have hvalid := toNat_range c
  have hbyte {a b : Nat} (h : a = b) : a.toUInt8 = UInt8.ofNat b := by
    rw [h]
  unfold encodeChar String.utf8EncodeChar
  dsimp only
  rw [show c.val.toNat = c.toNat from rfl]
  generalize c.toNat = n at *
  by_cases h1 : n < 0x80
  · rw [if_pos h1, if_pos (show n ≤ 127 by omega)]
  rw [if_neg h1, if_neg (show ¬ n ≤ 127 by omega)]
  by_cases h2 : n < 0x800
  · rw [if_pos h2, if_pos (show n ≤ 2047 by omega), hbyte (b := n / 64 % 32 + 192) (by omega),
      hbyte (Nat.add_comm 0x80 (n % 64))]
  rw [if_neg h2, if_neg (show ¬ n ≤ 2047 by omega)]
  by_cases h3 : n < 0x10000
  · rw [if_pos h3, if_pos (show n ≤ 65535 by omega), hbyte (b := n / 4096 % 16 + 224) (by omega),
      hbyte (Nat.add_comm 0x80 (n / 64 % 64)), hbyte (Nat.add_comm 0x80 (n % 64))]
  · rw [if_neg h3, if_neg (show ¬ n ≤ 65535 by omega), hbyte (b := n / 262144 % 8 + 240) (by omega),
      hbyte (Nat.add_comm 0x80 (n / 4096 % 64)), hbyte (Nat.add_comm 0x80 (n / 64 % 64)),
      hbyte (Nat.add_comm 0x80 (n % 64))]

/-- The bytes of a text are those that the language has for it. -/
theorem toList_toUTF8 (text : String) : text.toUTF8.toList = encode text.toList := by
  have hbytes : text.toUTF8.toList = text.toList.flatMap String.utf8EncodeChar := by
    rw [← String.ofList_toList (s := text), String.toUTF8_eq_toByteArray, String.toByteArray_ofList,
      String.toList_ofList]
    show ByteArray.toList.loop _ 0 [] = _
    rw [toList_loop]
    exact List.toList_data_toByteArray
  rw [hbytes]
  unfold encode
  exact congrArg (List.flatMap · text.toList) (funext fun c => (encodeChar_eq c).symm)

theorem lt_of_mem_encodeChar {c : Char} {b : UInt8} (h : b ∈ encodeChar c) : b.toNat < 0xF5 := by
  have hvalid := toNat_range c
  have hbyte {n : Nat} (hn : n < 0xF5) : n.toUInt8.toNat < 0xF5 := by
    rw [toNat_toUInt8 (by omega)]
    exact hn
  unfold encodeChar at h
  dsimp only at h
  generalize c.toNat = n at *
  by_cases h1 : n < 0x80
  · rw [if_pos h1, List.mem_singleton] at h
    exact h ▸ hbyte (by omega)
  rw [if_neg h1] at h
  by_cases h2 : n < 0x800
  · rw [if_pos h2] at h
    simp only [List.mem_cons, List.not_mem_nil, or_false] at h
    rcases h with rfl | rfl <;> exact hbyte (by omega)
  rw [if_neg h2] at h
  by_cases h3 : n < 0x10000
  · rw [if_pos h3] at h
    simp only [List.mem_cons, List.not_mem_nil, or_false] at h
    rcases h with rfl | rfl | rfl <;> exact hbyte (by omega)
  · rw [if_neg h3] at h
    simp only [List.mem_cons, List.not_mem_nil, or_false] at h
    rcases h with rfl | rfl | rfl | rfl <;> exact hbyte (by omega)

/-- A byte of 0xF5 or more stands in no text. -/
theorem lt_of_mem_encode {cs : List Char} {b : UInt8} (h : b ∈ encode cs) : b.toNat < 0xF5 := by
  obtain ⟨c, -, hb⟩ := List.mem_flatMap.1 h
  exact lt_of_mem_encodeChar hb

/-- Bytes with the mark in front are those of a text with U+FEFF in front. -/
theorem head?_of_mark_prefix {cs : List Char} (h : mark <+: encode cs) :
    cs.head? = some (Char.ofNat 0xFEFF) := by
  obtain ⟨rest, hrest⟩ := h
  have hread : cs.map some = some (Char.ofNat 0xFEFF) :: decode rest := by
    rw [← decode_encode, ← hrest]
    exact decodeFrom_encodeChar (Char.ofNat 0xFEFF) rest
  cases cs with
  | nil => cases hread
  | cons c cs => exact (List.cons.inj hread).1

end UsageGrid.Encoding.Utf8

/-!
## UTF-16, written and read

A character is one unit, or a high surrogate with a low one behind it (`unitsOf`); a unit is two
bytes in either order. So bytes are paired into the units that they were written from
(`units_unitBytes`), units are read as the characters (`pieces_unitsOf`), and the bytes of a text as
the text (`decode_encode`).
-/

namespace UsageGrid.Encoding.Utf16

/-! ## 1. Units and bytes -/

theorem unit_unitBytes (order : ByteOrder) {n : Nat} (hn : n < 0x10000) :
    ∃ a b, unitBytes order n = [a, b] ∧ unit order a b = n := by
  have hlow : (n % 256).toUInt8.toNat = n % 256 := Utf8.toNat_toUInt8 (by omega)
  have hhigh : (n / 256).toUInt8.toNat = n / 256 := Utf8.toNat_toUInt8 (by omega)
  cases order with
  | little =>
    refine ⟨_, _, rfl, ?_⟩
    show (n % 256).toUInt8.toNat + 256 * (n / 256).toUInt8.toNat = n
    omega
  | big =>
    refine ⟨_, _, rfl, ?_⟩
    show 256 * (n / 256).toUInt8.toNat + (n % 256).toUInt8.toNat = n
    omega

/-- Bytes are paired into the units that they were written from. -/
theorem units_unitBytes (order : ByteOrder) {us : List Nat} (hus : ∀ n ∈ us, n < 0x10000) :
    units order (us.flatMap (unitBytes order)) = (us, false) := by
  induction us with
  | nil => rfl
  | cons n rest ih =>
    obtain ⟨hn, hrest⟩ := List.forall_mem_cons.1 hus
    obtain ⟨a, b, hbytes, hunit⟩ := unit_unitBytes order hn
    rw [List.flatMap_cons, hbytes]
    show ((unit order a b :: (units order (rest.flatMap (unitBytes order))).1,
      (units order (rest.flatMap (unitBytes order))).2) : List Nat × Bool) = _
    rw [ih hrest, hunit]

/-! ## 2. Units and characters -/

/-- The units of a character. -/
def unitsOf (c : Char) : List Nat :=
  let n := c.toNat
  if n < 0x10000 then [n] else [0xD800 + (n - 0x10000) / 0x400, 0xDC00 + (n - 0x10000) % 0x400]

theorem encodeChar_eq (order : ByteOrder) (c : Char) :
    encodeChar order c = (unitsOf c).flatMap (unitBytes order) := by
  unfold encodeChar unitsOf
  dsimp only
  by_cases h : c.toNat < 0x10000
  · rw [if_pos h, if_pos h, List.flatMap_singleton]
  · rw [if_neg h, if_neg h, List.flatMap_cons, List.flatMap_singleton]

theorem lt_of_mem_unitsOf {c : Char} {n : Nat} (h : n ∈ unitsOf c) : n < 0x10000 := by
  have hvalid := Utf8.toNat_range c
  unfold unitsOf at h
  dsimp only at h
  by_cases hc : c.toNat < 0x10000
  · rw [if_pos hc, List.mem_singleton] at h
    omega
  · rw [if_neg hc, List.mem_cons, List.mem_singleton] at h
    omega

theorem isHigh_eq {n : Nat} : isHigh n = decide (0xD800 ≤ n ∧ n ≤ 0xDBFF) :=
  (Bool.decide_and _ _).symm

theorem isLow_eq {n : Nat} : isLow n = decide (0xDC00 ≤ n ∧ n ≤ 0xDFFF) :=
  (Bool.decide_and _ _).symm

/-- **The units of a character are read as the character**, whatever follows. -/
theorem pieces_unitsOf (half : Bool) (c : Char) (rest : List Nat) :
    pieces half none (unitsOf c ++ rest) = some c :: pieces half none rest := by
  have hvalid := Utf8.toNat_range c
  unfold unitsOf
  dsimp only
  by_cases hc : c.toNat < 0x10000
  · have hhigh : isHigh c.toNat = false := isHigh_eq.trans (decide_eq_false (by omega))
    have hlow : isLow c.toNat = false := isLow_eq.trans (decide_eq_false (by omega))
    rw [if_pos hc]
    show pieces half none (c.toNat :: rest) = _
    rw [pieces, hhigh, hlow, Char.ofNat_toNat]
    rfl
  · rw [if_neg hc]
    generalize hh : 0xD800 + (c.toNat - 0x10000) / 0x400 = high
    generalize hl : 0xDC00 + (c.toNat - 0x10000) % 0x400 = low
    have hhigh : isHigh high = true := isHigh_eq.trans (decide_eq_true (by omega))
    have hlow : isLow low = true := isLow_eq.trans (decide_eq_true (by omega))
    show pieces half none (high :: low :: rest) = _
    rw [pieces, hhigh, if_pos rfl, pieces, hlow, if_pos rfl, Utf8.ofNat_eq (c := c) (by omega)]

/-- **The bytes of a text are read as the text**, in either order. -/
theorem decode_encode (order : ByteOrder) (cs : List Char) :
    decode order (encode order cs) = cs.map some := by
  have hbytes : encode order cs = (cs.flatMap unitsOf).flatMap (unitBytes order) := by
    unfold encode
    rw [List.flatMap_assoc]
    exact congrArg (List.flatMap · cs) (funext fun c => encodeChar_eq order c)
  have hunits : ∀ n ∈ cs.flatMap unitsOf, n < 0x10000 := by
    intro n hn
    obtain ⟨c, -, hmem⟩ := List.mem_flatMap.1 hn
    exact lt_of_mem_unitsOf hmem
  unfold decode
  rw [hbytes, units_unitBytes order hunits]
  show pieces false none (cs.flatMap unitsOf) = _
  clear hbytes hunits
  induction cs with
  | nil => rfl
  | cons c rest ih => rw [List.flatMap_cons, pieces_unitsOf, ih, List.map_cons]

/-- Bytes with two zeros in front are those of a text with U+0000 in front. -/
theorem head?_of_zeros_prefix {order : ByteOrder} {cs : List Char}
    (h : [0, 0] <+: encode order cs) : cs.head? = some (Char.ofNat 0) := by
  obtain ⟨rest, hrest⟩ := h
  have hzero : unit order 0 0 = 0 := by cases order <;> rfl
  have hread : cs.map some = pieces (units order rest).2 none (0 :: (units order rest).1) := by
    rw [← decode_encode order, ← hrest]
    show pieces (units order rest).2 none (unit order 0 0 :: (units order rest).1) = _
    rw [hzero]
  rw [pieces] at hread
  cases cs with
  | nil => cases hread
  | cons c cs => exact (List.cons.inj hread).1

end UsageGrid.Encoding.Utf16
