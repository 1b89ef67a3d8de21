import Mathlib.Algebra.Group.Nat.Defs
import UsageGrid.Calendar.Writer
import UsageGrid.Decimal.Reader
import UsageGrid.Text.Blank

/-!
# Numbers in digits

The digits of a number, filled up with zeros in front: they are digits (`isDigit_filled`), read as
the number they are made from (`natOfDigits_filled`), and fill their width exactly unless the number
is too large for it (`length_filled`, `length_filled_gt`).
-/

namespace UsageGrid.Decimal

/-- The digits of a number, zeros in front up to a width. -/
def filled (width n : Nat) : List Char := Calendar.Writer.fill '0' width (Nat.toDigits 10 n)

theorem isDigit_eq (c : Char) : isDigit c = c.isDigit := rfl

theorem isBlank_of_isDigit {c : Char} (h : isDigit c = true) : Text.isBlank c = false := by
  have hrange : 48 ≤ c.toNat ∧ c.toNat ≤ 57 := by
    rw [isDigit_eq, Char.isDigit, Bool.and_eq_true, decide_eq_true_eq, decide_eq_true_eq] at h
    exact ⟨UInt32.le_iff_toNat_le.1 h.1, UInt32.le_iff_toNat_le.1 h.2⟩
  unfold Text.isBlank
  simp only [Bool.or_eq_false_iff, Bool.and_eq_false_iff, decide_eq_false_iff_not,
    beq_eq_false_iff_ne]
  omega

theorem natOfDigits_toDigits (n : Nat) : natOfDigits (Nat.toDigits 10 n) = n :=
  Nat.ofDigitChars_toDigits (by decide) (by decide)

/-- Digits read on from a number move it up. -/
theorem foldl_digits (n : Nat) (cs : List Char) :
    cs.foldl (fun n c => 10 * n + digitValue c) n = n * 10 ^ cs.length + natOfDigits cs := by
  unfold natOfDigits
  induction cs generalizing n with
  | nil => simp
  | cons c rest ih =>
    rw [List.foldl_cons, List.foldl_cons, ih, ih (10 * 0 + digitValue c), List.length_cons,
      Nat.pow_succ, Nat.mul_zero, Nat.zero_add, Nat.add_mul]
    have : 10 * n * 10 ^ rest.length = n * (10 ^ rest.length * 10) := by
      rw [Nat.mul_comm 10 n, Nat.mul_assoc, Nat.mul_comm 10]
    omega

theorem natOfDigits_append (a b : List Char) :
    natOfDigits (a ++ b) = natOfDigits a * 10 ^ b.length + natOfDigits b := by
  conv => lhs; unfold natOfDigits
  rw [List.foldl_append]
  exact foldl_digits _ _

theorem natOfDigits_cons (c : Char) (cs : List Char) :
    natOfDigits (c :: cs) = digitValue c * 10 ^ cs.length + natOfDigits cs := by
  rw [← List.singleton_append, natOfDigits_append]
  exact congrArg (fun n => n * 10 ^ cs.length + natOfDigits cs) (Nat.zero_add (digitValue c))

theorem digitValue_lt {c : Char} (h : isDigit c = true) : digitValue c < 10 := by
  unfold isDigit at h
  rw [Bool.and_eq_true, decide_eq_true_eq, decide_eq_true_eq] at h
  have h9 : c.toNat ≤ 57 := h.2
  unfold digitValue
  omega

theorem natOfDigits_lt {cs : List Char} (h : ∀ c ∈ cs, isDigit c = true) :
    natOfDigits cs < 10 ^ cs.length := by
  induction cs with
  | nil => exact Nat.one_pos
  | cons c rest ih =>
    have hc := digitValue_lt (h c List.mem_cons_self)
    have hrest := ih fun d hd => h d (List.mem_cons_of_mem c hd)
    rw [natOfDigits_cons, List.length_cons, Nat.pow_succ]
    have : digitValue c * 10 ^ rest.length ≤ 9 * 10 ^ rest.length :=
      Nat.mul_le_mul_right _ (by omega)
    omega

theorem isDigit_of_mem_toDigits {n : Nat} {c : Char} (h : c ∈ Nat.toDigits 10 n) :
    isDigit c = true := Nat.isDigit_of_mem_toDigits (by decide) (by decide) h

/-- Digits of a positive number do not begin with a zero. -/
theorem head?_toDigits {n : Nat} (h : n ≠ 0) : (Nat.toDigits 10 n).head? ≠ some '0' := by
  intro hhead
  obtain ⟨rest, hrest⟩ : ∃ rest, Nat.toDigits 10 n = '0' :: rest := by
    cases hds : Nat.toDigits 10 n with
    | nil => rw [hds] at hhead; cases hhead
    | cons c rest => rw [hds] at hhead; cases hhead; exact ⟨rest, rfl⟩
  have hn := natOfDigits_toDigits n
  have hvalue : natOfDigits ('0' :: rest) = natOfDigits rest := rfl
  have hdigits : ∀ c ∈ rest, isDigit c = true := fun c hc =>
    isDigit_of_mem_toDigits (hrest ▸ List.mem_cons_of_mem _ hc)
  rw [hrest, hvalue] at hn
  have hlt := natOfDigits_lt hdigits
  rw [hn] at hlt
  -- the zero makes the digits longer than they need be
  rcases Nat.eq_zero_or_pos rest.length with h0 | hpos
  · rw [h0] at hlt
    omega
  · have hlength := (Nat.length_toDigits_le_iff (by decide) hpos).2 hlt
    rw [hrest, List.length_cons] at hlength
    omega

/-- Zeros in front count nothing. -/
theorem natOfDigits_zeros (k : Nat) (cs : List Char) :
    natOfDigits (List.replicate k '0' ++ cs) = natOfDigits cs := by
  induction k with
  | zero => rfl
  | succ k ih => exact ih

theorem natOfDigits_filled (width n : Nat) : natOfDigits (filled width n) = n :=
  (natOfDigits_zeros _ _).trans (natOfDigits_toDigits n)

theorem isDigit_filled {width n : Nat} {c : Char} (h : c ∈ filled width n) : isDigit c = true := by
  rcases List.mem_append.1 h with hzero | hdigit
  · rw [List.eq_of_mem_replicate hzero]
    decide
  · exact Nat.isDigit_of_mem_toDigits (by decide) (by decide) hdigit

theorem all_isDigit_filled (width n : Nat) : (filled width n).all isDigit = true :=
  List.all_eq_true.2 fun _ => isDigit_filled

theorem length_filled_eq (width n : Nat) :
    (filled width n).length = max width (Nat.toDigits 10 n).length := by
  unfold filled Calendar.Writer.fill
  rw [List.length_append, List.length_replicate]
  omega

theorem length_filled {width n : Nat} (hwidth : 0 < width) (h : n < 10 ^ width) :
    (filled width n).length = width := by
  have := (Nat.length_toDigits_le_iff (by decide) hwidth).2 h
  rw [length_filled_eq]
  omega

theorem length_filled_gt {width n : Nat} (hwidth : 0 < width) (h : 10 ^ width ≤ n) :
    width < (filled width n).length := by
  have : ¬ (Nat.toDigits 10 n).length ≤ width := fun hle =>
    absurd ((Nat.length_toDigits_le_iff (by decide) hwidth).1 hle) (Nat.not_lt.2 h)
  rw [length_filled_eq]
  omega

end UsageGrid.Decimal
