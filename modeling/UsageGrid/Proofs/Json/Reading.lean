import UsageGrid.Json.Span
import UsageGrid.Proofs.Json.Canonical
import UsageGrid.Proofs.Json.Spacing

/-!
# What is written is read

The reader is taken along a written value (`Reads`). A number is over only at the character behind
it, so the reader may be one step short of having handed the value on; `Settles` says that this
makes no difference.
-/

namespace UsageGrid.Json

open Decimal Progress

variable {knows : String → Bool}

/-! ## 1. Runs of the reader -/

/-- Along the characters the reader gets from a state to another, and no value on the way belongs
    to a member that nobody asks for. -/
inductive Reads (knows : String → Bool) : State → List Char → State → Prop
  | nil (s : State) : Reads knows s [] s
  | cons {s m t : State} {c : Char} {rest : List Char} (step : s.step c = .ok m)
      (asked : isUnasked knows m = false) (next : Reads knows m rest t) :
      Reads knows s (c :: rest) t

namespace Reads

variable {s t u : State} {a b : List Char} {c : Char}

theorem append (h : Reads knows s a t) (h' : Reads knows t b u) : Reads knows s (a ++ b) u := by
  induction h with
  | nil s => exact h'
  | cons step asked _ ih => exact .cons step asked (ih h')

theorem one (step : s.step c = .ok t) (asked : isUnasked knows t = false) : Reads knows s [c] t :=
  .cons step asked (.nil t)

/-- Characters that the reader passes over. -/
theorem stay (h : ∀ c ∈ a, s.step c = .ok s) (asked : isUnasked knows s = false) :
    Reads knows s a s := by
  induction a with
  | nil => exact .nil s
  | cons c rest ih =>
    exact .cons (h c List.mem_cons_self) asked (ih fun d hd => h d (List.mem_cons_of_mem c hd))

end Reads

/-! ## 2. Space -/

/-- Between two parts of a text space is passed over. -/
def State.IsBetween (s : State) : Prop := ∀ c, isSpace c = true → s.step c = .ok s

theorem isBetween_value (fs : List Frame) (due : Due) : State.IsBetween ⟨fs, .value due⟩ := by
  intro c hc
  simp [State.step, hc]

theorem isBetween_key (fs : List Frame) (first : Bool) : State.IsBetween ⟨fs, .key first⟩ := by
  intro c hc
  simp [State.step, hc]

theorem isBetween_next (fs : List Frame) : State.IsBetween ⟨fs, .next⟩ := by
  intro c hc
  simp [State.step, hc]

theorem reads_space {s : State} (h : s.IsBetween) (asked : isUnasked knows s = false)
    {space : List Char} (hspace : ∀ c ∈ space, isSpace c = true) : Reads knows s space s :=
  .stay (fun c hc => h c (hspace c hc)) asked

/-- A value begins with a character that neither ends a list nor is space. -/
theorem step_value {c : Char} (hspace : isSpace c = false) (hend : c ≠ ']') (fs : List Frame)
    (due : Due) : State.step ⟨fs, .value due⟩ c = startValue fs c := by
  unfold State.step
  dsimp only
  rw [if_neg (by simp [hspace])]
  split
  · rw [if_neg hend]
  · rw [if_neg hend]
  · rfl

theorem isUnasked_supply (v : Json) (fs : List Frame) :
    isUnasked knows (State.supply v fs) = false := by
  cases fs with
  | nil => rfl
  | cons f fs => cases f <;> rfl

/-! ## 3. Brackets and commas -/

namespace Frame

/-- What an array or object is when it is closed. -/
def closed : Frame → Json
  | .list items => .array items.reverse
  | .members ms _ => .object ms.reverse

/-- What may stand behind the bracket that opens it. -/
def start : Frame → Mode
  | .list _ => .value .listStart
  | .members _ _ => .key true

/-- What may stand behind a comma. -/
def afterComma : Frame → Mode
  | .list _ => .value .listNext
  | .members _ _ => .key false

/-- The character opens this array or object. -/
inductive Opens : Frame → Char → Prop
  | list : Opens (.list []) '['
  | members : Opens (.members [] "") openBrace

/-- The character closes it, right behind the bracket or behind a value. -/
inductive Closes : Frame → Mode → Char → Prop
  | list (items : List Json) {m : Mode} (mode : m = .value .listStart ∨ m = .next) :
      Closes (.list items) m ']'
  | members (ms : List (String × Json)) (key : String) {m : Mode}
      (mode : m = .key true ∨ m = .next) : Closes (.members ms key) m closeBrace

end Frame

section

variable {f : Frame} {c : Char}

theorem step_opens (h : f.Opens c) (due : Due) (fs : List Frame) :
    State.step ⟨fs, .value due⟩ c
      = if fs.length < depthLimit then .ok ⟨f :: fs, f.start⟩ else .error .tooDeep := by
  cases h <;> exact step_value rfl (by decide) fs due

theorem step_separates (f : Frame) (fs : List Frame) :
    State.step ⟨f :: fs, .next⟩ ',' = .ok ⟨f :: fs, f.afterComma⟩ := by
  cases f <;> rfl

theorem step_closes {m : Mode} (h : f.Closes m c) (fs : List Frame) :
    State.step ⟨f :: fs, m⟩ c = .ok (State.supply f.closed fs) := by
  cases h with
  | list items mode => rcases mode with rfl | rfl <;> rfl
  | members ms key mode => rcases mode with rfl | rfl <;> rfl

theorem step_opened (h : f.Opens c) (due : Due) {fs : List Frame} (hroom : fs.length < depthLimit) :
    State.step ⟨fs, .value due⟩ c = .ok ⟨f :: fs, f.start⟩ :=
  (step_opens h due fs).trans (if_pos hroom)

theorem step_full (h : f.Opens c) (due : Due) {fs : List Frame} (hfull : ¬ fs.length < depthLimit) :
    State.step ⟨fs, .value due⟩ c = .error .tooDeep :=
  (step_opens h due fs).trans (if_neg hfull)

end

/-! ## 4. Strings and words -/

section

variable (fs : List Frame) (asKey : Bool) (read : List Char)

/-- A character of a text stands for itself in a string, whichever way it is written. -/
theorem reads_plain {c : Char} (hquote : c.toNat ≠ 0x22) (hback : c ≠ '\\')
    (hcontrol : ¬ c.toNat < 0x20) :
    Reads knows ⟨fs, .text asKey read .plain⟩ [c] ⟨fs, .text asKey (c :: read) .plain⟩ := by
  refine .one ?_ rfl
  simp [State.step, stepText, hquote, hback, hcontrol]

theorem reads_simple {c d : Char} (hletter : c ≠ 'u') (h : simpleEscape? c = some d) :
    Reads knows ⟨fs, .text asKey read .plain⟩ ['\\', c] ⟨fs, .text asKey (d :: read) .plain⟩ := by
  refine .cons (m := ⟨fs, .text asKey read .backslash⟩) rfl rfl (.one ?_ rfl)
  simp [State.step, stepText, hletter, h]

/-- The four digits of a control character. -/
theorem codeUnit?_control : ∀ n : Fin 32,
    codeWidth ['0', '0', Nat.digitChar (n / 16)] = 3 ∧
    codeWidth ['0', '0', Nat.digitChar (n / 16), Nat.digitChar (n % 16)] = 4 ∧
    codeUnit? ['0', '0', Nat.digitChar (n / 16), Nat.digitChar (n % 16)] = some n.val := by
  decide

theorem reads_control {c : Char} (h : c.toNat < 0x20) :
    Reads knows ⟨fs, .text asKey read .plain⟩ (controlEscape c)
      ⟨fs, .text asKey (c :: read) .plain⟩ := by
  obtain ⟨h3, h4, hunit⟩ := codeUnit?_control ⟨c.toNat, h⟩
  dsimp only at h3 h4 hunit
  unfold controlEscape
  dsimp only
  refine .cons (m := ⟨fs, .text asKey read .backslash⟩) rfl rfl ?_
  refine .cons (m := ⟨fs, .text asKey read (.code none [])⟩) rfl rfl ?_
  refine .cons (m := ⟨fs, .text asKey read (.code none ['0'])⟩) rfl rfl ?_
  refine .cons (m := ⟨fs, .text asKey read (.code none ['0', '0'])⟩) rfl rfl ?_
  refine .cons (m := ⟨fs, .text asKey read
    (.code none ['0', '0', Nat.digitChar (c.toNat / 16)])⟩) ?_ rfl (.one ?_ rfl)
  · simp only [State.step, stepText, List.cons_append, List.nil_append, h3]
    rfl
  · have hsurrogate : ¬ (0xDC00 ≤ c.toNat ∧ c.toNat ≤ 0xDFFF) := by omega
    have hsurrogate' : ¬ (0xD800 ≤ c.toNat ∧ c.toNat ≤ 0xDBFF) := by omega
    simp only [State.step, stepText, List.cons_append, List.nil_append, h4, hunit, endCode,
      if_neg hsurrogate, if_neg hsurrogate', Char.ofNat_toNat]
    rfl

theorem reads_escapeChar (c : Char) :
    Reads knows ⟨fs, .text asKey read .plain⟩ (escapeChar c)
      ⟨fs, .text asKey (c :: read) .plain⟩ := by
  have hof {n : Nat} (h : c.toNat = n) : c = Char.ofNat n := by rw [← h, Char.ofNat_toNat]
  unfold escapeChar
  split
  · rename_i h
    obtain rfl := hof h
    exact reads_simple fs asKey read (by decide) rfl
  split
  · rename_i h
    subst h
    exact reads_simple fs asKey read (by decide) rfl
  split
  · rename_i h
    obtain rfl := hof h
    exact reads_simple fs asKey read (by decide) rfl
  split
  · rename_i h
    obtain rfl := hof h
    exact reads_simple fs asKey read (by decide) rfl
  split
  · rename_i h
    subst h
    exact reads_simple fs asKey read (by decide) rfl
  split
  · rename_i h
    subst h
    exact reads_simple fs asKey read (by decide) rfl
  split
  · rename_i h
    subst h
    exact reads_simple fs asKey read (by decide) rfl
  split
  · rename_i h
    exact reads_control fs asKey read h
  · rename_i hquote hback _ _ _ _ _ hcontrol
    exact reads_plain fs asKey read hquote hback hcontrol

theorem reads_escaped (cs : List Char) :
    Reads knows ⟨fs, .text asKey read .plain⟩ (cs.flatMap escapeChar)
      ⟨fs, .text asKey (cs.reverse ++ read) .plain⟩ := by
  induction cs generalizing read with
  | nil => exact .nil _
  | cons c rest ih =>
    rw [List.flatMap_cons, List.reverse_cons, List.append_assoc]
    exact (reads_escapeChar fs asKey read c).append (ih (c :: read))

end

/-- The end of a string hands it on. -/
theorem reads_text (fs : List Frame) (asKey : Bool) (s : String)
    (asked : isUnasked knows (State.supplyText asKey s fs) = false) :
    Reads knows ⟨fs, .text asKey [] .plain⟩ (s.toList.flatMap escapeChar ++ [quote])
      (State.supplyText asKey s fs) := by
  refine (reads_escaped fs asKey [] s.toList).append (.one ?_ asked)
  rw [List.append_nil]
  show Except.ok (State.supplyText asKey (String.ofList s.toList.reverse.reverse) fs) = _
  rw [List.reverse_reverse, String.ofList_toList]

theorem supplyText_false (s : String) (fs : List Frame) :
    State.supplyText false s fs = State.supply (.string s) fs := by
  cases fs with
  | nil => rfl
  | cons f fs => cases f <;> rfl

theorem reads_writeString (fs : List Frame) (due : Due) (s : String) :
    Reads knows ⟨fs, .value due⟩ (writeString s) (State.supply (.string s) fs) := by
  refine .cons (m := ⟨fs, .text false [] .plain⟩) (step_value rfl (by decide) fs due) rfl ?_
  have h := @reads_text knows fs false s (by rw [supplyText_false]; exact isUnasked_supply _ _)
  rwa [supplyText_false] at h

theorem reads_key (ms : List (String × Json)) (key : String) (fs : List Frame) (first : Bool)
    (s : String) :
    Reads knows ⟨.members ms key :: fs, .key first⟩ (writeString s)
      ⟨.members ms s :: fs, .colon⟩ :=
  .cons (m := ⟨.members ms key :: fs, .text true [] .plain⟩) rfl rfl
    (reads_text (.members ms key :: fs) true s rfl)

theorem reads_letters (fs : List Frame) (v : Json) :
    ∀ {letters : List Char}, letters ≠ [] →
      Reads knows ⟨fs, .word letters v⟩ letters (State.supply v fs)
  | [], hne => absurd rfl hne
  | [_], _ => .one (if_pos rfl) (isUnasked_supply _ _)
  | _ :: d :: rest, _ => .cons (m := ⟨fs, .word (d :: rest) v⟩) (if_pos rfl) rfl
    (reads_letters fs v (List.cons_ne_nil d rest))

/-- A word is read once its first letter has told which it is. -/
theorem reads_word {fs : List Frame} {c : Char} {letters : List Char} {v : Json}
    (hstart : startValue fs c = .ok ⟨fs, .word letters v⟩) (hspace : isSpace c = false)
    (hend : c ≠ ']') (hne : letters ≠ []) (due : Due) :
    Reads knows ⟨fs, .value due⟩ (c :: letters) (State.supply v fs) :=
  .cons ((step_value hspace hend fs due).trans hstart) rfl (reads_letters fs v hne)

/-! ## 5. Numbers -/

/-- A number can be over here. -/
def NumberPhase.CanEnd : NumberPhase → Prop
  | .zero | .whole | .fraction | .exponent => True
  | _ => False

/-- The character is read on as part of a number. -/
def continuesNumber (c : Char) : Bool := isDigit c || c == '.' || c == 'e' || c == 'E'

section

variable (fs : List Frame) (negative : Bool)

theorem startValue_digit {c : Char} (h : isDigit c = true) :
    startValue fs c
      = .ok ⟨fs, .number ⟨false, [c], none, none⟩ (if c = '0' then .zero else .whole)⟩ := by
  have hrange : 48 ≤ c.toNat ∧ c.toNat ≤ 57 := by
    unfold isDigit at h
    rw [Bool.and_eq_true, decide_eq_true_eq, decide_eq_true_eq] at h
    exact h
  have hquote : c.toNat ≠ 0x22 := by omega
  have hminus : c ≠ '-' := by
    rintro rfl
    exact absurd hrange.1 (by decide)
  unfold startValue
  rw [if_neg hquote, if_neg hminus]
  by_cases hzero : c = '0'
  · rw [if_pos hzero, if_pos hzero]
  · rw [if_neg hzero, if_neg hzero, if_pos h]

theorem reads_whole (whole digits : List Char) (h : ∀ c ∈ digits, isDigit c = true) :
    Reads knows ⟨fs, .number ⟨negative, whole, none, none⟩ .whole⟩ digits
      ⟨fs, .number ⟨negative, whole ++ digits, none, none⟩ .whole⟩ := by
  induction digits generalizing whole with
  | nil =>
    rw [List.append_nil]
    exact .nil _
  | cons c rest ih =>
    have hc := h c List.mem_cons_self
    have hrest := ih (whole ++ [c]) fun d hd => h d (List.mem_cons_of_mem c hd)
    rw [List.append_assoc] at hrest
    refine .cons ?_ rfl hrest
    simp [State.step, stepNumber, hc]

theorem reads_fraction (whole fraction digits : List Char) (h : ∀ c ∈ digits, isDigit c = true) :
    Reads knows ⟨fs, .number ⟨negative, whole, some fraction, none⟩ .fraction⟩ digits
      ⟨fs, .number ⟨negative, whole, some (fraction ++ digits), none⟩ .fraction⟩ := by
  induction digits generalizing fraction with
  | nil =>
    rw [List.append_nil]
    exact .nil _
  | cons c rest ih =>
    have hc := h c List.mem_cons_self
    have hrest := ih (fraction ++ [c]) fun d hd => h d (List.mem_cons_of_mem c hd)
    rw [List.append_assoc] at hrest
    refine .cons ?_ rfl hrest
    simp [State.step, stepNumber, hc]

/-- The digits of an exponent never leave the bounds that all of them keep. -/
theorem reads_exponent (whole : List Char) (fraction : Option (List Char)) (down : Bool)
    (before digits : List Char) (h : ∀ c ∈ digits, isDigit c = true)
    (hsmall : down = false → natOfDigits (before ++ digits) < 2 ^ 31) :
    Reads knows ⟨fs, .number ⟨negative, whole, fraction, some (down, before)⟩ .exponent⟩ digits
      ⟨fs, .number ⟨negative, whole, fraction, some (down, before ++ digits)⟩ .exponent⟩ := by
  induction digits generalizing before with
  | nil =>
    rw [List.append_nil]
    exact .nil _
  | cons c rest ih =>
    have hc := h c List.mem_cons_self
    have hsplit : before ++ c :: rest = before ++ [c] ++ rest := by simp
    have hrest := ih (before ++ [c]) (fun d hd => h d (List.mem_cons_of_mem c hd))
      (by rwa [← hsplit])
    rw [← hsplit] at hrest
    have hoverflow : NumberText.overflows
        ⟨negative, whole, fraction, some (down, before ++ [c])⟩ = false := by
      cases down with
      | true => rfl
      | false =>
        have hall := hsmall rfl
        rw [hsplit, natOfDigits_append] at hall
        have hle : natOfDigits (before ++ [c]) * 1
            ≤ natOfDigits (before ++ [c]) * 10 ^ rest.length :=
          Nat.mul_le_mul_left _ (Nat.pow_pos (by decide))
        have hpow : Nat.pow 2 31 = 2 ^ 31 := rfl
        have : ¬ Nat.pow 2 31 ≤ natOfDigits (before ++ [c]) := by omega
        simp only [NumberText.overflows, decide_eq_false this, Bool.false_and]
    refine .cons ?_ rfl hrest
    simp [State.step, stepNumber, hc, hoverflow]

/-- The sign and the whole part. -/
theorem reads_wholePart {whole : List Char} (hform : whole = ['0'] ∨
      ∃ c rest, whole = c :: rest ∧ c ≠ '0')
    (hdigits : ∀ c ∈ whole, isDigit c = true) (due : Due) :
    ∃ phase, (phase = .zero ∨ phase = .whole) ∧
      Reads knows ⟨fs, .value due⟩ ((if negative then ['-'] else []) ++ whole)
        ⟨fs, .number ⟨negative, whole, none, none⟩ phase⟩ := by
  obtain ⟨c, rest, rfl, hrest⟩ : ∃ c rest, whole = c :: rest ∧ (c = '0' → rest = []) := by
    rcases hform with rfl | ⟨c, rest, rfl, hc⟩
    · exact ⟨'0', [], rfl, fun _ => rfl⟩
    · exact ⟨c, rest, rfl, fun h => absurd h hc⟩
  have hc := hdigits c List.mem_cons_self
  refine ⟨if c = '0' then .zero else .whole, by split <;> simp, ?_⟩
  have hfirst : Reads knows ⟨fs, .value due⟩ ((if negative then ['-'] else []) ++ [c])
      ⟨fs, .number ⟨negative, [c], none, none⟩ (if c = '0' then .zero else .whole)⟩ := by
    cases negative with
    | false =>
      have hspace : isSpace c = false := by
        by_contra h
        simp only [isSpace, Bool.not_eq_false, Bool.or_eq_true, beq_iff_eq] at h
        rcases h with ((rfl | rfl) | rfl) | rfl <;> exact absurd hc (by decide)
      have hend : c ≠ ']' := by
        rintro rfl
        exact absurd hc (by decide)
      exact .one ((step_value hspace hend fs due).trans (startValue_digit fs hc)) rfl
    | true =>
      refine .cons (m := ⟨fs, .number ⟨true, [], none, none⟩ .sign⟩)
        (step_value rfl (by decide) fs due) rfl (.one ?_ rfl)
      by_cases hzero : c = '0'
      · simp [State.step, stepNumber, hzero]
      · simp [State.step, stepNumber, hzero, hc]
  have hsplit : (if negative then ['-'] else []) ++ c :: rest
      = ((if negative then ['-'] else []) ++ [c]) ++ rest := by simp
  rw [hsplit]
  refine hfirst.append ?_
  by_cases hzero : c = '0'
  · rw [hrest hzero]
    exact .nil _
  · rw [if_neg hzero]
    exact reads_whole fs negative [c] rest fun d hd => hdigits d (List.mem_cons_of_mem c hd)

/-- The fraction, if there is one. -/
theorem reads_fractionPart {fraction : Option (List Char)}
    (h : ∀ digits ∈ fraction, digits ≠ [] ∧ ∀ c ∈ digits, isDigit c = true) {phase : NumberPhase}
    (hphase : phase = .zero ∨ phase = .whole) :
    ∃ phase', (phase' = .zero ∨ phase' = .whole ∨ phase' = .fraction) ∧
      Reads knows ⟨fs, .number ⟨negative, whole, none, none⟩ phase⟩
        (match fraction with
          | none => []
          | some digits => '.' :: digits)
        ⟨fs, .number ⟨negative, whole, fraction, none⟩ phase'⟩ := by
  cases fraction with
  | none => exact ⟨phase, by tauto, .nil _⟩
  | some digits =>
    obtain ⟨hne, hdigits⟩ := h digits rfl
    obtain ⟨c, rest, rfl⟩ := List.exists_cons_of_ne_nil hne
    have hc := hdigits c List.mem_cons_self
    refine ⟨.fraction, by tauto, ?_⟩
    refine .cons (m := ⟨fs, .number ⟨negative, whole, none, none⟩ .point⟩) ?_ rfl ?_
    · rcases hphase with rfl | rfl <;> rfl
    refine .cons (m := ⟨fs, .number ⟨negative, whole, some [c], none⟩ .fraction⟩) ?_ rfl ?_
    · simp [State.step, stepNumber, hc]
    exact reads_fraction fs negative whole [c] rest
      fun d hd => hdigits d (List.mem_cons_of_mem c hd)

/-- **A well spelled number is read as its parts.** -/
theorem reads_number {t : NumberText} (h : t.WellSpelled) (due : Due) :
    ∃ phase, phase.CanEnd ∧ Reads knows ⟨fs, .value due⟩ t.chars ⟨fs, .number t phase⟩ := by
  obtain ⟨negative, whole, fraction, exponent⟩ := t
  obtain ⟨phase, hphase, hwhole⟩ :=
    @reads_wholePart knows fs negative whole h.whole h.wholeDigits due
  obtain ⟨phase', hphase', hfraction⟩ :=
    @reads_fractionPart knows fs negative whole fraction h.fraction phase hphase
  cases exponent with
  | none =>
    refine ⟨phase', by rcases hphase' with rfl | rfl | rfl <;> trivial, ?_⟩
    unfold NumberText.chars NumberText.exponentChars
    rw [List.append_nil]
    exact hwhole.append hfraction
  | some e =>
    obtain ⟨down, digits⟩ := e
    obtain ⟨hne, hdigits, hsmall⟩ := h.exponent (down, digits) rfl
    obtain ⟨c, rest, rfl⟩ := List.exists_cons_of_ne_nil hne
    have hc := hdigits c List.mem_cons_self
    refine ⟨.exponent, trivial, (hwhole.append hfraction).append ?_⟩
    refine .cons (m := ⟨fs, .number ⟨negative, whole, fraction, none⟩ .mark⟩) ?_ rfl ?_
    · rcases hphase' with rfl | rfl | rfl <;> rfl
    refine .cons (m := ⟨fs, .number ⟨negative, whole, fraction, some (down, [])⟩ .markSign⟩)
      ?_ rfl ?_
    · cases down <;> rfl
    refine .cons (m := ⟨fs, .number ⟨negative, whole, fraction, some (down, [c])⟩ .exponent⟩)
      ?_ rfl ?_
    · simp [State.step, stepNumber, hc]
    exact reads_exponent fs negative whole fraction down [c] rest
      (fun d hd => hdigits d (List.mem_cons_of_mem c hd)) hsmall

end

/-! ## 6. Settled up to a number -/

/-- The reader is in the state, or would be if the number that it is in were over. -/
inductive Settles : State → State → Prop
  | refl (s : State) : Settles s s
  | number {fs : List Frame} {t : NumberText} {phase : NumberPhase} {v : Json}
      (value : t.value? = some v) (ends : phase.CanEnd) :
      Settles (State.supply v fs) ⟨fs, .number t phase⟩

theorem afterNumber_eq (fs : List Frame) (c : Char) (v : Json) :
    afterNumber fs c v = (State.supply v fs).step c := by
  cases fs with
  | nil => rfl
  | cons f fs => cases f <;> rfl

theorem Settles.step {s t : State} (h : Settles s t) {c : Char} (hc : continuesNumber c = false) :
    t.step c = s.step c := by
  cases h with
  | refl => rfl
  | @number fs t phase v value ends =>
    rw [← afterNumber_eq]
    simp only [continuesNumber, Bool.or_eq_false_iff, beq_eq_false_iff_ne] at hc
    obtain ⟨⟨⟨hdigit, hpoint⟩, he⟩, hE⟩ := hc
    cases phase <;> first | exact absurd ends id | simp [State.step, stepNumber, stepNumber.finish,
      hdigit, hpoint, he, hE, value]

theorem Settles.reads {s t u : State} (h : Settles s t) {c : Char}
    (hc : continuesNumber c = false) {rest : List Char} (hr : Reads knows s (c :: rest) u) :
    Reads knows t (c :: rest) u := by
  cases hr with
  | cons step asked next => exact .cons ((h.step hc).trans step) asked next

theorem continuesNumber_of_isSpace {c : Char} (h : isSpace c = true) :
    continuesNumber c = false := by
  simp only [isSpace, Bool.or_eq_true, beq_iff_eq] at h
  rcases h with ((rfl | rfl) | rfl) | rfl <;> rfl

/-- After a value that is written the reader has, up to a number, handed it on as it is read. -/
def ReadsTo (knows : String → Bool) (s : State) (cs : List Char) (target : State) : Prop :=
  ∃ t, Reads knows s cs t ∧ Settles target t

namespace ReadsTo

variable {s t u : State} {a b : List Char}

theorem ofReads (h : Reads knows s a t) : ReadsTo knows s a t := ⟨t, h, .refl t⟩

/-- Before a character that ends a number the reader is settled. -/
theorem append {c : Char} (h : ReadsTo knows s a t) (hc : continuesNumber c = false)
    (h' : Reads knows t (c :: b) u) : Reads knows s (a ++ c :: b) u := by
  obtain ⟨m, hm, hsettles⟩ := h
  exact hm.append (hsettles.reads hc h')

/-- The same with space before the character. -/
theorem appendSpace {c : Char} {space : List Char} (h : ReadsTo knows s a t)
    (hspace : ∀ d ∈ space, isSpace d = true) (between : t.IsBetween)
    (asked : isUnasked knows t = false) (hc : continuesNumber c = false)
    (h' : Reads knows t (c :: b) u) : Reads knows s (a ++ (space ++ c :: b)) u := by
  cases space with
  | nil => exact h.append hc h'
  | cons d rest =>
    have hd : continuesNumber d = false := continuesNumber_of_isSpace (hspace d List.mem_cons_self)
    exact h.append hd ((Reads.stay (fun e he => between e (hspace e he)) asked).append h')

theorem appendTo {c : Char} (h : ReadsTo knows s a t) (hc : continuesNumber c = false)
    (h' : ReadsTo knows t (c :: b) u) : ReadsTo knows s (a ++ c :: b) u := by
  obtain ⟨m, hm, hsettles⟩ := h'
  exact ⟨m, h.append hc hm, hsettles⟩

theorem prepend (h : Reads knows s a t) (h' : ReadsTo knows t b u) :
    ReadsTo knows s (a ++ b) u := by
  obtain ⟨m, hm, hsettles⟩ := h'
  exact ⟨m, h.append hm, hsettles⟩

end ReadsTo

theorem readsTo_number {t : NumberText} (h : t.WellSpelled) {v : Json} (hv : t.value? = some v)
    (fs : List Frame) (due : Due) :
    ReadsTo knows ⟨fs, .value due⟩ t.chars (State.supply v fs) := by
  obtain ⟨phase, hends, hreads⟩ := @reads_number knows fs t h due
  exact ⟨_, hreads, .number hv hends⟩

/-! ## 7. Values -/

/-- The members of the whole are asked for. -/
def AskedAt (knows : String → Bool) (fs : List Frame) (members : List (String × Json)) : Prop :=
  fs = [] → ∀ m ∈ members, knows m.1 = true

def Asked (knows : String → Bool) (fs : List Frame) (v : Json) : Prop :=
  ∀ members, v = .object members → AskedAt knows fs members

theorem asked_inside (f : Frame) (fs : List Frame) (v : Json) : Asked knows (f :: fs) v :=
  fun _ _ h => nomatch h

theorem isUnasked_member {fs : List Frame} {ms : List (String × Json)} {key : String}
    (h : fs = [] → knows key = true) :
    isUnasked knows ⟨.members ms key :: fs, .value .anywhere⟩ = false := by
  cases fs with
  | nil => simp [isUnasked, h rfl]
  | cons f fs => rfl

section

variable (sp : Spacing)

/-- The key of a member, and the way to its value. -/
theorem reads_member (ms : List (String × Json)) (key : String) (fs : List Frame) (first : Bool)
    (k : String) (hasked : fs = [] → knows k = true) :
    Reads knows ⟨.members ms key :: fs, .key first⟩ (writeString k ++ ':' :: sp.colon)
      ⟨.members ms k :: fs, .value .anywhere⟩ := by
  have hvalue := @isUnasked_member knows fs ms k hasked
  exact (reads_key ms key fs first k).append
    (.cons rfl hvalue (reads_space (isBetween_value _ _) hvalue sp.isSpace_colon))

mutual

/-- **A written value is read as the value**, as long as it is not nested too deep. -/
theorem readsTo_value (fs : List Frame) (due : Due) (level : Nat) : ∀ v : Json, v.Fits →
    fs.length + v.depth ≤ depthLimit → Asked knows fs v →
    ReadsTo knows ⟨fs, .value due⟩ (sp.chars level v) (State.supply v.reread fs)
  | .null, _, _, _ | .bool true, _, _, _ | .bool false, _, _, _ =>
    .ofReads (reads_word rfl rfl (by decide) (List.cons_ne_nil _ _) due)
  | .int n, hfits, _, _ => by
    have h := @readsTo_number knows _ (wellSpelled_wholeText n) _ (value?_wholeText hfits) fs due
    rwa [chars_wholeText] at h
  | .float x, _, _, _ => by
    have h := @readsTo_number knows _ (wellSpelled_numberOf x) _ (value?_numberOf x) fs due
    rwa [← toList_render] at h
  | .string s, _, _, _ => .ofReads (reads_writeString fs due s)
  | .array [], _, hdepth, _ => .ofReads <| by
    have hroom : fs.length < depthLimit := by
      unfold depth at hdepth
      omega
    exact .cons (step_opened .list due hroom) rfl (.one rfl (isUnasked_supply _ _))
  | .array (v :: rest), hfits, hdepth, _ => .ofReads <| by
    have hdepth' : fs.length + 1 + depthItems (v :: rest) ≤ depthLimit := by
      unfold depth at hdepth
      omega
    have hitems := readsTo_items fs [] .listStart (level + 1) (v :: rest) (List.cons_ne_nil _ _)
      hfits hdepth'
    rw [List.append_nil] at hitems
    rw [sp.chars_array]
    refine .cons (step_opened .list due (by omega)) rfl ?_
    refine (reads_space (isBetween_value _ _) rfl (sp.isSpace_line (level + 1))).append ?_
    refine hitems.appendSpace (sp.isSpace_line level) (isBetween_next _) rfl rfl
      (.one ((step_closes (.list _ (.inr rfl)) fs).trans ?_) (isUnasked_supply _ _))
    simp [Frame.closed, mapFloats]
  | .object [], _, hdepth, _ => .ofReads <| by
    have hroom : fs.length < depthLimit := by
      unfold depth at hdepth
      omega
    exact .cons (step_opened .members due hroom) rfl (.one rfl (isUnasked_supply _ _))
  | .object ((k, v) :: rest), hfits, hdepth, hasked => .ofReads <| by
    have hdepth' : fs.length + 1 + depthMembers ((k, v) :: rest) ≤ depthLimit := by
      unfold depth at hdepth
      omega
    obtain ⟨last, hmembers⟩ := readsTo_members fs [] "" true (level + 1) ((k, v) :: rest)
      (List.cons_ne_nil _ _) hfits hdepth' (hasked _ rfl)
    rw [List.append_nil] at hmembers
    rw [sp.chars_object]
    refine .cons (step_opened .members due (by omega)) rfl ?_
    refine (reads_space (isBetween_key _ _) rfl (sp.isSpace_line (level + 1))).append ?_
    refine hmembers.appendSpace (sp.isSpace_line level) (isBetween_next _) rfl rfl
      (.one ((step_closes (.members _ _ (.inr rfl)) fs).trans ?_) (isUnasked_supply _ _))
    simp [Frame.closed, mapFloats]

theorem readsTo_items (fs : List Frame) (read : List Json) (due : Due) (level : Nat) :
    ∀ items : List Json, items ≠ [] → FitsItems items →
    fs.length + 1 + depthItems items ≤ depthLimit →
    ReadsTo knows ⟨.list read :: fs, .value due⟩ (sp.charsItems level items)
      ⟨.list ((mapItems rereadFloat items).reverse ++ read) :: fs, .next⟩
  | [], hne, _, _ => absurd rfl hne
  | [v], _, hfits, hdepth => by
    unfold depthItems at hdepth
    exact readsTo_value (.list read :: fs) due level v hfits.1
      (by rw [List.length_cons]; omega) (asked_inside _ _ _)
  | v :: w :: rest, _, hfits, hdepth => by
    unfold depthItems at hdepth
    have hfirst := readsTo_value (.list read :: fs) due level v hfits.1
      (by rw [List.length_cons]; omega) (asked_inside _ _ _)
    have hrest := readsTo_items fs (v.reread :: read) .listNext level (w :: rest)
      (List.cons_ne_nil _ _) hfits.2 (by omega)
    have hlist : (mapItems rereadFloat (v :: w :: rest)).reverse ++ read
        = (mapItems rereadFloat (w :: rest)).reverse ++ v.reread :: read := by
      simp [mapItems]
    have hspace : Reads knows ⟨.list (v.reread :: read) :: fs, .value .listNext⟩ (sp.line level)
        ⟨.list (v.reread :: read) :: fs, .value .listNext⟩ :=
      reads_space (isBetween_value _ _) rfl (sp.isSpace_line level)
    rw [hlist, sp.charsItems_cons]
    exact hfirst.appendTo rfl (.prepend (a := [',']) (.one rfl rfl) (.prepend hspace hrest))

theorem readsTo_members (fs : List Frame) (ms : List (String × Json)) (key : String)
    (first : Bool) (level : Nat) :
    ∀ members : List (String × Json), members ≠ [] → FitsMembers members →
    fs.length + 1 + depthMembers members ≤ depthLimit → AskedAt knows fs members →
    ∃ last, ReadsTo knows ⟨.members ms key :: fs, .key first⟩ (sp.charsMembers level members)
      ⟨.members ((mapMembers rereadFloat members).reverse ++ ms) last :: fs, .next⟩
  | [], hne, _, _, _ => absurd rfl hne
  | [(k, v)], _, hfits, hdepth, hasked => by
    unfold depthMembers at hdepth
    have hvalue := readsTo_value (.members ms k :: fs) .anywhere level v hfits.1
      (by rw [List.length_cons]; omega) (asked_inside _ _ _)
    rw [sp.charsMembers_one]
    exact ⟨k, .prepend (reads_member sp ms key fs first k fun h => hasked h _ List.mem_cons_self)
      hvalue⟩
  | (k, v) :: (l, w) :: rest, _, hfits, hdepth, hasked => by
    unfold depthMembers at hdepth
    have hvalue := readsTo_value (.members ms k :: fs) .anywhere level v hfits.1
      (by rw [List.length_cons]; omega) (asked_inside _ _ _)
    obtain ⟨last, hrest⟩ := readsTo_members fs ((k, v.reread) :: ms) k false level
      ((l, w) :: rest) (List.cons_ne_nil _ _) hfits.2 (by omega)
      fun h m hm => hasked h m (List.mem_cons_of_mem _ hm)
    have hlist : (mapMembers rereadFloat ((k, v) :: (l, w) :: rest)).reverse ++ ms
        = (mapMembers rereadFloat ((l, w) :: rest)).reverse ++ (k, v.reread) :: ms := by
      simp [mapMembers]
    refine ⟨last, ?_⟩
    have hspace : Reads knows ⟨.members ((k, v.reread) :: ms) k :: fs, .key false⟩ (sp.line level)
        ⟨.members ((k, v.reread) :: ms) k :: fs, .key false⟩ :=
      reads_space (isBetween_key _ _) rfl (sp.isSpace_line level)
    rw [hlist, sp.charsMembers_cons]
    refine .prepend (reads_member sp ms key fs first k fun h => hasked h _ List.mem_cons_self) ?_
    exact hvalue.appendTo rfl (.prepend (a := [',']) (.one rfl rfl) (.prepend hspace hrest))

end

/-! ## 8. Too deep -/

/-- Somewhere along the characters the reader finds a fault. -/
def Breaks (knows : String → Bool) (s : State) (cs : List Char) : Prop :=
  ∃ a c b t cause, cs = a ++ c :: b ∧ Reads knows s a t ∧ t.step c = .error cause

namespace Breaks

variable {s t : State} {a b : List Char}

theorem here {c : Char} {e : Cause} (h : s.step c = .error e) (rest : List Char) :
    Breaks knows s (c :: rest) := ⟨[], c, rest, s, e, rfl, .nil s, h⟩

theorem after (h : Reads knows s a t) (h' : Breaks knows t b) : Breaks knows s (a ++ b) := by
  obtain ⟨a', c, b', u, cause, rfl, hreads, hstep⟩ := h'
  exact ⟨a ++ a', c, b', u, cause, (List.append_assoc _ _ _).symm, h.append hreads, hstep⟩

theorem before (h : Breaks knows s a) (b : List Char) : Breaks knows s (a ++ b) := by
  obtain ⟨a', c, b', u, cause, rfl, hreads, hstep⟩ := h
  exact ⟨a', c, b' ++ b, u, cause, by simp, hreads, hstep⟩

theorem afterValue {c : Char} (h : ReadsTo knows s a t) (hc : continuesNumber c = false)
    (h' : Breaks knows t (c :: b)) : Breaks knows s (a ++ c :: b) := by
  obtain ⟨m, hm, hsettles⟩ := h
  obtain ⟨a', d, b', u, cause, heq, hreads, hstep⟩ := h'
  refine after hm ?_
  cases hreads with
  | nil =>
    obtain ⟨rfl, rfl⟩ := List.cons.inj heq
    exact here ((hsettles.step hc).trans hstep) b
  | cons step asked next =>
    obtain ⟨rfl, rfl⟩ := List.cons.inj heq
    exact ⟨_ :: _, d, b', u, cause, rfl,
      .cons ((hsettles.step hc).trans step) asked next, hstep⟩

end Breaks

mutual

/-- **A written value that is nested too deep is a fault.** -/
theorem breaks_value (fs : List Frame) (due : Due) (level : Nat) : ∀ v : Json, v.Fits →
    fs.length ≤ depthLimit → depthLimit < fs.length + v.depth → Asked knows fs v →
    Breaks knows ⟨fs, .value due⟩ (sp.chars level v)
  | .null, _, hroom, hdeep, _ | .bool _, _, hroom, hdeep, _ | .int _, _, hroom, hdeep, _
  | .float _, _, hroom, hdeep, _ | .string _, _, hroom, hdeep, _ => absurd hdeep (by
      unfold depth
      omega)
  | .array [], _, hroom, hdeep, _ => by
    have hfull : ¬ fs.length < depthLimit := by
      unfold depth depthItems at hdeep
      omega
    exact .here (step_full .list due hfull) _
  | .array (v :: rest), hfits, hroom, hdeep, _ => by
    rw [sp.chars_array]
    by_cases hfull : fs.length < depthLimit
    · unfold depth at hdeep
      have hitems := breaks_items fs [] .listStart (level + 1) (v :: rest) hfits hfull
        (by omega)
      refine .after (a := ['[']) (.one (step_opened .list due hfull) rfl) ?_
      exact .after (reads_space (isBetween_value _ _) rfl (sp.isSpace_line (level + 1))) (hitems.before _)
    · exact .here (step_full .list due hfull) _
  | .object [], _, hroom, hdeep, _ => by
    have hfull : ¬ fs.length < depthLimit := by
      unfold depth depthMembers at hdeep
      omega
    exact .here (step_full .members due hfull) _
  | .object (m :: rest), hfits, hroom, hdeep, hasked => by
    rw [sp.chars_object]
    by_cases hfull : fs.length < depthLimit
    · unfold depth at hdeep
      have hmembers := breaks_members fs [] "" true (level + 1) (m :: rest) hfits hfull
        (by omega) (hasked _ rfl)
      refine .after (a := [openBrace]) (.one (step_opened .members due hfull) rfl) ?_
      exact .after (reads_space (isBetween_key _ _) rfl (sp.isSpace_line (level + 1))) (hmembers.before _)
    · exact .here (step_full .members due hfull) _

theorem breaks_items (fs : List Frame) (read : List Json) (due : Due) (level : Nat) :
    ∀ items : List Json, FitsItems items → fs.length + 1 ≤ depthLimit →
    depthLimit < fs.length + 1 + depthItems items →
    Breaks knows ⟨.list read :: fs, .value due⟩ (sp.charsItems level items)
  | [], _, hroom, hdeep => absurd hdeep (by
      unfold depthItems
      omega)
  | [v], hfits, hroom, hdeep => by
    unfold depthItems depthItems at hdeep
    exact breaks_value (.list read :: fs) due level v hfits.1 hroom
      (by rw [List.length_cons]; omega) (asked_inside _ _ _)
  | v :: w :: rest, hfits, hroom, hdeep => by
    rw [sp.charsItems_cons]
    by_cases hv : depthLimit < fs.length + 1 + v.depth
    · exact (breaks_value (.list read :: fs) due level v hfits.1 hroom
        (by rw [List.length_cons]; omega) (asked_inside _ _ _)).before _
    · unfold depthItems at hdeep
      have hfirst := readsTo_value sp (.list read :: fs) due level v hfits.1
        (by rw [List.length_cons]; omega) (@asked_inside knows _ _ _)
      have hrest := breaks_items fs (v.reread :: read) .listNext level (w :: rest) hfits.2 hroom
        (by omega)
      refine .afterValue hfirst rfl (.after (a := [',']) (.one rfl rfl) ?_)
      exact .after (reads_space (isBetween_value _ _) rfl (sp.isSpace_line level)) hrest

theorem breaks_members (fs : List Frame) (ms : List (String × Json)) (key : String)
    (first : Bool) (level : Nat) :
    ∀ members : List (String × Json), FitsMembers members → fs.length + 1 ≤ depthLimit →
    depthLimit < fs.length + 1 + depthMembers members → AskedAt knows fs members →
    Breaks knows ⟨.members ms key :: fs, .key first⟩ (sp.charsMembers level members)
  | [], _, hroom, hdeep, _ => absurd hdeep (by
      unfold depthMembers
      omega)
  | [(k, v)], hfits, hroom, hdeep, hasked => by
    unfold depthMembers depthMembers at hdeep
    rw [sp.charsMembers_one]
    refine .after (reads_member sp ms key fs first k fun h => hasked h _ List.mem_cons_self) ?_
    exact breaks_value (.members ms k :: fs) .anywhere level v hfits.1 hroom
      (by rw [List.length_cons]; omega) (asked_inside _ _ _)
  | (k, v) :: m :: rest, hfits, hroom, hdeep, hasked => by
    rw [sp.charsMembers_cons]
    refine .after (reads_member sp ms key fs first k fun h => hasked h _ List.mem_cons_self) ?_
    by_cases hv : depthLimit < fs.length + 1 + v.depth
    · exact (breaks_value (.members ms k :: fs) .anywhere level v hfits.1 hroom
        (by rw [List.length_cons]; omega) (asked_inside _ _ _)).before _
    · unfold depthMembers at hdeep
      have hvalue := readsTo_value sp (.members ms k :: fs) .anywhere level v hfits.1
        (by rw [List.length_cons]; omega) (@asked_inside knows _ _ _)
      have hrest := breaks_members fs ((k, v.reread) :: ms) k false level (m :: rest) hfits.2 hroom
        (by omega) fun h n hn => hasked h n (List.mem_cons_of_mem _ hn)
      refine .afterValue hvalue rfl (.after (a := [',']) (.one rfl rfl) ?_)
      exact .after (reads_space (isBetween_key _ _) rfl (sp.isSpace_line level)) hrest

end

end

end UsageGrid.Json
