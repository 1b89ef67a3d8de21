import UsageGrid.Proofs.Json.Reading

/-!
# Steps of the reader

What one character does, said once (`State.Takes`, `step_eq_ok`): it is space, a scalar or a key
begins or goes on (`Mode.Leads`), an array or object is opened or closed, a value is handed to what
encloses it, or the next part is awaited behind a comma. A number is over only at the character behind
it, which then does what it does behind a value. What a run of the reader keeps is shown by induction
on `State.Takes`.
-/

namespace UsageGrid.Json

variable {s t : State} {c : Char} {v : Json} {fs : List Frame}

/-! ## 1. After a value -/

theorem supply_cases (v : Json) (fs : List Frame) :
    (State.supply v fs = ⟨[], .done v⟩) ∨ (State.supply v fs).mode = .next := by
  cases fs with
  | nil => exact .inl rfl
  | cons f fs => cases f <;> exact .inr rfl

theorem isBetween_supply (v : Json) (fs : List Frame) : (State.supply v fs).IsBetween := by
  intro c hc
  unfold State.step
  rcases supply_cases v fs with h | h <;> rw [h] <;> simp [hc]

/-- Behind a value there is space, or a comma or the end of what is open. -/
theorem step_supply (h : (State.supply v fs).step c = .ok t) :
    isSpace c = true ∧ t = State.supply v fs ∨
      (State.supply v fs).mode = .next ∧ afterValue c (State.supply v fs).frames = .ok t := by
  by_cases hc : isSpace c = true
  · rw [isBetween_supply v fs c hc] at h
    exact .inl ⟨hc, (Except.ok.inj h).symm⟩
  · unfold State.step at h
    rcases supply_cases v fs with hdone | hnext
    · rw [hdone] at h
      simp [hc] at h
    · rw [hnext] at h
      simp only [hc] at h
      exact .inr ⟨hnext, h⟩

/-! ## 2. What one character can do -/

def Mode.isDone : Mode → Bool
  | .done _ => true
  | _ => false

def Frame.isList : Frame → Bool
  | .list _ => true
  | .members _ _ => false

/-- A scalar or a key begins or goes on, or a value is due for the key. -/
inductive Mode.Leads : Mode → Char → Mode → Prop
  | text (due : Due) : Leads (.value due) quote (.text false [] .plain)
  | number (due : Due) (c : Char) (number : NumberText) (phase : NumberPhase) :
      Leads (.value due) c (.number number phase)
  | word (due : Due) (c : Char) {rest : List Char} {v : Json}
      (letters : ∀ d ∈ rest, d ∈ ['a', 'e', 'l', 'r', 's', 'u'])
      (scalar : v = .null ∨ ∃ b, v = .bool b) : Leads (.value due) c (.word rest v)
  | key (first : Bool) : Leads (.key first) quote (.text true [] .plain)
  | value : Leads .colon ':' (.value .anywhere)
  | moreText (asKey : Bool) (read : List Char) (escape : Escape) (c : Char) (more : List Char)
      (escape' : Escape) : Leads (.text asKey read escape) c (.text asKey (more ++ read) escape')
  | moreNumber (number : NumberText) (phase : NumberPhase) (c : Char) (number' : NumberText)
      (phase' : NumberPhase) : Leads (.number number phase) c (.number number' phase')
  | moreWord (d : Char) (ds : List Char) (v : Json) : Leads (.word (d :: ds) v) d (.word ds v)

/-- What a character does. Where that is not plain from the states, `all` says that it is the same
    whatever is open. -/
inductive State.Takes : State → Char → State → Prop
  | rests {m : Mode} {c : Char} (space : isSpace c = true)
      (all : ∀ fs, State.IsBetween ⟨fs, m⟩) (fs : List Frame) : Takes ⟨fs, m⟩ c ⟨fs, m⟩
  | leads {m m' : Mode} {c : Char} (way : m.Leads c m')
      (all : ∀ fs, State.step ⟨fs, m⟩ c = .ok ⟨fs, m'⟩) (fs : List Frame) :
      Takes ⟨fs, m⟩ c ⟨fs, m'⟩
  | opens {f : Frame} {c : Char} (bracket : f.Opens c) (due : Due) {fs : List Frame}
      (room : fs.length < depthLimit) : Takes ⟨fs, .value due⟩ c ⟨f :: fs, f.start⟩
  | supplies (c : Char) (v : Json) (fs : List Frame) :
      Takes ⟨fs, .word [c] v⟩ c (State.supply v fs)
  | suppliesText (asKey : Bool) (read : List Char) (fs : List Frame) :
      Takes ⟨fs, .text asKey read .plain⟩ quote
        (State.supplyText asKey (String.ofList read.reverse) fs)
  | separates (f : Frame) (fs : List Frame) : Takes ⟨f :: fs, .next⟩ ',' ⟨f :: fs, f.afterComma⟩
  | closes {f : Frame} {m : Mode} {c : Char} (bracket : f.Closes m c) (fs : List Frame) :
      Takes ⟨f :: fs, m⟩ c (State.supply f.closed fs)
  /-- A number is over before the character, which then stands behind a value. -/
  | ends {number : NumberText} {phase : NumberPhase} {c : Char} {v : Json} {fs : List Frame}
      {t : State} (value : number.value? = some v)
      (all : ∀ fs, State.step ⟨fs, .number number phase⟩ c = (State.supply v fs).step c)
      (next : Takes (State.supply v fs) c t) : Takes ⟨fs, .number number phase⟩ c t

/-! ## 3. What is being read -/

theorem eq_quote (h : c.toNat = 0x22) : c = quote := by
  rw [← Char.ofNat_toNat c, h]
  rfl

/-- A character begins a scalar, opens an array or object, or does neither. -/
theorem startValue_cases (c : Char) :
    (∃ m : Mode, (∀ due, Mode.Leads (.value due) c m) ∧ ∀ fs, startValue fs c = .ok ⟨fs, m⟩) ∨
    (∃ f : Frame, f.Opens c) ∨
    ∀ fs, startValue fs c = .error .valueExpected := by
  by_cases hquote : c.toNat = 0x22
  · obtain rfl := eq_quote hquote
    exact .inl ⟨_, .text, fun _ => rfl⟩
  by_cases hminus : c = '-'
  · subst hminus
    exact .inl ⟨_, fun due => .number due _ _ _, fun _ => rfl⟩
  by_cases hdigit : Decimal.isDigit c = true
  · exact .inl ⟨_, fun due => .number due _ _ _, fun fs => startValue_digit fs hdigit⟩
  by_cases hword : c = 'n' ∨ c = 't' ∨ c = 'f'
  · rcases hword with rfl | rfl | rfl
    · exact .inl ⟨_, fun due => .word due _ (by simp) (.inl rfl), fun _ => rfl⟩
    · exact .inl ⟨_, fun due => .word due _ (by simp) (.inr ⟨_, rfl⟩), fun _ => rfl⟩
    · exact .inl ⟨_, fun due => .word due _ (by simp) (.inr ⟨_, rfl⟩), fun _ => rfl⟩
  by_cases hlist : c = '['
  · subst hlist
    exact .inr (.inl ⟨_, .list⟩)
  by_cases hobject : c = openBrace
  · subst hobject
    exact .inr (.inl ⟨_, .members⟩)
  have hzero : c ≠ '0' := by
    rintro rfl
    exact hdigit rfl
  simp only [not_or] at hword
  obtain ⟨hn, ht, hf⟩ := hword
  exact .inr (.inr fun fs => by
    simp only [startValue, if_neg hquote, if_neg hminus, if_neg hzero, if_neg hdigit, if_neg hn,
      if_neg ht, if_neg hf, if_neg hlist, if_neg hobject])

/-- A number goes on or is over, or there is a fault. -/
theorem stepNumber_cases (number : NumberText) (c : Char) (phase : NumberPhase) :
    (∃ number' phase', ∀ fs, stepNumber fs number c phase = .ok ⟨fs, .number number' phase'⟩) ∨
    (∃ v, number.value? = some v ∧
      ∀ fs, stepNumber fs number c phase = (State.supply v fs).step c) ∨
    ∃ cause, ∀ fs, stepNumber fs number c phase = .error cause := by
  have hfinish (h : ∀ fs, stepNumber fs number c phase = stepNumber.finish fs number c) :
      (∃ v, number.value? = some v ∧
        ∀ fs, stepNumber fs number c phase = (State.supply v fs).step c) ∨
      ∃ cause, ∀ fs, stepNumber fs number c phase = .error cause := by
    cases hv : number.value? with
    | none => exact .inr ⟨.numberRange, fun fs => by rw [h, stepNumber.finish, hv]⟩
    | some v =>
      exact .inl ⟨v, rfl, fun fs => by rw [h, stepNumber.finish, hv, ← afterNumber_eq]⟩
  cases phase <;> simp only [stepNumber] at hfinish ⊢ <;> split_ifs at hfinish ⊢
  all_goals first
    | exact .inl ⟨_, _, fun _ => rfl⟩
    | exact .inr (hfinish fun _ => rfl)
    | exact .inr (.inr ⟨_, fun _ => rfl⟩)

/-- A string goes on, by at most one character, or is over, or there is a fault. -/
theorem stepText_cases (asKey : Bool) (read : List Char) (c : Char) (escape : Escape) :
    (∃ more escape', ∀ fs, stepText fs asKey read c escape
      = .ok ⟨fs, .text asKey (more ++ read) escape'⟩) ∨
    (escape = .plain ∧ c = quote) ∨
    ∃ cause, ∀ fs, stepText fs asKey read c escape = .error cause := by
  cases escape with
  | plain =>
    simp only [stepText]
    split_ifs with hquote
    · exact .inr (.inl ⟨trivial, eq_quote hquote⟩)
    · exact .inl ⟨[], _, fun _ => rfl⟩
    · exact .inr (.inr ⟨_, fun _ => rfl⟩)
    · exact .inl ⟨[c], _, fun _ => rfl⟩
  | backslash =>
    simp only [stepText]
    cases simpleEscape? c with
    | none =>
      split_ifs
      · exact .inl ⟨[], _, fun _ => rfl⟩
      · exact .inr (.inr ⟨_, fun _ => rfl⟩)
    | some d =>
      split_ifs
      · exact .inl ⟨[], _, fun _ => rfl⟩
      · exact .inl ⟨[d], _, fun _ => rfl⟩
  | code high digits =>
    simp only [stepText]
    cases codeUnit? (digits ++ [c]) with
    | none =>
      split_ifs
      · exact .inl ⟨[], _, fun _ => rfl⟩
      · exact .inr (.inr ⟨_, fun _ => rfl⟩)
    | some n =>
      cases high <;> simp only [endCode] <;> split_ifs
      all_goals first
        | exact .inl ⟨[], _, fun _ => rfl⟩
        | exact .inl ⟨[_], _, fun _ => rfl⟩
        | exact .inr (.inr ⟨_, fun _ => rfl⟩)
  | pairBackslash high | pairMark high =>
    simp only [stepText]
    split_ifs
    · exact .inl ⟨[], _, fun _ => rfl⟩
    · exact .inr (.inr ⟨_, fun _ => rfl⟩)

/-! ## 4. Every step -/

theorem isBetween_colon (fs : List Frame) : State.IsBetween ⟨fs, .colon⟩ := by
  intro c hc
  simp [State.step, hc]

theorem isBetween_done (v : Json) (fs : List Frame) : State.IsBetween ⟨fs, .done v⟩ := by
  intro c hc
  simp [State.step, hc]

namespace State.Takes

theorem ofNext (h : State.step ⟨fs, .next⟩ c = .ok t) : Takes ⟨fs, .next⟩ c t := by
  by_cases hspace : isSpace c = true
  · rw [isBetween_next fs c hspace] at h
    cases h
    exact .rests hspace isBetween_next fs
  replace h : afterValue c fs = .ok t := (if_neg hspace).symm.trans h
  cases fs with
  | nil => cases h
  | cons f fs =>
    by_cases hcomma : c = ','
    · subst hcomma
      cases f <;> cases h <;> exact .separates _ fs
    cases f with
    | list items =>
      by_cases hend : c = ']'
      · subst hend
        cases h
        exact .closes (.list items (.inr rfl)) fs
      · simp [afterValue, hcomma, hend] at h
    | members ms key =>
      by_cases hend : c = closeBrace
      · subst hend
        cases h
        exact .closes (.members ms key (.inr rfl)) fs
      · simp [afterValue, hcomma, hend] at h

theorem ofDone (h : State.step ⟨fs, .done v⟩ c = .ok t) : Takes ⟨fs, .done v⟩ c t := by
  unfold State.step at h
  dsimp only at h
  split at h
  · rename_i hspace
    cases h
    exact .rests hspace (isBetween_done v) fs
  · cases h

theorem ofSupply (h : (State.supply v fs).step c = .ok t) : Takes (State.supply v fs) c t := by
  cases fs with
  | nil => exact ofDone h
  | cons f fs => cases f <;> exact ofNext h

theorem ofNumber {number : NumberText} {phase : NumberPhase}
    (h : State.step ⟨fs, .number number phase⟩ c = .ok t) : Takes ⟨fs, .number number phase⟩ c t := by
  rcases stepNumber_cases number c phase with ⟨number', phase', hon⟩ | ⟨v, hv, hover⟩ | ⟨cause, hfault⟩
  · cases (hon fs).symm.trans h
    exact .leads (.moreNumber ..) hon fs
  · exact .ends hv hover (ofSupply ((hover fs).symm.trans h))
  · cases (hfault fs).symm.trans h

theorem ofText {asKey : Bool} {read : List Char} {escape : Escape}
    (h : State.step ⟨fs, .text asKey read escape⟩ c = .ok t) :
    Takes ⟨fs, .text asKey read escape⟩ c t := by
  rcases stepText_cases asKey read c escape with ⟨more, escape', hon⟩ | ⟨rfl, rfl⟩ | ⟨cause, hfault⟩
  · cases (hon fs).symm.trans h
    exact .leads (.moreText ..) hon fs
  · cases h
    exact .suppliesText asKey read fs
  · cases (hfault fs).symm.trans h

theorem ofWord {rest : List Char} (h : State.step ⟨fs, .word rest v⟩ c = .ok t) :
    Takes ⟨fs, .word rest v⟩ c t := by
  cases rest with
  | nil => cases h
  | cons d ds =>
    by_cases hc : c = d
    · subst hc
      cases ds with
      | nil =>
        cases (if_pos rfl).symm.trans h
        exact .supplies c v fs
      | cons e es =>
        cases (if_pos rfl).symm.trans h
        exact .leads (.moreWord c (e :: es) v) (fun _ => if_pos rfl) fs
    · cases ds <;> simp [State.step, hc] at h

theorem ofValue {due : Due} (h : State.step ⟨fs, .value due⟩ c = .ok t) :
    Takes ⟨fs, .value due⟩ c t := by
  by_cases hspace : isSpace c = true
  · rw [isBetween_value fs due c hspace] at h
    cases h
    exact .rests hspace (isBetween_value · due) fs
  by_cases hend : c = ']'
  · subst hend
    cases due with
    | listStart =>
      cases fs with
      | nil => cases h
      | cons f fs =>
        cases f <;> cases h
        exact .closes (.list _ (.inl rfl)) fs
    | anywhere | listNext => cases h
  have hstart := step_value (Bool.eq_false_iff.2 hspace) hend
  rcases startValue_cases c with ⟨m, way, hon⟩ | ⟨f, bracket⟩ | hnone
  · cases (hon fs).symm.trans ((hstart fs due).symm.trans h)
    exact .leads (way due) (fun fs => (hstart fs due).trans (hon fs)) fs
  · rw [step_opens bracket] at h
    split at h
    · rename_i hroom
      cases h
      exact .opens bracket due hroom
    · cases h
  · cases (hnone fs).symm.trans ((hstart fs due).symm.trans h)

theorem ofKey {first : Bool} (h : State.step ⟨fs, .key first⟩ c = .ok t) :
    Takes ⟨fs, .key first⟩ c t := by
  by_cases hspace : isSpace c = true
  · rw [isBetween_key fs first c hspace] at h
    cases h
    exact .rests hspace (isBetween_key · first) fs
  by_cases hquote : c.toNat = 0x22
  · obtain rfl := eq_quote hquote
    cases h
    exact .leads (.key first) (fun _ => rfl) fs
  by_cases hend : c = closeBrace
  · subst hend
    cases first with
    | false => cases h
    | true =>
      cases fs with
      | nil => cases h
      | cons f fs =>
        cases f <;> cases h
        exact .closes (.members _ _ (.inl rfl)) fs
  · simp [State.step, hspace, hquote, hend] at h

theorem ofColon (h : State.step ⟨fs, .colon⟩ c = .ok t) : Takes ⟨fs, .colon⟩ c t := by
  by_cases hspace : isSpace c = true
  · rw [isBetween_colon fs c hspace] at h
    cases h
    exact .rests hspace isBetween_colon fs
  by_cases hcolon : c = ':'
  · subst hcolon
    cases h
    exact .leads .value (fun _ => rfl) fs
  · simp [State.step, hspace, hcolon] at h

end State.Takes

/-- **What the reader can do with a character.** -/
theorem step_eq_ok : s.step c = .ok t ↔ s.Takes c t := by
  constructor
  · intro h
    obtain ⟨fs, m⟩ := s
    cases m with
    | value due => exact .ofValue h
    | key first => exact .ofKey h
    | colon => exact .ofColon h
    | next => exact .ofNext h
    | done v => exact .ofDone h
    | text asKey read escape => exact .ofText h
    | number number phase => exact .ofNumber h
    | word rest v => exact .ofWord h
  · intro h
    induction h with
    | rests space all fs => exact all fs _ space
    | leads way all fs => exact all fs
    | opens bracket due room => rw [step_opens bracket, if_pos room]
    | supplies c v fs => exact if_pos rfl
    | suppliesText asKey read fs => rfl
    | separates f fs => exact step_separates f fs
    | closes bracket fs => exact step_closes bracket fs
    | ends value all next ih => exact (all _).trans ih

end UsageGrid.Json
