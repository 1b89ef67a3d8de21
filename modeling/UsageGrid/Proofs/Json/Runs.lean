import UsageGrid.Proofs.Json.Steps

/-!
# Runs of the reader

The reader gets from one state to another along a text (`Runs`), and ends with a value if the last
state has one (`Gives`). A text is read as a value if the reader, at its start, gives the value along
it (`read_eq_ok`). Some states give no value whatever follows (`State.IsLost`).
-/

namespace UsageGrid.Json

open Progress

/-- Along the characters the reader gets from a state to another. -/
abbrev Runs : State → List Char → State → Prop := Reads fun _ => true

/-- Along the characters, which are the rest of a text, the reader gets to a value. -/
def Gives (s : State) (cs : List Char) (v : Json) : Prop := ∃ t, Runs s cs t ∧ t.finish = .ok v

variable {s t : State} {c : Char} {a b cs : List Char} {v : Json} {fs : List Frame}

/-! ## 1. Character by character -/

theorem isUnasked_all (s : State) : isUnasked (fun _ => true) s = false := by
  unfold isUnasked
  split <;> rfl

theorem runs_cons : Runs s (c :: cs) t ↔ ∃ m, s.step c = .ok m ∧ Runs m cs t := by
  constructor
  · intro h
    cases h with
    | cons step _ next => exact ⟨_, step, next⟩
  · rintro ⟨m, step, next⟩
    exact .cons step (isUnasked_all m) next

theorem runs_append : Runs s (a ++ b) t ↔ ∃ m, Runs s a m ∧ Runs m b t := by
  constructor
  · intro h
    induction a generalizing s with
    | nil => exact ⟨s, .nil s, h⟩
    | cons c rest ih =>
      obtain ⟨m, step, next⟩ := runs_cons.1 h
      obtain ⟨m', ha, hb⟩ := ih next
      exact ⟨m', runs_cons.2 ⟨m, step, ha⟩, hb⟩
  · rintro ⟨m, ha, hb⟩
    exact ha.append hb

theorem gives_nil : Gives s [] v ↔ s.finish = .ok v := by
  constructor
  · rintro ⟨t, hrun, hv⟩
    cases hrun
    exact hv
  · exact fun h => ⟨s, .nil s, h⟩

theorem gives_cons : Gives s (c :: cs) v ↔ ∃ m, s.step c = .ok m ∧ Gives m cs v := by
  constructor
  · rintro ⟨t, hrun, hv⟩
    obtain ⟨m, step, next⟩ := runs_cons.1 hrun
    exact ⟨m, step, t, next, hv⟩
  · rintro ⟨m, step, t, next, hv⟩
    exact ⟨t, runs_cons.2 ⟨m, step, next⟩, hv⟩

theorem gives_append : Gives s (a ++ b) v ↔ ∃ m, Runs s a m ∧ Gives m b v := by
  constructor
  · rintro ⟨t, hrun, hv⟩
    obtain ⟨m, ha, hb⟩ := runs_append.1 hrun
    exact ⟨m, ha, t, hb, hv⟩
  · rintro ⟨m, ha, t, hb, hv⟩
    exact ⟨t, ha.append hb, hv⟩

/-- Where the reader finds a fault it gives nothing. -/
theorem not_gives_of_step {cause : Cause} (h : s.step c = .error cause) : ¬ Gives s (c :: cs) v := by
  intro hg
  obtain ⟨m, step, -⟩ := gives_cons.1 hg
  rw [h] at step
  cases step

theorem gives_of_step (h : s.step c = .ok t) : Gives s (c :: cs) v ↔ Gives t cs v := by
  rw [gives_cons]
  constructor
  · rintro ⟨m, step, next⟩
    rw [h] at step
    cases step
    exact next
  · exact fun next => ⟨t, h, next⟩

/-- Between two parts of a text space may be left out. -/
theorem State.IsBetween.gives (h : s.IsBetween) (ha : ∀ c ∈ a, isSpace c = true) :
    Gives s (a ++ b) v ↔ Gives s b v := by
  induction a with
  | nil => exact Iff.rfl
  | cons c rest ih =>
    obtain ⟨hc, hrest⟩ := List.forall_mem_cons.1 ha
    exact (gives_of_step (h c hc)).trans (ih hrest)

/-! ## 2. Whole texts -/

/-- The reader gives a value along the rest of a text, or the scan ends with a fault. -/
theorem scan_cases (s : State) (p : Position) (cs : List Char) :
    (∃ v, Gives s cs v ∧ scan s p cs = ⟨⟨[], .done v⟩, none⟩) ∨
      (∃ fault, (scan s p cs).fault = some fault) ∧ ∀ v, ¬ Gives s cs v := by
  induction cs generalizing s p with
  | nil =>
    unfold scan
    cases h : s.finish with
    | ok v => exact .inl ⟨v, gives_nil.2 h, rfl⟩
    | error cause =>
      refine .inr ⟨⟨_, rfl⟩, fun v hv => ?_⟩
      rw [gives_nil, h] at hv
      cases hv
  | cons c rest ih =>
    unfold scan
    cases h : s.step c with
    | ok m =>
      rcases ih m (p.after c) with ⟨v, hv, hscan⟩ | ⟨hfault, hnone⟩
      · exact .inl ⟨v, (gives_of_step h).2 hv, hscan⟩
      · exact .inr ⟨hfault, fun v hv => hnone v ((gives_of_step h).1 hv)⟩
    | error cause => exact .inr ⟨⟨_, rfl⟩, fun v => not_gives_of_step h⟩

theorem Gives.unique {w : Json} (h : Gives s cs v) (h' : Gives s cs w) : v = w := by
  induction cs generalizing s with
  | nil => exact Except.ok.inj ((gives_nil.1 h).symm.trans (gives_nil.1 h'))
  | cons c rest ih =>
    obtain ⟨m, step, next⟩ := gives_cons.1 h
    exact ih next ((gives_of_step step).1 h')

/-- **A text is read as what the reader gives along it.** -/
theorem read_eq_ok {text : String} : read text = .ok v ↔ Gives {} text.toList v := by
  unfold read
  rcases scan_cases {} {} text.toList with ⟨w, hw, hscan⟩ | ⟨⟨fault, hfault⟩, hnone⟩
  · rw [hscan]
    constructor
    · rintro ⟨⟩
      exact hw
    · exact fun h => congrArg Except.ok (hw.unique h)
  · refine ⟨fun h => ?_, fun h => absurd h (hnone v)⟩
    split at h
    · rename_i hscan
      rw [hscan] at hfault
      cases hfault
    · cases h
    · cases h

theorem parse_eq_ok {text : String} :
    parse text = .ok v ↔ ∃ w, Gives {} text.toList w ∧ w.canonical = v := by
  unfold parse
  constructor
  · intro h
    cases hread : read text with
    | error fault =>
      rw [hread] at h
      cases h
    | ok w =>
      rw [hread] at h
      exact ⟨w, read_eq_ok.1 hread, Except.ok.inj h⟩
  · rintro ⟨w, hw, rfl⟩
    rw [read_eq_ok.2 hw]
    rfl

/-! ## 3. Lost states -/

/-- The reader is in a code that has begun with a character that is no hexadecimal digit. It takes
    the code to its end before it sees that. -/
def State.IsLost (s : State) : Prop :=
  ∃ asKey read high digits, s.mode = .text asKey read (.code high digits) ∧
    ∃ d ∈ digits, Text.hexValue? d = none

theorem codeUnit?_eq_none {digits : List Char} {d : Char} (hd : d ∈ digits)
    (h : Text.hexValue? d = none) : codeUnit? digits = none := by
  unfold codeUnit?
  rw [if_neg]
  intro hall
  have := List.all_eq_true.1 hall d hd
  rw [h] at this
  cases this

theorem State.IsLost.step (h : s.IsLost) (hstep : s.step c = .ok t) : t.IsLost := by
  obtain ⟨asKey, read, high, digits, hmode, d, hd, hnone⟩ := h
  have hd' : d ∈ digits ++ [c] := List.mem_append_left _ hd
  unfold State.step at hstep
  rw [hmode] at hstep
  simp only [stepText, codeUnit?_eq_none hd' hnone] at hstep
  split at hstep
  · cases hstep
    exact ⟨asKey, read, high, digits ++ [c], rfl, d, hd', hnone⟩
  · cases hstep

/-- **A lost state gives nothing.** -/
theorem State.IsLost.not_gives (h : s.IsLost) : ¬ Gives s cs v := by
  induction cs generalizing s with
  | nil =>
    obtain ⟨asKey, read, high, digits, hmode, -⟩ := h
    rw [gives_nil]
    unfold State.finish
    rw [hmode]
    exact fun hv => nomatch hv
  | cons c rest ih =>
    intro hg
    obtain ⟨m, step, next⟩ := gives_cons.1 hg
    exact ih (h.step step) next

/-! ## 4. Words -/

/-- What is left of a word is spelled with the letters of the three words. -/
def Mode.IsSpelled : Mode → Prop
  | .word rest _ => ∀ c ∈ rest, c ∈ ['a', 'e', 'l', 'r', 's', 'u']
  | _ => True

theorem isSpelled_supply (v : Json) (fs : List Frame) : (State.supply v fs).mode.IsSpelled := by
  rcases supply_cases v fs with h | h <;> rw [h] <;> trivial

theorem isSpelled_supplyText (asKey : Bool) (text : String) :
    (State.supplyText asKey text fs).mode.IsSpelled := by
  unfold State.supplyText
  repeat' split
  all_goals first | exact isSpelled_supply _ _ | trivial

theorem Mode.Leads.isSpelled {m m' : Mode} (h : m.Leads c m') (hm : m.IsSpelled) :
    m'.IsSpelled := by
  cases h with
  | word due c letters scalar => exact letters
  | moreWord d ds v => exact fun e he => hm e (List.mem_cons_of_mem _ he)
  | text | number | key | value | moreText | moreNumber => trivial

/-- **Along a run words stay spelled.** -/
theorem isSpelled_step (hs : s.mode.IsSpelled) (h : s.step c = .ok t) : t.mode.IsSpelled := by
  have htakes := step_eq_ok.1 h
  clear h
  induction htakes with
  | rests => exact hs
  | leads way => exact way.isSpelled hs
  | opens bracket => cases bracket <;> trivial
  | supplies | closes => exact isSpelled_supply _ _
  | suppliesText => exact isSpelled_supplyText _ _
  | separates f => cases f <;> trivial
  | ends _ _ _ ih => exact ih (isSpelled_supply _ _)

/-- A character that stands only in strings and at the beginning of values. -/
def IsStray (c : Char) : Prop :=
  isSpace c = false ∧ Decimal.isDigit c = false ∧
    c ∉ [',', ':', ']', closeBrace, quote, '+', '-', '.', 'e', 'E', 'a', 'l', 'r', 's', 'u']

theorem not_afterValue (hc : IsStray c) : afterValue c fs ≠ .ok t := by
  obtain ⟨-, -, hc⟩ := hc
  simp only [List.mem_cons, not_or] at hc
  obtain ⟨hcomma, -, hlist, hobject, -⟩ := hc
  cases fs with
  | nil => exact nofun
  | cons f fs => cases f <;> simp [afterValue, hcomma, hlist, hobject]

theorem not_stepNumber {number : NumberText} {phase : NumberPhase} (hc : IsStray c) :
    stepNumber fs number c phase ≠ .ok t := by
  obtain ⟨hspace, hdigit, hmem⟩ := id hc
  simp only [List.mem_cons, not_or] at hmem
  obtain ⟨-, -, -, -, -, hplus, hminus, hpoint, he, hE, -⟩ := hmem
  have hzero : c ≠ '0' := by
    rintro rfl
    exact absurd hdigit (by decide)
  have hfinish : stepNumber.finish fs number c ≠ .ok t := by
    unfold stepNumber.finish
    split
    · rename_i v _
      rw [afterNumber_eq]
      intro h
      rcases step_supply h with ⟨h, -⟩ | ⟨-, h⟩
      · exact Bool.false_ne_true (hspace.symm.trans h)
      · exact not_afterValue hc h
    · exact nofun
  cases phase <;> simp [stepNumber, hdigit, hplus, hminus, hpoint, he, hE, hzero, hfinish]

/-- **A stray character stands in a string, or begins a value.** -/
theorem step_stray (hc : IsStray c) (hs : s.mode.IsSpelled) (h : s.step c = .ok t) :
    (∃ asKey read escape, s.mode = .text asKey read escape) ∨
      ∃ due, s.mode = .value due ∧ startValue s.frames c = .ok t := by
  obtain ⟨hspace, hdigit, hmem⟩ := id hc
  simp only [List.mem_cons, not_or] at hmem
  obtain ⟨hcomma, hcolon, hlist, hobject, hquote, -, -, -, he, -, ha, hl, hr, hs', hu, -⟩ := hmem
  obtain ⟨fs, mode⟩ := s
  cases mode with
  | text asKey read escape => exact .inl ⟨asKey, read, escape, rfl⟩
  | value due =>
    refine .inr ⟨due, rfl, ?_⟩
    rwa [step_value hspace hlist] at h
  | number number phase => exact absurd h (not_stepNumber hc)
  | word rest v =>
    cases rest with
    | nil => cases h
    | cons d ds =>
      have hd : c ≠ d := by
        rintro rfl
        have := hs c List.mem_cons_self
        simp_all
      unfold State.step at h
      cases ds <;> simp [hd] at h
  | key first =>
    have hquote' : c.toNat ≠ 0x22 := fun h => hquote (eq_quote h)
    simp [State.step, hspace, hquote', hobject] at h
  | colon => simp [State.step, hspace, hcolon] at h
  | next =>
    simp only [State.step, hspace] at h
    exact absurd h (not_afterValue hc)
  | done v => simp [State.step, hspace] at h

theorem Runs.isSpelled (h : Runs s cs t) (hs : s.mode.IsSpelled) : t.mode.IsSpelled := by
  induction cs generalizing s with
  | nil =>
    cases h
    exact hs
  | cons c rest ih =>
    obtain ⟨m, step, next⟩ := runs_cons.1 h
    exact ih next (isSpelled_step hs step)

/-! ## 5. Written values -/

/-- At the end of a text a number is over. -/
theorem Settles.finish (h : Settles ⟨[], .done v⟩ t) : t.finish = .ok v := by
  generalize hs : (⟨[], .done v⟩ : State) = s at h
  cases h with
  | refl =>
    subst hs
    rfl
  | @number fs number phase w value ends =>
    cases fs with
    | nil =>
      cases hs
      cases phase <;> first | exact absurd ends id | simp only [State.finish, value]
    | cons f fs => cases f <;> cases hs

theorem Breaks.not_gives {knows : String → Bool} (h : Breaks knows s cs) : ¬ Gives s cs v := by
  obtain ⟨a, c, b, m, cause, rfl, hreads, hstep⟩ := h
  intro hg
  induction hreads with
  | nil s => exact not_gives_of_step hstep hg
  | cons step _ _ ih => exact ih hstep ((gives_of_step step).1 hg)

/-- **A written value is read**, with its floating numbers as they are read back, whatever space it
    is written with and whatever space follows. -/
theorem gives_written (sp : Spacing) (hfits : v.Fits) (hdepth : v.depth ≤ depthLimit)
    (hspace : ∀ c ∈ b, isSpace c = true) : Gives {} (sp.chars 0 v ++ b) v.reread := by
  have hreads := @readsTo_value (fun _ => true) sp [] .anywhere 0 v hfits
    (by rwa [List.length_nil, Nat.zero_add]) fun _ _ _ _ _ => rfl
  obtain ⟨t, hrun, hsettles⟩ := hreads
  refine gives_append.2 ⟨t, hrun, ?_⟩
  cases b with
  | nil => exact gives_nil.2 hsettles.finish
  | cons c b =>
    have hend : Gives (State.supply v.reread []) (c :: b ++ []) v.reread :=
      ((isBetween_supply _ []).gives hspace).2 (gives_nil.2 rfl)
    rw [List.append_nil] at hend
    have hc := continuesNumber_of_isSpace (hspace c List.mem_cons_self)
    obtain ⟨m, step, next⟩ := gives_cons.1 hend
    exact gives_cons.2 ⟨m, (hsettles.step hc).trans step, next⟩

/-- **A value that is written compactly is read.** -/
theorem read_compact (hfits : v.Fits) (hdepth : v.depth ≤ depthLimit) :
    read v.compact = .ok v.reread := by
  have hgives := gives_written .tight hfits hdepth (b := []) (fun _ hc => absurd hc List.not_mem_nil)
  rw [Spacing.chars_tight, List.append_nil] at hgives
  rw [read_eq_ok, Json.compact, String.toList_ofList]
  exact hgives

/-- **A value that is written on lines is read**, also with space behind it. -/
theorem read_pretty (hfits : v.Fits) (hdepth : v.depth ≤ depthLimit) {after : String}
    (hafter : ∀ c ∈ after.toList, isSpace c = true) : read (v.pretty ++ after) = .ok v.reread := by
  have hgives := gives_written .indented hfits hdepth hafter
  rw [Spacing.chars_indented] at hgives
  rw [read_eq_ok, String.toList_append, Json.pretty, String.toList_ofList]
  exact hgives

/-- **What is nested too deep is not read back.** -/
theorem read_compact_deep (hfits : v.Fits) (hdeep : depthLimit < v.depth) (w : Json) :
    read v.compact ≠ .ok w := by
  have hbreaks := @breaks_value (fun _ => true) .tight [] .anywhere 0 v hfits
    (Nat.zero_le _) (by rwa [List.length_nil, Nat.zero_add]) fun _ _ _ _ _ => rfl
  rw [Spacing.chars_tight] at hbreaks
  rw [ne_eq, read_eq_ok, Json.compact, String.toList_ofList]
  exact hbreaks.not_gives

end UsageGrid.Json
