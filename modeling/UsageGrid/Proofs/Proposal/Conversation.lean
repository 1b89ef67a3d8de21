import UsageGrid.Proofs.Proposal.Search

/-!
# What is said in a search

A search is a conversation with a proposer, who may remember all that has been said.

* A draft is acceptable (`IsAcceptable`), or it fails for one reason (`Fails`), and never both
  (`Fails.not_isAcceptable`).
* `recorded` is a proposer with a record of what it was asked and what it answered. Recording
  changes nothing, and the record of a search follows its rules (`run_searchFrom`): `Talk` has one
  rule for each way an attempt can end.
* Said of the record by the numbers of its requests, these rules are a `Conversation`: what each
  request carries, that no request follows an answer that ends the search, and how the last answer
  makes the result (`search_conversation`).
-/

namespace UsageGrid.Proposal

/-! ## 1. Drafts -/

section Drafts

variable (o : Options) (g : Grid) (draft : String)

/-- The document of the draft holds a definition with this table, and records if they are
    required. -/
def Gives (d : Definition) (t : Table) : Prop :=
  check (documentText draft) g = .ok (d, t) ∧ (t.rows ≠ [] ∨ o.requireRecords = false)

def IsAcceptable : Prop := ∃ d t, Gives o g draft d t

/-- Why a draft is not acceptable. -/
inductive Fails : Rejection → Prop where
  | unusable {reason : Rejection} (failed : check (documentText draft) g = .error reason) :
      Fails reason
  | noRecords {d : Definition} {t : Table} (made : check (documentText draft) g = .ok (d, t))
      (empty : t.rows = []) (required : o.requireRecords = true) : Fails .noRecords

variable {o g draft}

theorem accept_eq_ok_of_gives {d : Definition} {t : Table} :
    accept o.requireRecords (documentText draft) g = .ok (d, t) ↔ Gives o g draft d t := by
  rw [accept_eq_ok_of_check, Bool.and_eq_false_iff]
  exact and_congr_right fun _ => or_congr_left
    (Bool.eq_false_iff.trans (not_congr List.isEmpty_iff))

theorem accept_eq_error {reason : Rejection} :
    accept o.requireRecords (documentText draft) g = .error reason ↔ Fails o g draft reason := by
  unfold accept
  rw [bind_eq_error]
  constructor
  · rintro (hcheck | ⟨⟨d, t⟩, hcheck, h⟩)
    · exact .unusable hcheck
    · dsimp only at h
      split at h
      · rename_i hrows
        obtain ⟨hempty, hrequired⟩ := Bool.and_eq_true_iff.1 hrows
        cases h
        exact .noRecords hcheck (List.isEmpty_iff.1 hempty) hrequired
      · cases h
  · rintro (hcheck | ⟨hcheck, hempty, hrequired⟩)
    · exact .inl hcheck
    · refine .inr ⟨_, hcheck, ?_⟩
      have : (Table.isEmpty _ && o.requireRecords) = true :=
        Bool.and_eq_true_iff.2 ⟨List.isEmpty_iff.2 hempty, hrequired⟩
      dsimp only
      rw [if_pos this]
      rfl

/-- A draft that fails for a reason is not acceptable. -/
theorem Fails.not_isAcceptable {reason : Rejection} (h : Fails o g draft reason) :
    ¬ IsAcceptable o g draft := by
  rintro ⟨d, t, hgives⟩
  have hok := accept_eq_ok_of_gives.2 hgives
  rw [accept_eq_error.2 h] at hok
  cases hok

/-- The verdict on a draft: acceptable, or a failure. -/
theorem judge_cases (o : Options) (g : Grid) (attempt : Nat) (draft : String) :
    (∃ d t, Gives o g draft d t ∧ judge o g attempt draft = .accepted ⟨d, t, attempt⟩) ∨
    (∃ reason, Fails o g draft reason ∧
      judge o g attempt draft = .rejected (documentText draft) reason) := by
  unfold judge
  dsimp only
  cases haccept : accept o.requireRecords (documentText draft) g with
  | ok made =>
    obtain ⟨d, t⟩ := made
    exact .inl ⟨d, t, accept_eq_ok_of_gives.1 haccept, rfl⟩
  | error reason => exact .inr ⟨reason, accept_eq_error.1 haccept, rfl⟩

end Drafts

/-! ## 2. The record of a search -/

structure Exchange where
  request : Request
  answer : Except ProposerError String

/-- A proposer that keeps a record of what is said. -/
def recorded {m : Type → Type} [Monad m] (ask : Proposer m) :
    Proposer (StateT (List Exchange) m) := fun r => do
  let answer ← (ask r : StateT (List Exchange) m _)
  modify fun talk => talk ++ [⟨r, answer⟩]
  pure answer

/-- The result of a search. -/
abbrev Found := Except ProposalError Outcome

/-- What is said from a request on, with some attempts left after it, and what comes of it. -/
inductive Talk (o : Options) (g : Grid) : Nat → Request → List Exchange → Found → Prop where
  | failed (left : Nat) (r : Request) (e : ProposerError) :
      Talk o g left r [⟨r, .error e⟩] (.error (.proposer e))
  | accepted (left : Nat) (r : Request) {draft : String} {d : Definition} {t : Table}
      (gives : Gives o g draft d t) : Talk o g left r [⟨r, .ok draft⟩] (.ok ⟨d, t, r.attempt⟩)
  | exhausted (r : Request) {draft : String} {reason : Rejection} (fails : Fails o g draft reason) :
      Talk o g 0 r [⟨r, .ok draft⟩] (.error (.exhausted r.attempt reason))
  | again (left : Nat) (r : Request) {draft : String} {reason : Rejection} {talk : List Exchange}
      {result : Found} (fails : Fails o g draft reason)
      (rest : Talk o g left (r.next (documentText draft) reason) talk result) :
      Talk o g (left + 1) r (⟨r, .ok draft⟩ :: talk) result

section Recording

variable {σ : Type} [Host.Journal (StateM σ)] (ask : Proposer (StateM σ)) (o : Options) (g : Grid)

/-- What an answer makes of an attempt. -/
def verdictOn (attempt : Nat) : Except ProposerError String → Verdict
  | .error e => .failed e
  | .ok draft => judge o g attempt draft

/-- A verdict that is told. -/
def toldVerdict {m : Type → Type} [Monad m] [Host.Journal m] (attempt : Nat) (v : Verdict) :
    m Verdict := do
  logVerdict attempt v
  pure v

/-- What is told of a verdict leaves the record as it is. -/
theorem run_toldVerdict (attempt : Nat) (v : Verdict) (talk : List Exchange) (s : σ) :
    ∃ s', (toldVerdict attempt v : StateM σ Verdict).run s = (v, s') ∧
      ((toldVerdict attempt v : StateT (List Exchange) (StateM σ) Verdict).run talk).run s
        = ((v, talk), s') := by
  refine ⟨((logVerdict attempt v : StateM σ Unit).run s).2, rfl, ?_⟩
  cases v with
  | failed e => rfl
  | accepted outcome => rfl
  | rejected document reason => cases reason <;> rfl

omit [Host.Journal (StateM σ)] in
theorem run_recorded {r : Request} {answer : Except ProposerError String} {s s' : σ}
    (h : (ask r).run s = (answer, s')) (talk : List Exchange) :
    ((recorded ask r).run talk).run s = ((answer, talk ++ [⟨r, answer⟩]), s') := by
  show ((ask r >>= fun a => pure (a, talk ++ [⟨r, a⟩]) : StateM σ _).run s) = _
  rw [StateT.run_bind, h]
  rfl

/-- **An attempt** asks once, and one exchange joins the record. -/
theorem run_tryOnce (r : Request) (talk : List Exchange) (s : σ) :
    ∃ answer s', (tryOnce ask o g r).run s = (verdictOn o g r.attempt answer, s') ∧
      ((tryOnce (recorded ask) o g r).run talk).run s
        = ((verdictOn o g r.attempt answer, talk ++ [⟨r, answer⟩]), s') := by
  -- the attempt is told before the proposer is asked
  let told : σ := ((Host.info ("Proposal attempt " ++ toString r.attempt ++ "/"
    ++ toString o.attempts) : StateM σ Unit).run s).2
  rcases hask : (ask r).run told with ⟨answer, s'⟩
  have hrecorded := run_recorded ask hask talk
  have hplain : (tryOnce ask o g r).run s = (ask r >>= fun
      | .error e => pure (.failed e)
      | .ok draft => toldVerdict r.attempt (judge o g r.attempt draft) :
        StateM σ Verdict).run told := rfl
  have hrecord : ((tryOnce (recorded ask) o g r).run talk).run s = ((recorded ask r >>= fun
      | .error e => pure (.failed e)
      | .ok draft => toldVerdict r.attempt (judge o g r.attempt draft) :
        StateT (List Exchange) (StateM σ) Verdict).run talk).run told := rfl
  rw [hplain, hrecord, StateT.run_bind, StateT.run_bind, StateT.run_bind, hask, hrecorded]
  cases answer with
  | error e => exact ⟨.error e, s', rfl, rfl⟩
  | ok draft =>
    obtain ⟨s'', htold⟩ := run_toldVerdict r.attempt (judge o g r.attempt draft)
      (talk ++ [⟨r, .ok draft⟩]) s'
    exact ⟨.ok draft, s'', htold⟩

/-- **A search from a request on**, with a record and without. -/
theorem run_searchFrom (left : Nat) (r : Request) (before : List Exchange) (s : σ) :
    ∃ result talk s', (searchFrom ask o g left r).run s = (result, s') ∧
      ((searchFrom (recorded ask) o g left r).run before).run s = ((result, before ++ talk), s') ∧
      Talk o g left r talk result := by
  induction left generalizing r before s with
  | zero =>
    obtain ⟨answer, s', hplain, hrecord⟩ := run_tryOnce ask o g r before s
    unfold searchFrom
    rw [StateT.run_bind, StateT.run_bind, StateT.run_bind, hplain, hrecord]
    cases answer with
    | error e => exact ⟨_, _, s', rfl, rfl, .failed 0 r e⟩
    | ok draft =>
      rcases judge_cases o g r.attempt draft with ⟨d, t, hgives, hjudge⟩ | ⟨reason, hfails, hjudge⟩
      · simp only [verdictOn, hjudge]
        exact ⟨_, _, s', rfl, rfl, .accepted 0 r hgives⟩
      · simp only [verdictOn, hjudge]
        exact ⟨_, _, s', rfl, rfl, .exhausted r hfails⟩
  | succ left ih =>
    obtain ⟨answer, s', hplain, hrecord⟩ := run_tryOnce ask o g r before s
    unfold searchFrom
    rw [StateT.run_bind, StateT.run_bind, StateT.run_bind, hplain, hrecord]
    cases answer with
    | error e => exact ⟨_, _, s', rfl, rfl, .failed _ r e⟩
    | ok draft =>
      rcases judge_cases o g r.attempt draft with ⟨d, t, hgives, hjudge⟩ | ⟨reason, hfails, hjudge⟩
      · simp only [verdictOn, hjudge]
        exact ⟨_, _, s', rfl, rfl, .accepted _ r hgives⟩
      · obtain ⟨result, talk, s'', hplain', hrecord', htalk⟩ :=
          ih (r.next (documentText draft) reason) (before ++ [⟨r, .ok draft⟩]) s'
        simp only [verdictOn, hjudge]
        refine ⟨result, ⟨r, .ok draft⟩ :: talk, s'', hplain', ?_, .again left r hfails htalk⟩
        rw [List.append_assoc] at hrecord'
        exact hrecord'

end Recording

/-! ## 3. The requests by their numbers -/

section Numbers

variable {o : Options} {g : Grid} {left : Nat} {r : Request} {talk : List Exchange} {result : Found}

theorem Talk.length_le (h : Talk o g left r talk result) : talk.length ≤ left + 1 := by
  induction h with
  | failed left r e => exact Nat.succ_le_succ (Nat.zero_le _)
  | accepted left r gives => exact Nat.succ_le_succ (Nat.zero_le _)
  | exhausted r fails => exact Nat.le_refl _
  | again left r fails rest ih => exact Nat.succ_le_succ ih

/-- The talk begins with the request. -/
theorem Talk.head (h : Talk o g left r talk result) : ∃ answer rest, talk = ⟨r, answer⟩ :: rest := by
  cases h with
  | failed _ _ e => exact ⟨_, _, rfl⟩
  | accepted _ _ gives => exact ⟨_, _, rfl⟩
  | exhausted _ fails => exact ⟨_, _, rfl⟩
  | again left _ fails rest => exact ⟨_, _, rfl⟩

/-- **A request after another** follows a draft that has failed, and is the next one. -/
theorem Talk.next (h : Talk o g left r talk result) {i : Nat} {x y : Exchange}
    (hx : talk[i]? = some x) (hy : talk[i + 1]? = some y) :
    ∃ draft reason, x.answer = .ok draft ∧ Fails o g draft reason ∧
      y.request = x.request.next (documentText draft) reason := by
  induction h generalizing i with
  | failed left r e => cases hy
  | accepted left r gives => cases hy
  | exhausted r fails => cases hy
  | again left r fails rest ih =>
    cases i with
    | zero =>
      obtain ⟨answer, others, rfl⟩ := rest.head
      cases hx
      cases hy
      exact ⟨_, _, rfl, fails, rfl⟩
    | succ i => exact ih hx hy

/-- What all requests of a talk have in common, and their numbers. -/
theorem Talk.common (h : Talk o g left r talk result) {i : Nat} {x : Exchange}
    (hx : talk[i]? = some x) :
    x.request.description = r.description ∧ x.request.preview = r.preview ∧
      x.request.note = r.note ∧ x.request.attempt = r.attempt + i := by
  obtain ⟨answer, rest, htalk⟩ := h.head
  induction i generalizing x with
  | zero =>
    rw [htalk] at hx
    cases hx
    exact ⟨rfl, rfl, rfl, rfl⟩
  | succ i ih =>
    have hlt : i < talk.length := by
      have := (List.getElem?_eq_some_iff.1 hx).1
      omega
    obtain ⟨hd, hp, hn, ha⟩ := ih (List.getElem?_eq_getElem hlt)
    obtain ⟨draft, reason, -, -, hnext⟩ := h.next (List.getElem?_eq_getElem hlt) hx
    rw [hnext]
    refine ⟨hd, hp, hn, ?_⟩
    show (talk[i]).request.attempt + 1 = _
    rw [ha, Nat.add_assoc]

/-- How the answer to the request number `k` makes the result, of at most `limit` requests. -/
inductive Ends (o : Options) (g : Grid) (limit k : Nat) :
    Except ProposerError String → Found → Prop where
  | failed (e : ProposerError) : Ends o g limit k (.error e) (.error (.proposer e))
  | accepted {draft : String} {d : Definition} {t : Table} (gives : Gives o g draft d t) :
      Ends o g limit k (.ok draft) (.ok ⟨d, t, k⟩)
  | exhausted {draft : String} {reason : Rejection} (fails : Fails o g draft reason)
      (atLimit : k = limit) : Ends o g limit k (.ok draft) (.error (.exhausted k reason))

/-- **The last answer makes the result.** -/
theorem Talk.last (h : Talk o g left r talk result) {k : Nat}
    (hk : k + 1 = r.attempt + talk.length) :
    ∃ x, talk.getLast? = some x ∧ Ends o g (r.attempt + left) k x.answer result := by
  induction h with
  | failed left r e => exact ⟨_, rfl, .failed e⟩
  | accepted left r gives =>
    obtain rfl : k = r.attempt := Nat.succ.inj hk
    exact ⟨_, rfl, .accepted gives⟩
  | exhausted r fails =>
    obtain rfl : k = r.attempt := Nat.succ.inj hk
    exact ⟨_, rfl, .exhausted fails rfl⟩
  | again left r fails rest ih =>
    -- the rest begins with the next number
    obtain ⟨x, hx, hends⟩ := ih (by
      rw [List.length_cons] at hk
      show k + 1 = r.attempt + 1 + _
      omega)
    refine ⟨x, ?_, ?_⟩
    · rw [List.getLast?_cons, hx, Option.getD_some]
    · rw [Nat.add_comm left 1, ← Nat.add_assoc]
      exact hends

/-- A whole search, said of its requests by their numbers, which count from one. -/
structure Conversation (o : Options) (description : Description) (g : Grid) (note : Option String)
    (talk : List Exchange) (result : Found) : Prop where
  bounded : talk.length ≤ max 1 o.maxAttempts
  /-- The first request has nothing to go back to. -/
  first : ∀ x, talk[0]? = some x →
    x.request = ⟨description, g.preview o.previewRows, note, 1, none, none⟩
  /-- Every other one follows an answer that is no reason to stop, and carries the document of that
      answer and why it failed. -/
  next : ∀ i x y, talk[i]? = some x → talk[i + 1]? = some y →
    ∃ draft reason, x.answer = .ok draft ∧ ¬ IsAcceptable o g draft ∧ Fails o g draft reason ∧
      y.request = ⟨description, g.preview o.previewRows, note, i + 2, some (documentText draft),
        some reason.message⟩
  last : ∃ x, talk.getLast? = some x ∧
    Ends o g (max 1 o.maxAttempts) talk.length x.answer result

theorem Talk.conversation {description : Description} {note : Option String}
    (h : Talk o g (o.attempts - 1) (firstRequest o description g note) talk result) :
    Conversation o description g note talk result where
  bounded := by
    have := h.length_le
    unfold Options.attempts at this
    omega
  first x hx := by
    obtain ⟨answer, rest, rfl⟩ := h.head
    cases hx
    rfl
  next i x y hx hy := by
    obtain ⟨draft, reason, hanswer, hfails, hrequest⟩ := h.next hx hy
    obtain ⟨hd, hp, hn, ha⟩ := h.common hx
    refine ⟨draft, reason, hanswer, hfails.not_isAcceptable, hfails, ?_⟩
    rw [hrequest]
    unfold Request.next
    rw [hd, hp, hn, ha, Nat.add_comm _ i]
    rfl
  last := by
    have hlimit : (firstRequest o description g note).attempt + (o.attempts - 1)
        = max 1 o.maxAttempts := by
      show 1 + (max 1 o.maxAttempts - 1) = _
      omega
    rw [← hlimit]
    exact h.last (Nat.add_comm _ _)

end Numbers

/-- **A search is a conversation.** Whatever a proposer answers, and however its answers hang on
    what has been said: the search returns, a record of it changes nothing, and the record says that
    the requests are numbered from one, that each but the first carries the last document and its
    failure, and that the search ends with the first answer that is a failure of the proposer or
    acceptable, or with the last attempt. -/
theorem search_conversation {σ : Type} [Host.Journal (StateM σ)] (ask : Proposer (StateM σ))
    (o : Options) (description : Description) (g : Grid) (note : Option String) (s : σ) :
    ∃ result talk s', (search ask o description g note).run s = (result, s') ∧
      ((search (recorded ask) o description g note).run []).run s = ((result, talk), s') ∧
      Conversation o description g note talk result := by
  obtain ⟨result, talk, s', hplain, hrecord, htalk⟩ :=
    run_searchFrom ask o g (o.attempts - 1) (firstRequest o description g note) [] s
  exact ⟨result, talk, s', hplain, hrecord, htalk.conversation⟩

end UsageGrid.Proposal
