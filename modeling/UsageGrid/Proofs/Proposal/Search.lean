import UsageGrid.Proposal.Search
import UsageGrid.Proofs.Host.Surroundings
import UsageGrid.Proofs.Outcome

/-!
# What a search finds

Whatever a proposer answers, and however often: the outcome of a search is that of a document that has
been accepted (`keeps_search`). Such a document has been read and applied to the grid of the search,
and the outcome holds the definition and the table that came out (`accept_eq_ok`).
-/

namespace UsageGrid.Proposal

open Host

/-- The outcome is that of a document that has been accepted for the grid. -/
def Outcome.IsFor (outcome : Outcome) (o : Options) (g : Grid) : Prop :=
  ∃ text, accept o.requireRecords text g = .ok (outcome.definition, outcome.table)

theorem check_eq_ok {text : String} {g : Grid} {d : Definition} {t : Table} :
    check text g = .ok (d, t) ↔ Definition.ofText text = .ok d ∧ Table.ofGrid d g = .ok t := by
  unfold check
  simp only [bind_eq_ok, mapError_eq_ok, pure_eq_ok, Prod.mk.injEq]
  constructor
  · rintro ⟨_, hd, _, ht, rfl, rfl⟩
    exact ⟨hd, ht⟩
  · rintro ⟨hd, ht⟩
    exact ⟨d, hd, t, ht, rfl, rfl⟩

theorem accept_eq_ok_of_check {requireRecords : Bool} {text : String} {g : Grid} {d : Definition}
    {t : Table} : accept requireRecords text g = .ok (d, t) ↔
      check text g = .ok (d, t) ∧ (t.isEmpty && requireRecords) = false := by
  unfold accept
  rw [bind_eq_ok]
  constructor
  · rintro ⟨⟨d', t'⟩, hcheck, h⟩
    dsimp only at h
    split at h
    · exact absurd h throw_bind_ne_ok
    · rename_i hrows
      obtain ⟨rfl, rfl⟩ := Prod.mk.inj (pure_eq_ok.1 h)
      exact ⟨hcheck, Bool.eq_false_iff.2 hrows⟩
  · rintro ⟨hcheck, hrows⟩
    refine ⟨(d, t), hcheck, ?_⟩
    dsimp only
    rw [hrows, if_neg Bool.false_ne_true]
    rfl

/-- **What is accepted has been read and applied**, and has records where these are required. -/
theorem accept_eq_ok {requireRecords : Bool} {text : String} {g : Grid} {d : Definition}
    {t : Table} : accept requireRecords text g = .ok (d, t) ↔
      Definition.ofText text = .ok d ∧ Table.ofGrid d g = .ok t ∧
        (t.isEmpty && requireRecords) = false := by
  rw [accept_eq_ok_of_check, check_eq_ok, and_assoc]

theorem Outcome.IsFor.ofGrid {outcome : Outcome} {o : Options} {g : Grid}
    (h : outcome.IsFor o g) : Table.ofGrid outcome.definition g = .ok outcome.table :=
  (accept_eq_ok.1 h.choose_spec).2.1

/-- An accepted verdict has an outcome for the grid. -/
def Verdict.IsFor (v : Verdict) (o : Options) (g : Grid) : Prop :=
  ∀ outcome, v = .accepted outcome → outcome.IsFor o g

theorem judge_isFor (o : Options) (g : Grid) (attempt : Nat) (draft : String) :
    (judge o g attempt draft).IsFor o g := by
  intro outcome h
  unfold judge at h
  dsimp only at h
  split at h
  · rename_i d t haccept
    cases h
    exact ⟨_, haccept⟩
  · cases h

section

variable {σ : Type} [Journal (StateM σ)] {Inv : σ → Prop}
  (hadd : ∀ e, Keeps Inv (Journal.add e : StateM σ _) fun _ => True)
  {ask : Proposer (StateM σ)} (hask : ∀ r, Keeps Inv (ask r) fun _ => True)

include hadd

theorem keeps_logVerdict (attempt : Nat) (v : Verdict) :
    Keeps Inv (logVerdict attempt v : StateM σ _) fun _ => True := by
  cases v with
  | failed e => exact .pure trivial
  | accepted outcome => exact hadd _
  | rejected document reason =>
    cases reason with
    | noRecords => exact hadd _
    | malformed e => exact (hadd _).bind fun _ _ => hadd _
    | failed e => exact (hadd _).bind fun _ _ => hadd _

include hask

theorem keeps_tryOnce (o : Options) (g : Grid) (r : Request) :
    Keeps Inv (tryOnce ask o g r) fun v => v.IsFor o g := by
  refine (hadd _).bind fun _ _ => (hask r).bind fun answer _ => ?_
  cases answer with
  | error e => exact .pure fun _ h => nomatch h
  | ok draft =>
    refine (keeps_logVerdict hadd _ _).bind fun _ _ => ?_
    exact .pure (judge_isFor o g _ draft)

theorem keeps_searchFrom (o : Options) (g : Grid) (left : Nat) (r : Request) :
    Keeps Inv (searchFrom ask o g left r) fun out =>
      ∀ outcome, out = .ok outcome → outcome.IsFor o g := by
  induction left generalizing r with
  | zero =>
    unfold searchFrom
    refine (keeps_tryOnce hadd hask o g r).bind fun v hv => ?_
    cases v with
    | failed e => exact .pure fun _ h => nomatch h
    | accepted outcome => exact .pure fun _ h => Except.ok.inj h ▸ hv outcome rfl
    | rejected document reason => exact .pure fun _ h => nomatch h
  | succ left ih =>
    unfold searchFrom
    refine (keeps_tryOnce hadd hask o g r).bind fun v hv => ?_
    cases v with
    | failed e => exact .pure fun _ h => nomatch h
    | accepted outcome => exact .pure fun _ h => Except.ok.inj h ▸ hv outcome rfl
    | rejected document reason => exact ih (r.next document reason)

/-- **A search that comes out well ends with an accepted document.** -/
theorem keeps_search (o : Options) (description : Description) (g : Grid)
    (note : Option String) :
    Keeps Inv (search ask o description g note) fun out =>
      ∀ outcome, out = .ok outcome → outcome.IsFor o g :=
  keeps_searchFrom hadd hask o g _ _

end

/-! ## 3. A search where nothing is told -/

/-- The value that characters hold. -/
def scanned? (cs : List Char) : Option Json :=
  match Json.scan {} {} cs with
  | ⟨⟨_, .done v⟩, none⟩ => some v
  | _ => none

theorem ofText_of_scanned {cs : List Char} {v : Json} (h : scanned? cs = some v) :
    Definition.ofText (String.ofList cs) = Definition.ofJson v.canonical := by
  unfold scanned? at h
  split at h
  · rename_i hscan
    cases h
    unfold Definition.ofText Json.parse Json.read
    rw [String.toList_ofList, hscan]
    rfl
  · cases h

/-- A draft with records is accepted, whether records are required or not. -/
theorem accept_of_scanned {draft : List Char} {v : Json} {g : Grid} {d : Definition} {t : Table}
    (requireRecords : Bool) (hscan : scanned? (documentChars draft) = some v)
    (hd : Definition.ofJson v.canonical = .ok d) (ht : Table.ofGrid d g = .ok t)
    (hrows : t.isEmpty = false) :
    accept requireRecords (documentText (String.ofList draft)) g = .ok (d, t) := by
  have hread : Definition.ofText (documentText (String.ofList draft)) = .ok d := by
    unfold documentText
    rw [String.toList_ofList]
    exact (ofText_of_scanned hscan).trans hd
  exact accept_eq_ok.2 ⟨hread, ht, by rw [hrows, Bool.false_and]⟩

theorem judge_of_accept {o : Options} {g : Grid} {attempt : Nat} {draft : String} {d : Definition}
    {t : Table} (h : accept o.requireRecords (documentText draft) g = .ok (d, t)) :
    judge o g attempt draft = .accepted ⟨d, t, attempt⟩ := by
  unfold judge
  dsimp only
  rw [h]

/-- The first draft is the last one if it is accepted. -/
theorem search_of_accepted {σ : Type} [Journal (StateM σ)]
    (hquiet : ∀ e, (Journal.add e : StateM σ Unit) = pure ()) {ask : Proposer (StateM σ)}
    {o : Options} {description : Description} {g : Grid} {note : Option String} {draft : String}
    {outcome : Outcome} {s s' : σ}
    (hask : (ask (firstRequest o description g note)).run s = (.ok draft, s'))
    (hjudge : judge o g 1 draft = .accepted outcome) :
    (search ask o description g note).run s = (.ok outcome, s') := by
  have hone : (tryOnce ask o g (firstRequest o description g note)).run s
      = (.accepted outcome, s') := by
    show (Journal.add _ >>= fun _ => ask _ >>= _ : StateM σ _).run s = _
    rw [hquiet, pure_bind, StateT.run_bind, hask]
    show (logVerdict _ (judge o g 1 draft) >>= fun _ => pure (judge o g 1 draft) :
      StateM σ _).run s' = _
    rw [hjudge]
    show (Journal.add _ >>= fun _ => pure _ : StateM σ _).run s' = _
    rw [hquiet]
    rfl
  unfold search searchFrom
  rw [StateT.run_bind, hone]
  rfl

end UsageGrid.Proposal
