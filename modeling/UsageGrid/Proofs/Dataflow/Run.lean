import UsageGrid.Dataflow.Session
import UsageGrid.Proofs.Host.Surroundings

/-!
# Runs of workers

What a worker is handed comes from the slots of the store: if a kind is needed and there is data
under the name of that kind, the worker gets these (`gather_find?`). After a run that comes out well
the store has been written to, and only by the artifacts that have come out (`keeps_run`).
-/

namespace UsageGrid.Dataflow

/-! ## 1. Slots of a kind -/

namespace Kind

theorem ofName?_name (k : Kind) : ofName? k.name = some k := by
  cases k <;> decide

theorem name_injective {j k : Kind} (h : j.name = k.name) : j = k := by
  have hj := ofName?_name j
  rw [h, ofName?_name k] at hj
  exact (Option.some.inj hj).symm

end Kind

namespace Store

theorem find?_set_ofData (s : Store) (k : Kind) (d : k.Data) :
    (s.set (.ofData k d)).find? k.name = some ⟨k, d⟩ := s.find?_set (.ofData k d)

theorem find?_set_ofData_of_ne (s : Store) {j k : Kind} (d : k.Data) (h : j ≠ k) :
    (s.set (.ofData k d)).find? j.name = s.find? j.name :=
  s.find?_set_of_ne (.ofData k d) fun hname => h (Kind.name_injective hname)

theorem get_eq_ok {s : Store} {k : Kind} {name : String} {d : k.Data} :
    s.get k name = .ok d ↔ s.find? name = some ⟨k, d⟩ := by
  unfold get
  cases hfind : s.find? name with
  | none => simp
  | some p =>
    obtain ⟨j, e⟩ := p
    by_cases hj : j = k
    · subst hj
      simp
    · have hnone : Payload.as? k ⟨j, e⟩ = none := (Payload.as?_eq_none_iff k _).2 hj
      dsimp only
      rw [hnone]
      constructor
      · intro h
        cases h
      · intro h
        cases h
        exact absurd rfl hj

theorem mem_slots {s : Store} {name : String} {p : Payload} (h : s.find? name = some p) :
    (name, p) ∈ s.slots := by
  obtain ⟨slot, hslot, rfl⟩ := Option.map_eq_some_iff.1 h
  have hname : slot.1 = name := by simpa using List.find?_some hslot
  rw [← hname]
  exact List.mem_of_find?_eq_some hslot

end Store

/-! ## 2. What a worker is handed -/

/-- **A worker gets the data that are kept under the name of a kind it needs.** -/
theorem gather_find? {worker : String} {s : Store} {needs : List Kind} {inputs : Inputs}
    {k : Kind} {d : k.Data} (h : Session.gather worker s needs = .ok inputs) (hk : k ∈ needs)
    (hslot : s.find? k.name = some ⟨k, d⟩) : inputs.find? k = some d := by
  induction needs generalizing inputs with
  | nil => cases hk
  | cons j rest ih =>
    unfold Session.gather at h
    split at h
    · rename_i name p hone
      obtain ⟨others, hothers, rfl⟩ : ∃ others, Session.gather worker s rest = .ok others ∧
          p :: others = inputs := by
        cases hrest : Session.gather worker s rest with
        | error e => rw [hrest] at h; cases h
        | ok others => rw [hrest] at h; exact ⟨others, rfl, Except.ok.inj h⟩
      have hp : p.kind = j := by
        have hmem : (name, p) ∈ s.ofKind j := by rw [hone]; exact List.mem_singleton.2 rfl
        simpa using (List.mem_filter.1 hmem).2
      show List.findSome? (Payload.as? k) (p :: others) = some d
      -- the one slot of the kind has to be the one under the name of the kind
      by_cases hjk : j = k
      · subst hjk
        have hmem : (j.name, (⟨j, d⟩ : Payload)) ∈ s.ofKind j :=
          List.mem_filter.2 ⟨s.mem_slots hslot, by simp⟩
        rw [hone, List.mem_singleton] at hmem
        obtain rfl := (Prod.mk.inj hmem).2
        rw [List.findSome?_cons, Payload.as?_mk]
      · have hnone : p.as? k = none := (Payload.as?_eq_none_iff k p).2 (hp ▸ hjk)
        rw [List.findSome?_cons, hnone]
        exact ih hothers ((List.mem_cons.1 hk).resolve_left (Ne.symm hjk))
    · cases h

/-! ## 3. A run -/

section

open Host

variable {σ : Type} [Journal (StateM σ)] {Inv : σ → Prop}

theorem keeps_logWritten (hadd : ∀ e, Keeps Inv (Journal.add e : StateM σ _) fun _ => True)
    (worker : String) (artifacts : List Artifact) :
    Keeps Inv (Session.logWritten worker artifacts : StateM σ _) fun _ => True := by
  induction artifacts with
  | nil => exact .pure trivial
  | cons a rest ih => exact (hadd _).bind fun _ _ => ih

/-- **A run writes what has come out of the work, or it changes nothing.** -/
theorem keeps_run (hadd : ∀ e, Keeps Inv (Journal.add e : StateM σ _) fun _ => True)
    {s : Session} {w : Worker (StateM σ)} {Q : List Artifact → Prop}
    (hwork : ∀ inputs, Session.gather w.name s.store w.needs = .ok inputs →
      Keeps Inv (w.run inputs) fun out => ∀ artifacts, out = .ok artifacts → Q artifacts) :
    Keeps Inv (s.run w) fun out =>
      (∃ e, out = (.error e, s)) ∨
      ∃ names artifacts, Q artifacts ∧
        out = (.ok names, { s with store := s.store.setAll artifacts }) := by
  have houtputs : Keeps Inv (s.outputs w) fun out => ∀ artifacts, out = .ok artifacts →
      Q artifacts := by
    unfold Session.outputs
    cases hgather : Session.gather w.name s.store w.needs with
    | error e => exact .pure fun _ h => nomatch h
    | ok inputs =>
      refine (hadd _).bind fun _ _ => (hwork inputs hgather).bind fun out hout => ?_
      cases out with
      | error e => exact .pure fun _ h => nomatch h
      | ok artifacts =>
        refine .pure fun checked h => ?_
        cases hcheck : Session.checkOutputs w.name w.produces artifacts with
        | error e => rw [hcheck] at h; cases h
        | ok _ => rw [hcheck] at h; exact Except.ok.inj h ▸ hout artifacts rfl
  refine houtputs.bind fun out hout => ?_
  cases out with
  | error e => exact .pure (.inl ⟨e, rfl⟩)
  | ok artifacts =>
    refine (keeps_logWritten hadd _ _).bind fun _ _ => (hadd _).bind fun _ _ => ?_
    exact .pure (.inr ⟨_, artifacts, hout artifacts rfl, rfl⟩)

end

/-! ## 4. A run where nothing is told -/

section

open Host

variable {σ : Type} [Journal (StateM σ)]
  (hquiet : ∀ e, (Journal.add e : StateM σ Unit) = pure ())

include hquiet

theorem logWritten_quiet (worker : String) (artifacts : List Artifact) :
    (Session.logWritten worker artifacts : StateM σ Unit) = pure () := by
  induction artifacts with
  | nil => rfl
  | cons a rest ih =>
    show (Journal.add _ >>= fun _ => Session.logWritten worker rest : StateM σ Unit) = _
    rw [hquiet, pure_bind, ih]

theorem run_quiet {session : Session} {w : Worker (StateM σ)} {inputs : Inputs}
    {artifacts : List Artifact} {s s' : σ}
    (hgather : Session.gather w.name session.store w.needs = .ok inputs)
    (hwork : (w.run inputs).run s = (.ok artifacts, s'))
    (hcheck : Session.checkOutputs w.name w.produces artifacts = .ok ()) :
    (session.run w).run s = ((.ok (artifacts.map (·.name)),
      { session with store := session.store.setAll artifacts }), s') := by
  have houtputs : (session.outputs w).run s = (.ok artifacts, s') := by
    unfold Session.outputs
    rw [hgather]
    show (Journal.add _ >>= fun _ => w.run inputs >>= _ : StateM σ _).run s = _
    rw [hquiet, pure_bind, StateT.run_bind, hwork]
    show (pure ((Session.checkOutputs w.name w.produces artifacts).map fun _ => artifacts) :
      StateM σ _).run s' = _
    rw [hcheck]
    rfl
  unfold Session.run
  rw [StateT.run_bind, houtputs]
  show (Session.logWritten w.name artifacts >>= fun _ => Journal.add _ >>= fun _ => _ :
    StateM σ _).run s' = _
  rw [logWritten_quiet hquiet, pure_bind, hquiet, pure_bind]
  rfl

end

end UsageGrid.Dataflow
