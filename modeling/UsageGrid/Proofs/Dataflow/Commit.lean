import UsageGrid.Dataflow.Session
import UsageGrid.Proofs.Outcome

/-!
# Runs are all or nothing

A run of a worker may fail in three places, and writes only after the last of them:

* `Supplied`: every kind that is needed is held by exactly one slot; the first that is not is told
  with the number of its slots (`gather_eq_error`);
* the work itself, done with the payloads of these slots (`Session.work`);
* the outputs, the first of which that was not declared is told (`checkOutputs_eq_error`).

`Session.Fails` puts the three in order. A run fails with exactly these errors and then leaves the
session as it was; any other run writes its outputs in turn (`Session.run_allOrNothing`), so that
the last one under a name is what is found there (`Store.find?_setAll`).
-/

namespace UsageGrid.Dataflow

/-! ## 1. Several artifacts -/

/-- The artifact that comes last under a name. -/
def lastNamed? (artifacts : List Artifact) (name : String) : Option Artifact :=
  artifacts.reverse.find? (·.name == name)

theorem lastNamed?_cons (a : Artifact) (rest : List Artifact) (name : String) :
    lastNamed? (a :: rest) name
      = (lastNamed? rest name).or (if a.name = name then some a else none) := by
  unfold lastNamed?
  rw [List.reverse_cons, List.find?_append, List.find?_singleton]
  simp only [beq_iff_eq]

/-- **Of several artifacts the last under a name is found there**, and a name that none of them has
    keeps what it held. -/
theorem Store.find?_setAll (s : Store) (artifacts : List Artifact) (name : String) :
    (s.setAll artifacts).find? name
      = ((lastNamed? artifacts name).map (·.payload)).or (s.find? name) := by
  induction artifacts generalizing s with
  | nil => rfl
  | cons a rest ih =>
    show ((s.set a).setAll rest).find? name = _
    rw [ih, lastNamed?_cons]
    cases hlast : lastNamed? rest name with
    | some b => rfl
    | none =>
      by_cases ha : a.name = name
      · subst ha
        rw [if_pos rfl, s.find?_set]
        rfl
      · rw [if_neg ha, s.find?_set_of_ne a (Ne.symm ha)]
        rfl

/-! ## 2. What a worker is handed -/

/-- Each kind that is needed is held by exactly one slot, and these are their payloads. -/
inductive Supplied (s : Store) : List Kind → Inputs → Prop where
  | nil : Supplied s [] []
  | cons {k : Kind} {name : String} {p : Payload} {needs : List Kind} {inputs : Inputs}
      (one : s.ofKind k = [(name, p)]) (rest : Supplied s needs inputs) :
      Supplied s (k :: needs) (p :: inputs)

namespace Session

theorem gather_cons_of_one {worker name : String} {s : Store} {k : Kind} {p : Payload}
    (h : s.ofKind k = [(name, p)]) (rest : List Kind) :
    gather worker s (k :: rest) = (gather worker s rest).map (p :: ·) := by
  rw [gather, h]

theorem gather_cons_of_ne_one {worker : String} {s : Store} {k : Kind}
    (h : (s.ofKind k).length ≠ 1) (rest : List Kind) :
    gather worker s (k :: rest) = .error (.inputCount worker k (s.ofKind k).length) := by
  rw [gather]
  split
  · rename_i name p hone
    rw [hone] at h
    exact absurd rfl h
  · rfl

/-- A kind is held by one slot, or it is not. -/
theorem one_slot_or (s : Store) (k : Kind) :
    (∃ name p, s.ofKind k = [(name, p)]) ∨ (s.ofKind k).length ≠ 1 := by
  by_cases h : (s.ofKind k).length = 1
  · obtain ⟨⟨name, p⟩, hone⟩ := List.length_eq_one_iff.1 h
    exact .inl ⟨name, p, hone⟩
  · exact .inr h

theorem gather_eq_ok {worker : String} {s : Store} {needs : List Kind} {inputs : Inputs} :
    gather worker s needs = .ok inputs ↔ Supplied s needs inputs := by
  induction needs generalizing inputs with
  | nil =>
    rw [gather, Except.ok.injEq]
    exact ⟨fun h => h ▸ .nil, fun h => by cases h; rfl⟩
  | cons k rest ih =>
    rcases one_slot_or s k with ⟨name, p, hone⟩ | hne
    · rw [gather_cons_of_one hone, map_eq_ok]
      constructor
      · rintro ⟨others, hothers, rfl⟩
        exact .cons hone (ih.1 hothers)
      · rintro (_ | ⟨hone', hothers⟩)
        rw [hone] at hone'
        cases hone'
        exact ⟨_, ih.2 hothers, rfl⟩
    · rw [gather_cons_of_ne_one hne]
      constructor
      · intro h
        cases h
      · rintro (_ | ⟨hone, -⟩)
        rw [hone] at hne
        exact absurd rfl hne

/-- **The first kind that is not held by exactly one slot is told**, with the number of its
    slots. -/
theorem gather_eq_error {worker : String} {s : Store} {needs : List Kind} {e : DataflowError} :
    gather worker s needs = .error e ↔
      ∃ before k after, needs = before ++ k :: after ∧ (∃ inputs, Supplied s before inputs) ∧
        (s.ofKind k).length ≠ 1 ∧ e = .inputCount worker k (s.ofKind k).length := by
  induction needs with
  | nil => simp [gather]
  | cons j rest ih =>
    rcases one_slot_or s j with ⟨name, p, hone⟩ | hne
    · -- the fault lies further on
      rw [gather_cons_of_one hone, map_eq_error, ih]
      constructor
      · rintro ⟨before, k, after, rfl, ⟨inputs, hbefore⟩, hk, he⟩
        exact ⟨j :: before, k, after, rfl, ⟨p :: inputs, .cons hone hbefore⟩, hk, he⟩
      · rintro ⟨before, k, after, hneeds, ⟨inputs, hbefore⟩, hk, he⟩
        cases before with
        | nil =>
          obtain ⟨rfl, -⟩ := List.cons.inj hneeds
          rw [hone] at hk
          exact absurd rfl hk
        | cons j' before =>
          obtain ⟨rfl, hrest⟩ := List.cons.inj hneeds
          obtain _ | ⟨-, hbefore⟩ := hbefore
          exact ⟨before, k, after, hrest, ⟨_, hbefore⟩, hk, he⟩
    · rw [gather_cons_of_ne_one hne, Except.error.injEq]
      constructor
      · rintro rfl
        exact ⟨[], j, rest, rfl, ⟨[], .nil⟩, hne, rfl⟩
      · rintro ⟨before, k, after, hneeds, ⟨inputs, hbefore⟩, hk, he⟩
        cases before with
        | nil =>
          obtain ⟨rfl, -⟩ := List.cons.inj hneeds
          exact he.symm
        | cons j' before =>
          obtain ⟨rfl, -⟩ := List.cons.inj hneeds
          obtain _ | ⟨hone, -⟩ := hbefore
          rw [hone] at hne
          exact absurd rfl hne

/-! ## 3. What comes out -/

theorem checkOutputs_eq_ok {worker : String} {declared : List Kind} {outputs : List Artifact} :
    checkOutputs worker declared outputs = .ok () ↔ ∀ a ∈ outputs, a.kind ∈ declared := by
  unfold checkOutputs
  cases hfind : outputs.find? fun a => !declared.contains a.kind with
  | none => simpa using hfind
  | some a =>
    have ha : a.kind ∉ declared := by simpa using List.find?_some hfind
    constructor
    · intro h
      cases h
    · exact fun h => absurd (h a (List.mem_of_find?_eq_some hfind)) ha

/-- **The first output of a kind that was not declared is told.** -/
theorem checkOutputs_eq_error {worker : String} {declared : List Kind} {outputs : List Artifact}
    {e : DataflowError} :
    checkOutputs worker declared outputs = .error e ↔
      ∃ before a after, outputs = before ++ a :: after ∧ (∀ b ∈ before, b.kind ∈ declared) ∧
        a.kind ∉ declared ∧ e = .undeclaredOutput worker a.kind := by
  have hfirst (a : Artifact) : (outputs.find? fun a => !declared.contains a.kind) = some a ↔
      ∃ before after, outputs = before ++ a :: after ∧ (∀ b ∈ before, b.kind ∈ declared) ∧
        a.kind ∉ declared := by
    rw [List.find?_eq_some_iff_append]
    simp only [Bool.not_eq_true', List.contains_eq_mem, decide_eq_false_iff_not, Bool.not_not,
      decide_eq_true_eq]
    constructor
    · rintro ⟨ha, before, after, houtputs, hbefore⟩
      exact ⟨before, after, houtputs, hbefore, ha⟩
    · rintro ⟨before, after, houtputs, hbefore, ha⟩
      exact ⟨ha, before, after, houtputs, hbefore⟩
  unfold checkOutputs
  cases hfind : outputs.find? fun a => !declared.contains a.kind with
  | none =>
    rw [hfind] at hfirst
    constructor
    · intro h
      cases h
    · rintro ⟨before, a, after, h⟩
      exact nomatch (hfirst a).2 ⟨before, after, h.1, h.2.1, h.2.2.1⟩
  | some a =>
    rw [hfind] at hfirst
    rw [Except.error.injEq]
    constructor
    · rintro rfl
      obtain ⟨before, after, houtputs, hbefore, ha⟩ := (hfirst a).1 rfl
      exact ⟨before, a, after, houtputs, hbefore, ha, rfl⟩
    · rintro ⟨before, b, after, houtputs, hbefore, hb, rfl⟩
      obtain rfl := Option.some.inj ((hfirst b).2 ⟨before, after, houtputs, hbefore, hb⟩)
      rfl

/-! ## 4. A run -/

section

variable {σ : Type} [Host.Journal (StateM σ)] (s : Session) (w : Worker (StateM σ)) (u : σ)

/-- The surroundings when the work begins: that it begins has been told. -/
def begun : σ :=
  ((Host.info ("Running " ++ w.name ++ " [" ++ s.id.label ++ "]") : StateM σ Unit).run u).2

/-- What the work makes of some inputs. -/
def work (inputs : Inputs) : Except WorkerError (List Artifact) :=
  ((w.run inputs).run (s.begun w u)).1

/-- The errors with which a run fails, in the order in which they are looked for. -/
inductive Fails : DataflowError → Prop where
  | input {before : List Kind} {k : Kind} {after : List Kind}
      (needs : w.needs = before ++ k :: after) (first : ∃ inputs, Supplied s.store before inputs)
      (count : (s.store.ofKind k).length ≠ 1) :
      Fails (.inputCount w.name k (s.store.ofKind k).length)
  | work {inputs : Inputs} {e : WorkerError} (supplied : Supplied s.store w.needs inputs)
      (failed : s.work w u inputs = .error e) : Fails (.worker w.name e)
  | output {inputs : Inputs} {before : List Artifact} {a : Artifact} {after : List Artifact}
      (supplied : Supplied s.store w.needs inputs)
      (done : s.work w u inputs = .ok (before ++ a :: after))
      (first : ∀ b ∈ before, b.kind ∈ w.produces) (undeclared : a.kind ∉ w.produces) :
      Fails (.undeclaredOutput w.name a.kind)

/-- What comes out of a run, its three checks one after the other. -/
theorem outputs_fst :
    ((s.outputs w).run u).1 = (gather w.name s.store w.needs >>= fun inputs =>
      (s.work w u inputs).mapError (.worker w.name) >>= fun artifacts =>
        (checkOutputs w.name w.produces artifacts).map fun _ => artifacts) := by
  unfold outputs
  cases gather w.name s.store w.needs with
  | error e => rfl
  | ok inputs =>
    rw [ok_bind]
    unfold work
    dsimp only
    rw [StateT.run_bind]
    show ((w.run inputs >>= _ : StateM σ _).run (s.begun w u)).1 = _
    rw [StateT.run_bind]
    rcases (w.run inputs).run (s.begun w u) with ⟨out, u'⟩
    cases out with
    | error e => rfl
    | ok artifacts => rfl

theorem outputs_eq_error (e : DataflowError) :
    ((s.outputs w).run u).1 = .error e ↔ s.Fails w u e := by
  rw [outputs_fst]
  simp only [bind_eq_error, map_eq_error, mapError_eq_error, mapError_eq_ok, gather_eq_ok,
    gather_eq_error, checkOutputs_eq_error]
  constructor
  · rintro (⟨before, k, after, hneeds, hfirst, hcount, rfl⟩ |
      ⟨inputs, hinputs, ⟨e, he, rfl⟩ | ⟨artifacts, hdone, before, a, after, rfl, hfirst, ha, rfl⟩⟩)
    · exact .input hneeds hfirst hcount
    · exact .work hinputs he
    · exact .output hinputs hdone hfirst ha
  · rintro (⟨hneeds, hfirst, hcount⟩ | ⟨hinputs, he⟩ | ⟨hinputs, hdone, hfirst, ha⟩)
    · exact .inl ⟨_, _, _, hneeds, hfirst, hcount, rfl⟩
    · exact .inr ⟨_, hinputs, .inl ⟨_, he, rfl⟩⟩
    · exact .inr ⟨_, hinputs, .inr ⟨_, hdone, _, _, _, rfl, hfirst, ha, rfl⟩⟩

theorem outputs_eq_ok (artifacts : List Artifact) :
    ((s.outputs w).run u).1 = .ok artifacts ↔
      (∃ inputs, Supplied s.store w.needs inputs ∧ s.work w u inputs = .ok artifacts) ∧
        ∀ a ∈ artifacts, a.kind ∈ w.produces := by
  rw [outputs_fst]
  simp only [bind_eq_ok, map_eq_ok, mapError_eq_ok, gather_eq_ok]
  constructor
  · rintro ⟨inputs, hinputs, artifacts, hdone, ⟨⟩, hcheck, rfl⟩
    exact ⟨⟨inputs, hinputs, hdone⟩, checkOutputs_eq_ok.1 hcheck⟩
  · rintro ⟨⟨inputs, hinputs, hdone⟩, hdeclared⟩
    exact ⟨inputs, hinputs, artifacts, hdone, (), checkOutputs_eq_ok.2 hdeclared, rfl⟩

/-- What comes out of a run decides what it answers and what it leaves behind. -/
theorem run_fst :
    ((s.run w).run u).1 = match ((s.outputs w).run u).1 with
      | .error e => (.error e, s)
      | .ok artifacts =>
        (.ok (artifacts.map (·.name)), { s with store := s.store.setAll artifacts }) := by
  unfold run
  rw [StateT.run_bind]
  rcases (s.outputs w).run u with ⟨out, u'⟩
  cases out with
  | error e => rfl
  | ok artifacts => rfl

/-- **A run is all or nothing.** It fails exactly where a kind that is needed is not held by one
    slot, the work fails, or an output was not declared, with the first of these as its error; and
    then the session is as it was. Otherwise the outputs are written in turn, every slot holds the
    last output under its name or what it held before, and the answer has the names written. -/
theorem run_allOrNothing :
    (∀ e, ((s.run w).run u).1.1 = .error e ↔ s.Fails w u e) ∧
    ((∃ e, ((s.run w).run u).1 = (.error e, s)) ∨
      ∃ inputs artifacts, Supplied s.store w.needs inputs ∧ s.work w u inputs = .ok artifacts ∧
        (∀ a ∈ artifacts, a.kind ∈ w.produces) ∧
        ((s.run w).run u).1
          = (.ok (artifacts.map (·.name)), { s with store := s.store.setAll artifacts }) ∧
        ∀ name, (s.store.setAll artifacts).find? name
          = ((lastNamed? artifacts name).map (·.payload)).or (s.store.find? name)) := by
  have herror := s.outputs_eq_error w u
  have hok := s.outputs_eq_ok w u
  rw [run_fst]
  cases hout : ((s.outputs w).run u).1 with
  | error e =>
    rw [hout] at herror
    refine ⟨fun e' => ?_, .inl ⟨e, rfl⟩⟩
    rw [← herror]
    simp only [Except.error.injEq]
  | ok artifacts =>
    rw [hout] at herror
    obtain ⟨⟨inputs, hinputs, hdone⟩, hdeclared⟩ := (hok artifacts).1 hout
    refine ⟨fun e => ⟨fun h => (nomatch h), fun h => (nomatch (herror e).2 h)⟩, .inr ?_⟩
    exact ⟨inputs, artifacts, hinputs, hdone, hdeclared, rfl, s.store.find?_setAll artifacts⟩

end

end Session

end UsageGrid.Dataflow
