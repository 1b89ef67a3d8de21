import UsageGrid.Report.Workers
import UsageGrid.Proofs.Dataflow.Run
import UsageGrid.Proofs.Library.Stable
import UsageGrid.Proofs.Proposal.Search
import UsageGrid.Report.Make

/-!
# What workers write, and steps towards a report

What is known of the workers behind a report comes first, then the rules of the steps that a report is
made of; some of these run a worker.
-/

/-!
## What the workers behind a report write

Where the file of a report stays as it is, what the workers write fits together: the extraction worker
writes the table of the definition that it is handed (`yields_extract`), and the proposal worker a
definition with its table (`yields_propose`). The platform worker writes neither.
-/

namespace UsageGrid.Report

open Dataflow Host

variable {σ : Type} [Files (StateM σ)] {Inv : σ → Prop} {path : String} {g : Grid}

theorem get_eq_ok {inputs : Inputs} {k : Kind} {d : k.Data} :
    inputs.get k = .ok d ↔ inputs.find? k = some d := by
  unfold Inputs.get
  cases inputs.find? k <;> simp

section

variable {read : Except GridError Grid}
  (hgrid : Keeps Inv (Grid.readFile path : StateM σ _) (· = read))

include hgrid

theorem yields_gridOf : Yields Inv (gridOf (m := StateM σ) ⟨path⟩) fun g => read = .ok g := by
  refine .mk (hgrid.bind fun out hout => ?_)
  rw [hout]
  exact .pure fun _ h => mapError_eq_ok.1 h

/-! ## 1. Extraction -/

/-- The table belongs to the definition that is handed in. -/
theorem yields_extract {inputs : Inputs} {d : Definition}
    (hfile : inputs.find? .file = some ⟨path⟩) (hd : inputs.find? .definition = some d) :
    Yields Inv (extract (m := StateM σ) inputs) fun artifacts =>
      ∃ g t, read = .ok g ∧ artifacts = [.ofData .table t] ∧ Table.ofGrid d g = .ok t := by
  refine Yields.bind (.ofExcept fun file h => get_eq_ok.1 h) fun file hfile' => ?_
  obtain rfl := Option.some.inj (hfile.symm.trans hfile')
  refine Yields.bind (.ofExcept fun d h => get_eq_ok.1 h) fun d' hd' => ?_
  obtain rfl := Option.some.inj (hd.symm.trans hd')
  refine (yields_gridOf hgrid).bind fun g hg => ?_
  refine Yields.bind (.ofExcept fun t h => mapError_eq_ok.1 h) fun t ht => ?_
  exact .pure ⟨g, t, hg, rfl, ht⟩

/-! ## 2. Proposals -/

/-- A proposed definition comes with its table, as it has been accepted. -/
theorem yields_propose [Journal (StateM σ)]
    (hadd : ∀ e, Keeps Inv (Journal.add e : StateM σ _) fun _ => True)
    {ask : Proposal.Proposer (StateM σ)} (hask : ∀ r, Keeps Inv (ask r) fun _ => True)
    (o : Proposal.Options) {inputs : Inputs} (hfile : inputs.find? .file = some ⟨path⟩) :
    Yields Inv (propose ask o inputs) fun artifacts =>
      ∃ g, ∃ outcome : Proposal.Outcome, read = .ok g ∧ outcome.IsFor o g ∧
        artifacts = [.ofData .definition outcome.definition, .ofData .table outcome.table] := by
  refine Yields.bind (Q := fun _ => True) (.ofExcept fun _ _ => trivial) fun description _ => ?_
  refine Yields.bind (.ofExcept fun file h => get_eq_ok.1 h) fun file hfile' => ?_
  obtain rfl := Option.some.inj (hfile.symm.trans hfile')
  refine (yields_gridOf hgrid).bind fun g hg => ?_
  refine Yields.bind (Q := fun outcome => outcome.IsFor o g) (.mk ?_) fun outcome houtcome => ?_
  · refine (Proposal.keeps_search hadd hask o description g _).bind fun out hout => ?_
    exact .pure fun outcome h => hout outcome (mapError_eq_ok.1 h)
  · exact .pure ⟨g, outcome, hg, houtcome, rfl⟩

end

theorem run_propose [Journal (StateM σ)] {ask : Proposal.Proposer (StateM σ)}
    {o : Proposal.Options} {inputs : Inputs} {description : Description}
    {outcome : Proposal.Outcome} {s s₁ s₂ : σ}
    (hdescription : inputs.find? .description = some description)
    (hfile : inputs.find? .file = some ⟨path⟩)
    (hgrid : (Grid.readFile path : StateM σ _).run s = (.ok g, s₁))
    (hsearch : (Proposal.search ask o description g (noteText inputs)).run s₁
      = (.ok outcome, s₂)) :
    (propose ask o inputs).run.run s
      = (.ok [.ofData .definition outcome.definition, .ofData .table outcome.table], s₂) := by
  have hgrid' : (gridOf (m := StateM σ) ⟨path⟩).run.run s = (.ok g, s₁) := by
    show ((Grid.readFile path : StateM σ _) >>= fun out => pure (out.mapError _)).run s = _
    rw [StateT.run_bind, hgrid]
    rfl
  have hsearch' : (ExceptT.mk do
      pure ((← Proposal.search ask o description g (noteText inputs)).mapError
        WorkerError.proposal)).run.run s₁ = (.ok outcome, s₂) := by
    show (Proposal.search ask o description g (noteText inputs) >>=
      fun out => pure (out.mapError _)).run s₁ = _
    rw [StateT.run_bind, hsearch]
    rfl
  unfold propose
  rw [get_eq_ok.2 hdescription, get_eq_ok.2 hfile]
  refine (run_bind_of_ok _ (run_liftM_ok description s)).trans ?_
  refine (run_bind_of_ok _ (run_liftM_ok (ReportFile.mk path) s)).trans ?_
  refine (run_bind_of_ok _ hgrid').trans ?_
  exact run_bind_of_ok _ hsearch'

/-! ## 3. Platforms -/

/-- What is known of a platform is all that is written. -/
theorem yields_lookUp [Journal (StateM σ)] [Clock (StateM σ)] {folder : String}
    (h : Library.Stable Inv folder) (libraryPath : String) (inputs : Inputs) :
    Yields Inv (lookUp (m := StateM σ) libraryPath inputs) fun artifacts =>
      ∃ p, artifacts = [.ofData .platform p] := by
  refine Yields.bind (Q := fun _ => True) (.ofExcept fun _ _ => trivial) fun platform _ => ?_
  refine Yields.bind (Q := fun _ => True) ?_ fun l _ => .pure ⟨_, rfl⟩
  exact (Library.keeps_openAt h libraryPath).bind fun l _ => .pure fun _ _ => trivial

end UsageGrid.Report

/-!
## Steps towards a report

What a step leaves behind is said of the desk: of the session and the library. `Makes` describes the
desk before a step, and the result with the desk after it where the step does not fail; each step
that a report is made of has its rule.
-/

namespace UsageGrid.Report

open Dataflow Host

variable {σ α β : Type} {Inv : σ → Prop} {P P' : Desk → Prop} {Q : α → Desk → Prop}

/-- From a desk as described a step leads to a result and a desk as described, unless it fails. -/
def Makes (Inv : σ → Prop) (P : Desk → Prop) (x : Making (StateM σ) α)
    (Q : α → Desk → Prop) : Prop :=
  ∀ desk, P desk → Keeps Inv (x.run.run desk) fun out => ∀ a, out.1 = .ok a → Q a out.2

theorem run_bind (x : Making (StateM σ) α) (f : α → Making (StateM σ) β) (desk : Desk) (s : σ) :
    ((x >>= f).run.run desk).run s = match (x.run.run desk).run s with
      | ((.ok a, desk'), s') => ((f a).run.run desk').run s'
      | ((.error e, desk'), s') => ((.error e, desk'), s') := by
  simp only [ExceptT.run_bind, StateT.run_bind]
  rcases (x.run.run desk).run s with ⟨⟨out, desk'⟩, s'⟩
  cases out <;> rfl

namespace Makes

/-! ## 1. Sequences -/

theorem pure {a : α} (h : ∀ desk, P desk → Q a desk) :
    Makes Inv P (Pure.pure a : Making (StateM σ) α) Q :=
  fun desk hP => Keeps.pure fun _ ha => Except.ok.inj ha ▸ h desk hP

theorem bind {x : Making (StateM σ) α} {f : α → Making (StateM σ) β} {R : β → Desk → Prop}
    (hx : Makes Inv P x Q) (hf : ∀ a, Makes Inv (Q a) (f a) R) : Makes Inv P (x >>= f) R := by
  intro desk hP s hs
  have h := hx desk hP s hs
  rw [run_bind]
  rcases hrun : (x.run.run desk).run s with ⟨⟨out, desk'⟩, s'⟩
  rw [hrun] at h
  cases out with
  | ok a => exact hf a desk' (h.1 a rfl) s' h.2
  | error e => exact ⟨fun _ ha => (nomatch ha), h.2⟩

theorem throw (e : ReportError) : Makes Inv P (MonadExcept.throw e : Making (StateM σ) α) Q :=
  fun _ _ => Keeps.pure fun _ ha => nomatch ha

theorem weaken {x : Making (StateM σ) α} (hx : Makes Inv P' x Q) (h : ∀ desk, P desk → P' desk) :
    Makes Inv P x Q := fun desk hP => hx desk (h desk hP)

/-- What is known of the desk whatever it is can be used before a step. -/
theorem ofKnown {x : Making (StateM σ) α} {p : Prop} (hp : ∀ desk, P desk → p)
    (h : p → Makes Inv P x Q) : Makes Inv P x Q := fun desk hP => h (hp desk hP) desk hP

/-! ## 2. Results, and what the surroundings do -/

theorem ofExcept {ε : Type} {t : ε → ReportError} {x : Except ε α}
    (h : ∀ a, x = .ok a → ∀ desk, P desk → Q a desk) :
    Makes Inv P (Making.ofExcept t x : Making (StateM σ) α) Q :=
  fun desk hP => Keeps.pure fun a ha => h a (mapError_eq_ok.1 ha) desk hP

/-- A result that is there already is what the rest goes on with. -/
theorem bindOk {ε : Type} {t : ε → ReportError} {a : α} {f : α → Making (StateM σ) β}
    {R : β → Desk → Prop} (hf : Makes Inv P (f a) R) :
    Makes Inv P (Making.ofExcept t (.ok a) >>= f) R := by
  refine bind (Q := fun b desk => b = a ∧ P desk)
    (ofExcept fun b hb desk hP => ⟨(Except.ok.inj hb).symm, hP⟩) fun b => ?_
  refine ofKnown (fun _ h => h.1) ?_
  rintro rfl
  exact hf.weaken fun _ h => h.2

theorem lift {x : StateM σ α} {R : α → Prop} (hx : Keeps Inv x R)
    (h : ∀ a, R a → ∀ desk, P desk → Q a desk) :
    Makes Inv P (liftM x : Making (StateM σ) α) Q := by
  intro desk hP
  show Keeps Inv (x >>= fun a => Pure.pure (Except.ok a, desk)) _
  exact hx.bind fun a ha => .pure fun _ hb => Except.ok.inj hb ▸ h a ha desk hP

/-- What the surroundings are known to answer is what the rest goes on with. -/
theorem bindLift {x : StateM σ α} {a : α} {f : α → Making (StateM σ) β} {R : β → Desk → Prop}
    (hx : Keeps Inv x (· = a)) (hf : Makes Inv P (f a) R) :
    Makes Inv P ((liftM x : Making (StateM σ) α) >>= f) R := by
  refine bind (Q := fun b desk => b = a ∧ P desk) (lift hx fun b hb desk hP => ⟨hb, hP⟩) fun b => ?_
  refine ofKnown (fun _ h => h.1) ?_
  rintro rfl
  exact hf.weaken fun _ h => h.2

theorem tell [Journal (StateM σ)]
    (hadd : ∀ e, Keeps Inv (Journal.add e : StateM σ _) fun _ => True) (e : Log.Entry) :
    Makes Inv P (Journal.add e : Making (StateM σ) Unit) fun _ => P :=
  lift (hadd e) fun _ _ _ hP => hP

/-! ## 3. The session -/

theorem keep (k : Kind) (d : k.Data) {R : Desk → Prop}
    (h : ∀ desk, P desk → R { desk with
      session := { desk.session with store := desk.session.store.set (.ofData k d) } }) :
    Makes Inv P (Making.keep k d : Making (StateM σ) Unit) fun _ => R :=
  fun desk hP => Keeps.pure fun _ _ => h desk hP

theorem kept (k : Kind) :
    Makes Inv P (Making.kept k : Making (StateM σ) k.Data) fun d desk =>
      P desk ∧ desk.session.store.find? k.name = some ⟨k, d⟩ :=
  fun _ hP => Keeps.pure fun _ ha => ⟨hP, Store.get_eq_ok.1 (mapError_eq_ok.1 ha)⟩

theorem get :
    Makes Inv P (MonadState.get : Making (StateM σ) Desk) fun a desk => a = desk ∧ P desk :=
  fun _ hP => Keeps.pure fun _ ha => Except.ok.inj ha ▸ ⟨rfl, hP⟩

theorem set {desk' : Desk} {R : Desk → Prop} (h : ∀ desk, P desk → R desk') :
    Makes Inv P (MonadStateOf.set desk' : Making (StateM σ) PUnit) fun _ => R :=
  fun desk hP => Keeps.pure fun _ _ => h desk hP

/-! ## 4. Workers and the library -/

section

variable [Journal (StateM σ)]
  (hadd : ∀ e, Keeps Inv (Journal.add e : StateM σ _) fun _ => True)
  {w : Worker (StateM σ)} {W : List Artifact → Prop}
  (hwork : ∀ desk, P desk → ∀ inputs,
    Session.gather w.name desk.session.store w.needs = .ok inputs → Yields Inv (w.run inputs) W)

include hadd hwork

/-- A worker that comes out well has written to the store; one that fails has changed nothing. -/
theorem tryWorker {Q : Except DataflowError (List String) → Desk → Prop}
    (herror : ∀ e desk, P desk → Q (.error e) desk)
    (hok : ∀ names artifacts desk, W artifacts → P desk → Q (.ok names) { desk with
      session := { desk.session with store := desk.session.store.setAll artifacts } }) :
    Makes Inv P (Making.tryWorker w) Q := by
  intro desk hP
  -- either way the step goes on: the failure of a worker is its result
  show Keeps Inv (desk.session.run w >>= fun out =>
    Pure.pure (Except.ok out.1, { desk with session := out.2 })) _
  refine (keeps_run hadd (hwork desk hP)).bind fun out hout => .pure fun _ ha => ?_
  obtain ⟨e, rfl⟩ | ⟨names, artifacts, hW, rfl⟩ := hout
  · exact Except.ok.inj ha ▸ herror e desk hP
  · exact Except.ok.inj ha ▸ hok names artifacts desk hW hP

theorem runWorker {R : Desk → Prop}
    (hok : ∀ artifacts desk, W artifacts → P desk → R { desk with
      session := { desk.session with store := desk.session.store.setAll artifacts } }) :
    Makes Inv P (Making.runWorker w) fun _ => R := by
  refine Makes.bind (tryWorker hadd hwork (Q := fun out desk => ∀ names, out = .ok names → R desk)
    (fun _ _ _ _ h => nomatch h) fun _ artifacts desk hW hP _ _ => hok artifacts desk hW hP) ?_
  intro out
  exact Makes.bind (.ofExcept fun names h desk hR => hR names h) fun _ => .pure fun _ hR => hR

end

section

variable [Files (StateM σ)] [Journal (StateM σ)] [Clock (StateM σ)] {folder : String}
  (hstable : Library.Stable Inv folder) (hfolder : ∀ desk, P desk → desk.library.path = folder)

include hstable hfolder

/-- Counting a use changes the library and nothing else. -/
theorem countUse (hlibrary : ∀ desk library, library.path = folder → P desk →
      P { desk with library }) (id : String) (success : Bool) :
    Makes Inv P (Making.countUse id success : Making (StateM σ) Unit) fun _ => P := by
  intro desk hP
  show Keeps Inv (desk.library.use (m := StateM σ) id success >>= fun out =>
    Pure.pure (out.1.mapError ReportError.library, { desk with library := out.2 })) _
  refine (Library.keeps_use hstable (hfolder desk hP) id success).bind fun out hout => ?_
  exact .pure fun _ _ => hlibrary desk out.2 hout hP

end

end Makes

/-! ## 5. Steps that do not fail -/

/-- A step leads from a desk and a state to a result with a desk and a state. -/
def Gives (x : Making (StateM σ) α) (desk : Desk) (s : σ) (a : α) (desk' : Desk) (s' : σ) : Prop :=
  (x.run.run desk).run s = ((.ok a, desk'), s')

namespace Gives

variable {desk desk' desk'' : Desk} {s s' s'' : σ} {a : α}

theorem pure (a : α) (desk : Desk) (s : σ) : Gives (Pure.pure a) desk s a desk s := rfl

theorem bind {x : Making (StateM σ) α} {f : α → Making (StateM σ) β} {b : β}
    (hx : Gives x desk s a desk' s') (hf : Gives (f a) desk' s' b desk'' s'') :
    Gives (x >>= f) desk s b desk'' s'' := by
  unfold Gives
  rw [run_bind, hx]
  exact hf

theorem lift {x : StateM σ α} (h : x.run s = (a, s')) (desk : Desk) :
    Gives (liftM x : Making (StateM σ) α) desk s a desk s' := by
  show (x >>= fun a => Pure.pure (Except.ok a, desk) : StateM σ _).run s = _
  rw [StateT.run_bind, h]
  rfl

theorem tell [Journal (StateM σ)] (hquiet : ∀ e, (Journal.add e : StateM σ Unit) = Pure.pure ())
    (e : Log.Entry) (desk : Desk) (s : σ) :
    Gives (Journal.add e : Making (StateM σ) Unit) desk s () desk s :=
  lift (by rw [hquiet]; rfl) desk

theorem ofExcept {ε : Type} {t : ε → ReportError} {x : Except ε α} (h : x = .ok a) (desk : Desk)
    (s : σ) : Gives (Making.ofExcept t x) desk s a desk s := by
  subst h
  rfl

theorem get (desk : Desk) (s : σ) : Gives MonadState.get desk s desk desk s := rfl

theorem keep (k : Kind) (d : k.Data) (desk : Desk) (s : σ) :
    Gives (Making.keep k d) desk s () { desk with
      session := { desk.session with store := desk.session.store.set (.ofData k d) } } s := rfl

theorem kept {k : Kind} {d : k.Data} (h : desk.session.store.find? k.name = some ⟨k, d⟩) (s : σ) :
    Gives (Making.kept k) desk s d desk s :=
  bind (get desk s) (ofExcept (Store.get_eq_ok.2 h) desk s)

theorem runWorker [Journal (StateM σ)] {w : Worker (StateM σ)} {session : Session}
    {names : List String} (h : (desk.session.run w).run s = ((.ok names, session), s')) :
    Gives (Making.runWorker w) desk s () { desk with session } s' := by
  have htry : Gives (Making.tryWorker w) desk s (.ok names) { desk with session } s' :=
    bind (get desk s) (bind (lift h desk) (bind (a := ()) rfl rfl))
  exact bind htry rfl

end Gives

end UsageGrid.Report
