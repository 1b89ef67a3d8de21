import UsageGrid.Proofs.Dataflow.Tidy
import UsageGrid.Proofs.Library.Shelved
import UsageGrid.Proofs.Report.Make

/-!
# Steps from a desk in a directory

Of a step towards a report it is said here how it ends when it begins at one desk in one directory:
`Turns` describes the outcome, the desk and the directory afterwards, `Ends` a step that does not
fail, and `May` what is so if it does not. All three go through a sequence by the same rule
(`Turns.after`).
-/

namespace UsageGrid.Report

open Dataflow Host

variable {σ α β : Type} {dir : σ → Directory} {desk desk₁ : Desk} {d d₁ : Directory}

/-! ## 1. Outcomes -/

/-- From a desk in a directory a step leads to an outcome, a desk and a directory as described. -/
def Turns (dir : σ → Directory) (desk : Desk) (d : Directory) (x : Making (StateM σ) α)
    (Q : Except ReportError α → Desk → Directory → Prop) : Prop :=
  Leads dir d (x.run.run desk) fun out d' => Q out.1 out.2 d'

/-- A step that does not fail. -/
abbrev Ends (dir : σ → Directory) (desk : Desk) (d : Directory) (x : Making (StateM σ) α)
    (Q : α → Desk → Directory → Prop) : Prop :=
  Turns dir desk d x fun out desk' d' => ∃ a, out = .ok a ∧ Q a desk' d'

/-- What is so if a step does not fail. -/
abbrev May (dir : σ → Directory) (desk : Desk) (d : Directory) (x : Making (StateM σ) α)
    (Q : α → Desk → Directory → Prop) : Prop :=
  Turns dir desk d x fun out desk' d' => ∀ a, out = .ok a → Q a desk' d'

/-- A step that comes out in one way. -/
abbrev Comes (dir : σ → Directory) (desk : Desk) (d : Directory) (x : Making (StateM σ) α) (a : α)
    (desk₁ : Desk) (d₁ : Directory) : Prop :=
  Ends dir desk d x fun b desk' d' => b = a ∧ desk' = desk₁ ∧ d' = d₁

section

variable {x : Making (StateM σ) α} {f : α → Making (StateM σ) β} {Q Q' : α → Desk → Directory → Prop}
  {S : Except ReportError β → Desk → Directory → Prop} {R : β → Desk → Directory → Prop}

namespace Turns

/-- A step and the rest: where the step fails, so does the sequence. -/
theorem bind {P : Except ReportError α → Desk → Directory → Prop} (hx : Turns dir desk d x P)
    (hok : ∀ a desk' d', P (.ok a) desk' d' → Turns dir desk' d' (f a) S)
    (herror : ∀ e desk' d', P (.error e) desk' d' → S (.error e) desk' d') :
    Turns dir desk d (x >>= f) S := by
  intro s hs
  have hstep := hx s hs
  rw [run_bind]
  rcases hrun : (x.run.run desk).run s with ⟨⟨out, desk'⟩, s'⟩
  rw [hrun] at hstep
  cases out with
  | ok a => exact hok a desk' _ hstep s' rfl
  | error e => exact herror e desk' _ hstep

/-- What is said of the rest after a step that does not fail is said of both. -/
theorem after (hx : Ends dir desk d x Q)
    (hf : ∀ a desk' d', Q a desk' d' → Turns dir desk' d' (f a) S) :
    Turns dir desk d (x >>= f) S := by
  refine bind hx ?_ ?_
  · rintro _ desk' d' ⟨a, ha, hQ⟩
    cases ha
    exact hf _ desk' d' hQ
  · rintro _ _ _ ⟨a, ha, -⟩
    cases ha

theorem next {a : α} (hx : Comes dir desk d x a desk₁ d₁) (hf : Turns dir desk₁ d₁ (f a) S) :
    Turns dir desk d (x >>= f) S := by
  refine after hx ?_
  rintro _ _ _ ⟨rfl, rfl, rfl⟩
  exact hf

end Turns

namespace Ends

theorem pure {a : α} (h : Q a desk d) : Ends dir desk d (Pure.pure a : Making (StateM σ) α) Q :=
  Leads.pure ⟨a, rfl, h⟩

theorem mono (hx : Ends dir desk d x Q) (h : ∀ a desk' d', Q a desk' d' → Q' a desk' d') :
    Ends dir desk d x Q' :=
  Leads.mono hx fun _ _ ⟨a, ha, hQ⟩ => ⟨a, ha, h a _ _ hQ⟩

theorem may (hx : Ends dir desk d x Q) : May dir desk d x Q :=
  Leads.mono hx fun _ _ ⟨_, ha, hQ⟩ _ hb => Except.ok.inj (ha.symm.trans hb) ▸ hQ

end Ends

namespace May

theorem pure {a : α} (h : Q a desk d) : May dir desk d (Pure.pure a : Making (StateM σ) α) Q :=
  Leads.pure fun _ hb => Except.ok.inj hb ▸ h

theorem throw (e : ReportError) : May dir desk d (MonadExcept.throw e : Making (StateM σ) α) Q :=
  Leads.pure fun _ h => nomatch h

theorem bind (hx : May dir desk d x Q)
    (hf : ∀ a desk' d', Q a desk' d' → May dir desk' d' (f a) R) : May dir desk d (x >>= f) R :=
  Turns.bind hx (fun a desk' d' h => hf a desk' d' (h a rfl)) fun _ _ _ _ _ h => nomatch h

/-- A result that has to be there. -/
theorem bindExcept {ε : Type} {t : ε → ReportError} {y : Except ε α}
    (hf : ∀ a, y = .ok a → May dir desk d (f a) R) :
    May dir desk d (Making.ofExcept t y >>= f) R := by
  refine bind (Q := fun a desk' d' => y = .ok a ∧ desk' = desk ∧ d' = d)
    (Leads.pure fun a ha => ⟨mapError_eq_ok.1 ha, rfl, rfl⟩) ?_
  rintro a _ _ ⟨ha, rfl, rfl⟩
  exact hf a ha

end May

end

/-! ## 2. Single steps -/

namespace Comes

theorem lift {x : StateM σ α} {a : α} (hx : Leads dir d x fun b d' => b = a ∧ d' = d) :
    Comes dir desk d (liftM x : Making (StateM σ) α) a desk d := by
  show Leads dir d (x >>= fun a => Pure.pure (Except.ok a, desk)) _
  exact hx.bindEq (.pure ⟨a, rfl, rfl, rfl, rfl⟩)

theorem tell [Files (StateM σ)] [Journal (StateM σ)] [Clock (StateM σ)] (hdisk : IsDisk dir)
    (e : Log.Entry) : Comes dir desk d (Journal.add e : Making (StateM σ) Unit) () desk d :=
  lift ((hdisk.add d e).mono fun _ _ h => ⟨rfl, h.2⟩)

theorem ofExcept {ε : Type} {t : ε → ReportError} {y : Except ε α} {a : α} (h : y = .ok a) :
    Comes dir desk d (Making.ofExcept t y : Making (StateM σ) α) a desk d :=
  Leads.pure ⟨a, mapError_eq_ok.2 h, rfl, rfl, rfl⟩

theorem get : Comes dir desk d (MonadState.get : Making (StateM σ) Desk) desk desk d :=
  Leads.pure ⟨desk, rfl, rfl, rfl, rfl⟩

theorem set (desk₁ : Desk) :
    Comes dir desk d (MonadStateOf.set desk₁ : Making (StateM σ) PUnit) ⟨⟩ desk₁ d :=
  Leads.pure ⟨⟨⟩, rfl, rfl, rfl, rfl⟩

theorem keep (k : Kind) (a : k.Data) :
    Comes dir desk d (Making.keep k a : Making (StateM σ) Unit) () (desk.set k a) d :=
  Leads.pure ⟨(), rfl, rfl, rfl, rfl⟩

theorem kept {k : Kind} {a : k.Data} (h : desk.session.store.find? k.name = some ⟨k, a⟩) :
    Comes dir desk d (Making.kept k : Making (StateM σ) k.Data) a desk d :=
  Leads.pure ⟨a, mapError_eq_ok.2 (Store.get_eq_ok.2 h), rfl, rfl, rfl⟩

end Comes

namespace Ends

/-- What the surroundings do. -/
theorem lift {x : StateM σ α} {P : α → Directory → Prop} (hx : Leads dir d x P) :
    Ends dir desk d (liftM x : Making (StateM σ) α) fun a desk' d' => P a d' ∧ desk' = desk := by
  show Leads dir d (x >>= fun a => Pure.pure (Except.ok a, desk)) _
  exact hx.bind fun a d' ha => .pure ⟨a, rfl, ha, rfl⟩

/-- The run of a worker: its failure is an answer. -/
theorem tryWorker [Journal (StateM σ)] {w : Worker (StateM σ)}
    {P : Except DataflowError (List String) × Session → Directory → Prop}
    (hrun : Leads dir d (desk.session.run w) P) :
    Ends dir desk d (Making.tryWorker w) fun out desk' d' =>
      ∃ session, P (out, session) d' ∧ desk' = { desk with session } := by
  refine Turns.next .get (Turns.after (lift hrun) ?_)
  rintro ⟨out, session⟩ _ d' ⟨hP, rfl⟩
  exact Turns.next (.set _) (Ends.pure ⟨session, hP, rfl⟩)

section

variable [Files (StateM σ)] [Journal (StateM σ)] [Clock (StateM σ)] (hdisk : IsDisk dir)

include hdisk

/-- A use of a definition that is in memory and whose file can be written. -/
theorem countUse {T : String → Prop} (htime : Tells dir T) {e : StoredDefinition}
    {p : Directory.Place} {id : String} (hget : desk.library.get id = .ok e)
    (hwrite : d.CanWrite (desk.library.pathOf id) p) (success : Bool) :
    Ends dir desk d (Making.countUse id success : Making (StateM σ) Unit) fun _ desk' d' =>
      ∃ time, T time ∧ desk' = { desk with library := desk.library.put (e.used success time) } ∧
        d' = d.put p (Library.fileOf (e.used success time)) := by
  refine Turns.next .get
    (Turns.after (lift (Library.leads_use_of_canWrite hdisk htime hget hwrite success)) ?_)
  rintro _ _ _ ⟨⟨time, ht, rfl, rfl⟩, rfl⟩
  exact Turns.next (.set _)
    (Ends.mono (Comes.ofExcept rfl) fun _ _ _ h => ⟨time, ht, h.2.1, h.2.2⟩)

end

end Ends

end UsageGrid.Report
