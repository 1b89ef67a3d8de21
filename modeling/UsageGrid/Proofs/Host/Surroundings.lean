import UsageGrid.Host.Basic
import UsageGrid.Host.Held

/-!
# Computations in their surroundings

What a computation keeps of its surroundings, and what it does to the directory in them.
-/

/-!
## Properties that a computation keeps

A computation in surroundings keeps a property of them if it leads from states that have the
property to such states only; with it goes what is then known of the result (`Keeps`). Of a
computation that may fail, the result is described where there is one (`Yields`). The rules for a
step and for a sequence are all that a proof about a program needs.
-/

namespace UsageGrid.Host

variable {σ ε α β : Type}

/-- From every state with the property a computation leads to one, and its result is as
    described. -/
def Keeps (Inv : σ → Prop) (x : StateM σ α) (Q : α → Prop) : Prop :=
  ∀ s, Inv s → Q (x.run s).1 ∧ Inv (x.run s).2

namespace Keeps

variable {Inv : σ → Prop} {x : StateM σ α} {f : α → StateM σ β} {Q Q' : α → Prop} {R : β → Prop}

theorem pure {a : α} (h : Q a) : Keeps Inv (Pure.pure a) Q := fun _ hs => ⟨h, hs⟩

theorem bind (hx : Keeps Inv x Q) (hf : ∀ a, Q a → Keeps Inv (f a) R) : Keeps Inv (x >>= f) R := by
  intro s hs
  obtain ⟨hq, hs'⟩ := hx s hs
  exact hf _ hq _ hs'

theorem mono (hx : Keeps Inv x Q) (h : ∀ a, Q a → Q' a) : Keeps Inv x Q' :=
  fun s hs => ⟨h _ (hx s hs).1, (hx s hs).2⟩

/-- Whatever a computation does. -/
theorem any (x : StateM σ α) : Keeps (fun _ => True) x fun _ => True :=
  fun _ _ => ⟨trivial, trivial⟩

end Keeps

/-- The same of a computation that may fail. -/
def Yields (Inv : σ → Prop) (x : ExceptT ε (StateM σ) α) (Q : α → Prop) : Prop :=
  Keeps Inv x.run fun out => ∀ a, out = .ok a → Q a

namespace Yields

variable {Inv : σ → Prop} {x : ExceptT ε (StateM σ) α} {f : α → ExceptT ε (StateM σ) β}
  {Q : α → Prop} {R : β → Prop}

theorem pure {a : α} (h : Q a) : Yields Inv (Pure.pure a : ExceptT ε (StateM σ) α) Q :=
  Keeps.pure fun _ ha => Except.ok.inj ha ▸ h

theorem bind (hx : Yields Inv x Q) (hf : ∀ a, Q a → Yields Inv (f a) R) :
    Yields Inv (x >>= f) R := by
  show Keeps Inv (x.run >>= ExceptT.bindCont f) _
  refine Keeps.bind hx fun out hout => ?_
  cases out with
  | error e => exact .pure fun _ h => nomatch h
  | ok a => exact hf a (hout a rfl)

/-- A result that is there already. -/
theorem ofExcept {y : Except ε α} (h : ∀ a, y = .ok a → Q a) :
    Yields Inv (liftM y : ExceptT ε (StateM σ) α) Q := Keeps.pure h

/-- A computation that ends with a result. -/
theorem mk {y : StateM σ (Except ε α)} (h : Keeps Inv y fun out => ∀ a, out = .ok a → Q a) :
    Yields Inv (ExceptT.mk y) Q := h

end Yields

theorem run_liftM_ok (a : α) (s : σ) :
    (liftM (.ok a : Except ε α) : ExceptT ε (StateM σ) α).run.run s = (.ok a, s) := rfl

/-- A step without a failure leaves the rest to be run. -/
theorem run_bind_of_ok {x : ExceptT ε (StateM σ) α} (f : α → ExceptT ε (StateM σ) β) {a : α}
    {s s' : σ} (h : x.run.run s = (.ok a, s')) :
    (x >>= f).run.run s = (f a).run.run s' := by
  rw [ExceptT.run_bind, StateT.run_bind, h]
  rfl

/-- A sequence comes out well if and only if each of its steps does. -/
theorem run_bind_eq_ok {x : ExceptT ε (StateM σ) α} {f : α → ExceptT ε (StateM σ) β} {b : β}
    {s s' : σ} : (x >>= f).run.run s = (.ok b, s') ↔
      ∃ a s₁, x.run.run s = (.ok a, s₁) ∧ (f a).run.run s₁ = (.ok b, s') := by
  constructor
  · intro h
    rw [ExceptT.run_bind, StateT.run_bind] at h
    rcases hx : x.run.run s with ⟨_ | a, s₁⟩
    · rw [hx] at h
      cases h
    · rw [hx] at h
      exact ⟨a, s₁, rfl, h⟩
  · rintro ⟨a, s₁, hx, hf⟩
    exact (run_bind_of_ok f hx).trans hf

end UsageGrid.Host

/-!
## Surroundings with a directory

Much can go on in surroundings. Of some it is known that their files are those of a directory, and
that nothing but what is done with files changes it (`IsDisk`); so it is where everything is held as
a value (`Held.isDisk`), and where there is nothing but a directory (`isDisk_id`). What a computation
does to the directory is said of its result and of the directory afterwards (`Leads`).
-/

namespace UsageGrid

/-- The directory after a change that may fail, with the outcome. -/
def Directory.settle (d : Directory) :
    Except Directory.Cause Directory → Except Directory.Cause Unit × Directory
  | .ok d' => (.ok (), d')
  | .error cause => (.error cause, d)

namespace Host

variable {σ α β : Type} {dir : σ → Directory} {d : Directory}

/-! ## 1. From directory to directory -/

/-- From every state with a directory a computation leads to a result and a directory as
    described. -/
def Leads (dir : σ → Directory) (d : Directory) (x : StateM σ α) (Q : α → Directory → Prop) : Prop :=
  ∀ s, dir s = d → Q (x.run s).1 (dir (x.run s).2)

namespace Leads

variable {x : StateM σ α} {f : α → StateM σ β} {Q Q' : α → Directory → Prop}
  {R : β → Directory → Prop}

theorem pure {a : α} (h : Q a d) : Leads dir d (Pure.pure a) Q := fun _ hs => hs ▸ h

theorem bind (hx : Leads dir d x Q) (hf : ∀ a d', Q a d' → Leads dir d' (f a) R) :
    Leads dir d (x >>= f) R :=
  fun s hs => hf _ _ (hx s hs) _ rfl

theorem mono (hx : Leads dir d x Q) (h : ∀ a d', Q a d' → Q' a d') : Leads dir d x Q' :=
  fun s hs => h _ _ (hx s hs)

/-- A step that leaves the directory, and whose result is known. -/
theorem bindEq {a : α} (hx : Leads dir d x fun b d' => b = a ∧ d' = d)
    (hf : Leads dir d (f a) R) : Leads dir d (x >>= f) R := by
  refine hx.bind ?_
  rintro _ _ ⟨rfl, rfl⟩
  exact hf

/-- A step that leaves the directory. -/
theorem bindSame {P : α → Prop} (hx : Leads dir d x fun b d' => P b ∧ d' = d)
    (hf : ∀ a, P a → Leads dir d (f a) R) : Leads dir d (x >>= f) R := by
  refine hx.bind ?_
  rintro a _ ⟨ha, rfl⟩
  exact hf a ha

end Leads

/-! ## 2. Files in a directory -/

/-- The files are those of a directory, and nothing else changes it. A stamp is made of digits. -/
structure IsDisk [Files (StateM σ)] [Journal (StateM σ)] [Clock (StateM σ)]
    (dir : σ → Directory) : Prop where
  read : ∀ d path, Leads dir d (Files.read path) fun out d' => out = d.read path ∧ d' = d
  names : ∀ d path, Leads dir d (Files.names path) fun out d' => out = d.names path ∧ d' = d
  write : ∀ d path content, Leads dir d (Files.write path content) fun out d' =>
    (out, d') = d.settle (d.write path content)
  makeFolders : ∀ d path, Leads dir d (Files.makeFolders path) fun out d' =>
    (d', out) = d.makeFolders path
  remove : ∀ d path, Leads dir d (Files.remove path) fun out d' =>
    (out, d') = d.settle (d.remove path)
  add : ∀ d e, Leads dir d (Journal.add e) fun _ d' => True ∧ d' = d
  time : ∀ d, Leads dir d Clock.time fun _ d' => True ∧ d' = d
  stamp : ∀ d, Leads dir d Clock.stamp fun out d' => (∀ c ∈ out.toList, c.isDigit = true) ∧ d' = d
  freshId : ∀ d, Leads dir d Clock.freshId fun _ d' => True ∧ d' = d

/-- The times that the clock tells are as described. -/
def Tells [Clock (StateM σ)] (dir : σ → Directory) (T : String → Prop) : Prop :=
  ∀ d, Leads dir d Clock.time fun time d' => T time ∧ d' = d

/-! ## 3. A directory that is held -/

namespace Held

theorem leads_look {γ : Type} (f : Directory → γ) (d : Directory) :
    Leads Held.directory d (look f) fun out d' => out = f d ∧ d' = d :=
  fun _ hs => ⟨congrArg f hs, hs⟩

theorem run_change (f : Directory → Except Directory.Cause Directory) (h : Held) :
    (change f).run h = match f h.directory with
      | .ok d => (.ok (), { h with directory := d })
      | .error cause => (.error cause, h) := by
  show (match f h.directory with
    | .ok d => do
      set { h with directory := d }
      pure (.ok ())
    | .error cause => pure (.error cause) :
    StateM Held (Except Directory.Cause Unit)).run h = _
  cases f h.directory <;> rfl

theorem leads_change (f : Directory → Except Directory.Cause Directory) (d : Directory) :
    Leads Held.directory d (change f) fun out d' => (out, d') = d.settle (f d) := by
  rintro h rfl
  rw [run_change]
  cases f h.directory <;> rfl

theorem isDisk : IsDisk Held.directory where
  read d path := leads_look _ d
  names d path := leads_look _ d
  write d path content := leads_change _ d
  makeFolders d path := by
    rintro h rfl
    rfl
  remove d path := leads_change _ d
  add d e := fun _ hs => ⟨trivial, hs⟩
  time d := fun _ hs => ⟨trivial, hs⟩
  stamp d := by
    rintro h rfl
    refine ⟨fun c hc => ?_, rfl⟩
    have hdigits : (toString h.milliseconds).toList = Nat.toDigits 10 h.milliseconds :=
      String.toList_ofList
    exact Nat.isDigit_of_mem_toDigits (by decide) (by decide) (hdigits ▸ hc)
  freshId d := fun _ hs => ⟨trivial, hs⟩

end Held

/-! ## 4. A directory alone -/

instance : Files (StateM Directory) where
  read path := do pure ((← get).read path)
  write path content := do
    let d ← get
    let (outcome, d) := d.settle (d.write path content)
    set d
    pure outcome
  makeFolders path := do
    let (d, outcome) := (← get).makeFolders path
    set d
    pure outcome
  names path := do pure ((← get).names path)
  remove path := do
    let d ← get
    let (outcome, d) := d.settle (d.remove path)
    set d
    pure outcome
  isThere path := do pure ((← get).isThere path)

instance : Journal (StateM Directory) where
  add _ := pure ()
  mute := pure ()

/-- No time passes. -/
instance : Clock (StateM Directory) where
  time := pure ""
  stamp := pure "0"
  freshId := pure ⟨0⟩

theorem isDisk_id : IsDisk fun d : Directory => d where
  read d path := fun _ hs => ⟨congrArg (·.read path) hs, hs⟩
  names d path := fun _ hs => ⟨congrArg (·.names path) hs, hs⟩
  write d path content := by
    rintro _ rfl
    rfl
  makeFolders d path := by
    rintro _ rfl
    rfl
  remove d path := by
    rintro _ rfl
    rfl
  add d e := fun _ hs => ⟨trivial, hs⟩
  time d := fun _ hs => ⟨trivial, hs⟩
  stamp d := fun _ hs => ⟨List.all_eq_true.1 (by decide : "0".toList.all Char.isDigit = true), hs⟩
  freshId d := fun _ hs => ⟨trivial, hs⟩

theorem tells_id : Tells (fun d : Directory => d) (· = "") := fun _ _ hs => ⟨rfl, hs⟩

theorem leads_stamp (d : Directory) :
    Leads (fun d : Directory => d) d Clock.stamp fun out d' => out = "0" ∧ d' = d :=
  fun _ hs => ⟨rfl, hs⟩

end Host

end UsageGrid
