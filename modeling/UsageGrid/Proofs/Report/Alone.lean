import UsageGrid.Proofs.Dataflow.Sessions
import UsageGrid.Proofs.Report.Trying

/-!
# Reports made alone

A report in a session of its own, first by whatever definition is found, then by a document that is
given.
-/

/-!
## A report in a session of its own

The making of a report has three parts: the inputs are laid out (`prepare`), a definition is found,
and the report is read back (`conclude`). Up to where a proposer is asked, none has a part in it
(`make_of_roster`). The session of the report begins empty and ends with it, so that the other
sessions are as before, whether there is a report or not (`sessions_makeAlone`).
-/

namespace UsageGrid.Report

open Dataflow Host Library

/-! ## 1. The parts -/

section

variable {m : Type → Type} [Monad m] [Files m] [Journal m] [Clock m]

/-- Lays out the inputs of a report. -/
def prepare (path : String) (description : Option Description) (o : Options) : Making m Grid := do
  Host.info ("Reading " ++ path)
  let g ← Making.ofExcept .grid (← liftM (Grid.readFile (m := m) path))
  Host.success ("Grid: " ++ toString g.height ++ " rows x " ++ toString g.width ++ " columns")
  Making.keep .file ⟨path⟩
  match description with
  | some description => Making.keep .description description
  | none => pure ()
  Making.keep .note ⟨o.note.getD ""⟩
  pure g

/-- A desk with the inputs of a report. -/
def Desk.filled (desk : Desk) (path : String) (description : Option Description) (o : Options) :
    Desk :=
  let named := desk.set .file ⟨path⟩
  let described := match description with
    | some description => named.set .description description
    | none => named
  described.set .note ⟨o.note.getD ""⟩

/-- The report on what the session holds. -/
def conclude (o : Options) (g : Grid) (origin : Origin) : Making m Report := do
  let definition ← Making.kept .definition
  let table ← Making.kept .table
  let rowErrors ← if o.skipCheck then pure [] else liftM (checkRows (m := m) table)
  pure { table, definition, origin, rowErrors, gridHeight := g.height, gridWidth := g.width }

/-- What is done before a proposer may be asked. -/
def look (folder path : String) (description : Option Description) (o : Options) :
    Making m (Grid × Option String) := do
  let g ← prepare path description o
  let id ← findStored (bareRoster folder) o
  pure (g, id)

/-- What is done after it: the proposer is asked if no stored definition has worked. -/
def proceed (r : Roster m) (o : Options) (g : Grid) : Option String → Making m Report
  | some id => conclude o g (.stored id)
  | none => askProposer r o >>= conclude o g

end

section

variable {σ : Type} [Files (StateM σ)] [Journal (StateM σ)] [Clock (StateM σ)]

theorem make_eq (r : Roster (StateM σ)) (path : String) (description : Option Description)
    (o : Options) :
    make r path description o = prepare path description o >>= fun g =>
      findDefinition r o >>= conclude o g := by
  unfold make prepare conclude
  cases description <;> simp only [bind_assoc, pure_bind]

/-- **What is done first is the same for every proposer.** -/
theorem make_of_roster {ask : Option (Proposal.Proposer (StateM σ))} {po : Proposal.Options}
    {folder : String} {r : Roster (StateM σ)} (hr : roster ask po folder = .ok r) {o : Options}
    (hrules : o.rulesPath = none) (path : String) (description : Option Description) :
    make r path description o
      = look folder path description o >>= fun out => proceed r o out.1 out.2 := by
  rw [make_eq]
  unfold look findDefinition
  rw [hrules, findStored_of_roster hr]
  simp only [bind_assoc, pure_bind]
  refine bind_congr fun g => bind_congr fun id => ?_
  cases id with
  | some id => exact pure_bind _ _
  | none => rfl

/-! ## 2. What lasts -/

variable {α β : Type} {P : Desk → Prop}

/-- Of a desk it lasts through whatever a session does, through uses of definitions in memory that
    are successes, and where a definition is stored under a new id. -/
structure Lasts (P : Desk → Prop) : Prop where
  session : ∀ desk session, session.id = desk.session.id → P desk → P { desk with session }
  succeeded : ∀ (desk : Desk) e time, e ∈ desk.library.list → P desk →
    P { desk with library := desk.library.put (e.used true time) }
  stored : ∀ (desk : Desk) e, e.id ∉ desk.library.ids → e.useCount = 0 → P desk →
    P { desk with library := desk.library.put e }

/-- It lasts through uses that are failures, too. -/
def LastsFailing (P : Desk → Prop) : Prop :=
  ∀ (desk : Desk) e time, e ∈ desk.library.list → P desk →
    P { desk with library := desk.library.put (e.used false time) }

/-- From a desk with a property, every outcome of a step has it. -/
def Stays (P : Desk → Prop) (x : Making (StateM σ) α) : Prop :=
  ∀ desk s, P desk → P ((x.run.run desk).run s).1.2

namespace Stays

variable {x : Making (StateM σ) α} {f : α → Making (StateM σ) β}

omit [Files (StateM σ)] [Journal (StateM σ)] [Clock (StateM σ)]

theorem pure (a : α) : Stays P (Pure.pure a : Making (StateM σ) α) := fun _ _ h => h

theorem throw (e : ReportError) : Stays P (MonadExcept.throw e : Making (StateM σ) α) :=
  fun _ _ h => h

theorem bind (hx : Stays P x) (hf : ∀ a, Stays P (f a)) : Stays P (x >>= f) := by
  intro desk s hdesk
  have hstep := hx desk s hdesk
  rw [run_bind]
  rcases hrun : (x.run.run desk).run s with ⟨⟨out, desk'⟩, s'⟩
  rw [hrun] at hstep
  cases out with
  | ok a => exact hf a desk' s' hstep
  | error e => exact hstep

theorem bindGet {f : Desk → Making (StateM σ) β} (hf : ∀ desk, P desk → Stays P (f desk)) :
    Stays P (MonadState.get >>= f : Making (StateM σ) β) :=
  fun desk s hdesk => hf desk hdesk desk s hdesk

theorem set {desk : Desk} (h : P desk) :
    Stays P (MonadStateOf.set desk : Making (StateM σ) PUnit) := fun _ _ _ => h

theorem lift (x : StateM σ α) : Stays P (liftM x : Making (StateM σ) α) := fun _ _ h => h

theorem turns {dir : σ → Directory} {desk : Desk} {d : Directory} (hx : Stays P x) (hdesk : P desk) :
    Turns dir desk d x fun _ desk' _ => P desk' := fun s _ => hx desk s hdesk

/-- What the surroundings do with the library, and the rest. -/
theorem bindLift {x : StateM σ α} {R : α → Prop} {f : α → Making (StateM σ) β}
    (hx : Keeps (fun _ => True) x R) (hf : ∀ a, R a → Stays P (f a)) :
    Stays P (liftM x >>= f : Making (StateM σ) β) := by
  intro desk s hdesk
  obtain ⟨hR, -⟩ := hx s trivial
  exact hf _ hR desk (x.run s).2 hdesk

theorem ofExcept {ε : Type} (t : ε → ReportError) (y : Except ε α) :
    Stays P (Making.ofExcept t y : Making (StateM σ) α) := fun _ _ h => h

theorem kept (k : Kind) : Stays P (Making.kept k : Making (StateM σ) k.Data) := fun _ _ h => h

variable (hP : Lasts P)

include hP

theorem keep (k : Kind) (a : k.Data) : Stays P (Making.keep k a : Making (StateM σ) Unit) :=
  fun desk _ h => hP.session desk _ rfl h

variable [Journal (StateM σ)]

theorem tryWorker (w : Worker (StateM σ)) : Stays P (Making.tryWorker w) := by
  refine bindGet fun desk hdesk => ?_
  have hid : Keeps (fun _ => True) (desk.session.run w : StateM σ _) fun out =>
      out.2.id = desk.session.id := by
    intro s _
    refine ⟨?_, trivial⟩
    rw [Session.run_fst]
    cases ((desk.session.outputs w).run s).1 <;> rfl
  refine bindLift hid ?_
  rintro ⟨outcome, session⟩ hsame
  exact bind (set (hP.session desk session hsame hdesk)) fun _ => pure _

theorem runWorker (w : Worker (StateM σ)) : Stays P (Making.runWorker w) :=
  (tryWorker hP w).bind fun _ => (ofExcept _ _).bind fun _ => pure _

end Stays

/-! ## 3. Steps through which it lasts -/

omit [Journal (StateM σ)] in
theorem Stays.countUse {success : Bool} (hused : ∀ (desk : Desk) e time, e ∈ desk.library.list →
    P desk → P { desk with library := desk.library.put (e.used success time) }) (id : String) :
    Stays P (Making.countUse id success : Making (StateM σ) Unit) := by
  refine .bindGet fun desk hdesk => .bindLift (use_cases id success) ?_
  rintro ⟨outcome, library⟩ (rfl | ⟨e, he, time, rfl⟩)
  · exact Stays.bind (.set hdesk) fun _ => .ofExcept _ _
  · exact Stays.bind (.set (hused desk e time he hdesk)) fun _ => .ofExcept _ _

section

variable (hP : Lasts P)

include hP

omit [Clock (StateM σ)] in
theorem stays_prepare (path : String) (description : Option Description) (o : Options) :
    Stays P (prepare path description o : Making (StateM σ) Grid) := by
  refine (Stays.lift _).bind fun _ => (Stays.lift _).bind fun _ => (Stays.ofExcept _ _).bind
    fun _ => (Stays.lift _).bind fun _ => (Stays.keep hP _ _).bind fun _ => ?_
  cases description with
  | none => exact (Stays.keep hP _ _).bind fun _ => .pure _
  | some _ => exact (Stays.keep hP _ _).bind fun _ => (Stays.keep hP _ _).bind fun _ => .pure _

omit [Clock (StateM σ)] in
theorem stays_useGiven (r : Roster (StateM σ)) (path : String) : Stays P (useGiven r path) :=
  (Stays.lift _).bind fun _ => (Stays.lift _).bind fun _ => (Stays.ofExcept _ _).bind
    fun _ => (Stays.ofExcept _ _).bind fun _ => (Stays.keep hP _ _).bind fun _ =>
    (Stays.ofExcept _ _).bind fun w => (Stays.runWorker hP w).bind fun _ => .pure _

theorem stays_saveProposed (platforms : List String) :
    Stays P (saveProposed platforms : Making (StateM σ) _) := by
  refine (Stays.kept .definition).bind fun definition => .bindGet fun desk hdesk =>
    .bindLift (save_cases definition platforms) ?_
  rintro ⟨outcome, library⟩ hsaved
  have hdesk' : P { desk with library } := by
    rcases hsaved with rfl | ⟨id, time, hid, rfl⟩
    · exact hdesk
    · exact hP.stored desk _ hid rfl hdesk
  refine Stays.bind (.set hdesk') fun _ => ?_
  cases outcome with
  | ok _ =>
    exact (Stays.countUse hP.succeeded _).bind fun _ => (Stays.lift _).bind fun _ => .pure _
  | error _ => exact (Stays.lift _).bind fun _ => .pure _

theorem stays_askProposer (r : Roster (StateM σ)) (o : Options) : Stays P (askProposer r o) := by
  unfold askProposer
  split
  · exact .throw _
  · rename_i w hw
    refine .bindGet fun desk _ => ?_
    show Stays P (if (desk.session.store.ofKind .description).isEmpty then _ else _)
    split
    · exact .throw _
    · refine (Stays.lift _).bind fun _ => (Stays.runWorker hP w).bind fun _ => ?_
      split
      · exact .pure _
      · exact (stays_saveProposed hP _).bind fun _ => .pure _

omit hP [Files (StateM σ)] [Clock (StateM σ)] in
theorem stays_conclude (o : Options) (g : Grid) (origin : Origin) :
    Stays P (conclude o g origin : Making (StateM σ) _) := by
  refine (Stays.kept _).bind fun _ => (Stays.kept _).bind fun t => ?_
  dsimp only
  split
  · exact .pure _
  · exact (Stays.lift _).bind fun _ => .pure _

variable (hfailing : LastsFailing P)

include hfailing

theorem stays_tryStored (w : Worker (StateM σ)) (e : StoredDefinition) :
    Stays P (tryStored w e) := by
  have hcount (worked : Bool) (entry : Log.Entry) : Stays P (do
      Making.countUse e.id worked
      Journal.add entry
      pure worked : Making (StateM σ) Bool) := by
    have hused : Stays P (Making.countUse e.id worked : Making (StateM σ) Unit) := by
      cases worked with
      | true => exact .countUse hP.succeeded _
      | false => exact .countUse hfailing _
    exact hused.bind fun _ => (Stays.lift _).bind fun _ => .pure worked
  refine (Stays.keep hP _ _).bind fun _ => (Stays.tryWorker hP w).bind fun out => ?_
  cases out with
  | error e => exact hcount false _
  | ok _ =>
    refine (Stays.kept .table).bind fun t => ?_
    show Stays P (if t.isEmpty then _ else _)
    cases t.isEmpty with
    | true => exact hcount false _
    | false => exact hcount true _

theorem stays_tryEach (w : Worker (StateM σ)) (total i : Nat) (ds : List StoredDefinition) :
    Stays P (tryEach w total i ds) := by
  induction ds generalizing i with
  | nil => exact .pure _
  | cons e rest ih =>
    refine (Stays.lift _).bind fun _ => (stays_tryStored hP hfailing w e).bind fun worked => ?_
    cases worked with
    | true => exact .pure _
    | false => exact ih (i + 1)

theorem stays_findStored (r : Roster (StateM σ)) (o : Options) : Stays P (findStored r o) := by
  unfold findStored
  split
  · refine (Stays.keep hP _ _).bind fun _ => (Stays.ofExcept _ _).bind fun w =>
      (Stays.runWorker hP w).bind fun _ => (Stays.kept .platform).bind fun known => ?_
    show Stays P (if !known.known then _ else _)
    cases known.known with
    | false => exact (Stays.lift _).bind fun _ => .pure _
    | true =>
      refine (Stays.lift _).bind fun _ => .bindGet fun desk _ => (Stays.ofExcept _ _).bind fun w =>
        (stays_tryEach hP hfailing w _ 0 _).bind fun found => ?_
      cases found with
      | some found => exact .pure _
      | none => exact (Stays.lift _).bind fun _ => .pure _
  · exact .pure _

theorem stays_make (r : Roster (StateM σ)) (path : String) (description : Option Description)
    (o : Options) : Stays P (make r path description o) := by
  have hfind : Stays P (findDefinition r o) := by
    unfold findDefinition
    split
    · exact stays_useGiven hP r _
    · refine (stays_findStored hP hfailing r o).bind fun found => ?_
      cases found with
      | some found => exact .pure _
      | none => exact stays_askProposer hP r o
  rw [make_eq]
  exact (stays_prepare hP path description o).bind fun g => hfind.bind fun origin =>
    stays_conclude o g origin

end

/-! ## 4. A session of its own -/

/-- What is left when the session of a report ends: its outcome, other sessions and the library. -/
def closing (sessions : Sessions) (out : (Except ReportError Report × Desk) × σ) :
    (Except ReportError Report × Office) × σ :=
  ((out.1.1, ⟨sessions, out.1.2.library⟩), out.2)

/-- The report is made in an empty session, which is not among the others afterwards. -/
theorem run_makeAlone {id : SessionId} {s s' : σ} (hid : (Clock.freshId : StateM σ _).run s = (id, s'))
    (r : Roster (StateM σ)) (office : Office) (path : String) (description : Option Description)
    (o : Options) :
    (makeAlone r office path description o).run s = closing (office.sessions.remove id)
      (((make r path description o).run.run ⟨⟨id, {}⟩, office.library⟩).run s') := by
  have hcreate : (office.sessions.create : StateM σ _).run s
      = ((id, office.sessions.start id), s') := by
    unfold Sessions.create
    rw [StateT.run_bind, hid]
    rfl
  have hmakeIn : (makeIn r { office with sessions := office.sessions.start id } id path description
      o).run s' = (fun out : (Except ReportError Report × Desk) × σ =>
        ((out.1.1, (⟨(office.sessions.start id).update out.1.2.session, out.1.2.library⟩ : Office)),
          out.2)) (((make r path description o).run.run ⟨⟨id, {}⟩, office.library⟩).run s') := by
    unfold makeIn
    rw [Sessions.get_start]
    rfl
  have hlasts : Lasts fun desk => desk.session.id = id :=
    ⟨fun _ _ hsame h => hsame.trans h, fun _ _ _ _ h => h, fun _ _ _ _ h => h⟩
  have hkeeps := stays_make hlasts (fun _ _ _ _ h => h) r path description o
    ⟨⟨id, {}⟩, office.library⟩ s' rfl
  unfold makeAlone
  rw [StateT.run_bind, hcreate]
  show (makeIn r _ id path description o >>= _ : StateM σ _).run s' = _
  rw [StateT.run_bind, hmakeIn]
  generalize ((make r path description o).run.run ⟨⟨id, {}⟩, office.library⟩).run s' = out at hkeeps
  have hremove := (office.sessions.start id).remove_update out.1.2.session
  rw [hkeeps, Sessions.remove_start] at hremove
  show ((out.1.1, (⟨((office.sessions.start id).update out.1.2.session).remove id,
    out.1.2.library⟩ : Office)), out.2) = _
  rw [hremove]
  rfl

/-- **The other sessions are as before**, whatever comes of the report. -/
theorem sessions_makeAlone {office : Office} {s : σ}
    (hfresh : ((Clock.freshId : StateM σ _).run s).1 ∉ office.sessions.ids)
    (r : Roster (StateM σ)) (path : String) (description : Option Description) (o : Options) :
    ((makeAlone r office path description o).run s).1.2.sessions = office.sessions := by
  rw [run_makeAlone rfl]
  exact Sessions.remove_of_not_mem hfresh

/-! ## 5. In a directory -/

section

variable {dir : σ → Directory} (hdisk : IsDisk dir) {desk : Desk} {d : Directory} {path : String}
  {g : Grid}

include hdisk

omit hdisk in
/-- In a tidy session the inputs are laid out where they are looked for. -/
theorem Ready.filled (htidy : desk.session.store.IsTidy) (path : String)
    (description : Option Description) (o : Options) :
    Ready path (desk.filled path description o) := by
  have hready : Ready path (desk.set .file ⟨path⟩) := ⟨htidy.set _ _, desk.find?_set .file _⟩
  cases description with
  | none => exact hready.set (k := .note) (by decide) _
  | some description =>
    exact (hready.set (k := .description) (by decide) _).set (k := .note) (by decide) _

theorem comes_prepare (hgrid : gridIn d path = .ok g) (description : Option Description)
    (o : Options) : Comes dir desk d (prepare path description o) g
      (desk.filled path description o) d := by
  refine Turns.next (.tell hdisk _) (Turns.next (.lift (leads_readGrid hdisk d path)) ?_)
  refine Turns.next (.ofExcept hgrid) (Turns.next (.tell hdisk _) ?_)
  refine Turns.next (.keep .file ⟨path⟩) ?_
  cases description with
  | none => exact Turns.next (.keep .note _) (Ends.pure ⟨rfl, rfl, rfl⟩)
  | some description =>
    exact Turns.next (.keep .description description)
      (Turns.next (.keep .note _) (Ends.pure ⟨rfl, rfl, rfl⟩))

/-- The inputs are laid out in a tidy session. -/
theorem ends_prepare (hgrid : gridIn d path = .ok g) (htidy : desk.session.store.IsTidy)
    (description : Option Description) (o : Options) :
    Ends dir desk d (prepare path description o) fun g' desk' d' =>
      g' = g ∧ Ready path desk' ∧ desk'.library = desk.library ∧ d' = d := by
  refine Ends.mono (comes_prepare hdisk hgrid description o) ?_
  rintro _ _ _ ⟨rfl, rfl, rfl⟩
  refine ⟨rfl, .filled htidy path description o, ?_, rfl⟩
  cases description <;> rfl

/-- A file that is no grid comes to no report. -/
theorem turns_prepare_error {e : GridError} (hgrid : gridIn d path = .error e)
    (description : Option Description) (o : Options) :
    Turns dir desk d (prepare path description o) fun out _ _ => out = .error (.grid e) := by
  refine Turns.next (.tell hdisk _) (Turns.next (.lift (leads_readGrid hdisk d path)) ?_)
  rw [hgrid]
  exact Turns.bind (P := fun out _ _ => out = .error (.grid e)) (Leads.pure rfl)
    (fun _ _ _ h => nomatch h) fun _ _ _ h => Except.error.inj h ▸ rfl

theorem leads_logRows (rows : List (Nat × List String)) :
    Leads dir d (logRows rows) fun _ d' => True ∧ d' = d := by
  induction rows with
  | nil => exact .pure ⟨trivial, rfl⟩
  | cons row rest ih => exact (hdisk.add d _).bindSame fun _ _ => ih

theorem leads_checkRows (t : Table) :
    Leads dir d (checkRows t) fun out d' => out = t.rowErrors ∧ d' = d := by
  unfold checkRows
  dsimp only
  cases t.rowErrors.isEmpty with
  | true => exact (hdisk.add d _).bindSame fun _ _ => .pure ⟨rfl, rfl⟩
  | false =>
    exact (hdisk.add d _).bindSame fun _ _ => (leads_logRows hdisk _).bindSame fun _ _ =>
      .pure ⟨rfl, rfl⟩

/-- **The report is on what the session shows.** -/
theorem comes_conclude {definition : Definition} {t : Table} (hshows : Shows desk definition t)
    (o : Options) (g : Grid) (origin : Origin) :
    Comes dir desk d (conclude o g origin)
      { table := t, definition, origin, rowErrors := if o.skipCheck then [] else t.rowErrors
        gridHeight := g.height, gridWidth := g.width } desk d := by
  refine Turns.next (.kept hshows.definition) (Turns.next (.kept hshows.table) ?_)
  cases o.skipCheck with
  | true => exact Ends.pure ⟨rfl, rfl, rfl⟩
  | false => exact Turns.next (.lift (leads_checkRows hdisk t)) (Ends.pure ⟨rfl, rfl, rfl⟩)

theorem ends_conclude {definition : Definition} {t : Table} (hshows : Shows desk definition t)
    (o : Options) (g : Grid) (origin : Origin) :
    Ends dir desk d (conclude o g origin) fun report desk' d' =>
      (report.table = t ∧ report.definition = definition ∧ report.origin = origin) ∧
        desk' = desk ∧ d' = d :=
  Ends.mono (comes_conclude hdisk hshows o g origin) fun _ _ _ ⟨hreport, hrest⟩ =>
    ⟨hreport ▸ ⟨rfl, rfl, rfl⟩, hrest⟩

variable {folder p : String} {o : Options}

/-- **Before a proposer may be asked, stored definitions are tried.** -/
theorem ends_look {T : String → Prop} (htime : Tells dir T) (hplatform : o.platform = some p) (hstored : o.ignoreStored = false)
    (hgrid : gridIn d path = .ok g) (htidy : desk.session.store.IsTidy)
    (hordered : Ordered desk.library.list)
    (hknown : (found d folder).servingOf p = [] → desk.library.servingOf p = [])
    (hwrite : ∀ e ∈ desk.library.servingOf p, ∃ q, d.CanWrite (desk.library.pathOf e.id) q)
    (description : Option Description) :
    Ends dir desk d (look folder path description o) fun out desk' d' =>
      out.1 = g ∧ ∃ r, Tried T path desk.library d (desk.library.servingOf p) r desk'.library d' ∧
        out.2 = r.map (·.1.id) ∧ Ready path desk' ∧
        ∀ e t, r = some (e, t) → Shows desk' e.definition t := by
  refine Turns.after (ends_prepare hdisk hgrid htidy description o) ?_
  rintro _ desk₁ _ ⟨rfl, hready, hlibrary, rfl⟩
  rw [← hlibrary] at hordered hknown hwrite ⊢
  refine Turns.after (ends_findStored hdisk hplatform hstored htime hready hordered hknown hwrite) ?_
  rintro id desk' d' ⟨r, htried, rfl, hready', hshows⟩
  exact Ends.pure ⟨rfl, r, htried, rfl, hready', hshows⟩

end

end

end UsageGrid.Report

/-!
## Reports by a given document

With a rule document at hand nothing is searched for. The report is what the files come to
(`givenReport`), whatever the library and the other sessions hold, and making it changes no file
(`leads_makeAlone_given`).
-/

namespace UsageGrid.Report

open Dataflow Host Library

/-! ## 1. What the files come to -/

/-- The definition in a file, and its table for a grid. -/
def givenTable (d : Directory) (p : String) (g : Grid) : Option (Definition × Table) := do
  let text ← (d.text p).toOption
  let definition ← (Definition.ofText text).toOption
  let t ← (Table.ofGrid definition g).toOption
  pure (definition, t)

/-- The report of a file by the document in another. -/
def givenReport (d : Directory) (path p : String) (o : Options) : Option Report :=
  (gridIn d path).toOption.bind fun g => (givenTable d p g).map fun (definition, t) =>
    { table := t, definition, origin := .provided p
      rowErrors := if o.skipCheck then [] else t.rowErrors
      gridHeight := g.height, gridWidth := g.width }

/-- A file and a document that work come to a report. -/
theorem givenReport_of_ok {d : Directory} {path p text : String} {o : Options} {g : Grid}
    {definition : Definition} {t : Table} (hgrid : gridIn d path = .ok g)
    (htext : d.text p = .ok text) (hread : Definition.ofText text = .ok definition)
    (ht : Table.ofGrid definition g = .ok t) :
    givenReport d path p o = some { table := t, definition, origin := .provided p
                                    rowErrors := if o.skipCheck then [] else t.rowErrors
                                    gridHeight := g.height, gridWidth := g.width } := by
  unfold givenReport givenTable
  rw [hgrid, htext]
  simp [Except.toOption, hread, ht]

/-- The report is on the table of the definition, checked unless that is not wanted. -/
theorem givenReport_eq_some {d : Directory} {path p : String} {o : Options} {report : Report}
    (h : givenReport d path p o = some report) :
    (∃ g, Table.ofGrid report.definition g = .ok report.table) ∧
      report.rowErrors = if o.skipCheck then [] else report.table.rowErrors := by
  obtain ⟨g, -, h⟩ := Option.bind_eq_some_iff.1 h
  obtain ⟨⟨definition, t⟩, htable, rfl⟩ := Option.map_eq_some_iff.1 h
  obtain ⟨text, -, htable⟩ := Option.bind_eq_some_iff.1 htable
  obtain ⟨definition', -, htable⟩ := Option.bind_eq_some_iff.1 htable
  obtain ⟨t', ht, htable⟩ := Option.bind_eq_some_iff.1 htable
  obtain ⟨rfl, rfl⟩ := Prod.mk.inj (Option.some.inj htable)
  exact ⟨⟨g, toOption_eq_some.1 ht⟩, rfl⟩

/-- An outcome is what is expected: the result, and no file has changed, or else a failure. -/
def Meets {ε α : Type} (expected : Option α) (d : Directory) (out : Except ε α) (d' : Directory) :
    Prop :=
  match expected with
  | some a => out = .ok a ∧ d' = d
  | none => ∃ e, out = .error e

theorem Meets.mapError {ε ε' α : Type} {expected : Option α} {d d' : Directory} {out : Except ε α}
    (h : Meets expected d out d') (t : ε → ε') : Meets expected d (out.mapError t) d' := by
  cases expected with
  | some a => exact ⟨mapError_eq_ok.2 h.1, h.2⟩
  | none =>
    obtain ⟨e, rfl⟩ := h
    exact ⟨t e, rfl⟩

/-! ## 2. A given document -/

section

variable {σ : Type} [Files (StateM σ)] [Journal (StateM σ)] [Clock (StateM σ)]
  {dir : σ → Directory} (hdisk : IsDisk dir) {desk : Desk} {d : Directory} {path folder p : String}
  {o : Options} {g : Grid} {definition : Definition}

include hdisk

/-- An extraction that must not fail leaves the table, or fails. -/
theorem turns_extraction (hready : Ready path desk) (hgrid : gridIn d path = .ok g)
    (hdefinition : desk.session.store.find? Kind.definition.name
      = some ⟨.definition, definition⟩) :
    Turns dir desk d (Making.runWorker extractionWorker) fun out desk' d' =>
      (∃ e e', Table.ofGrid definition g = .error e ∧ out = .error e') ∨
      ∃ t, Table.ofGrid definition g = .ok t ∧ out = .ok () ∧ desk' = desk.set .table t ∧
        d' = d := by
  have htable : tableIn d path definition
      = (Table.ofGrid definition g).mapError WorkerError.extraction := by
    unfold tableIn
    rw [hgrid, mapError_ok, ok_bind]
  refine Turns.after (Ends.tryWorker
    (leads_run_extraction hdisk (hready.gather_extraction hdefinition))) ?_
  rintro out _ d' ⟨session, ⟨rfl, ⟨e, e', he, hout⟩ | ⟨t, names, ht, hout⟩⟩, rfl⟩
  · obtain ⟨rfl, rfl⟩ := Prod.mk.inj hout
    obtain ⟨e, he, -⟩ := mapError_eq_error.1 (htable.symm.trans he)
    exact Leads.pure (.inl ⟨e, _, he, rfl⟩)
  · obtain ⟨rfl, rfl⟩ := Prod.mk.inj hout
    exact Leads.pure (.inr ⟨t, mapError_eq_ok.1 (htable.symm.trans ht), rfl, rfl, rfl⟩)

/-- **A given document is used, or it does not come to a table.** -/
theorem turns_useGiven (hready : Ready path desk) (hgrid : gridIn d path = .ok g) :
    Turns dir desk d (useGiven (bareRoster folder) p) fun out desk' d' =>
      (givenTable d p g = none ∧ ∃ e, out = .error e) ∨
      ∃ definition t, givenTable d p g = some (definition, t) ∧ out = .ok (.provided p) ∧
        Shows desk' definition t ∧ d' = d := by
  unfold givenTable
  refine Turns.next (.tell hdisk _) (Turns.next (.lift (leads_readText hdisk d p)) ?_)
  cases d.text p with
  | error cause => exact Leads.pure (.inl ⟨rfl, _, rfl⟩)
  | ok text =>
    refine Turns.next (.ofExcept rfl) ?_
    cases hread : Definition.ofText text with
    | error e => exact Leads.pure (.inl ⟨by simp [Except.toOption, hread], _, rfl⟩)
    | ok definition =>
      have hset := desk.find?_set .definition definition
      refine Turns.next (.ofExcept rfl) (Turns.next (.keep .definition definition) ?_)
      refine Turns.next (.ofExcept rfl) ?_
      refine Turns.bind (turns_extraction hdisk (hready.set (k := .definition) (by decide) _) hgrid
        hset) ?_ ?_
      · rintro _ desk' d' (⟨_, _, -, h⟩ | ⟨t, ht, -, rfl, rfl⟩)
        · cases h
        · refine Leads.pure (.inr ⟨definition, t, by simp [Except.toOption, hread, ht], rfl, ?_, rfl⟩)
          exact ⟨(Desk.find?_set_of_ne _ (k := .table) t (by decide)).trans hset,
            Desk.find?_set _ .table t⟩
      · rintro e desk' d' (⟨e₁, -, he, -⟩ | ⟨_, -, h, -⟩)
        · exact .inl ⟨by simp [Except.toOption, hread, he], e, rfl⟩
        · cases h

/-! ## 3. Reports -/

variable (hrules : o.rulesPath = some p)

include hrules

/-- In a tidy session the report is what the files come to. -/
theorem turns_make_given (htidy : desk.session.store.IsTidy) (description : Option Description) :
    Turns dir desk d (make (bareRoster folder) path description o) fun out _ d' =>
      Meets (givenReport d path p o) d out d' := by
  rw [make_eq]
  unfold givenReport
  cases hgrid : gridIn d path with
  | error e =>
    refine Turns.bind (turns_prepare_error hdisk hgrid description o) (fun _ _ _ h => nomatch h) ?_
    exact fun e _ _ _ => ⟨e, rfl⟩
  | ok g =>
    refine Turns.next (comes_prepare hdisk hgrid description o) ?_
    unfold findDefinition
    rw [hrules]
    show Turns dir _ d _ fun out _ d' => Meets ((givenTable d p g).map _) d out d'
    refine Turns.bind (turns_useGiven hdisk (.filled htidy path description o) hgrid) ?_ ?_
    · rintro origin desk' d' (⟨-, _, h⟩ | ⟨definition, t, htable, horigin, hshows, rfl⟩)
      · cases h
      · obtain rfl := Except.ok.inj horigin
        rw [htable]
        refine Leads.mono (comes_conclude hdisk hshows o g _) ?_
        rintro _ _ ⟨report, hout, rfl, -, rfl⟩
        exact ⟨hout, rfl⟩
    · rintro e _ _ (⟨hnone, -⟩ | ⟨_, _, -, h, -⟩)
      · rw [hnone]
        exact ⟨e, rfl⟩
      · cases h

/-- **The report of a session of its own is what the files come to**, and no file changes. -/
theorem leads_makeAlone_given (office : Office) (d : Directory) (description : Option Description) :
    Leads dir d (makeAlone (bareRoster folder) office path description o) fun out d' =>
      Meets (givenReport d path p o) d out.1 d' := by
  intro s hs
  rcases hid : (Clock.freshId : StateM σ _).run s with ⟨id, s₀⟩
  have hdir := (hdisk.freshId d s hs).2
  rw [hid] at hdir
  rw [run_makeAlone hid]
  exact turns_make_given hdisk hrules Store.isTidy_empty description s₀ hdir

end

end UsageGrid.Report
