import UsageGrid.Proofs.Grid.Load
import UsageGrid.Proofs.Library.Stable
import UsageGrid.Proofs.Report.Making
import UsageGrid.Rules.Example

/-!
# Reports are consistent

A report is read back from the session that it was made in, which stored definitions, earlier tries
and earlier reports have written to before. Whichever way the definition is found, what the session
holds in the end is the definition of the report and the table of that definition
(`makes_findDefinition`); so the report says nothing but what is true of its file
(`make_consistent`).
-/

namespace UsageGrid.Report

open Dataflow Host

/-! ## 1. What a desk holds -/

/-- The session holds the file of the report, and the library is in its folder. -/
structure Holds (path folder : String) (desk : Desk) : Prop where
  file : desk.session.store.find? Kind.file.name = some ⟨.file, ⟨path⟩⟩
  folder : desk.library.path = folder

/-- The session holds a definition, and its table for the grid. -/
def Settled (g : Grid) (desk : Desk) : Prop :=
  ∃ d t, desk.session.store.find? Kind.definition.name = some ⟨.definition, d⟩ ∧
    desk.session.store.find? Kind.table.name = some ⟨.table, t⟩ ∧ Table.ofGrid d g = .ok t

namespace Desk

/-- The desk after data of a kind have been written. -/
def set (desk : Desk) (k : Kind) (d : k.Data) : Desk :=
  { desk with session := { desk.session with store := desk.session.store.set (.ofData k d) } }

theorem find?_set (desk : Desk) (k : Kind) (d : k.Data) :
    (desk.set k d).session.store.find? k.name = some ⟨k, d⟩ :=
  desk.session.store.find?_set_ofData k d

theorem find?_set_of_ne (desk : Desk) {j k : Kind} (d : k.Data) (h : j ≠ k) :
    (desk.set k d).session.store.find? j.name = desk.session.store.find? j.name :=
  desk.session.store.find?_set_ofData_of_ne d h

end Desk

variable {σ : Type} {Inv : σ → Prop} {path folder : String} {g : Grid}

/-- Data of another kind leave the file where it is. -/
theorem Holds.set {desk : Desk} (h : Holds path folder desk) {k : Kind} (hk : Kind.file ≠ k)
    (d : k.Data) : Holds path folder (desk.set k d) :=
  ⟨(desk.find?_set_of_ne d hk).trans h.file, h.folder⟩

theorem Holds.withLibrary {desk : Desk} (h : Holds path folder desk) {library : Library}
    (hl : library.path = folder) : Holds path folder { desk with library } := ⟨h.file, hl⟩

/-- A table that is written for the definition at hand settles the session. -/
theorem settled_set_table {desk : Desk} {d : Definition} {t : Table}
    (hd : desk.session.store.find? Kind.definition.name = some ⟨.definition, d⟩)
    (ht : Table.ofGrid d g = .ok t) : Settled g (desk.set .table t) :=
  ⟨d, t, (desk.find?_set_of_ne (k := .table) t (by decide)).trans hd, desk.find?_set .table t, ht⟩

/-! ## 2. The roster -/

section

variable [Files (StateM σ)] [Journal (StateM σ)]
  {ask : Option (Proposal.Proposer (StateM σ))} {po : Proposal.Options} {libraryPath : String}
  {r : Roster (StateM σ)} (hr : roster ask po libraryPath = .ok r)

include hr

theorem workers_of_roster :
    r.workers = [extractionWorker, platformWorker libraryPath]
      ++ (ask.map fun ask => proposalWorker ask po true).toList := by
  unfold roster Roster.ofList at hr
  obtain ⟨_, -, hr⟩ := bind_eq_ok.1 hr
  obtain ⟨_, -, hr⟩ := bind_eq_ok.1 hr
  rw [← pure_eq_ok.1 hr]

theorem roster_extraction :
    r.get extractionName = .ok extractionWorker := by
  unfold Roster.get
  rw [workers_of_roster hr]
  rfl

theorem roster_platform :
    r.get platformName = .ok (platformWorker libraryPath) := by
  unfold Roster.get
  rw [workers_of_roster hr]
  rfl

theorem roster_proposal :
    r.get proposalName = match ask with
      | some ask => .ok (proposalWorker ask po true)
      | none => .error (.unknownWorker proposalName) := by
  unfold Roster.get
  rw [workers_of_roster hr]
  cases ask <;> rfl

end

/-! ## 3. A worker's part -/

section

variable [Files (StateM σ)] [Journal (StateM σ)] [Clock (StateM σ)]
  (hstable : Library.Stable Inv folder)
  (hgrid : Keeps Inv (Grid.readFile path : StateM σ _) (· = .ok g))

include hgrid

omit [Journal (StateM σ)] [Clock (StateM σ)] in
/-- The extraction worker is handed the file and the definition that the desk holds. -/
theorem yields_extraction {d : Definition} {desk : Desk} (h : Holds path folder desk)
    (hd : desk.session.store.find? Kind.definition.name = some ⟨.definition, d⟩)
    (inputs : Inputs) (hgather : Session.gather extractionName desk.session.store
      [.file, .definition] = .ok inputs) :
    Yields Inv (extractionWorker.run inputs : StateM σ _) fun artifacts =>
      ∃ t, artifacts = [.ofData .table t] ∧ Table.ofGrid d g = .ok t := by
  refine Keeps.mono (yields_extract hgrid (gather_find? hgather (by decide) h.file)
    (gather_find? hgather (by decide) hd)) fun out hout artifacts ha => ?_
  obtain ⟨_, t, hg, hartifacts, ht⟩ := hout artifacts ha
  obtain rfl := Except.ok.inj hg
  exact ⟨t, hartifacts, ht⟩

include hstable

/-- **After an extraction that must not fail the session is settled.** -/
theorem makes_extraction (d : Definition) :
    Makes Inv (fun desk => Holds path folder desk ∧
        desk.session.store.find? Kind.definition.name = some ⟨.definition, d⟩)
      (Making.runWorker extractionWorker : Making (StateM σ) Unit)
      fun _ desk => Holds path folder desk ∧ Settled g desk := by
  refine Makes.runWorker hstable.add
    (fun _ h inputs hgather => yields_extraction hgrid h.1 h.2 inputs hgather) ?_
  rintro _ desk ⟨t, rfl, ht⟩ ⟨hholds, hd⟩
  exact ⟨hholds.set (k := .table) (by decide) t, settled_set_table hd ht⟩

/-! ## 4. Stored definitions -/

omit hgrid in
/-- Counting a use of a definition leaves a settled session settled. -/
theorem makes_countUse (id : String) (success : Bool) :
    Makes Inv (fun desk => Holds path folder desk ∧ Settled g desk)
      (Making.countUse id success : Making (StateM σ) Unit)
      fun _ desk => Holds path folder desk ∧ Settled g desk :=
  .countUse hstable (fun _ h => h.1.folder) (fun _ _ hl h => ⟨h.1.withLibrary hl, h.2⟩) id success

omit hgrid in
/-- A stored definition that has not worked is no reason to take the session for settled. -/
theorem makes_reject (id text : String) :
    Makes Inv (Holds path folder)
      (do
        Making.countUse id false
        Host.warning text
        pure false : Making (StateM σ) Bool)
      fun worked desk => Holds path folder desk ∧ (worked = true → Settled g desk) := by
  refine Makes.bind (Makes.countUse hstable (fun _ h => h.folder)
    (fun _ _ hl h => h.withLibrary hl) id false) fun _ => ?_
  refine Makes.bind (Makes.tell hstable.add _) fun _ => ?_
  exact .pure fun _ h => ⟨h, fun hfalse => nomatch hfalse⟩

/-- A stored definition that has worked has settled the session, whatever has been tried before. -/
theorem makes_tryStored (d : StoredDefinition) :
    Makes Inv (Holds path folder) (tryStored extractionWorker d : Making (StateM σ) Bool)
      fun worked desk => Holds path folder desk ∧ (worked = true → Settled g desk) := by
  refine Makes.bind (Makes.keep .definition d.definition (R := fun desk =>
    Holds path folder desk ∧ desk.session.store.find? Kind.definition.name
      = some ⟨.definition, d.definition⟩) fun desk h =>
    ⟨h.set (k := .definition) (by decide) d.definition, desk.find?_set .definition _⟩) fun _ => ?_
  refine Makes.bind (Q := fun out desk => Holds path folder desk ∧
    ∀ names, out = .ok names → Settled g desk)
    (Makes.tryWorker hstable.add
      (fun _ h inputs hgather => yields_extraction hgrid h.1 h.2 inputs hgather)
      (fun e desk h => ⟨h.1, fun _ h => nomatch h⟩) ?_) fun out => ?_
  · rintro names _ desk ⟨t, rfl, ht⟩ ⟨hholds, hd⟩
    exact ⟨hholds.set (k := .table) (by decide) t, fun _ _ => settled_set_table hd ht⟩
  -- a failed run leaves the table of an earlier one beside the new definition
  cases out with
  | error e => exact (makes_reject hstable _ _).weaken fun _ h => h.1
  | ok names =>
    refine Makes.bind (Makes.kept .table) fun table => ?_
    show Makes Inv _ (if table.isEmpty then _ else _) _
    cases table.isEmpty with
    | true => exact (makes_reject hstable _ _).weaken fun _ h => h.1.1
    | false =>
      refine Makes.bind ((makes_countUse hstable d.id true).weaken
        fun _ h => ⟨h.1.1, h.1.2 names rfl⟩) fun _ => ?_
      refine Makes.bind (Makes.tell hstable.add _) fun _ => ?_
      exact .pure fun _ h => ⟨h.1, fun _ => h.2⟩

theorem makes_tryEach (total i : Nat) (ds : List StoredDefinition) :
    Makes Inv (Holds path folder)
      (tryEach extractionWorker total i ds : Making (StateM σ) (Option String))
      fun id desk => Holds path folder desk ∧ (id.isSome = true → Settled g desk) := by
  induction ds generalizing i with
  | nil => exact .pure fun _ h => ⟨h, fun hnone => nomatch hnone⟩
  | cons d rest ih =>
    refine Makes.bind (Makes.tell hstable.add _) fun _ => ?_
    refine Makes.bind (makes_tryStored hstable hgrid d) fun worked => ?_
    cases worked with
    | true => exact .pure fun _ h => ⟨h.1, fun _ => h.2 rfl⟩
    | false => exact (ih (i + 1)).weaken fun _ h => h.1

section

variable {ask : Option (Proposal.Proposer (StateM σ))} {po : Proposal.Options}
  {libraryPath : String} {r : Roster (StateM σ)} (hr : roster ask po libraryPath = .ok r)

include hr

theorem makes_tryPlatform (platform : String) :
    Makes Inv (Holds path folder) (tryPlatform r platform)
      fun id desk => Holds path folder desk ∧ (id.isSome = true → Settled g desk) := by
  unfold tryPlatform
  rw [roster_platform hr, roster_extraction hr]
  refine Makes.bind (Makes.keep .platform { name := platform } (R := Holds path folder)
    fun desk h => h.set (k := .platform) (by decide) _) fun _ => ?_
  refine Makes.bindOk ?_
  refine Makes.bind (Makes.runWorker hstable.add (R := Holds path folder)
    (fun _ _ inputs _ => yields_lookUp hstable libraryPath inputs) ?_) fun _ => ?_
  · rintro _ desk ⟨p, rfl⟩ h
    exact h.set (k := .platform) (by decide) p
  refine Makes.bind (Makes.kept .platform) fun known => ?_
  refine Makes.weaken ?_ fun _ h => h.1
  show Makes Inv _ (if !known.known then _ else _) _
  cases known.known with
  | false =>
    refine Makes.bind (Makes.tell hstable.add _) fun _ => ?_
    exact .pure fun _ h => ⟨h, fun hnone => nomatch hnone⟩
  | true =>
    refine Makes.bind (Makes.tell hstable.add _) fun _ => ?_
    refine Makes.bind Makes.get fun desk => ?_
    refine Makes.weaken (Makes.bindOk ?_) fun _ h => h.2
    refine Makes.bind (makes_tryEach hstable hgrid _ 0 _) fun id => ?_
    cases id with
    | some id => exact .pure fun _ h => h
    | none =>
      refine Makes.bind (Makes.tell hstable.add _) fun _ => ?_
      exact .pure fun _ h => ⟨h.1, fun hnone => nomatch hnone⟩

/-! ## 5. Given and proposed documents -/

theorem makes_useGiven (p : String) :
    Makes Inv (Holds path folder) (useGiven r p)
      fun _ desk => Holds path folder desk ∧ Settled g desk := by
  unfold useGiven
  rw [roster_extraction hr]
  refine Makes.bind (Makes.tell hstable.add _) fun _ => ?_
  refine Makes.bind (Q := fun _ => Holds path folder)
    (Makes.lift (Library.keeps_readText hstable p) fun _ _ _ h => h) fun text => ?_
  refine Makes.bind (Q := fun _ => Holds path folder) (.ofExcept fun _ _ _ h => h) fun text => ?_
  refine Makes.bind (Q := fun _ => Holds path folder) (.ofExcept fun _ _ _ h => h) fun d => ?_
  refine Makes.bind (Makes.keep .definition d (R := fun desk => Holds path folder desk ∧
    desk.session.store.find? Kind.definition.name = some ⟨.definition, d⟩) fun desk h =>
      ⟨h.set (k := .definition) (by decide) d, desk.find?_set .definition d⟩) fun _ => ?_
  refine Makes.bindOk ?_
  exact (makes_extraction hstable hgrid d).bind fun _ => .pure fun _ h => h

omit hr hgrid in
/-- Saving a definition leaves the session settled. -/
theorem makes_saveProposed (platforms : List String) :
    Makes Inv (fun desk => Holds path folder desk ∧ Settled g desk)
      (saveProposed platforms : Making (StateM σ) (Option String))
      fun _ desk => Holds path folder desk ∧ Settled g desk := by
  refine Makes.bind (Makes.kept .definition) fun d => ?_
  refine Makes.weaken ?_ fun _ h => h.1
  refine Makes.bind Makes.get fun desk => ?_
  refine Makes.ofKnown (p := Holds path folder desk ∧ Settled g desk) (fun _ h => h.1 ▸ h.2) ?_
  intro hdesk
  refine Makes.bind (Q := fun out _ => out.2.path = folder)
    (Makes.lift (Library.keeps_save hstable hdesk.1.folder d platforms) fun _ h _ _ => h) ?_
  rintro ⟨outcome, library⟩
  refine Makes.bind (Makes.set (R := fun desk => Holds path folder desk ∧ Settled g desk)
    fun _ hl => ⟨hdesk.1.withLibrary hl, hdesk.2⟩) fun _ => ?_
  cases outcome with
  | ok id =>
    refine Makes.bind (makes_countUse hstable id true) fun _ => ?_
    exact Makes.bind (Makes.tell hstable.add _) fun _ => .pure fun _ h => h
  | error e => exact Makes.bind (Makes.tell hstable.add _) fun _ => .pure fun _ h => h

variable (hask : ∀ a ∈ ask, ∀ request, Keeps Inv (a request) fun _ => True)

include hask

theorem makes_askProposer (o : Options) :
    Makes Inv (Holds path folder) (askProposer r o)
      fun _ desk => Holds path folder desk ∧ Settled g desk := by
  unfold askProposer
  rw [roster_proposal hr]
  cases ask with
  | none => exact .throw _
  | some a =>
    have hneeds : Kind.file ∈ (proposalWorker a po true).needs :=
      List.mem_cons_of_mem _ List.mem_cons_self
    refine Makes.bind Makes.get fun desk => ?_
    show Makes Inv _ (if (desk.session.store.ofKind .description).isEmpty then _ else _) _
    cases (desk.session.store.ofKind .description).isEmpty with
    | true => exact .throw _
    | false =>
      refine Makes.weaken ?_ fun _ h => h.2
      refine Makes.bind (Makes.tell hstable.add _) fun _ => ?_
      refine Makes.bind (Makes.runWorker hstable.add
        (R := fun desk => Holds path folder desk ∧ Settled g desk)
        (fun desk h inputs hgather => yields_propose hgrid hstable.add (hask a rfl) po
          (gather_find? hgather hneeds h.file)) ?_) fun _ => ?_
      -- definition and table are written by one run
      · rintro _ desk ⟨_, outcome, hg, houtcome, rfl⟩ h
        obtain rfl := Except.ok.inj hg
        have hd := desk.find?_set .definition outcome.definition
        exact ⟨(h.set (k := .definition) (by decide) _).set (k := .table) (by decide) _,
          settled_set_table hd houtcome.ofGrid⟩
      show Makes Inv _ (if o.doNotSave then _ else _) _
      cases o.doNotSave with
      | true => exact .pure fun _ h => h
      | false =>
        exact Makes.bind (makes_saveProposed hstable _) fun _ => .pure fun _ h => h

/-- **Whichever way a definition is found, the session is settled afterwards.** -/
theorem makes_findDefinition (o : Options) :
    Makes Inv (Holds path folder) (findDefinition r o)
      fun _ desk => Holds path folder desk ∧ Settled g desk := by
  have hstored : Makes Inv (Holds path folder) (findStored r o)
      fun id desk => Holds path folder desk ∧ (id.isSome = true → Settled g desk) := by
    unfold findStored
    split
    · exact makes_tryPlatform hstable hgrid hr _
    · exact .pure fun _ h => ⟨h, fun hnone => nomatch hnone⟩
  unfold findDefinition
  cases o.rulesPath with
  | some p => exact makes_useGiven hstable hgrid hr p
  | none =>
    refine Makes.bind hstored fun id => ?_
    cases id with
    | some id => exact .pure fun _ h => ⟨h.1, h.2 rfl⟩
    | none => exact (makes_askProposer hstable hgrid hr hask o).weaken fun _ h => h.1

end

end

/-! ## 6. Reports -/

section

variable [Journal (StateM σ)]
  (hadd : ∀ e, Keeps Inv (Journal.add e : StateM σ _) fun _ => True)

include hadd

theorem keeps_logRows (rows : List (Nat × List String)) :
    Keeps Inv (logRows rows : StateM σ _) fun _ => True := by
  induction rows with
  | nil => exact .pure trivial
  | cons row rest ih => exact (hadd _).bind fun _ _ => ih

theorem keeps_checkRows (t : Table) :
    Keeps Inv (checkRows t : StateM σ _) (· = t.rowErrors) := by
  unfold checkRows
  dsimp only
  cases t.rowErrors.isEmpty with
  | true => exact (hadd _).bind fun _ _ => .pure rfl
  | false =>
    exact (hadd _).bind fun _ _ => (keeps_logRows hadd _).bind fun _ _ => .pure rfl

end

/-- A report that says of its grid what is so, and that the session agrees with. -/
structure Consistent (o : Options) (g : Grid) (report : Report) (session : Session) : Prop where
  table : Table.ofGrid report.definition g = .ok report.table
  height : report.gridHeight = g.height
  width : report.gridWidth = g.width
  rowErrors : report.rowErrors = if o.skipCheck then [] else report.table.rowErrors
  definitionKept : session.store.find? Kind.definition.name
    = some ⟨.definition, report.definition⟩
  tableKept : session.store.find? Kind.table.name = some ⟨.table, report.table⟩

/-- What a settled session holds is what a report may say. -/
theorem consistent_of_settled {o : Options} {desk : Desk} {d : Definition} {t : Table}
    {origin : Origin} {errors : List (Nat × List String)} (hsettled : Settled g desk)
    (hd : desk.session.store.find? Kind.definition.name = some ⟨.definition, d⟩)
    (ht : desk.session.store.find? Kind.table.name = some ⟨.table, t⟩)
    (herrors : errors = if o.skipCheck then [] else t.rowErrors) :
    Consistent o g ⟨t, d, origin, errors, g.height, g.width⟩ desk.session := by
  obtain ⟨d', t', hd', ht', htable⟩ := hsettled
  rw [hd] at hd'
  rw [ht] at ht'
  cases hd'
  cases ht'
  exact ⟨htable, rfl, rfl, herrors, hd, ht⟩

section

variable [Files (StateM σ)] [Journal (StateM σ)] [Clock (StateM σ)]
  {ask : Option (Proposal.Proposer (StateM σ))} {po : Proposal.Options}
  {libraryPath : String} {r : Roster (StateM σ)} (hr : roster ask po libraryPath = .ok r)
  (hstable : Library.Stable Inv folder)
  (hask : ∀ a ∈ ask, ∀ request, Keeps Inv (a request) fun _ => True)

include hr hstable hask

/-- What follows once the session holds the file. -/
theorem makes_fromFile (hgrid : Keeps Inv (Grid.readFile path : StateM σ _) (· = .ok g))
    (o : Options) :
    Makes Inv (Holds path folder) (do
      Making.keep .note ⟨o.note.getD ""⟩
      let origin ← findDefinition r o
      let definition ← Making.kept .definition
      let table ← Making.kept .table
      let rowErrors ← if o.skipCheck then pure [] else liftM (checkRows (m := StateM σ) table)
      pure { table, definition, origin, rowErrors, gridHeight := g.height, gridWidth := g.width })
      fun report desk => Consistent o g report desk.session := by
  refine Makes.bind (Makes.keep .note _ (R := Holds path folder) fun desk h =>
    h.set (k := .note) (by decide) _) fun _ => ?_
  refine Makes.bind (makes_findDefinition hstable hgrid hr hask o) fun origin => ?_
  refine Makes.bind (Makes.kept .definition) fun d => Makes.bind (Makes.kept .table) fun t => ?_
  have hfinish : ∀ errors, errors = (if o.skipCheck then [] else t.rowErrors) →
      Makes Inv (fun desk => ((Holds path folder desk ∧ Settled g desk) ∧
          desk.session.store.find? Kind.definition.name = some ⟨.definition, d⟩) ∧
          desk.session.store.find? Kind.table.name = some ⟨.table, t⟩)
        (pure ⟨t, d, origin, errors, g.height, g.width⟩ : Making (StateM σ) Report)
        fun report desk => Consistent o g report desk.session :=
    fun errors herrors => .pure fun desk h => consistent_of_settled h.1.1.2 h.1.2 h.2 herrors
  dsimp only
  split
  · rename_i hskip
    exact hfinish [] (by rw [if_pos hskip])
  · rename_i hskip
    refine Makes.bindLift (keeps_checkRows hstable.add t) ?_
    exact hfinish t.rowErrors (by rw [if_neg hskip])

/-- What follows the reading of the grid. -/
theorem makes_rest (hgrid : Keeps Inv (Grid.readFile path : StateM σ _) (· = .ok g))
    (description : Option Description) (o : Options) :
    Makes Inv (fun desk => desk.library.path = folder) (make r path description o)
      fun report desk => Consistent o g report desk.session := by
  refine Makes.bind (Makes.tell hstable.add _) fun _ => ?_
  refine Makes.bindLift hgrid (Makes.bindOk ?_)
  refine Makes.bind (Makes.tell hstable.add _) fun _ => ?_
  refine Makes.bind (Makes.keep .file ⟨path⟩ (R := Holds path folder)
    fun desk h => ⟨desk.find?_set .file ⟨path⟩, h⟩) fun _ => ?_
  cases description with
  | none => exact makes_fromFile hr hstable hask hgrid o
  | some d =>
    refine Makes.bind (Makes.keep .description d (R := Holds path folder) fun desk h =>
      h.set (k := .description) (by decide) d) fun _ => ?_
    exact makes_fromFile hr hstable hask hgrid o

/-- **A report is consistent.** Wherever the definition came from, and whatever the session, the
    library and the proposer held or did before: if the file keeps its content while the report is
    made, the report has the table of its definition for the grid of the file, the size of that grid
    and the rows that do not pass, and the session holds the definition and the table. -/
theorem make_consistent {content : ByteArray}
    (hfile : Keeps Inv (Files.read path : StateM σ _) (· = .ok content))
    (description : Option Description) (o : Options) {desk desk' : Desk} {s s' : σ}
    {report : Report} (hfolder : desk.library.path = folder) (hs : Inv s)
    (hmake : ((make r path description o).run.run desk).run s = ((.ok report, desk'), s')) :
    ∃ g, Grid.ofBytes content.toList = .ok g ∧ Consistent o g report desk'.session := by
  have hread : Keeps Inv (Grid.readFile path : StateM σ _) (· = Grid.ofBytes content.toList) := by
    refine hfile.bind fun out hout => ?_
    rw [hout]
    exact .pure rfl
  cases hg : Grid.ofBytes content.toList with
  -- without a grid there is no report
  | error e =>
    have hfails : Makes Inv (fun _ => True) (make r path description o) fun _ _ => False := by
      refine Makes.bind (Makes.tell hstable.add _) fun _ => ?_
      refine Makes.bindLift (hread.mono fun _ hout => hout.trans hg) ?_
      exact Makes.bind (Q := fun _ _ => False) (.ofExcept fun _ h => nomatch h) fun _ =>
        fun _ h => h.elim
    have h := (hfails desk trivial s hs).1 report
    rw [hmake] at h
    exact (h rfl).elim
  | ok g =>
    have hgrid : Keeps Inv (Grid.readFile path : StateM σ _) (· = .ok g) :=
      hread.mono fun _ hout => hout.trans hg
    have h := (makes_rest hr hstable hask hgrid description o desk hfolder s hs).1 report
    rw [hmake] at h
    exact ⟨g, rfl, h rfl⟩

end

/-! ## 7. A report on the shelf -/

def exampleText : List Char := ",Jan-21,Feb-21\nViews,4,5\nClicks,1,0\n".toList

def exampleSheet : ByteArray := (String.ofList exampleText).toUTF8

def examplePath : String := "report.csv"

/-- The sheet lies on the shelf, and nothing else. -/
def exampleShelf : Shelf := ⟨[(examplePath, exampleSheet)]⟩

def exampleDescription : Description where
  beginMonth := "01-2021"
  endMonth := "02-2021"
  english := true
  titleReport := false
  granularity := .monthly

/-- A proposer that has one draft for everything. -/
def constantProposer (draft : String) : Proposal.Proposer (StateM Shelf) :=
  fun _ => pure (.ok draft)

def exampleRoster (draft : String) : Roster (StateM Shelf) :=
  ⟨[extractionWorker, platformWorker "library", proposalWorker (constantProposer draft) {} true]⟩

theorem roster_example (draft : String) :
    roster (some (constantProposer draft)) {} "library" = .ok (exampleRoster draft) := by
  rfl

/-- The session holds the table of an earlier report. -/
def exampleDesk : Desk where
  session := { id := ⟨1⟩, store := ({} : Store).set (.ofData .table ⟨[], []⟩) }
  library := { path := "library" }

/-- The desk before a definition is looked for. -/
def exampleDeskFilled : Desk :=
  ((exampleDesk.set .file ⟨examplePath⟩).set .description exampleDescription).set .note ⟨""⟩

def exampleOptions : Options where
  doNotSave := true
  skipCheck := true

/-- What a proposer's worker is handed there. -/
def exampleInputs : Inputs :=
  [⟨.description, exampleDescription⟩, ⟨.file, ⟨examplePath⟩⟩, ⟨.note, ⟨""⟩⟩]

theorem gather_exampleDeskFilled :
    Session.gather proposalName exampleDeskFilled.session.store [.description, .file, .note]
      = .ok exampleInputs := by
  rfl

/-- A draft that is accepted makes a report of whatever sheet lies on the shelf. -/
theorem gives_example {content : ByteArray} {g : Grid} {draft : String} {d : Definition}
    {t : Table} {s : Shelf} (hs : s.read examplePath = .ok content)
    (hg : Grid.ofBytes content.toList = .ok g)
    (haccept : Proposal.accept true (Proposal.documentText draft) g = .ok (d, t)) :
    Gives (make (exampleRoster draft) examplePath (some exampleDescription) exampleOptions)
      exampleDesk s ⟨t, d, .proposed none, [], g.height, g.width⟩
      ((exampleDeskFilled.set .definition d).set .table t) s := by
  have hquiet : ∀ e, (Journal.add e : StateM Shelf Unit) = pure () := fun _ => rfl
  have hread : (Grid.readFile examplePath : StateM Shelf _).run s = (.ok g, s) := by
    have hfile : (Host.Files.read examplePath : StateM Shelf _).run s = (.ok content, s) :=
      congrArg (·, s) hs
    unfold Grid.readFile
    rw [StateT.run_bind, hfile, ← hg]
    rfl
  have hsearch : (Proposal.search (constantProposer draft) {} exampleDescription g
      (noteText exampleInputs)).run s = (.ok ⟨d, t, 1⟩, s) :=
    Proposal.search_of_accepted hquiet rfl (Proposal.judge_of_accept haccept)
  have hwork : (propose (constantProposer draft) {} exampleInputs).run.run s
      = (.ok [.ofData .definition d, .ofData .table t], s) :=
    run_propose rfl rfl hread hsearch
  have hrun := run_quiet (w := proposalWorker (constantProposer draft) {} true) hquiet
    gather_exampleDeskFilled hwork rfl
  have hfind : Gives (findDefinition (exampleRoster draft) exampleOptions) exampleDeskFilled
      s (.proposed none) ((exampleDeskFilled.set .definition d).set .table t) s := by
    refine .bind (.pure none _ _) ?_
    refine .bind (.get _ _) ?_
    refine .bind (.tell hquiet _ _ _) ?_
    exact .bind (.runWorker hrun) (.pure _ _ _)
  refine .bind (.tell hquiet _ _ _) ?_
  refine .bind (.lift hread _) ?_
  refine .bind (.ofExcept rfl _ _) ?_
  refine .bind (.tell hquiet _ _ _) ?_
  refine .bind (.keep _ _ _ _) ?_
  refine .bind (.keep _ _ _ _) ?_
  refine .bind (.keep _ _ _ _) ?_
  refine .bind hfind ?_
  refine .bind (.kept (d := d) ?_ _) ?_
  · rw [Desk.find?_set_of_ne _ (k := .table) _ (by decide), Desk.find?_set]
  · refine .bind (.kept (Desk.find?_set _ _ _) _) ?_
    exact .bind (.pure [] _ _) (.pure _ _ _)

/-- A grid, a definition and its table, from the characters of a sheet and of a draft. -/
def drafted (sheet draft : List Char) : Option (Grid × Definition × Table) := do
  let g ← (Grid.ofText sheet (Csv.detectDelimiter sheet)).toOption
  let v ← Proposal.scanned? (Proposal.documentChars draft)
  let d ← (Definition.ofJson v.canonical).toOption
  let t ← (Table.ofGrid d g).toOption
  if t.isEmpty then none else pure (g, d, t)

theorem accept_of_drafted {sheet draft : List Char} {g : Grid} {d : Definition} {t : Table}
    (h : drafted sheet draft = some (g, d, t)) :
    Grid.ofText sheet (Csv.detectDelimiter sheet) = .ok g ∧
      Proposal.accept true (Proposal.documentText (String.ofList draft)) g = .ok (d, t) := by
  unfold drafted at h
  obtain ⟨g', hg, h⟩ := Option.bind_eq_some_iff.1 h
  obtain ⟨v, hv, h⟩ := Option.bind_eq_some_iff.1 h
  obtain ⟨d', hd, h⟩ := Option.bind_eq_some_iff.1 h
  obtain ⟨t', ht, h⟩ := Option.bind_eq_some_iff.1 h
  split at h
  · cases h
  · rename_i hrows
    cases h
    exact ⟨toOption_eq_some.1 hg, Proposal.accept_of_scanned true hv (toOption_eq_some.1 hd)
      (toOption_eq_some.1 ht) (Bool.not_eq_true _ ▸ hrows)⟩

theorem ofBytes_exampleSheet :
    Grid.ofBytes exampleSheet.toList = Grid.ofText exampleText (Csv.detectDelimiter exampleText) :=
  Grid.ofBytes_of_decode (by decide +kernel : Encoding.detect _ = "utf-8")
    (Encoding.decode_utf8 (by decide +kernel) (by decide +kernel))

/-- **The report of the sheet**, for the document of a draft. -/
theorem exampleReport_consistent :
    ∃ draft report desk',
      Gives (make (exampleRoster draft) examplePath (some exampleDescription) exampleOptions)
        exampleDesk exampleShelf report desk' exampleShelf ∧
      ∃ g, Grid.ofBytes exampleSheet.toList = .ok g ∧
        Consistent exampleOptions g report desk'.session := by
  have hdrafted : (drafted exampleText (Json.compactChars Rules.exampleDocument)).isSome
      = true := by decide +kernel
  obtain ⟨⟨g, d, t⟩, hdrafted⟩ := Option.isSome_iff_exists.1 hdrafted
  obtain ⟨hg, haccept⟩ := accept_of_drafted hdrafted
  have hs : exampleShelf.read examplePath = .ok exampleSheet := by
    simp [Shelf.read, exampleShelf]
  have hmake := gives_example hs (ofBytes_exampleSheet.trans hg) haccept
  have hpath : ∀ id, examplePath ≠ Library.joinPath "library" (id ++ Library.extension) := by
    intro id h
    have hlast := Library.getLast?_joinPath "library" id
    rw [← h] at hlast
    exact absurd hlast (by decide +kernel)
  refine ⟨_, _, _, hmake, ?_⟩
  exact make_consistent (roster_example _) (Shelf.stable hpath)
    (fun _ ha _ => Option.some.inj ha ▸ .pure trivial) Shelf.keeps_read _ _ rfl hs hmake

end UsageGrid.Report
