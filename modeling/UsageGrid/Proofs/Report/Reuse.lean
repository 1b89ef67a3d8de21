import UsageGrid.Proofs.Library.Durable
import UsageGrid.Proofs.Report.Stored

/-!
# Proposed once, then reused

A definition that has been proposed for a platform and saved has the best rate of all that serve it,
for each of the others has just failed (`Tried.rate_lt_one`). So the next report of the same file is
by this definition, and no proposer is asked (`makeAlone_reuse`). This supposes that the definitions
of the platform are read back from their files: a library whose folder shows none of them is not
searched.
-/

namespace UsageGrid

/-! ## 1. The first candidate -/

namespace Library

variable {l : Library} {platform : String} {e : StoredDefinition}

/-- **The definition with the best rate is tried first.** -/
theorem servingOf_eq_cons (he : e ∈ l.servingOf platform)
    (hbest : ∀ f ∈ l.servingOf platform, f ≠ e → f.successRate.toRat < e.successRate.toRat) :
    ∃ rest, l.servingOf platform = e :: rest := by
  have hsorted := servingOf_sorted l platform
  cases hds : l.servingOf platform with
  | nil =>
    rw [hds] at he
    cases he
  | cons f rest =>
    rw [hds] at he hbest hsorted
    rcases List.mem_cons.1 he with rfl | he'
    · exact ⟨rest, rfl⟩
    · by_cases hfe : f = e
      · exact ⟨rest, by rw [hfe]⟩
      · have hle := StoredDefinition.rate_le_of_rank ((List.pairwise_cons.1 hsorted).1 e he')
        exact absurd (hbest f List.mem_cons_self hfe) (not_lt.2 hle)

/-- A definition that is read back from its file is found for its platforms. -/
theorem servingOf_found_ne_nil {d : Directory} (h : Shelved d l) (he : e ∈ l.servingOf platform)
    (hshallow : e.definition.IsShallow) : (found d l.path).servingOf platform ≠ [] := by
  obtain ⟨hmem, hserves⟩ := mem_servingOf.1 he
  have hfound : e.reread ∈ (found d l.path).list := by
    rw [found_shelved h]
    exact List.mem_map.2 ⟨e, List.mem_filter.2 ⟨hmem, decide_eq_true hshallow⟩, rfl⟩
  exact List.ne_nil_of_mem (mem_servingOf.2 ⟨hfound, hserves⟩)

end Library

namespace Library

/-- A definition has been saved under a new id, for platforms, and its use has been counted. -/
def IsSaved (l : Library) (id : String) (definition : Definition) (platforms : List String)
    (l' : Library) : Prop :=
  id ∉ l.ids ∧ ∃ created time, l' = (l.put (.fresh id definition platforms created)).put
    ((StoredDefinition.fresh id definition platforms created).used true time)

/-- **What has been saved for a platform is tried first**, if no other definition has a rate of
    one. -/
theorem IsSaved.servingOf_eq_cons {l' : Library} {id : String} {definition : Definition}
    (h : IsSaved l id definition [platform] l') (hordered : Ordered l.list)
    (hrates : ∀ f ∈ l.servingOf platform, f.successRate.toRat < 1) :
    ∃ e rest, e.id = id ∧ e.definition = definition ∧ l'.servingOf platform = e :: rest := by
  obtain ⟨hnew, created, time, rfl⟩ := h
  let first := StoredDefinition.fresh id definition [platform] created
  have hordered₁ : Ordered (l.put first).list := hordered.insert first
  have hrate : (first.used true time).successRate.toRat = 1 := by
    show (StoredDefinition.rateAfter StoredDefinition.one true).toRat = 1
    rw [StoredDefinition.rateAfter_one, StoredDefinition.toRat_one]
  have hserves : (first.used true time).serves platform = true :=
    List.any_eq_true.2 ⟨platform, List.mem_append_left _ (List.mem_singleton_self _),
      beq_self_eq_true (Text.asciiLower platform)⟩
  have hmem : first.used true time ∈ ((l.put first).put (first.used true time)).list :=
    (mem_insert hordered₁).2 (.inl rfl)
  obtain ⟨rest, hrest⟩ := Library.servingOf_eq_cons (mem_servingOf.2 ⟨hmem, hserves⟩) fun f hf hne => by
    obtain ⟨hf, hfserves⟩ := mem_servingOf.1 hf
    obtain ⟨hf, hid⟩ := ((mem_insert hordered₁).1 hf).resolve_left hne
    obtain ⟨hf, -⟩ := ((mem_insert hordered).1 hf).resolve_left fun he => hid (he ▸ rfl)
    rw [hrate]
    exact hrates f (mem_servingOf.2 ⟨hf, hfserves⟩)
  exact ⟨_, rest, rfl, rfl, hrest⟩

end Library

namespace Report

open Dataflow Host Library

/-! ## 2. After tries that have failed -/

variable {T : String → Prop} {path platform : String} {l l' : Library} {d d' : Directory}
  {ds : List StoredDefinition} {r : Option (StoredDefinition × Table)}

/-- Tries keep the files of a library. -/
theorem Tried.shelved (h : Tried T path l d ds r l' d') (hshelved : Shelved d l)
    (hmem : ∀ e ∈ ds, e ∈ l.list) (hdistinct : (ds.map (·.id)).Nodup) :
    Shelved d' l' ∧ l'.path = l.path := by
  have hput {l : Library} {d : Directory} {e : StoredDefinition} {p : Directory.Place}
      (hshelved : Shelved d l) (he : e ∈ l.list) (place : d.CanWrite (l.pathOf e.id) p)
      (success : Bool) (time : String) :
      Shelved (d.put p (fileOf (e.used success time))) (l.put (e.used success time)) := by
    obtain ⟨q, hq, hput⟩ := hshelved.canWrite he
    obtain rfl : q = p := Except.ok.inj (hq.leads.symm.trans place.leads)
    exact hput _ rfl (hshelved.used he success time)
  induction h with
  | ended => exact ⟨hshelved, rfl⟩
  | worked place records told => exact ⟨hput hshelved (hmem _ List.mem_cons_self) place true _, rfl⟩
  | @failed l l' d d' e rest r p place records time told later ih =>
    obtain ⟨he, hrest⟩ := List.forall_mem_cons.1 hmem
    obtain ⟨hnew, hdistinct⟩ := List.nodup_cons.1 hdistinct
    refine ih (hput hshelved he place false time) (fun f hf => ?_) hdistinct
    refine (mem_insert hshelved.ordered).2 (.inr ⟨hrest f hf, fun hid => ?_⟩)
    exact hnew (List.mem_map.2 ⟨f, hf, hid⟩)

/-- **Where all that serve a platform have failed, none has a rate of one.** -/
theorem Tried.rate_lt_one (h : Tried T path l d (l.servingOf platform) none l' d')
    (hordered : Ordered l.list) (hrates : ∀ e ∈ l.list, ∃ rate, StoredDefinition.IsRate e.successRate rate) :
    ∀ e ∈ l'.servingOf platform, e.successRate.toRat < 1 := by
  intro e he
  obtain ⟨failed, rest, time, hds, hrest, hlist⟩ := h.list hordered
    (fun e he => (mem_servingOf.1 he).1) (nodup_servingOf hordered platform)
  obtain ⟨hmem, hserves⟩ := mem_servingOf.1 he
  rw [hlist] at hmem
  obtain ⟨f, hf, rfl⟩ := List.mem_map.1 hmem
  have hfserves : f.serves platform = true := by
    unfold tallied at hserves
    split at hserves
    · exact hserves
    · split at hserves <;> exact hserves
  have hfailed : f.id ∈ failed.map (·.id) := by
    have hin := mem_servingOf.2 ⟨hf, hfserves⟩
    rw [hds, hrest rfl, List.append_nil] at hin
    exact List.mem_map.2 ⟨f, (List.append_nil failed) ▸ hin, rfl⟩
  rw [tallied_of_mem _ hfailed]
  obtain ⟨rate, hrate⟩ := hrates f hf
  exact StoredDefinition.toRat_decayed_lt_one hrate.sign hrate.le_one

/-! ## 3. A proposal that is saved -/

section

variable {σ : Type} [Files (StateM σ)] [Journal (StateM σ)] [Clock (StateM σ)]
  {dir : σ → Directory} {desk : Desk} {o : Options} {po : Proposal.Options}

omit [Files (StateM σ)] [Journal (StateM σ)] [Clock (StateM σ)] in
theorem may_any {α : Type} (x : Making (StateM σ) α) : May dir desk d x fun _ _ _ => True :=
  fun _ _ _ _ => trivial

omit [Files (StateM σ)] [Journal (StateM σ)] [Clock (StateM σ)] in
theorem grid_of_recordsIn {definition : Definition} {t : Table}
    (h : recordsIn d path definition = some t) : ∃ g, gridIn d path = .ok g := by
  cases hgrid : gridIn d path with
  | ok g => exact ⟨g, rfl⟩
  | error e =>
    unfold recordsIn tableIn at h
    rw [hgrid] at h
    cases h

omit [Files (StateM σ)] [Journal (StateM σ)] [Clock (StateM σ)] in
/-- A computation that keeps the directory. -/
theorem leads_of_keeps {α : Type} {x : StateM σ α} {Q : α → Prop} (hx : Keeps (dir · = d) x Q) :
    Leads dir d x fun a d' => Q a ∧ d' = d := hx

/-- A proposer that leaves files alone. -/
def LeavesFiles (dir : σ → Directory) (ask : Proposal.Proposer (StateM σ)) : Prop :=
  ∀ request s, dir ((ask request).run s).2 = dir s

variable (hdisk : IsDisk dir)

include hdisk

/-- A definition that is proposed has been accepted for the grid of the file. -/
theorem may_propose {ask : Proposal.Proposer (StateM σ)} (hask : LeavesFiles dir ask)
    (hready : Ready path desk) :
    May dir desk d (Making.runWorker (proposalWorker ask po true)) fun _ desk' d' =>
      d' = d ∧ ∃ g, ∃ outcome : Proposal.Outcome, gridIn d path = .ok g ∧ outcome.IsFor po g ∧
        desk' = (desk.set .definition outcome.definition).set .table outcome.table := by
  have hadd (e : Log.Entry) : Keeps (dir · = d) (Journal.add e : StateM σ _) fun _ => True :=
    hdisk.add d e
  have hgrid : Keeps (dir · = d) (Grid.readFile path : StateM σ _) (· = gridIn d path) :=
    leads_readGrid hdisk d path
  have hneeds : Kind.file ∈ (proposalWorker ask po true).needs :=
    List.mem_cons_of_mem _ List.mem_cons_self
  have hrun := leads_of_keeps (keeps_run (w := proposalWorker ask po true) hadd
    fun inputs hgather => yields_propose hgrid hadd
      (fun request s hs => ⟨trivial, (hask request s).trans hs⟩) po
      (gather_find? hgather hneeds hready.file))
  refine May.bind (Ends.may (Ends.tryWorker hrun)) ?_
  rintro out _ d' ⟨session, ⟨⟨e, hout⟩ | ⟨names, artifacts, ⟨g, outcome, hg, houtcome, rfl⟩, hout⟩,
    rfl⟩, rfl⟩
  · obtain ⟨rfl, rfl⟩ := Prod.mk.inj hout
    exact May.bindExcept fun _ h => nomatch h
  · obtain ⟨rfl, rfl⟩ := Prod.mk.inj hout
    exact May.bindExcept fun _ _ => May.pure ⟨rfl, g, outcome, hg, houtcome, rfl⟩

/-- **Saving leaves the grid of every file**: the file that is written is a new one. -/
theorem may_saveProposed (hshelved : Shelved d desk.library) {definition : Definition}
    (hdefinition : desk.session.store.find? Kind.definition.name = some ⟨.definition, definition⟩)
    (hstorable : definition.IsStorable) (platforms : List String) :
    May dir desk d (saveProposed platforms) fun saved desk' d' => ∀ id, saved = some id →
      IsSaved desk.library id definition platforms desk'.library ∧ Shelved d' desk'.library ∧
        desk'.session = desk.session ∧ ∀ path g, gridIn d path = .ok g → gridIn d' path = .ok g := by
  refine Turns.next (.kept hdefinition) (Turns.next .get ?_)
  refine May.bind (Ends.may (Ends.lift (leads_save hdisk hshelved hstorable platforms))) ?_
  rintro ⟨outcome, library⟩ desk d₁ ⟨hout, rfl⟩
  refine Turns.next (.set _) ?_
  rcases hout with ⟨id, created, hnew, hout, hshelved₁, hgrows, hplace⟩ | ⟨cause, hout⟩
  · obtain ⟨rfl, rfl⟩ := Prod.mk.inj hout
    let desk₁ : Desk :=
      { desk with library := desk.library.put (.fresh id definition platforms created) }
    have hmem : StoredDefinition.fresh id definition platforms created ∈ desk₁.library.list :=
      (mem_insert hshelved.ordered).2 (.inl rfl)
    have hget : desk₁.library.get id = .ok (.fresh id definition platforms created) :=
      get_of_mem hshelved₁.ordered hmem
    obtain ⟨p, hwrite, hput⟩ := hshelved₁.canWrite hmem
    have hcount : Ends dir desk₁ d₁ (Making.countUse id true) _ :=
      Ends.countUse hdisk hdisk.time hget hwrite true
    refine Turns.after hcount ?_
    rintro _ _ _ ⟨time, -, rfl, rfl⟩
    refine Turns.next (.tell hdisk _) (May.pure fun _ hid => ?_)
    obtain rfl := Option.some.inj hid
    refine ⟨⟨hnew, created, time, rfl⟩, hput _ rfl (hshelved₁.used hmem true time), rfl,
      fun path g hg => ?_⟩
    refine (gridIn_put (gridIn_grows hgrows hg) hwrite.noFolder (fun hpath => ?_) _).1
    obtain ⟨content, hread⟩ := read_of_gridIn hg
    obtain ⟨q, hlocate, hfile, -⟩ := Directory.read_eq_ok.1 hread
    obtain rfl : q = p :=
      Except.ok.inj ((Directory.locate_mono hgrows.foldersIn hlocate).symm.trans hpath)
    exact nomatch (hplace q hwrite.leads).symm.trans hfile
  · obtain ⟨rfl, rfl⟩ := Prod.mk.inj hout
    exact Turns.next (.tell hdisk _) (May.pure fun _ h => nomatch h)

variable {ask : Option (Proposal.Proposer (StateM σ))} {folder : String} {workers : Roster (StateM σ)}

/-- **What has been proposed and saved has records for the file**, and the session shows them. -/
theorem may_askProposer (hask : ∀ a ∈ ask, LeavesFiles dir a)
    (hworkers : roster ask po folder = .ok workers) (hrecords : po.requireRecords = true)
    (hready : Ready path desk) (hshelved : Shelved d desk.library) :
    May dir desk d (askProposer workers o) fun origin desk' d' => ∀ id,
      origin = .proposed (some id) → ∃ definition t,
        IsSaved desk.library id definition o.platform.toList desk'.library ∧
        Shelved d' desk'.library ∧ Shows desk' definition t ∧
        recordsIn d' path definition = some t := by
  unfold askProposer
  rw [roster_proposal hworkers]
  cases ask with
  | none => exact May.throw _
  | some a =>
    refine Turns.next .get ?_
    show May dir desk d (if (desk.session.store.ofKind .description).isEmpty then _ else _) _
    cases (desk.session.store.ofKind .description).isEmpty with
    | true => exact May.throw _
    | false =>
      refine Turns.next (.tell hdisk _) (May.bind (may_propose hdisk (hask a rfl) hready) ?_)
      rintro _ _ d₁ ⟨rfl, g, outcome, hg, ⟨text, haccept⟩, rfl⟩
      obtain ⟨hread, htable, hrows⟩ := Proposal.accept_eq_ok.1 haccept
      rw [hrecords, Bool.and_true] at hrows
      let desk₁ := (desk.set .definition outcome.definition).set .table outcome.table
      have hshelved₁ : Shelved d₁ desk₁.library := hshelved
      have hdefinition : desk₁.session.store.find? Kind.definition.name
          = some ⟨.definition, outcome.definition⟩ :=
        (Desk.find?_set_of_ne _ (k := .table) _ (by decide)).trans (desk.find?_set .definition _)
      have htableSlot : desk₁.session.store.find? Kind.table.name = some ⟨.table, outcome.table⟩ :=
        Desk.find?_set _ .table _
      show May dir _ d₁ (if o.doNotSave then _ else _) _
      cases o.doNotSave with
      | true => exact May.pure fun _ h => nomatch h
      | false =>
        have hstorable := (Definition.isDecoded_of_ofText hread).isStorable
        refine May.bind (may_saveProposed hdisk hshelved₁ hdefinition hstorable _) ?_
        intro saved desk' d' hsaved
        refine May.pure fun id hid => ?_
        obtain ⟨hsaved, hshelved', hsession, hgrid⟩ := hsaved id (Origin.proposed.inj hid)
        refine ⟨_, outcome.table, hsaved, hshelved', ⟨?_, ?_⟩, ?_⟩
        · rw [hsession, hdefinition]
        · rw [hsession, htableSlot]
        · rw [recordsIn_of_grid (hgrid path g hg)]
          unfold recordsOf
          rw [htable]
          show (some outcome.table).filter _ = _
          rw [Option.filter_some, hrows]
          rfl

omit hdisk [Files (StateM σ)] [Clock (StateM σ)] in
theorem may_conclude (g : Grid) (origin : Origin) :
    May dir desk d (conclude o g origin) fun report _ _ => report.origin = origin := by
  refine May.bind (may_any _) fun _ _ _ _ => May.bind (may_any _) fun _ _ _ _ => ?_
  dsimp only
  split
  · exact May.pure rfl
  · exact May.bind (may_any _) fun _ _ _ _ => May.pure rfl

/-- A report by a proposed definition is made where no stored one has worked. -/
theorem may_proceed (hask : ∀ a ∈ ask, LeavesFiles dir a)
    (hworkers : roster ask po folder = .ok workers) (hrecords : po.requireRecords = true)
    (hready : Ready path desk) (hshelved : Shelved d desk.library) (g : Grid)
    (found : Option String) :
    May dir desk d (proceed workers o g found) fun report desk' d' => ∀ id,
      report.origin = .proposed (some id) → found = none ∧
        IsSaved desk.library id report.definition o.platform.toList desk'.library ∧
        Shelved d' desk'.library ∧ recordsIn d' path report.definition = some report.table := by
  have hother (desk : Desk) (d : Directory) {origin : Origin}
      (horigin : ∀ id, origin ≠ .proposed (some id)) : May dir desk d (conclude o g origin)
        fun report _ _ => ∀ id, report.origin ≠ .proposed (some id) :=
    Leads.mono (may_conclude g origin) fun _ _ hout report hreport id =>
      (hout report hreport) ▸ horigin id
  cases found with
  | some id =>
    exact Leads.mono (hother desk d nofun) fun _ _ hout report hreport id hid =>
      absurd hid (hout report hreport id)
  | none =>
    refine May.bind (may_askProposer hdisk hask hworkers hrecords hready hshelved) ?_
    intro origin desk' d' hasked
    by_cases horigin : ∃ id, origin = .proposed (some id)
    · obtain ⟨id, rfl⟩ := horigin
      obtain ⟨definition, t, hsaved, hshelved', hshows, hrecords⟩ := hasked id rfl
      refine Ends.may (Ends.mono (ends_conclude hdisk hshows o g _) ?_)
      rintro report _ _ ⟨⟨htable, hdefinition, horigin⟩, rfl, rfl⟩ _ hid
      obtain rfl := Option.some.inj (Origin.proposed.inj (horigin.symm.trans hid))
      rw [htable, hdefinition]
      exact ⟨rfl, hsaved, hshelved', hrecords⟩
    · exact Leads.mono (hother desk' d' fun id hid => horigin ⟨id, hid⟩)
        fun _ _ hout report hreport id hid => absurd hid (hout report hreport id)

omit hdisk in
/-- A document that is given is where a report comes from. -/
theorem may_make_given {p : String} (hrules : o.rulesPath = some p) (description : Option Description) :
    May dir desk d (make workers path description o) fun report _ _ =>
      report.origin = .provided p := by
  rw [make_eq]
  refine May.bind (may_any _) fun g _ _ _ => May.bind (Q := fun origin _ _ => origin = .provided p)
    ?_ fun origin _ _ horigin => horigin ▸ may_conclude g origin
  unfold findDefinition
  rw [hrules]
  exact May.bind (may_any _) fun _ _ _ _ => May.bind (may_any _) fun _ _ _ _ =>
    May.bind (may_any _) fun _ _ _ _ => May.bind (may_any _) fun _ _ _ _ =>
    May.bind (may_any _) fun _ _ _ _ => May.bind (may_any _) fun _ _ _ _ =>
    May.bind (may_any _) fun _ _ _ _ => May.pure rfl

/-! ## 4. Two reports of a file -/

variable {office office' : Office} {s s' : σ} {report : Report} {id : String}

/-- A library has been in use since it was opened on an empty folder. Then a report was made of a
    file for a platform, by a definition that was proposed and saved. -/
structure IsProposed (dir : σ → Directory) (office : Office) (path platform : String) (o : Options)
    (s : σ) (report : Report) (id : String) (office' : Office) (s' : σ) : Prop where
  used : ∃ events, Uses dir office.library.path events office.library s
  platform : o.platform = some platform
  stored : o.ignoreStored = false
  made : ∃ (ask : Option (Proposal.Proposer (StateM σ))) (po : Proposal.Options)
    (workers : Roster (StateM σ)) (description : Option Description),
    (∀ a ∈ ask, LeavesFiles dir a) ∧ po.requireRecords = true ∧
    roster ask po office.library.path = .ok workers ∧
    (makeAlone workers office path description o).run s = ((.ok report, office'), s')
  origin : report.origin = .proposed (some id)

/-- All documents for a platform are read back from their files. -/
def IsReadable (l : Library) (platform : String) : Prop :=
  ∀ e ∈ l.servingOf platform, e.definition.IsShallow

/-- What the making of a report comes to, the report of a session of its own comes to. -/
theorem of_makeAlone {description : Option Description} {Q : Report → Desk → Directory → Prop}
    (hmake : ∀ session, May dir ⟨⟨session, {}⟩, office.library⟩ (dir s)
      (make workers path description o) Q)
    (hrun : (makeAlone workers office path description o).run s = ((.ok report, office'), s')) :
    ∃ desk, Q report desk (dir s') := by
  rcases hid : (Clock.freshId : StateM σ _).run s with ⟨session, s₀⟩
  have hdir := (hdisk.freshId (dir s) s rfl).2
  rw [hid] at hdir
  have hmade := hmake session s₀ hdir
  rw [run_makeAlone hid] at hrun
  rcases hout : ((make workers path description o).run.run ⟨⟨session, {}⟩, office.library⟩).run s₀
    with ⟨⟨outcome, desk⟩, s₁⟩
  rw [hout] at hrun hmade
  obtain ⟨hclosed, rfl⟩ := Prod.mk.inj hrun
  exact ⟨desk, hmade report (Prod.mk.inj hclosed).1⟩

namespace IsProposed

variable (h : IsProposed dir office path platform o s report id office' s')

include h

theorem noRules : o.rulesPath = none := by
  obtain ⟨ask, po, workers, description, -, -, -, hrun⟩ := h.made
  cases hrules : o.rulesPath with
  | none => rfl
  | some p =>
    obtain ⟨-, hgiven⟩ :=
      of_makeAlone hdisk (fun _ => may_make_given hrules description) hrun
    exact nomatch h.origin.symm.trans hgiven

theorem grid : ∃ g, gridIn (dir s) path = .ok g := by
  obtain ⟨ask, po, workers, description, -, -, -, hrun⟩ := h.made
  cases hgrid : gridIn (dir s) path with
  | ok g => exact ⟨g, rfl⟩
  | error e =>
    obtain ⟨-, hfalse⟩ := of_makeAlone (Q := fun _ _ _ => False) hdisk (fun _ => by
      rw [make_eq]
      exact Turns.bind (turns_prepare_error hdisk hgrid description o) (fun _ _ _ h => nomatch h)
        fun _ _ _ _ _ h => nomatch h) hrun
    exact hfalse.elim

/-- What stands after a report by a proposed definition: all others that serve the platform have
    failed, and the definition has been saved with its records for the file. -/
theorem tried (hreadable : IsReadable office.library platform) : ∃ l₁ d₁,
    Tried (fun _ => True) path office.library (dir s) (office.library.servingOf platform) none l₁ d₁ ∧
    IsSaved l₁ id report.definition [platform] office'.library ∧
    Shelved (dir s') office'.library ∧
    recordsIn (dir s') path report.definition = some report.table := by
  obtain ⟨ask, po, workers, description, hask, hrecords, hworkers, hrun⟩ := h.made
  obtain ⟨events, hused⟩ := h.used
  obtain ⟨hshelved, -⟩ := hused.represents hdisk
  obtain ⟨g, hgrid⟩ := h.grid hdisk
  have hsought : IsSought dir office.library path platform o g s :=
    { options := ⟨h.platform, h.noRules hdisk, h.stored⟩
      grid := hgrid
      ordered := hshelved.ordered
      known := fun hnone => by
        refine List.eq_nil_iff_forall_not_mem.2 fun e he => ?_
        exact servingOf_found_ne_nil hshelved he (hreadable e he) hnone
      writable := fun e he => (hshelved.canWrite (mem_servingOf.1 he).1).imp fun _ hp => hp.1 }
  obtain ⟨r, desk, s₁, htried, hready, -, hproceed⟩ :=
    run_makeAlone_tried hdisk hdisk.time hsought description
  obtain ⟨hshelved₁, -⟩ := htried.shelved hshelved (fun e he => (mem_servingOf.1 he).1)
    (nodup_servingOf hshelved.ordered platform)
  have hmay := may_proceed (o := o) hdisk hask hworkers hrecords hready hshelved₁ g
    (r.map (·.1.id)) s₁ rfl
  specialize hproceed ask po workers hworkers
  rw [hrun] at hproceed
  rcases hout : ((proceed workers o g (r.map (·.1.id))).run.run desk).run s₁
    with ⟨⟨outcome, desk'⟩, s₂⟩
  rw [hout] at hproceed hmay
  obtain ⟨hproceed, rfl⟩ := Prod.mk.inj hproceed
  obtain ⟨houtcome, hoffice⟩ := Prod.mk.inj hproceed
  obtain ⟨hnone, hsaved, hshelved₂, hrecords⟩ := hmay report houtcome.symm id h.origin
  obtain rfl := Option.map_eq_none_iff.1 hnone
  rw [h.platform] at hsaved
  rw [hoffice]
  exact ⟨_, _, htried, hsaved, hshelved₂, hrecords⟩

end IsProposed

/-- **What has been proposed once is reused.** After a report by a definition that was proposed for a
platform and saved, the next report of the file, with the same library and options, is by this
definition and on the same table, whatever proposer there is, or none. This supposes that all
documents for the platform are read back from their files, the proposed one included. -/
theorem makeAlone_reuse (h : IsProposed dir office path platform o s report id office' s')
    (hreadable : IsReadable office.library platform) (hshallow : report.definition.IsShallow)
    {later : Office} {s₂ : σ} (hlibrary : later.library = office'.library) (hsame : dir s₂ = dir s')
    (description : Option Description) : ∃ again later' s₃,
    ComesUnasked later path description o s₂ again later' s₃ ∧ again.origin = .stored id ∧
      again.table = report.table ∧ again.definition = report.definition := by
  obtain ⟨l₁, d₁, htried, hsaved, hshelved, hrecords⟩ := h.tried hdisk hreadable
  obtain ⟨_, hused⟩ := h.used
  obtain ⟨hshelved₀, -, cat, -, hcat⟩ := hused.represents hdisk
  have hrates : ∀ e ∈ office.library.list, ∃ rate, StoredDefinition.IsRate e.successRate rate := by
    intro e he
    obtain ⟨c, -, hc⟩ := hcat.card e he
    exact ⟨c.rate, hc.rate⟩
  obtain ⟨hshelved₁, -⟩ := htried.shelved hshelved₀ (fun e he => (mem_servingOf.1 he).1)
    (nodup_servingOf hshelved₀.ordered platform)
  obtain ⟨e, rest, rfl, hdefinition, hfirst⟩ := hsaved.servingOf_eq_cons hshelved₁.ordered
    (htried.rate_lt_one hshelved₀.ordered hrates)
  rw [← hdefinition] at hrecords hshallow
  rw [← hsame] at hrecords hshelved
  rw [← hlibrary] at hshelved hfirst
  obtain ⟨g, hgrid⟩ := grid_of_recordsIn hrecords
  have hsought : IsSought dir later.library path platform o g s₂ :=
    { options := ⟨h.platform, h.noRules hdisk, h.stored⟩
      grid := hgrid
      ordered := hshelved.ordered
      known := fun hnone => by
        have he : e ∈ later.library.servingOf platform := hfirst ▸ List.mem_cons_self
        exact absurd hnone (servingOf_found_ne_nil hshelved he hshallow)
      writable := fun f hf => (hshelved.canWrite (mem_servingOf.1 hf).1).imp fun _ hp => hp.1 }
  obtain ⟨r, l', d', htried₂, hby⟩ := makeAlone_of_tried hdisk hdisk.time hsought description
  rw [hfirst] at htried₂
  obtain ⟨rfl, -⟩ := htried₂.of_some hrecords
  obtain ⟨again, s₃, hcomes, -, horigin, htable, hagain⟩ := hby e report.table rfl
  exact ⟨again, _, s₃, hcomes, horigin, htable, hagain.trans hdefinition⟩

/-! ## 5. Where the folder shows no definition -/

theorem comes_findStored_none {folder p : String} (hplatform : o.platform = some p)
    (hstored : o.ignoreStored = false) (hready : Ready path desk)
    (hnone : (found d folder).servingOf p = []) :
    Comes dir desk d (findStored (bareRoster folder) o) none
      ((desk.set .platform { name := p }).set .platform (platformIn (found d folder) p)) d :=
  turns_findStored_of_gather hdisk hplatform hstored (hready.gather_platform p)
    (fun _ => ⟨none, rfl, rfl, rfl, rfl⟩) fun hshown => absurd hnone hshown

/-- **What a folder does not show is not tried**, though it is in memory. -/
theorem turns_make_hidden {folder p : String} (hplatform : o.platform = some p)
    (hstored : o.ignoreStored = false) (hrules : o.rulesPath = none) {g : Grid}
    (hgrid : gridIn d path = .ok g) (htidy : desk.session.store.IsTidy)
    (hnone : (found d folder).servingOf p = []) (description : Option Description) :
    Turns dir desk d (make (bareRoster folder) path description o) fun out _ _ =>
      ∃ reason, out = .error (.noDefinition reason) := by
  rw [make_of_roster (roster_none {} folder) hrules]
  unfold look
  rw [bind_assoc]
  refine Turns.after (ends_prepare hdisk hgrid htidy description o) ?_
  rintro g' desk₁ _ ⟨rfl, hready, -, rfl⟩
  rw [bind_assoc]
  refine Turns.next (comes_findStored_none hdisk hplatform hstored hready hnone) ?_
  exact fun _ _ => ⟨_, rfl⟩

variable {office office' : Office} {s s' : σ} {report : Report} {id : String}

/-- **Where a definition was proposed as the first one and is nested too deep, there is no second
report** without a proposer: nothing is read back from the folder. -/
theorem IsProposed.not_reused (h : IsProposed dir office path platform o s report id office' s')
    (hempty : office.library.list = []) (hdeep : ¬ report.definition.IsShallow)
    (description : Option Description) : ∃ reason,
      ((makeAlone (bareRoster office'.library.path) office' path description o :
        StateM σ _).run s').1.1 = .error (.noDefinition reason) := by
  have hnone : office.library.servingOf platform = [] :=
    List.eq_nil_iff_forall_not_mem.2 fun e he =>
      absurd (hempty ▸ (mem_servingOf.1 he).1) List.not_mem_nil
  obtain ⟨l₁, d₁, htried, ⟨-, created, time, hlibrary⟩, hshelved, hrecords⟩ :=
    h.tried hdisk fun e he => absurd (hnone ▸ he) List.not_mem_nil
  rw [hnone] at htried
  cases htried
  obtain ⟨g, hgrid⟩ := grid_of_recordsIn hrecords
  have hlist : (found (dir s') office'.library.path).list = [] := by
    rw [found_shelved hshelved, List.map_eq_nil_iff, List.filter_eq_nil_iff]
    intro e he
    rw [hlibrary] at he
    have hordered : Ordered office.library.list := hempty ▸ ordered_nil
    have hdefinition : e.definition = report.definition := by
      rcases (mem_insert (hordered.insert _)).1 he with rfl | ⟨he, -⟩
      · rfl
      · rcases (mem_insert hordered).1 he with rfl | ⟨he, -⟩
        · rfl
        · exact absurd (hempty ▸ he) List.not_mem_nil
    rwa [hdefinition, decide_eq_true_eq]
  have hhidden : (found (dir s') office'.library.path).servingOf platform = [] :=
    List.eq_nil_iff_forall_not_mem.2 fun e he =>
      absurd (hlist ▸ (mem_servingOf.1 he).1) List.not_mem_nil
  rcases hid : (Clock.freshId : StateM σ _).run s' with ⟨session, s₀⟩
  have hdir := (hdisk.freshId (dir s') s' rfl).2
  rw [hid] at hdir
  rw [run_makeAlone hid]
  have htidy : (⟨⟨session, {}⟩, office'.library⟩ : Desk).session.store.IsTidy :=
    Store.isTidy_empty
  exact turns_make_hidden hdisk h.platform h.stored (h.noRules hdisk) hgrid htidy hhidden
    description s₀ hdir

end

/-! ## 6. A proposal in an empty folder -/

section

variable {draft : String} {g : Grid} {definition : Definition} {t : Table}

/-- A proposer that has one draft for everything. -/
def steadyProposer (draft : String) : Proposal.Proposer (StateM Directory) :=
  fun _ => pure (.ok draft)

def steadyRoster (draft : String) : Roster (StateM Directory) :=
  ⟨[extractionWorker, platformWorker "reg", proposalWorker (steadyProposer draft) {} true]⟩

theorem roster_steady (draft : String) :
    roster (some (steadyProposer draft)) {} "reg" = .ok (steadyRoster draft) := rfl

/-- The library of the folder that is not there yet. -/
def emptyOffice : Office := { library := { path := "reg" } }

def reuseOptions : Options where
  platform := some "p"
  skipCheck := true

/-- The desk when the proposer is asked. -/
def askingDesk : Desk :=
  ((((Desk.mk ⟨⟨0⟩, {}⟩ emptyOffice.library).set .file ⟨examplePath⟩).set
    .description exampleDescription).set .note ⟨""⟩ |>.set .platform { name := "p" }).set
    .platform (platformIn emptyOffice.library "p")

theorem servingOf_emptyOffice : emptyOffice.library.servingOf "p" = [] :=
  List.mergeSort_nil

/-- The desk when the document has been accepted. -/
def acceptedDesk (definition : Definition) (t : Table) : Desk :=
  (askingDesk.set .definition definition).set .table t

theorem comes_propose_steady (hgrid : gridIn sheetDirectory examplePath = .ok g)
    (haccept : Proposal.accept true (Proposal.documentText draft) g = .ok (definition, t)) :
    Comes (fun d : Directory => d) askingDesk sheetDirectory
      (Making.runWorker (proposalWorker (steadyProposer draft) {} true)) ()
      (acceptedDesk definition t) sheetDirectory := by
  have hquiet : ∀ e, (Journal.add e : StateM Directory Unit) = pure () := fun _ => rfl
  have hgather : Session.gather proposalName askingDesk.session.store [.description, .file, .note]
      = .ok exampleInputs := rfl
  have hread : (Grid.readFile examplePath : StateM Directory _).run sheetDirectory
      = (.ok g, sheetDirectory) := by
    obtain ⟨hout, hd⟩ := leads_readGrid isDisk_id sheetDirectory examplePath sheetDirectory rfl
    exact Prod.ext (hout.trans hgrid) hd
  have hsearch : (Proposal.search (steadyProposer draft) {} exampleDescription g
      (noteText exampleInputs)).run sheetDirectory = (.ok ⟨definition, t, 1⟩, sheetDirectory) :=
    Proposal.search_of_accepted hquiet rfl (Proposal.judge_of_accept haccept)
  have hwork : (propose (steadyProposer draft) {} exampleInputs).run.run sheetDirectory
      = (.ok [.ofData .definition definition, .ofData .table t], sheetDirectory) :=
    run_propose rfl rfl hread hsearch
  have hgives := Gives.runWorker
    (run_quiet (w := proposalWorker (steadyProposer draft) {} true) hquiet hgather hwork rfl)
  rintro _ rfl
  rw [hgives]
  exact ⟨(), rfl, rfl, rfl, rfl⟩

/-- The directory when the folder has been made. -/
def madeDirectory : Directory := ⟨[(["reg"], .folder), ([examplePath], .file exampleSheet)]⟩

theorem makeFolders_sheetDirectory :
    sheetDirectory.makeFolders "reg" = (madeDirectory, .ok ()) := by
  with_unfolding_all rfl

theorem names_madeDirectory : madeDirectory.names "reg" = .ok [] := by
  with_unfolding_all rfl

theorem found_sheetDirectory : found sheetDirectory "reg" = emptyOffice.library :=
  found_of_isVacant ⟨_, makeFolders_sheetDirectory, names_madeDirectory⟩

theorem ends_saveProposed_steady (hname : definition.name = "") :
    Ends (fun d : Directory => d) (acceptedDesk definition t) sheetDirectory
      (saveProposed ["p"] : Making (StateM Directory) _) fun id desk' _ =>
        id = some "definition-0" ∧ Shows desk' definition t := by
  have hdefinition : (acceptedDesk definition t).session.store.find? Kind.definition.name
      = some ⟨.definition, definition⟩ :=
    (Desk.find?_set_of_ne _ (k := .table) _ (by decide)).trans (askingDesk.find?_set .definition _)
  have htable : (acceptedDesk definition t).session.store.find? Kind.table.name
      = some ⟨.table, t⟩ := Desk.find?_set _ .table t
  have hid : freeId [] (slug definition.name ++ "-" ++ "0") = "definition-0" := by
    rw [hname]
    with_unfolding_all rfl
  have hplace : madeDirectory.CanWrite (pathOf { path := "reg" } "definition-0")
      ["reg", "definition-0.json"] :=
    ⟨by with_unfolding_all rfl, by with_unfolding_all exact nofun, by decide +kernel⟩
  have hwrite := hplace.write (StoredDefinition.fresh "definition-0" definition ["p"] "").toText.toUTF8
  refine Turns.next (.kept hdefinition) (Turns.next .get ?_)
  refine Turns.after (Ends.lift (leads_save_alone (l := emptyOffice.library)
    makeFolders_sheetDirectory names_madeDirectory hid hwrite)) ?_
  rintro _ _ _ ⟨⟨rfl, rfl⟩, rfl⟩
  refine Turns.next (.set _) ?_
  let fresh := StoredDefinition.fresh "definition-0" definition ["p"] ""
  have hget : (emptyOffice.library.put fresh).get "definition-0" = .ok fresh :=
    get_of_mem (d := fresh) (ordered_nil.insert fresh) (List.mem_singleton_self fresh)
  have hcan := hplace.put hplace.noFolder fresh.toText.toUTF8
  refine Turns.after (Ends.countUse isDisk_id tells_id hget hcan true) ?_
  rintro _ _ _ ⟨_, -, rfl, rfl⟩
  exact Turns.next (.tell isDisk_id _) (Ends.pure ⟨rfl, hdefinition, htable⟩)

/-- **A document that is accepted for the sheet makes the report**, and is saved. -/
theorem ends_make_steady (hgrid : gridIn sheetDirectory examplePath = .ok g)
    (haccept : Proposal.accept true (Proposal.documentText draft) g = .ok (definition, t))
    (hname : definition.name = "") :
    Ends (fun d : Directory => d) ⟨⟨⟨0⟩, {}⟩, emptyOffice.library⟩ sheetDirectory
      (make (steadyRoster draft) examplePath (some exampleDescription) reuseOptions)
      fun report _ _ => report.definition = definition ∧
        report.origin = .proposed (some "definition-0") := by
  have htidy : (⟨⟨⟨0⟩, {}⟩, emptyOffice.library⟩ : Desk).session.store.IsTidy :=
    Store.isTidy_empty
  have hready := Ready.filled htidy examplePath (some exampleDescription) reuseOptions
  have hfind := comes_findStored_none (o := reuseOptions) isDisk_id rfl rfl hready
    (found_sheetDirectory ▸ servingOf_emptyOffice)
  rw [make_of_roster (roster_steady draft) rfl]
  unfold look
  rw [bind_assoc]
  refine Turns.next (comes_prepare isDisk_id hgrid _ _) ?_
  rw [bind_assoc]
  refine Turns.next hfind ?_
  rw [found_sheetDirectory]
  show Turns _ askingDesk sheetDirectory (askProposer (steadyRoster draft) reuseOptions >>= _) _
  refine Turns.after (Q := fun origin desk' _ => origin = .proposed (some "definition-0") ∧
    Shows desk' definition t) ?_ ?_
  · refine Turns.next .get (Turns.next (.tell isDisk_id _) ?_)
    refine Turns.next (comes_propose_steady hgrid haccept) ?_
    refine Turns.after (ends_saveProposed_steady hname) ?_
    rintro _ _ _ ⟨rfl, hshows⟩
    exact Ends.pure ⟨rfl, hshows⟩
  · rintro _ _ _ ⟨rfl, hshows⟩
    refine Ends.mono (ends_conclude isDisk_id hshows reuseOptions g _) ?_
    exact fun _ _ _ h => ⟨h.1.2.1, h.1.2.2⟩

/-- What is proposed for the sheet in a folder that is empty. -/
def IsSteady (report : Report) (office' : Office) (s' : Directory) : Prop :=
  IsProposed (fun d : Directory => d) emptyOffice examplePath "p" reuseOptions sheetDirectory report
    "definition-0" office' s'

theorem isSteady_of_accept (hgrid : gridIn sheetDirectory examplePath = .ok g)
    (haccept : Proposal.accept true (Proposal.documentText draft) g = .ok (definition, t))
    (hname : definition.name = "") :
    ∃ report office' s', IsSteady report office' s' ∧ report.definition = definition := by
  have hmake := ends_make_steady hgrid haccept hname sheetDirectory rfl
  have hid : (Clock.freshId : StateM Directory _).run sheetDirectory = (⟨0⟩, sheetDirectory) := rfl
  have hrun := run_makeAlone hid (steadyRoster draft) emptyOffice examplePath
    (some exampleDescription) reuseOptions
  rcases hout : ((make (steadyRoster draft) examplePath (some exampleDescription)
    reuseOptions).run.run ⟨⟨⟨0⟩, {}⟩, emptyOffice.library⟩).run sheetDirectory
    with ⟨⟨outcome, desk⟩, s'⟩
  rw [hout] at hmake hrun
  obtain ⟨report, rfl, hdefinition, horigin⟩ := hmake
  have hused : Uses (fun d : Directory => d) "reg" [] emptyOffice.library sheetDirectory := by
    have hopened : Uses (fun d : Directory => d) "reg" [] _ _ :=
      .opened sheetDirectory ⟨_, makeFolders_sheetDirectory, names_madeDirectory⟩
    obtain ⟨hlibrary, hd⟩ := leads_openAt isDisk_id sheetDirectory "reg" sheetDirectory rfl
    dsimp only at hd
    rwa [hlibrary, hd, found_sheetDirectory] at hopened
  refine ⟨report, ⟨emptyOffice.sessions.remove ⟨0⟩, desk.library⟩, s',
    { used := ⟨[], hused⟩, platform := rfl, stored := rfl, made := ?_, origin := horigin },
    hdefinition⟩
  refine ⟨some (steadyProposer draft), {}, _, some exampleDescription, ?_, rfl,
    roster_steady draft, hrun⟩
  exact fun a ha _ _ => Option.some.inj ha ▸ rfl

/-- A nested document as a draft. -/
def nestedDraft (n : Nat) : List Char := Json.compactChars (nestedDocument n)

/-- Whether a nested document, without a name, is accepted for the sheet and read back from its file
    or not. -/
def isDrafted (n : Nat) (shallow : Bool) : Bool :=
  match drafted exampleText (nestedDraft n) with
  | some (_, definition, _) => definition.name == "" && decide definition.IsShallow == shallow
  | none => false

/-- A nested document is proposed for the sheet and saved. -/
theorem exists_isSteady {n : Nat} {shallow : Bool} (h : isDrafted n shallow = true) :
    ∃ report office' s', IsSteady report office' s' ∧
      decide report.definition.IsShallow = shallow := by
  unfold isDrafted at h
  split at h
  · rename_i g definition t hdrafted
    obtain ⟨hg, haccept⟩ := accept_of_drafted hdrafted
    rw [Bool.and_eq_true, beq_iff_eq, beq_iff_eq] at h
    have hgrid : gridIn sheetDirectory examplePath = .ok g := gridIn_sheetDirectory.trans hg
    obtain ⟨report, office', s', hsteady, hdefinition⟩ := isSteady_of_accept hgrid haccept h.1
    exact ⟨report, office', s', hsteady, hdefinition ▸ h.2⟩
  · cases h

theorem isReadable_emptyOffice : IsReadable emptyOffice.library "p" := by
  intro e he
  rw [servingOf_emptyOffice] at he
  cases he

/-- **What has been proposed for the sheet is reused.** -/
theorem steadyReport_reuse : ∃ report office' s', IsSteady report office' s' ∧
    IsReadable emptyOffice.library "p" ∧ report.definition.IsShallow ∧
    ∃ again later' s₃, ComesUnasked office' examplePath none reuseOptions s' again later' s₃ ∧
      again.origin = .stored "definition-0" ∧ again.table = report.table ∧
      again.definition = report.definition := by
  have h : isDrafted 0 true = true := by decide +kernel
  obtain ⟨report, office', s', hsteady, hshallow⟩ := exists_isSteady h
  have hshallow := of_decide_eq_true hshallow
  exact ⟨report, office', s', hsteady, isReadable_emptyOffice, hshallow,
    makeAlone_reuse isDisk_id hsteady isReadable_emptyOffice hshallow rfl rfl none⟩

/-- **What is nested too deep to be read back is not found again**: without a proposer there is no
second report. -/
theorem nestedReport_notReused : ∃ report office' s', IsSteady report office' s' ∧
    IsReadable emptyOffice.library "p" ∧ ∃ reason,
    ((makeAlone (bareRoster office'.library.path) office' examplePath none reuseOptions :
      StateM Directory _).run s').1.1 = .error (.noDefinition reason) := by
  have h : isDrafted 123 false = true := by decide +kernel
  obtain ⟨report, office', s', hsteady, hdeep⟩ := exists_isSteady h
  have hdeep := of_decide_eq_false hdeep
  exact ⟨report, office', s', hsteady, isReadable_emptyOffice,
    IsProposed.not_reused isDisk_id hsteady rfl hdeep none⟩

end

end Report

end UsageGrid
