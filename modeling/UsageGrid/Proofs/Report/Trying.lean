import Mathlib.Logic.Function.Basic
import UsageGrid.Proofs.Report.Ranking
import UsageGrid.Proofs.Report.Turns

/-!
# Trying stored definitions

The definitions that serve a platform are tried in turn until one has records, and each try is
counted, in memory and in the file of the definition (`Tried`). A try reads the grid from the file of
the report, as that is then (`recordsIn`). A search for a stored definition tries them in this way,
and leaves the one that has worked in the session with its table (`ends_findStored`).
-/

namespace UsageGrid.Report

open Dataflow Host Library

/-! ## 1. Grids in a directory -/

/-- The grid of a file in a directory. -/
def gridIn (d : Directory) (path : String) : Except GridError Grid :=
  match d.read path with
  | .error cause => .error (.unreadable cause)
  | .ok content => Grid.ofBytes content.toList

/-- The table of a definition, if it has records. -/
def recordsOf (g : Grid) (definition : Definition) : Option Table :=
  (Table.ofGrid definition g).toOption.filter fun t => !t.isEmpty

/-- The table of a definition for a file. -/
def tableIn (d : Directory) (path : String) (definition : Definition) :
    Except WorkerError Table := do
  let g ← (gridIn d path).mapError .grid
  (Table.ofGrid definition g).mapError .extraction

/-- What comes out of an extraction. -/
def extracted (d : Directory) (inputs : Inputs) : Except WorkerError (List Artifact) := do
  let file ← inputs.get .file
  let definition ← inputs.get .definition
  (tableIn d file.path definition).map fun t => [.ofData .table t]

/-- The table of a definition for a file, if it has records. -/
def recordsIn (d : Directory) (path : String) (definition : Definition) : Option Table :=
  (tableIn d path definition).toOption.filter fun t => !t.isEmpty

theorem recordsIn_of_error {d : Directory} {path : String} {definition : Definition} {e : WorkerError}
    (h : tableIn d path definition = .error e) : recordsIn d path definition = none := by
  unfold recordsIn
  rw [h]
  rfl

theorem recordsIn_of_table {d : Directory} {path : String} {definition : Definition} {t : Table}
    (h : tableIn d path definition = .ok t) :
    recordsIn d path definition = if t.isEmpty then none else some t := by
  unfold recordsIn
  rw [h]
  show (some t).filter _ = _
  rw [Option.filter_some]
  cases t.isEmpty <;> rfl

theorem recordsIn_of_grid {d : Directory} {path : String} {g : Grid} (h : gridIn d path = .ok g)
    (definition : Definition) : recordsIn d path definition = recordsOf g definition := by
  unfold recordsIn recordsOf tableIn
  rw [h, mapError_ok, ok_bind]
  cases Table.ofGrid definition g <;> rfl

theorem gridIn_eq_of_read {d d' : Directory} {path : String} (h : d'.read path = d.read path) :
    gridIn d' path = gridIn d path := by
  unfold gridIn
  rw [h]

theorem read_of_gridIn {d : Directory} {path : String} {g : Grid} (h : gridIn d path = .ok g) :
    ∃ content, d.read path = .ok content := by
  unfold gridIn at h
  cases hread : d.read path with
  | error cause =>
    rw [hread] at h
    cases h
  | ok content => exact ⟨content, rfl⟩

theorem gridIn_grows {d d' : Directory} {path : String} {g : Grid} (hgrows : d.Grows d')
    (h : gridIn d path = .ok g) : gridIn d' path = .ok g := by
  obtain ⟨content, hread⟩ := read_of_gridIn h
  rw [gridIn_eq_of_read ((hgrows.read hread).trans hread.symm), h]

/-- The sheet, and no folder yet. -/
def sheetDirectory : Directory := ⟨[([examplePath], .file exampleSheet)]⟩

theorem gridIn_sheetDirectory : gridIn sheetDirectory examplePath
    = Grid.ofText exampleText (Csv.detectDelimiter exampleText) := by
  have hread : sheetDirectory.read examplePath = .ok exampleSheet :=
    Directory.read_eq_ok.2 ⟨[examplePath], by with_unfolding_all rfl, rfl, by decide +kernel⟩
  unfold gridIn
  rw [hread]
  exact ofBytes_exampleSheet

/-! ## 2. Tries -/

variable {T : String → Prop} {path : String} {l l' : Library} {d d' : Directory} {e : StoredDefinition}
  {ds : List StoredDefinition} {r : Option (StoredDefinition × Table)}

/-- Definitions of a library are tried for a file, one after the other, until one has records. Each
    try is counted in memory and in the file of the definition, with a time that the clock has
    told. -/
inductive Tried (T : String → Prop) (path : String) : Library → Directory → List StoredDefinition →
    Option (StoredDefinition × Table) → Library → Directory → Prop where
  | ended {l : Library} {d : Directory} : Tried T path l d [] none l d
  | worked {l : Library} {d : Directory} {e : StoredDefinition} {rest : List StoredDefinition}
      {p : Directory.Place} {t : Table} (place : d.CanWrite (l.pathOf e.id) p)
      (records : recordsIn d path e.definition = some t) {time : String} (told : T time) :
      Tried T path l d (e :: rest) (some (e, t)) (l.put (e.used true time))
        (d.put p (fileOf (e.used true time)))
  | failed {l l' : Library} {d d' : Directory} {e : StoredDefinition}
      {rest : List StoredDefinition} {r : Option (StoredDefinition × Table)}
      {p : Directory.Place} (place : d.CanWrite (l.pathOf e.id) p)
      (records : recordsIn d path e.definition = none) {time : String} (told : T time)
      (later : Tried T path (l.put (e.used false time)) (d.put p (fileOf (e.used false time))) rest r
        l' d') : Tried T path l d (e :: rest) r l' d'

/-- A definition that has records ends the tries. -/
theorem Tried.of_some {rest : List StoredDefinition} {t : Table}
    (h : Tried T path l d (e :: rest) r l' d') (ht : recordsIn d path e.definition = some t) :
    r = some (e, t) ∧ ∃ p time, d.CanWrite (l.pathOf e.id) p ∧ T time ∧
      l' = l.put (e.used true time) ∧ d' = d.put p (fileOf (e.used true time)) := by
  cases h with
  | worked place records told =>
    obtain rfl := Option.some.inj (records.symm.trans ht)
    exact ⟨rfl, _, _, place, told, rfl, rfl⟩
  | failed place records told later => exact nomatch records.symm.trans ht

/-- After one that has none the tries go on. -/
theorem Tried.of_none {rest : List StoredDefinition} (h : Tried T path l d (e :: rest) r l' d')
    (hnone : recordsIn d path e.definition = none) :
    ∃ p time, d.CanWrite (l.pathOf e.id) p ∧ T time ∧
      Tried T path (l.put (e.used false time)) (d.put p (fileOf (e.used false time))) rest r l' d' := by
  cases h with
  | worked place records told => exact nomatch records.symm.trans hnone
  | failed place records told later => exact ⟨_, _, place, told, later⟩

/-- A definition after the tries: some have failed, one may have worked. -/
def tallied (failed : List String) (worked : Option String) (time : String → String)
    (e : StoredDefinition) : StoredDefinition :=
  if e.id ∈ failed then e.used false (time e.id)
  else if worked = some e.id then e.used true (time e.id) else e

section

variable {failed : List String} {worked : Option String} (time : String → String)

theorem tallied_of_mem (h : e.id ∈ failed) :
    tallied failed worked time e = e.used false (time e.id) := if_pos h

theorem tallied_of_eq (h : e.id ∉ failed) (hworked : worked = some e.id) :
    tallied failed worked time e = e.used true (time e.id) := (if_neg h).trans (if_pos hworked)

theorem tallied_of_ne (h : e.id ∉ failed) (hworked : worked ≠ some e.id) :
    tallied failed worked time e = e := (if_neg h).trans (if_neg hworked)

end

/-- The list after a use of a definition that is in it. -/
theorem list_put_used (hordered : Ordered l.list) (he : e ∈ l.list) (success : Bool)
    (time : String) : (l.put (e.used success time)).list
      = l.list.map fun f => if f.id = e.id then f.used success time else f := by
  have hinsert : insert (e.used success time) l.list
      = l.list.map fun f => if f.id = e.id then e.used success time else f :=
    insert_eq_map hordered ⟨e, he, rfl⟩
  refine hinsert.trans (List.map_congr_left fun f hf => ?_)
  by_cases hid : f.id = e.id
  · rw [if_pos hid, if_pos hid, hordered.eq_of_id hf he hid]
  · rw [if_neg hid, if_neg hid]

/-- A failure of a definition before others are tallied. -/
theorem tallied_put_failed (hordered : Ordered l.list) (he : e ∈ l.list) {failed : List String}
    {worked : Option String} (hfailed : e.id ∉ failed) (hworked : worked ≠ some e.id)
    (times : String → String) (time : String) :
    (l.put (e.used false time)).list.map (tallied failed worked times)
      = l.list.map (tallied (e.id :: failed) worked (Function.update times e.id time)) := by
  rw [list_put_used hordered he, List.map_map]
  refine List.map_congr_left fun f _ => ?_
  show tallied _ _ _ (if f.id = e.id then f.used false time else f) = _
  by_cases hid : f.id = e.id
  · rw [if_pos hid, tallied_of_mem _ (List.mem_cons.2 (.inl hid)), hid, Function.update_self]
    exact tallied_of_ne _ (hid ▸ hfailed) (hid ▸ hworked)
  · rw [if_neg hid]
    unfold tallied
    rw [Function.update_of_ne hid]
    simp only [List.mem_cons, hid, false_or]

/-- **Tries count a failure of each definition before the one that has worked**, a success of that
    one, and leave every other as it is. -/
theorem Tried.list (h : Tried T path l d ds r l' d') (hordered : Ordered l.list)
    (hmem : ∀ e ∈ ds, e ∈ l.list) (hdistinct : (ds.map (·.id)).Nodup) :
    ∃ failed rest time, ds = failed ++ (r.map (·.1)).toList ++ rest ∧ (r = none → rest = []) ∧
      l'.list = l.list.map (tallied (failed.map (·.id)) (r.map (·.1.id)) time) := by
  induction h with
  | @ended l d =>
    refine ⟨[], [], fun _ => "", rfl, fun _ => rfl, ?_⟩
    exact ((List.map_congr_left fun e _ => tallied_of_ne _ List.not_mem_nil
      (Option.some_ne_none e.id).symm).trans (List.map_id _)).symm
  | @worked l d e rest p t place records time told =>
    refine ⟨[], rest, fun _ => time, rfl, nofun, ?_⟩
    rw [list_put_used hordered (hmem e List.mem_cons_self)]
    refine List.map_congr_left fun f _ => ?_
    by_cases hid : f.id = e.id
    · rw [if_pos hid]
      exact (tallied_of_eq (fun _ => time) List.not_mem_nil (congrArg some hid.symm)).symm
    · rw [if_neg hid]
      exact (tallied_of_ne (fun _ => time) List.not_mem_nil fun h =>
        hid (Option.some.inj h).symm).symm
  | @failed l l' d d' e rest r p place records time told later ih =>
    obtain ⟨he, hrest⟩ := List.forall_mem_cons.1 hmem
    obtain ⟨hnew, hdistinct⟩ := List.nodup_cons.1 hdistinct
    have hother : ∀ f ∈ rest, f.id ≠ e.id := fun f hf hid =>
      hnew (List.mem_map.2 ⟨f, hf, hid⟩)
    obtain ⟨failed, untried, times, hds, huntried, hlist⟩ := ih (hordered.insert _)
      (fun f hf => (mem_insert hordered).2 (.inr ⟨hrest f hf, hother f hf⟩)) hdistinct
    refine ⟨e :: failed, untried, Function.update times e.id time, by rw [hds]; rfl, huntried, ?_⟩
    -- the tries that follow are of other definitions
    have hfailed : e.id ∉ failed.map (·.id) := by
      intro hin
      obtain ⟨f, hf, hid⟩ := List.mem_map.1 hin
      exact hother f (hds ▸ List.mem_append_left _ (List.mem_append_left _ hf)) hid
    have hworked : r.map (·.1.id) ≠ some e.id := by
      intro hsome
      obtain ⟨⟨f, t⟩, rfl, hid⟩ := Option.map_eq_some_iff.1 hsome
      exact hother f (hds ▸ List.mem_append_left _ (List.mem_append_right _ List.mem_cons_self)) hid
    exact hlist.trans (tallied_put_failed hordered he hfailed hworked times time)

/-! ## 3. Before a series of tries -/

/-- The workers without a proposer. -/
def bareRoster {m : Type → Type} [Monad m] [Files m] [Journal m] (folder : String) : Roster m :=
  ⟨[extractionWorker, platformWorker folder]⟩

theorem roster_none {m : Type → Type} [Monad m] [Files m] [Journal m] (po : Proposal.Options)
    (folder : String) : roster (none : Option (Proposal.Proposer m)) po folder
      = .ok (bareRoster folder) := rfl

/-- The session is tidy and holds the file of the report. -/
structure Ready (path : String) (desk : Desk) : Prop where
  tidy : desk.session.store.IsTidy
  file : desk.session.store.find? Kind.file.name = some ⟨.file, ⟨path⟩⟩

/-- The session holds a definition and a table. -/
structure Shows (desk : Desk) (definition : Definition) (t : Table) : Prop where
  definition : desk.session.store.find? Kind.definition.name = some ⟨.definition, definition⟩
  table : desk.session.store.find? Kind.table.name = some ⟨.table, t⟩

section

variable {desk : Desk} {definition : Definition}

theorem Ready.set (h : Ready path desk) {k : Kind} (hk : Kind.file ≠ k) (a : k.Data) :
    Ready path (desk.set k a) :=
  ⟨h.tidy.set k a, (desk.find?_set_of_ne a hk).trans h.file⟩

theorem Ready.withLibrary (h : Ready path desk) (library : Library) :
    Ready path { desk with library } := ⟨h.tidy, h.file⟩

theorem Ready.gather_extraction (h : Ready path desk)
    (hdefinition : desk.session.store.find? Kind.definition.name
      = some ⟨.definition, definition⟩) :
    Session.gather extractionName desk.session.store [.file, .definition]
      = .ok [⟨.file, ⟨path⟩⟩, ⟨.definition, definition⟩] := by
  rw [Session.gather_cons_of_one (h.tidy.ofKind h.file),
    Session.gather_cons_of_one (h.tidy.ofKind hdefinition)]
  rfl

end

/-! ## 4. One try -/

variable {σ : Type} [Files (StateM σ)] [Journal (StateM σ)] [Clock (StateM σ)]
  {dir : σ → Directory} (hdisk : IsDisk dir) {desk : Desk}

include hdisk

theorem leads_readGrid (d : Directory) (path : String) :
    Leads dir d (Grid.readFile path) fun out d' => out = gridIn d path ∧ d' = d := by
  refine (hdisk.read d path).bindEq ?_
  unfold gridIn
  cases d.read path <;> exact .pure ⟨rfl, rfl⟩

theorem leads_gridOf (d : Directory) (path : String) :
    Leads dir d (gridOf ⟨path⟩).run fun out d' =>
      out = (gridIn d path).mapError .grid ∧ d' = d :=
  (leads_readGrid hdisk d path).bindEq (.pure ⟨rfl, rfl⟩)

theorem leads_extract (d : Directory) (inputs : Inputs) :
    Leads dir d (extract inputs).run fun out d' => out = extracted d inputs ∧ d' = d := by
  unfold extract extracted
  cases inputs.get .file with
  | error e => exact .pure ⟨rfl, rfl⟩
  | ok file =>
    cases inputs.get .definition with
    | error e => exact .pure ⟨rfl, rfl⟩
    | ok definition =>
      show Leads dir d ((gridOf file).run >>= ExceptT.bindCont fun g =>
        liftM ((Table.ofGrid definition g).mapError WorkerError.extraction) >>= fun t =>
          pure [Artifact.ofData .table t]) _
      refine (leads_gridOf hdisk d file.path).bindEq ?_
      rw [ok_bind, ok_bind]
      unfold tableIn
      cases gridIn d file.path with
      | error e => exact .pure ⟨rfl, rfl⟩
      | ok g =>
        rw [mapError_ok, ok_bind]
        show Leads dir d (liftM ((Table.ofGrid definition g).mapError WorkerError.extraction) >>=
          fun t => pure [Artifact.ofData .table t] : ExceptT WorkerError (StateM σ) _).run _
        cases Table.ofGrid definition g <;> exact .pure ⟨rfl, rfl⟩

/-- **An extraction writes the table, or changes nothing.** -/
theorem leads_run_extraction {definition : Definition}
    (hgather : Session.gather extractionName desk.session.store [.file, .definition]
      = .ok [⟨.file, ⟨path⟩⟩, ⟨.definition, definition⟩]) :
    Leads dir d (desk.session.run extractionWorker) fun out d' => d' = d ∧
      ((∃ e e', tableIn d path definition = .error e ∧ out = (.error e', desk.session)) ∨
      ∃ t names, tableIn d path definition = .ok t ∧
        out = (.ok names, (desk.set .table t).session)) := by
  have hwork : Leads dir d (extractionWorker.run [⟨.file, ⟨path⟩⟩, ⟨.definition, definition⟩])
      fun out d' => out = (tableIn d path definition).map (fun t => [.ofData .table t]) ∧ d' = d :=
    leads_extract hdisk d _
  refine (leads_run hdisk hgather hwork ?_).mono ?_
  · rintro _ _ ⟨hout, -⟩
    obtain ⟨t, -, rfl⟩ := map_eq_ok.1 hout.symm
    rfl
  · rintro _ d' (⟨e, ⟨hout, rfl⟩, rfl⟩ | ⟨_, names, ⟨hout, rfl⟩, rfl⟩)
    · exact ⟨rfl, .inl ⟨e, _, map_eq_error.1 hout.symm, rfl⟩⟩
    · obtain ⟨t, ht, rfl⟩ := map_eq_ok.1 hout.symm
      exact ⟨rfl, .inr ⟨t, names, ht, rfl⟩⟩

/-- What a try leaves behind: the use has been counted, and if the definition has records, the
    session shows them. -/
def TriedOnce (T : String → Prop) (path : String) (desk : Desk) (d : Directory) (p : Directory.Place)
    (e : StoredDefinition) (worked : Bool) (desk' : Desk) (d' : Directory) : Prop :=
  worked = (recordsIn d path e.definition).isSome ∧
  (∃ time, T time ∧ desk'.library = desk.library.put (e.used worked time) ∧
    d' = d.put p (fileOf (e.used worked time))) ∧
  Ready path desk' ∧ ∀ t, recordsIn d path e.definition = some t → Shows desk' e.definition t

theorem ends_counted {desk₁ : Desk} {p : Directory.Place} (htime : Tells dir T)
    (hready : Ready path desk₁)
    (hlibrary : desk₁.library = desk.library) (hget : desk.library.get e.id = .ok e)
    (hwrite : d.CanWrite (desk.library.pathOf e.id) p) {worked : Bool}
    (hworked : worked = (recordsIn d path e.definition).isSome)
    (hshows : ∀ t, recordsIn d path e.definition = some t → Shows desk₁ e.definition t)
    (entry : Log.Entry) :
    Ends dir desk₁ d (do
      Making.countUse e.id worked
      Journal.add entry
      pure worked) (TriedOnce T path desk d p e) := by
  rw [← hlibrary] at hget hwrite
  refine Turns.after (Ends.countUse hdisk htime hget hwrite worked) ?_
  rintro _ _ _ ⟨time, told, rfl, rfl⟩
  refine Turns.next (.tell hdisk _) (Ends.pure ⟨hworked, ⟨time, told, ?_, rfl⟩,
    hready.withLibrary _, fun t ht => ⟨(hshows t ht).definition, (hshows t ht).table⟩⟩)
  rw [← hlibrary]

/-- **A try of a stored definition.** -/
theorem ends_tryStored {p : Directory.Place} (htime : Tells dir T)
    (hready : Ready path desk)
    (hget : desk.library.get e.id = .ok e) (hwrite : d.CanWrite (desk.library.pathOf e.id) p) :
    Ends dir desk d (tryStored extractionWorker e) (TriedOnce T path desk d p e) := by
  have hready₁ := hready.set (k := .definition) (by decide) e.definition
  have hdefinition := desk.find?_set .definition e.definition
  refine Turns.next (.keep .definition e.definition) (Turns.after (Ends.tryWorker
    (leads_run_extraction hdisk (hready₁.gather_extraction hdefinition))) ?_)
  rintro out _ d' ⟨session, ⟨rfl, hrun⟩, rfl⟩
  rcases hrun with ⟨fault, _, htable, hout⟩ | ⟨t, names, htable, hout⟩
  · obtain ⟨rfl, rfl⟩ := Prod.mk.inj hout
    have hnone := recordsIn_of_error htable
    exact ends_counted hdisk htime hready₁ rfl hget hwrite (by rw [hnone]; rfl)
      (fun _ ht => nomatch hnone.symm.trans ht) _
  · obtain ⟨rfl, rfl⟩ := Prod.mk.inj hout
    have hready₂ := hready₁.set (k := .table) (by decide) t
    have hrecords := recordsIn_of_table htable
    refine Turns.next (.kept ((desk.set .definition e.definition).find?_set .table t)) ?_
    show Ends dir _ d' (if t.isEmpty then _ else _) _
    cases hempty : t.isEmpty with
    | true =>
      rw [hempty, if_pos rfl] at hrecords
      exact ends_counted hdisk htime hready₂ rfl hget hwrite (by rw [hrecords]; rfl)
        (fun _ ht => nomatch hrecords.symm.trans ht) _
    | false =>
      rw [hempty, if_neg Bool.false_ne_true] at hrecords
      refine ends_counted hdisk htime hready₂ rfl hget hwrite (by rw [hrecords]; rfl) (fun t' ht => ?_) _
      obtain rfl := Option.some.inj (hrecords.symm.trans ht)
      exact ⟨(Desk.find?_set_of_ne _ (k := .table) t (by decide)).trans hdefinition,
        Desk.find?_set _ .table t⟩

/-! ## 5. A series of tries -/

/-- What a series of tries leaves behind. -/
def TriedAll (T : String → Prop) (path : String) (desk : Desk) (d : Directory) (ds : List StoredDefinition)
    (id : Option String) (desk' : Desk) (d' : Directory) : Prop :=
  ∃ r, Tried T path desk.library d ds r desk'.library d' ∧ id = r.map (·.1.id) ∧ Ready path desk' ∧
    ∀ e t, r = some (e, t) → Shows desk' e.definition t

/-- **Definitions are tried until one has records.** They are in memory, and their files can be
    written. -/
theorem ends_tryEach (htime : Tells dir T) (total : Nat) {i : Nat} (hready : Ready path desk)
    (hordered : Ordered desk.library.list) (hmem : ∀ e ∈ ds, e ∈ desk.library.list)
    (hdistinct : (ds.map (·.id)).Nodup)
    (hwrite : ∀ e ∈ ds, ∃ p, d.CanWrite (desk.library.pathOf e.id) p) :
    Ends dir desk d (tryEach extractionWorker total i ds) (TriedAll T path desk d ds) := by
  induction ds generalizing i desk d with
  | nil => exact Ends.pure ⟨none, .ended, rfl, hready, fun _ _ h => nomatch h⟩
  | cons e rest ih =>
    obtain ⟨he, hrest⟩ := List.forall_mem_cons.1 hmem
    obtain ⟨hnew, hdistinct⟩ := List.nodup_cons.1 hdistinct
    obtain ⟨⟨p, hp⟩, hwrite⟩ := List.forall_mem_cons.1 hwrite
    refine Turns.next (.tell hdisk _) (Turns.after
      (ends_tryStored hdisk htime hready (get_of_mem hordered he) hp) ?_)
    rintro worked desk₁ d₁ ⟨hworked, ⟨time, told, hlibrary, rfl⟩, hready₁, hshows⟩
    cases worked with
    | true =>
      obtain ⟨t, ht⟩ := Option.isSome_iff_exists.1 hworked.symm
      refine Ends.pure ⟨some (e, t), ?_, rfl, hready₁, fun _ _ h => ?_⟩
      · rw [hlibrary]
        exact .worked hp ht told
      · obtain ⟨rfl, rfl⟩ := Prod.mk.inj (Option.some.inj h)
        exact hshows t ht
    | false =>
      have hnone := Option.isSome_eq_false_iff.1 hworked.symm
      rw [Option.isNone_iff_eq_none] at hnone
      have hother : ∀ f ∈ rest, f.id ≠ e.id := fun f hf hid =>
        hnew (List.mem_map.2 ⟨f, hf, hid⟩)
      refine Ends.mono (ih (i := i + 1) hready₁ ?_ (fun f hf => ?_) hdistinct fun f hf => ?_) ?_
      · rw [hlibrary]
        exact hordered.insert _
      · rw [hlibrary]
        exact (mem_insert hordered).2 (.inr ⟨hrest f hf, hother f hf⟩)
      · obtain ⟨q, hq⟩ := hwrite f hf
        rw [hlibrary]
        exact ⟨q, hq.put hp.noFolder _⟩
      · rintro id desk₂ d₂ ⟨r, htried, rfl, hready₂, hshows₂⟩
        rw [hlibrary] at htried
        exact ⟨r, .failed hp hnone told htried, rfl, hready₂, hshows₂⟩

/-! ## 6. A platform -/

omit [Files (StateM σ)] [Journal (StateM σ)] [Clock (StateM σ)] hdisk in
theorem known_platformIn (l : Library) (p : String) :
    (platformIn l p).known = false ↔ l.servingOf p = [] := by
  obtain ⟨names, -, h⟩ := platformIn_eq l p
  rw [h, Bool.not_eq_false', List.isEmpty_iff]

/-- What comes out of a look into a folder. -/
def lookedUp (folder : String) (d : Directory) (inputs : Inputs) :
    Except WorkerError (List Artifact) :=
  (inputs.get .platform).map fun p => [.ofData .platform (platformIn (found d folder) p.name)]

theorem leads_lookUp (d : Directory) (folder : String) (inputs : Inputs) :
    Leads dir d (lookUp folder inputs).run fun out d' => out = lookedUp folder d inputs ∧ d' = d := by
  unfold lookUp lookedUp
  cases inputs.get .platform with
  | error e => exact .pure ⟨rfl, rfl⟩
  | ok platform =>
    show Leads dir d ((openAt folder >>= fun l => pure (Except.ok l)) >>= ExceptT.bindCont fun l =>
      pure [Artifact.ofData .platform (platformIn l platform.name)]) _
    exact Leads.bindEq ((leads_openAt hdisk d folder).bindEq (.pure ⟨rfl, rfl⟩)) (.pure ⟨rfl, rfl⟩)

/-- A platform that is handed to the worker is looked up. -/
theorem comes_runPlatform (d : Directory) (folder p : String)
    (hgather : Session.gather platformName desk.session.store [.platform]
      = .ok [⟨.platform, { name := p }⟩]) :
    Comes dir desk d (Making.runWorker (platformWorker folder)) ()
      (desk.set .platform (platformIn (found d folder) p)) d := by
  have hwork : Leads dir d ((platformWorker folder).run [⟨.platform, { name := p }⟩])
      fun out d' => out = .ok [.ofData .platform (platformIn (found d folder) p)] ∧ d' = d :=
    leads_lookUp hdisk d folder _
  have hrun := leads_run (w := platformWorker folder) hdisk hgather hwork
    (fun _ _ h => by obtain rfl := Except.ok.inj h.1; rfl)
  refine Turns.after (Ends.tryWorker hrun) ?_
  rintro out _ d' ⟨session, ⟨e, ⟨he, -⟩, -⟩ | ⟨artifacts, names, ⟨he, rfl⟩, hout⟩, rfl⟩
  · cases he
  · obtain ⟨rfl, rfl⟩ := Prod.mk.inj hout
    obtain rfl := Except.ok.inj he
    exact Turns.next (.ofExcept rfl) (Ends.pure ⟨rfl, rfl, rfl⟩)

section

variable {ask : Option (Proposal.Proposer (StateM σ))} {po : Proposal.Options} {folder p : String}
  {r : Roster (StateM σ)} {o : Options}

omit hdisk in
/-- **The proposer has no part in it.** -/
theorem findStored_of_roster (hr : roster ask po folder = .ok r) (o : Options) :
    findStored r o = findStored (bareRoster folder) o := by
  unfold findStored tryPlatform
  rw [roster_platform hr, roster_extraction hr]
  rfl

section

variable (hplatform : o.platform = some p) (hstored : o.ignoreStored = false)

include hplatform hstored

/-- **A search for a stored definition tries those that serve the platform**, unless the folder hides
    all of them. -/
theorem turns_findStored_of_gather
    (hgather : Session.gather platformName (desk.set .platform { name := p }).session.store
      [.platform] = .ok [⟨.platform, { name := p }⟩])
    {S : Except ReportError (Option String) → Desk → Directory → Prop}
    (hhidden : (found d folder).servingOf p = [] →
      S (.ok none) ((desk.set .platform { name := p }).set .platform (platformIn (found d folder) p)) d)
    (hshown : (found d folder).servingOf p ≠ [] → ∀ total,
      Turns dir ((desk.set .platform { name := p }).set .platform (platformIn (found d folder) p)) d
        (tryEach extractionWorker total 0 (desk.library.servingOf p)) S) :
    Turns dir desk d (findStored (bareRoster folder) o) S := by
  unfold findStored
  rw [hplatform, hstored]
  refine Turns.next (.keep .platform { name := p }) (Turns.next (.ofExcept rfl) ?_)
  refine Turns.next (comes_runPlatform hdisk d folder p hgather) ?_
  refine Turns.next (.kept (Desk.find?_set _ .platform _)) ?_
  show Turns dir _ d (if !(platformIn (found d folder) p).known then _ else _) _
  cases hknown : (platformIn (found d folder) p).known with
  | false =>
    exact Turns.next (.tell hdisk _) (Leads.pure (hhidden ((known_platformIn _ p).1 hknown)))
  | true =>
    have hfound : (found d folder).servingOf p ≠ [] := fun hnone =>
      Bool.false_ne_true (((known_platformIn _ p).2 hnone).symm.trans hknown)
    refine Turns.next (.tell hdisk _) (Turns.next .get (Turns.next (.ofExcept rfl) ?_))
    refine Turns.bind (hshown hfound _) ?_ fun _ _ _ h => h
    intro out desk' d' h
    cases out with
    | some id => exact Leads.pure h
    | none => exact Turns.next (.tell hdisk _) (Leads.pure h)

omit [Files (StateM σ)] [Journal (StateM σ)] [Clock (StateM σ)] hdisk hplatform hstored in
theorem Ready.gather_platform (hready : Ready path desk) (p : String) :
    Session.gather platformName (desk.set .platform { name := p }).session.store [.platform]
      = .ok [⟨.platform, { name := p }⟩] :=
  (Session.gather_cons_of_one ((hready.tidy.set .platform _).ofKind
    (desk.find?_set .platform { name := p })) []).trans rfl

/-- Where the definitions that serve the platform can be written, and the folder does not hide all of
    them, they are tried. -/
theorem ends_findStored (htime : Tells dir T) (hready : Ready path desk)
    (hordered : Ordered desk.library.list)
    (hknown : (found d folder).servingOf p = [] → desk.library.servingOf p = [])
    (hwrite : ∀ e ∈ desk.library.servingOf p, ∃ q, d.CanWrite (desk.library.pathOf e.id) q) :
    Ends dir desk d (findStored (bareRoster folder) o)
      (TriedAll T path desk d (desk.library.servingOf p)) := by
  have hready₂ := (hready.set (k := .platform) (by decide) { name := p }).set (k := .platform)
    (by decide) (platformIn (found d folder) p)
  refine turns_findStored_of_gather hdisk hplatform hstored (hready.gather_platform p) ?_ ?_
  · intro hhidden
    rw [hknown hhidden]
    exact ⟨none, rfl, none, .ended, rfl, hready₂, fun _ _ h => nomatch h⟩
  · intro _ total
    exact ends_tryEach hdisk htime total hready₂ hordered (fun _ he => (mem_servingOf.1 he).1)
      (nodup_servingOf hordered p) hwrite

end

end

end UsageGrid.Report
