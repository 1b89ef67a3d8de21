import UsageGrid.Proofs.Dataflow.Again
import UsageGrid.Proofs.Report.Trying

/-!
# Running a worker behind a report again

What the extraction worker and the platform worker make of what they are handed depends on the
directory alone, and is the same when they are handed it again. So a second run of either settles
for what the first has written, if that has not got in its way (`runAgain`):

* the table of an extraction does if the file or the definition lay where the table is written;
* what is known of a platform does if the platform lay elsewhere, as there are two of them then.
-/

namespace UsageGrid.Report

open Dataflow Host Library

/-! ## 1. What comes out again -/

theorem find?_map_renewed_of_ne {j k : Kind} (h : j ≠ k) (x : k.Data) (inputs : Inputs) :
    Inputs.find? (inputs.map (renewed k x)) j = inputs.find? j := by
  unfold Inputs.find?
  rw [List.findSome?_map]
  congr 1
  funext p
  show Payload.as? j (renewed k x p) = _
  unfold renewed
  split
  · rename_i hp
    rw [(Payload.as?_eq_none_iff j _).2 (Ne.symm h), (Payload.as?_eq_none_iff j p).2 (hp ▸ Ne.symm h)]
  · rfl

theorem find?_map_renewed {k : Kind} (x : k.Data) (inputs : Inputs) :
    Inputs.find? (inputs.map (renewed k x)) k = (inputs.find? k).map fun _ => x := by
  unfold Inputs.find?
  rw [List.findSome?_map, List.map_findSome?]
  congr 1
  funext p
  show Payload.as? k (renewed k x p) = (p.as? k).map fun _ => x
  unfold renewed
  split
  · rename_i hp
    obtain ⟨_, data⟩ := p
    obtain rfl : _ = k := hp
    rw [Payload.as?_mk, Payload.as?_mk]
    rfl
  · rename_i hp
    rw [(Payload.as?_eq_none_iff k p).2 hp]
    rfl

/-- A table is neither a file nor a definition. -/
theorem settles_extracted : Settles .table extracted := by
  intro d inputs artifacts h
  obtain ⟨file, hfile, h⟩ := bind_eq_ok.1 h
  obtain ⟨definition, hdefinition, h⟩ := bind_eq_ok.1 h
  obtain ⟨t, ht, rfl⟩ := map_eq_ok.1 h
  have hfile' : Inputs.get (inputs.map (renewed .table t)) .file = .ok file :=
    get_eq_ok.2 ((find?_map_renewed_of_ne (by decide) t inputs).trans (get_eq_ok.1 hfile))
  have hdefinition' : Inputs.get (inputs.map (renewed .table t)) .definition = .ok definition :=
    get_eq_ok.2 ((find?_map_renewed_of_ne (by decide) t inputs).trans (get_eq_ok.1 hdefinition))
  exact ⟨t, rfl, bind_eq_ok.2 ⟨file, hfile', bind_eq_ok.2 ⟨definition, hdefinition', h⟩⟩⟩

/-- What is known of a platform has the name of the platform. -/
theorem settles_lookedUp (folder : String) : Settles .platform (lookedUp folder) := by
  intro d inputs artifacts h
  obtain ⟨platform, hplatform, rfl⟩ := map_eq_ok.1 h
  let known := platformIn (found d folder) platform.name
  have hknown : Inputs.get (inputs.map (renewed .platform known)) .platform = .ok known := by
    rw [get_eq_ok, find?_map_renewed, get_eq_ok.1 hplatform]
    rfl
  exact ⟨known, rfl, map_eq_ok.2 ⟨known, hknown, rfl⟩⟩

/-! ## 2. What the workers compute -/

section

variable {σ : Type} [Files (StateM σ)] [Journal (StateM σ)] [Clock (StateM σ)]
  {dir : σ → Directory} (hdisk : IsDisk dir)

include hdisk

theorem computes_extraction : Worker.Computes dir extractionWorker extracted := leads_extract hdisk

theorem computes_platform (folder : String) :
    Worker.Computes dir (platformWorker folder) (lookedUp folder) :=
  fun d => leads_lookUp hdisk d folder

end

/-! ## 3. A sheet, a definition and a platform -/

/-- A session with the sheet and a platform under given names, and a definition between them. -/
def sheetSession (definition : Definition) (file platform : String) : Session where
  id := ⟨0⟩
  store := ⟨[(file, ⟨.file, ⟨examplePath⟩⟩), (Kind.definition.name, ⟨.definition, definition⟩),
    (platform, ⟨.platform, { name := "p" }⟩)]⟩

section

variable {definition : Definition}

theorem isOrdered_sheetSession {file platform : String} (hfile : file < Kind.definition.name)
    (hplatform : Kind.definition.name < platform) :
    (sheetSession definition file platform).store.IsOrdered := by
  refine .cons ?_ (.cons ?_ (.cons ?_ .nil))
  · rintro _ (_ | ⟨_, _ | ⟨_, ⟨⟩⟩⟩)
    · exact hfile
    · exact hfile.trans hplatform
  · rintro _ (_ | ⟨_, ⟨⟩⟩)
    exact hplatform
  · exact nofun

/-- Either worker runs there, as the definition has a table for the sheet. -/
theorem run_sheetSession (file platform : String) {t : Table}
    (ht : tableIn sheetDirectory examplePath definition = .ok t) {w : Worker (StateM Directory)}
    (hw : w ∈ (bareRoster "reg").workers) : ∃ names s',
      (((sheetSession definition file platform).run w).run sheetDirectory).1 = (.ok names, s') := by
  have hdeclared {k : Kind} {x : k.Data} : ∀ a ∈ [Artifact.ofData k x], a.kind ∈ [k] :=
    List.forall_mem_singleton.2 (List.mem_singleton_self k)
  let store := (sheetSession definition file platform).store
  rcases List.mem_pair.1 hw with rfl | rfl
  · have hfile : store.ofKind .file = [(file, ⟨.file, ⟨examplePath⟩⟩)] := rfl
    have hdefinition : store.ofKind .definition
        = [(Kind.definition.name, ⟨.definition, definition⟩)] := rfl
    have hdone : extracted sheetDirectory [⟨.file, ⟨examplePath⟩⟩, ⟨.definition, definition⟩]
        = .ok [.ofData .table t] :=
      bind_eq_ok.2 ⟨⟨examplePath⟩, rfl, bind_eq_ok.2 ⟨definition, rfl, map_eq_ok.2 ⟨t, ht, rfl⟩⟩⟩
    exact ⟨_, _, Session.run_of_supplied isDisk_id (computes_extraction isDisk_id)
      (.cons hfile (.cons hdefinition .nil)) hdone hdeclared⟩
  · have hplatform : store.ofKind .platform = [(platform, ⟨.platform, { name := "p" }⟩)] := rfl
    have hdone : lookedUp "reg" sheetDirectory [⟨.platform, { name := "p" }⟩]
        = .ok [.ofData .platform (platformIn (found sheetDirectory "reg") "p")] :=
      map_eq_ok.2 ⟨{ name := "p" }, rfl, rfl⟩
    exact ⟨_, _, Session.run_of_supplied isDisk_id (computes_platform isDisk_id "reg")
      (.cons hplatform .nil) hdone hdeclared⟩

end

/-- The example document has a table for the sheet. -/
theorem exists_tableIn : ∃ d t, Definition.ofJson Rules.exampleDocument = .ok d ∧
    tableIn sheetDirectory examplePath d = .ok t := by
  have hrun : ((Definition.ofJson Rules.exampleDocument).toOption.any fun d =>
      (Grid.ofText exampleText (Csv.detectDelimiter exampleText)).toOption.any fun g =>
        (Table.ofGrid d g).toOption.any fun _ => true) = true := by decide +kernel
  obtain ⟨d, hd, hrun⟩ := exists_ok_of_any hrun
  obtain ⟨g, hg, hrun⟩ := exists_ok_of_any hrun
  obtain ⟨t, ht, -⟩ := exists_ok_of_any hrun
  refine ⟨d, t, hd, ?_⟩
  unfold tableIn
  rw [gridIn_sheetDirectory, hg, mapError_ok, ok_bind, ht]
  rfl

/-! ## 4. Running again -/

/-- **A worker that does not propose comes out the same when it is run again** with the directory
    unchanged: it writes the same names and leaves the session as the first run has left it, if there
    was room in the store for what it writes. If there was none, the second run fails, as what the
    worker needs is not held by one slot, and leaves the session too. -/
theorem runAgain {σ : Type} [Files (StateM σ)] [Journal (StateM σ)] [Clock (StateM σ)]
    {dir : σ → Directory} (hdisk : IsDisk dir) (folder : String) {w : Worker (StateM σ)} {k : Kind}
    (hw : w ∈ (bareRoster folder).workers) (hk : w.produces = [k]) {s s' : Session}
    (hordered : s.store.IsOrdered) {u u' : σ} (hu : dir u' = dir u) {names : List String}
    (h : ((s.run w).run u).1 = (.ok names, s')) :
    (s.store.HasRoom w.needs k → ((s'.run w).run u').1 = (.ok names, s')) ∧
    (¬ s.store.HasRoom w.needs k → ∃ j ∈ w.needs, ∃ count ≠ 1,
      ((s'.run w).run u').1 = (.error (.inputCount w.name j count), s')) := by
  rcases List.mem_pair.1 hw with rfl | rfl
  · obtain rfl := List.singleton_injective hk
    exact Session.run_settled hdisk (computes_extraction hdisk) settles_extracted hordered hu h
  · obtain rfl := List.singleton_injective hk
    exact Session.run_settled hdisk (computes_platform hdisk folder) (settles_lookedUp folder)
      hordered hu h

/-- Where the sheet and the platform lie under the names of their kinds, both workers run again. -/
theorem sheetSession_again : ∃ d, Definition.ofJson Rules.exampleDocument = .ok d ∧
    ∀ w ∈ (bareRoster (m := StateM Directory) "reg").workers, ∃ names s',
      (((sheetSession d Kind.file.name Kind.platform.name).run w).run sheetDirectory).1
        = (.ok names, s') ∧
      ((s'.run w).run sheetDirectory).1 = (.ok names, s') := by
  obtain ⟨d, t, hd, ht⟩ := exists_tableIn
  refine ⟨d, hd, fun w hw => ?_⟩
  have htidy : (sheetSession d Kind.file.name Kind.platform.name).store.IsTidy :=
    ⟨isOrdered_sheetSession (by decide) (by decide), by
      rintro _ (_ | ⟨_, _ | ⟨_, _ | ⟨_, ⟨⟩⟩⟩⟩) <;> rfl⟩
  obtain ⟨names, s', hrun⟩ := run_sheetSession _ _ ht hw
  obtain ⟨k, hk⟩ : ∃ k, w.produces = [k] := by
    rcases List.mem_pair.1 hw with rfl | rfl <;> exact ⟨_, rfl⟩
  have hagain := runAgain isDisk_id "reg" hw hk htidy.ordered rfl hrun
  exact ⟨names, s', hrun, hagain.1 (htidy.hasRoom _ k)⟩

/-- **Neither does where the sheet lies where the table is written**, and the platform not where
    platforms are. -/
theorem sheetSession_notAgain : ∃ d, Definition.ofJson Rules.exampleDocument = .ok d ∧
    (sheetSession d Kind.table.name "the platform").store.IsOrdered ∧
    ∀ w ∈ (bareRoster (m := StateM Directory) "reg").workers, ∃ names s',
      (((sheetSession d Kind.table.name "the platform").run w).run sheetDirectory).1
        = (.ok names, s') ∧
      ∃ e, ((s'.run w).run sheetDirectory).1 = (.error e, s') := by
  obtain ⟨d, t, hd, ht⟩ := exists_tableIn
  have hordered : (sheetSession d Kind.table.name "the platform").store.IsOrdered :=
    isOrdered_sheetSession (by decide) (by decide)
  refine ⟨d, hd, hordered, fun w hw => ?_⟩
  obtain ⟨names, s', hrun⟩ := run_sheetSession Kind.table.name "the platform" ht hw
  rcases List.mem_pair.1 hw with rfl | rfl
  · have hroom : ¬ (sheetSession d Kind.table.name "the platform").store.HasRoom
        [.file, .definition] .table := fun h =>
      nomatch (h (Kind.table.name, _) List.mem_cons_self (by decide)).1 rfl
    obtain ⟨j, -, count, -, hfails⟩ := (Session.run_settled isDisk_id (computes_extraction isDisk_id)
      settles_extracted hordered rfl hrun).2 hroom
    exact ⟨names, s', hrun, _, hfails⟩
  · have hroom : ¬ (sheetSession d Kind.table.name "the platform").store.HasRoom
        [.platform] .platform := fun h =>
      absurd ((h ("the platform", ⟨.platform, { name := "p" }⟩)
        (List.mem_cons_of_mem _ (List.mem_cons_of_mem _ List.mem_cons_self))
        (List.mem_singleton_self _)).2 rfl) (by decide)
    obtain ⟨j, -, count, -, hfails⟩ := (Session.run_settled isDisk_id
      (computes_platform isDisk_id "reg") (settles_lookedUp "reg") hordered rfl hrun).2 hroom
    exact ⟨names, s', hrun, _, hfails⟩

end UsageGrid.Report
