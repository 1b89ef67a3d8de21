import UsageGrid.Proofs.Report.Alone

/-!
# Reports by stored definitions

Of the stored definitions that serve a platform, the first that has records for the grid of a file
makes the report of the file, and no proposer is asked; those before it are counted as failures, and
it as a success (`makeAlone_stored`). This supposes that no try changes the file: each reads it again,
and the file of a definition is written when its use is counted (`ownFile_stored`).
-/

namespace UsageGrid.Report

open Dataflow Host Library

/-! ## 1. The file stays -/

/-- The files of definitions can be written, and that of the report is none of them. -/
def IsApart (path : String) (d : Directory) (l : Library) (ds : List StoredDefinition) : Prop :=
  ∀ e ∈ ds, ∃ p, d.CanWrite (l.pathOf e.id) p ∧ d.locate path ≠ .ok p

/-- The first of some definitions that has records for a grid. -/
def firstWith (g : Grid) (ds : List StoredDefinition) : Option (StoredDefinition × Table) :=
  ds.findSome? fun e => (recordsOf g e.definition).map fun t => (e, t)

theorem firstWith_eq_some {g : Grid} {ds failed rest : List StoredDefinition}
    {e : StoredDefinition} {t : Table} (hds : ds = failed ++ e :: rest)
    (hfailed : ∀ c ∈ failed, recordsOf g c.definition = none)
    (ht : recordsOf g e.definition = some t) : firstWith g ds = some (e, t) :=
  List.findSome?_eq_some_iff.2 ⟨failed, e, rest, hds, by rw [ht]; rfl,
    fun c hc => by rw [hfailed c hc]; rfl⟩

theorem firstWith_eq_none {g : Grid} {ds : List StoredDefinition}
    (h : ∀ c ∈ ds, recordsOf g c.definition = none) : firstWith g ds = none :=
  List.findSome?_eq_none_iff.2 fun c hc => by rw [h c hc]; rfl

section

variable {T : String → Prop} {path : String} {l l' : Library} {d d' : Directory} {ds : List StoredDefinition}
  {r : Option (StoredDefinition × Table)} {g : Grid}

/-- Where a file has a grid, it still has it after another file has been written. -/
theorem gridIn_put {p : Directory.Place} (h : gridIn d path = .ok g)
    (hp : d.find? p ≠ some .folder) (hpath : d.locate path ≠ .ok p) (content : ByteArray) :
    gridIn (d.put p (.file content)) path = .ok g ∧
      (d.put p (.file content)).locate path = d.locate path := by
  obtain ⟨bytes, hread⟩ := read_of_gridIn h
  obtain ⟨q, hlocate, -⟩ := Directory.read_eq_ok.1 hread
  refine ⟨?_, ?_⟩
  · rw [gridIn_eq_of_read ((Directory.read_put hread hp hpath content).trans hread.symm), h]
  · rw [hlocate]
    exact Directory.locate_mono (Directory.foldersIn_put _ hp) hlocate

/-- **Tries of definitions whose files are elsewhere find the first with records.** -/
theorem Tried.eq_firstWith (h : Tried T path l d ds r l' d') (hgrid : gridIn d path = .ok g)
    (hapart : IsApart path d l ds) : r = firstWith g ds := by
  induction h with
  | ended => rfl
  | worked place records told =>
    rw [recordsIn_of_grid hgrid] at records
    rw [firstWith, List.findSome?_cons, records]
    rfl
  | @failed l l' d d' e rest r p place records time told later ih =>
    rw [recordsIn_of_grid hgrid] at records
    obtain ⟨⟨q, hq, hpath⟩, hrest⟩ := List.forall_mem_cons.1 hapart
    obtain rfl : q = p := Except.ok.inj (hq.leads.symm.trans place.leads)
    obtain ⟨hgrid', hlocate⟩ := gridIn_put hgrid hq.noFolder hpath _
    have hr := ih hgrid' fun f hf => by
      obtain ⟨p, hp, hne⟩ := hrest f hf
      exact ⟨p, hp.put hq.noFolder _, fun h => hne (hlocate.symm.trans h)⟩
    rw [hr]
    unfold firstWith
    rw [List.findSome?_cons, records]
    rfl

end

/-! ## 2. Which report is made -/

section

variable {σ : Type} [Files (StateM σ)] [Journal (StateM σ)] [Clock (StateM σ)]
  {dir : σ → Directory} {office : Office} {s : σ} {path platform : String}
  {description : Option Description} {o : Options} {g : Grid}

/-- A report comes out in one way, whatever proposer there is, or none. -/
def ComesUnasked (office : Office) (path : String) (description : Option Description) (o : Options)
    (s : σ) (report : Report) (office' : Office) (s' : σ) : Prop :=
  ∀ (ask : Option (Proposal.Proposer (StateM σ))) (po : Proposal.Options) (r : Roster (StateM σ)),
    roster ask po office.library.path = .ok r →
    (makeAlone r office path description o).run s = ((.ok report, office'), s')

/-- What a proposer has a part in begins at a desk, and in a state. -/
def AsksFrom (office : Office) (path : String) (description : Option Description) (o : Options)
    (g : Grid) (s : σ) (desk : Desk) (s' : σ) : Prop :=
  ∀ (ask : Option (Proposal.Proposer (StateM σ))) (po : Proposal.Options) (r : Roster (StateM σ)),
    roster ask po office.library.path = .ok r →
    (makeAlone r office path description o).run s
      = closing office.sessions (((askProposer r o >>= conclude o g).run.run desk).run s')

/-- The definitions that serve a platform are to be tried. -/
structure Options.IsFor (o : Options) (platform : String) : Prop where
  platform : o.platform = some platform
  noRules : o.rulesPath = none
  stored : o.ignoreStored = false

/-- A report is to be made of a file that has a grid. The definitions that serve the platform can be
    written, and the folder does not hide all of them. -/
structure IsSought (dir : σ → Directory) (l : Library) (path platform : String) (o : Options)
    (g : Grid) (s : σ) : Prop where
  options : o.IsFor platform
  grid : gridIn (dir s) path = .ok g
  ordered : Ordered l.list
  known : (found (dir s) l.path).servingOf platform = [] → l.servingOf platform = []
  writable : ∀ e ∈ l.servingOf platform, ∃ p, (dir s).CanWrite (l.pathOf e.id) p

/-- The sessions that are left when a report has been made. -/
def Office.sessionsAfter (office : Office) (s : σ) : Sessions :=
  office.sessions.remove ((Clock.freshId : StateM σ _).run s).1

section

variable (hdisk : IsDisk dir) {T : String → Prop} (htime : Tells dir T)
  (h : IsSought dir office.library path platform o g s)

include hdisk htime h

/-- **Before a proposer may be asked, the definitions that serve the platform are tried.** -/
theorem run_makeAlone_tried (description : Option Description) : ∃ r desk s',
    Tried T path office.library (dir s) (office.library.servingOf platform) r desk.library (dir s') ∧
    Ready path desk ∧ (∀ e t, r = some (e, t) → Shows desk e.definition t) ∧
    ∀ (ask : Option (Proposal.Proposer (StateM σ))) (po : Proposal.Options)
      (workers : Roster (StateM σ)), roster ask po office.library.path = .ok workers →
      (makeAlone workers office path description o).run s = closing (office.sessionsAfter s)
        (((proceed workers o g (r.map (·.1.id))).run.run desk).run s') := by
  rcases hid : (Clock.freshId : StateM σ _).run s with ⟨id, s₀⟩
  have hdir : dir s₀ = dir s := by
    have hfreshId := (hdisk.freshId (dir s) s rfl).2
    rwa [hid] at hfreshId
  have hlook : Ends dir ⟨⟨id, {}⟩, office.library⟩ (dir s)
      (look office.library.path path description o) _ :=
    ends_look hdisk htime h.options.platform h.options.stored h.grid Store.isTidy_empty h.ordered
      h.known h.writable description
  specialize hlook s₀ hdir
  rcases hrun : ((look office.library.path path description o : Making (StateM σ) _).run.run
    ⟨⟨id, {}⟩, office.library⟩).run s₀ with ⟨⟨out, desk⟩, s'⟩
  rw [hrun] at hlook
  obtain ⟨⟨_, _⟩, rfl, rfl, r, htried, rfl, hready, hshows⟩ := hlook
  refine ⟨r, desk, s', htried, hready, hshows, fun ask po workers hworkers => ?_⟩
  unfold Office.sessionsAfter
  rw [run_makeAlone hid, make_of_roster hworkers h.options.noRules, run_bind, hrun, hid]

/-- Where a definition has worked, the report is by it. -/
theorem makeAlone_of_tried (description : Option Description) : ∃ r l' d',
    Tried T path office.library (dir s) (office.library.servingOf platform) r l' d' ∧
    ∀ e t, r = some (e, t) → ∃ report s',
      ComesUnasked office path description o s report ⟨office.sessionsAfter s, l'⟩ s' ∧
      dir s' = d' ∧ report.origin = .stored e.id ∧ report.table = t ∧
      report.definition = e.definition := by
  obtain ⟨r, desk, s', htried, -, hshows, hrun⟩ := run_makeAlone_tried hdisk htime h description
  refine ⟨r, desk.library, dir s', htried, ?_⟩
  rintro e t rfl
  have hconclude := ends_conclude hdisk (hshows e t rfl) o g (.stored e.id) s' rfl
  rcases hend : ((conclude o g (.stored e.id) : Making (StateM σ) _).run.run desk).run s'
    with ⟨⟨out, desk'⟩, s''⟩
  rw [hend] at hconclude
  obtain ⟨report, rfl, ⟨htable, hdefinition, horigin⟩, hdesk, hdir⟩ := hconclude
  obtain rfl : desk' = desk := hdesk
  refine ⟨report, s'', fun ask po workers hworkers => ?_, hdir, horigin, htable, hdefinition⟩
  exact (hrun ask po workers hworkers).trans (congrArg (closing _) hend)

end

/-- A report by a stored definition is to be made of a file that has a grid. Memory and folder agree,
    the files of the definitions that serve the platform can be written, and the file of the report is
    none of them. -/
structure IsSupplied (dir : σ → Directory) (office : Office) (path platform : String) (o : Options)
    (g : Grid) (s : σ) : Prop where
  options : o.IsFor platform
  grid : gridIn (dir s) path = .ok g
  agrees : (found (dir s) office.library.path).list = office.library.list
  apart : IsApart path (dir s) office.library (office.library.servingOf platform)
  fresh : ((Clock.freshId : StateM σ _).run s).1 ∉ office.sessions.ids

omit [Files (StateM σ)] [Journal (StateM σ)] [Clock (StateM σ)] in
/-- Where memory and folder agree, the folder hides nothing. -/
theorem isSought_of_agrees (hoptions : o.IsFor platform) (hgrid : gridIn (dir s) path = .ok g)
    (hagrees : (found (dir s) office.library.path).list = office.library.list)
    (hwrite : ∀ e ∈ office.library.servingOf platform,
      ∃ p, (dir s).CanWrite (office.library.pathOf e.id) p) :
    IsSought dir office.library path platform o g s where
  options := hoptions
  grid := hgrid
  ordered := hagrees ▸ ordered_found _
  known := by
    unfold servingOf
    rw [hagrees]
    exact id
  writable := hwrite

section

variable (hdisk : IsDisk dir) {T : String → Prop} (htime : Tells dir T)
  (h : IsSupplied dir office path platform o g s)

omit [Files (StateM σ)] [Journal (StateM σ)] in
include h in
theorem IsSupplied.isSought : IsSought dir office.library path platform o g s :=
  isSought_of_agrees h.options h.grid h.agrees
    fun e he => (h.apart e he).imp fun _ hp => hp.1

include hdisk htime h

/-- **A report is made by the first stored definition that has records**, and no proposer has a part
in it. Those before it are counted as failures and it as a success, in memory and in their files;
every other definition is as before. If no stored definition has records, all that serve the platform
are counted as failures, and only then the proposer is asked. The other sessions are as before,
whatever comes of it. -/
theorem makeAlone_stored (description : Option Description) :
    (∀ failed e rest t, office.library.servingOf platform = failed ++ e :: rest →
      (∀ c ∈ failed, recordsOf g c.definition = none) → recordsOf g e.definition = some t →
      ∃ report office' s' time, ComesUnasked office path description o s report office' s' ∧
        report.origin = .stored e.id ∧ report.table = t ∧ report.definition = e.definition ∧
        office'.library.list
          = office.library.list.map (tallied (failed.map (·.id)) (some e.id) time) ∧
        Tried T path office.library (dir s) (office.library.servingOf platform) (some (e, t))
          office'.library (dir s')) ∧
    ((∀ c ∈ office.library.servingOf platform, recordsOf g c.definition = none) →
      ∃ desk s' time, AsksFrom office path description o g s desk s' ∧
        desk.library.list = office.library.list.map
          (tallied ((office.library.servingOf platform).map (·.id)) none time) ∧
        Tried T path office.library (dir s) (office.library.servingOf platform) none
          desk.library (dir s')) ∧
    ∀ r : Roster (StateM σ),
      ((makeAlone r office path description o).run s).1.2.sessions = office.sessions := by
  have hordered : Ordered office.library.list := h.isSought.ordered
  have hlist {r : Option (StoredDefinition × Table)} {l' : Library} {d' : Directory}
      (htried : Tried T path office.library (dir s) (office.library.servingOf platform) r l' d') :=
    htried.list hordered (fun e he => (mem_servingOf.1 he).1) (nodup_servingOf hordered platform)
  refine ⟨fun failed e rest t hds hfailed ht => ?_, fun hfailed => ?_, fun r =>
    sessions_makeAlone h.fresh r path description o⟩
  · obtain ⟨r, l', d', htried, hby⟩ := makeAlone_of_tried hdisk htime h.isSought description
    obtain rfl : r = some (e, t) :=
      (htried.eq_firstWith h.grid h.apart).trans (firstWith_eq_some hds hfailed ht)
    obtain ⟨report, s', hcomes, rfl, horigin, htable, hdefinition⟩ := hby e t rfl
    obtain ⟨failed', rest', time, hds', -, hlist⟩ := hlist htried
    obtain rfl : failed = failed' := by
      have hnodup : (office.library.servingOf platform).Nodup :=
        (nodup_servingOf hordered platform).of_map
      rw [hds, List.nodup_middle, List.nodup_cons, List.mem_append, not_or] at hnodup
      have hsame : failed' ++ e :: rest' = failed ++ e :: rest := by
        rw [← hds, hds', List.append_assoc]
        rfl
      exact ((List.append_cons_inj_of_notMem hnodup.1.1 hnodup.1.2).1 hsame.symm).1
    exact ⟨report, _, s', time, hcomes, horigin, htable, hdefinition, hlist, htried⟩
  · obtain ⟨r, desk, s', htried, -, -, hrun⟩ :=
      run_makeAlone_tried hdisk htime h.isSought description
    obtain rfl : r = none := (htried.eq_firstWith h.grid h.apart).trans (firstWith_eq_none hfailed)
    obtain ⟨failed, rest, time, hds, hrest, hlist⟩ := hlist htried
    rw [hrest rfl, List.append_nil] at hds
    obtain rfl : office.library.servingOf platform = failed := hds.trans (List.append_nil _)
    have hsessions : office.sessionsAfter s = office.sessions :=
      Sessions.remove_of_not_mem h.fresh
    exact ⟨desk, s', time, fun ask po workers hworkers =>
      (hrun ask po workers hworkers).trans (by rw [hsessions]; rfl), hlist, htried⟩

end

end

/-! ## 3. A folder with two definitions -/

section

open Rules

/-- A document for one value, under a name that stands elsewhere in the sheet, and for a month. -/
def cellDocument (month : String) : Json :=
  .canonical (.object [
    ("areas", .array [.object [
      ("data_headers", .object [
        ("roles", .array []),
        ("data_cells", .object [
          ("coord", exampleCoord 4 1), ("direction", .string "right"), ("max_count", .int 1)]),
        ("data_direction", .string "down")]),
      ("metrics", .object [("source", exampleCoord 73 0), ("role", .string "metric")]),
      ("dates", .object [
        ("source", .object [("value", .string month)]), ("role", .string "date")])]]),
    ("parser_name", .string "")])

theorem isProper_cellDocument (month : String) : (cellDocument month).IsProper := by
  refine ⟨Json.canonical_canonical _, Json.fits_canonical ?_⟩
  simp [Json.Fits, Json.FitsMembers, Json.FitsItems, exampleCoord, Json.IsWhole64]

end

/-- The name of the platform makes the line that has it a row of values. -/
def cellStored (id : String) (d : Definition) : StoredDefinition where
  id := id
  name := d.name
  platforms := [",4,a"]
  definition := d
  createdAt := ""
  successRate := StoredDefinition.one
  useCount := 0

def cellSheet : List Char := (List.replicate 75 "Views,4\n".toList).flatten

/-- A folder with two files, and a file beside it. -/
def pairDirectory (f g h : ByteArray) : Directory :=
  ⟨[(["reg"], .folder), (["reg", "a.json"], .file f), (["reg", "b.json"], .file g),
    (["sheet.csv"], .file h)]⟩

/-- The folder holds two definitions, and a sheet lies beside it. -/
def cellDirectory (a b : Definition) : Directory :=
  pairDirectory (cellStored "a" a).toText.toUTF8 (cellStored "b" b).toText.toUTF8
    (String.ofList cellSheet).toUTF8

/-- The library that is found there. -/
def cellLibrary (a b : Definition) : Library where
  path := "reg"
  list := [(cellStored "a" a).reread, (cellStored "b" b).reread]

def cellOptions : Options where
  platform := some ",4,a"

/-- The grid of a text that is ASCII. -/
def asciiGrid (cs : List Char) : Option Grid :=
  if cs.all fun c => decide (c.toNat < 128) then
    (Grid.ofText cs (Csv.detectDelimiter cs)).toOption
  else none

theorem gridIn_of_asciiGrid {d : Directory} {path : String} {cs : List Char} {g : Grid}
    (hread : d.read path = .ok (String.ofList cs).toUTF8) (h : asciiGrid cs = some g) :
    gridIn d path = .ok g := by
  unfold asciiGrid at h
  split at h
  · rename_i hascii
    unfold gridIn
    rw [hread]
    dsimp only
    rw [Grid.ofBytes_ascii fun c hc => of_decide_eq_true (List.all_eq_true.1 hascii c hc)]
    exact toOption_eq_some.1 h
  · cases h

section

variable {a b : Definition}

theorem locate_pairDirectory {f g h : ByteArray} {id : String} (hid : id = "a" ∨ id = "b") :
    (pairDirectory f g h).locate (joinPath "reg" (id ++ extension))
      = .ok (["reg"] ++ [id ++ extension]) := by
  rcases hid with rfl | rfl <;> with_unfolding_all rfl

theorem find?_pairDirectory (f g h : ByteArray) (n : String) :
    (pairDirectory f g h).find? (["reg"] ++ [n])
      = if n = "a.json" then some (.file f) else if n = "b.json" then some (.file g) else none := by
  by_cases ha : n = "a.json"
  · subst ha
    rfl
  by_cases hb : n = "b.json"
  · subst hb
    rfl
  have ha' : (n == "a.json") = false := beq_false_of_ne ha
  have hb' : (n == "b.json") = false := beq_false_of_ne hb
  simp [Directory.find?, pairDirectory, List.lookup_cons, ha, hb, ha', hb']

theorem hasFiles_cellDirectory : HasFiles (cellDirectory a b)
    { path := "reg", list := [cellStored "a" a, cellStored "b" b] } ["reg"] where
  folder := show (pairDirectory _ _ _).locate "reg" = _ by with_unfolding_all rfl
  isFolder := rfl
  file n x := by
    have hnames : "a" ++ extension = "a.json" ∧ "b" ++ extension = "b.json" := by decide +kernel
    unfold cellDirectory
    rw [find?_pairDirectory]
    simp only [List.mem_cons, List.not_mem_nil, or_false, exists_eq_or_imp, exists_eq_left]
    show _ ↔ ("a" ++ extension = n ∧ _) ∨ ("b" ++ extension = n ∧ _)
    rw [hnames.1, hnames.2]
    by_cases ha : n = "a.json"
    · subst ha
      simp [fileOf]
    · rw [if_neg ha]
      by_cases hb : n = "b.json" <;> simp [ha, hb, fileOf, eq_comm]
  located e he := by
    rcases List.mem_pair.1 he with rfl | rfl
    · exact locate_pairDirectory (.inl rfl)
    · exact locate_pairDirectory (.inr rfl)

theorem shelved_cellDirectory (ha : a.IsStorable) (hb : b.IsStorable) :
    Shelved (cellDirectory a b)
      { path := "reg", list := [cellStored "a" a, cellStored "b" b] } where
  ordered := List.pairwise_pair.2 (show "a" < "b" by decide)
  named e he := by
    rcases List.mem_pair.1 he with rfl | rfl
    · exact ⟨show "a" ≠ "" by decide, show '/' ∉ "a".toList by decide⟩
    · exact ⟨show "b" ≠ "" by decide, show '/' ∉ "b".toList by decide⟩
  storable e he := by
    rcases List.mem_pair.1 he with rfl | rfl
    · exact ⟨ha, show 0 < StoredDefinition.countBound by decide⟩
    · exact ⟨hb, show 0 < StoredDefinition.countBound by decide⟩
  files := .inl ⟨_, hasFiles_cellDirectory⟩

theorem found_cellDirectory (ha : a.IsStorable) (hb : b.IsStorable) (hashallow : a.IsShallow)
    (hbshallow : b.IsShallow) :
    (found (cellDirectory a b) "reg").list = (cellLibrary a b).list := by
  have hlist := found_shelved (shelved_cellDirectory ha hb)
  rw [List.filter_eq_self.2 fun e he => ?_] at hlist
  · exact hlist
  · rcases List.mem_pair.1 he with rfl | rfl
    · exact decide_eq_true hashallow
    · exact decide_eq_true hbshallow

/-- Of equal rate and use, the lesser id comes first. -/
theorem comesBefore_of_eq {e f : StoredDefinition} (hrate : e.successRate = f.successRate)
    (hcount : e.useCount = f.useCount) (hid : ¬ f.id < e.id) : e.comesBefore f = true := by
  have hcmp : f.successRate.cmp e.successRate = .eq := by
    rw [Binary64.cmp_eq, hrate]
    exact compare_eq_iff_eq.2 rfl
  unfold StoredDefinition.comesBefore
  rw [hcmp]
  dsimp only
  rw [decide_eq_true hcount.symm, decide_eq_false hid]
  exact Bool.or_true _

theorem servingOf_cellLibrary :
    (cellLibrary a b).servingOf ",4,a" = [(cellStored "a" a).reread, (cellStored "b" b).reread] := by
  have hserves : ∀ e ∈ (cellLibrary a b).list, e.serves ",4,a" = true := by
    intro e he
    have hsame : Text.sameIgnoringCase ",4,a" ",4,a" = true := by decide +kernel
    refine List.any_eq_true.2 ⟨",4,a", List.mem_append_left _ ?_, hsame⟩
    rcases List.mem_pair.1 he with rfl | rfl <;> exact List.mem_singleton_self _
  unfold servingOf
  rw [List.filter_eq_self.2 hserves]
  refine List.mergeSort_of_pairwise (List.pairwise_pair.2 ?_)
  exact comesBefore_of_eq rfl rfl (show ¬ "b" < "a" by decide)

/-- The texts of the rows. -/
def rowTexts (t : Table) : List (List Char) :=
  t.rows.map fun row => Json.compactChars (.object row)

/-- How often there is a 1 in the rows. The month has three, and a count of uses has one more when a
    failure has been counted. -/
def ones (t : Table) : Nat := (rowTexts t).flatten.count '1'

/-- What the definitions, as they are found in the folder, read in it: the first has no records for
    its own file or for the sheet, and the second has records for each. For the file of the first
    they are others once a failure has been counted there. -/
structure Reads (a b : Definition) (g gAfter gSheet : Grid) (t tAfter tSheet : Table) : Prop where
  own : asciiGrid (Json.prettyChars 0 (cellStored "a" a).toJson) = some g
  ownAfter : asciiGrid (Json.prettyChars 0 ((cellStored "a" a).reread.used false "").toJson)
    = some gAfter
  sheet : asciiGrid cellSheet = some gSheet
  noneOwn : recordsOf g (cellStored "a" a).reread.definition = none
  noneSheet : recordsOf gSheet (cellStored "a" a).reread.definition = none
  someOwn : recordsOf g (cellStored "b" b).reread.definition = some t
  someAfter : recordsOf gAfter (cellStored "b" b).reread.definition = some tAfter
  someSheet : recordsOf gSheet (cellStored "b" b).reread.definition = some tSheet
  differ : tAfter ≠ t

/-- What the two documents are decoded to. -/
structure AreCells (a b : Definition) : Prop where
  first : Definition.ofJson (cellDocument "x") = .ok a
  second : Definition.ofJson (cellDocument "2021-01") = .ok b
  firstShallow : a.IsShallow
  secondShallow : b.IsShallow

theorem exists_areCells : ∃ a b : Definition, AreCells a b := by
  have h : ((Definition.ofJson (cellDocument "x")).toOption.any fun a =>
      (Definition.ofJson (cellDocument "2021-01")).toOption.any fun b =>
        decide a.IsShallow && decide b.IsShallow) = true := by decide +kernel
  obtain ⟨a, ha, h⟩ := exists_ok_of_any h
  obtain ⟨b, hb, h⟩ := exists_ok_of_any h
  rw [Bool.and_eq_true] at h
  exact ⟨a, b, ha, hb, of_decide_eq_true h.1, of_decide_eq_true h.2⟩

namespace AreCells

variable {g : Grid} (h : AreCells a b)

include h

theorem storable : a.IsStorable ∧ b.IsStorable :=
  ⟨Definition.IsDecoded.isStorable ⟨_, isProper_cellDocument "x", h.first⟩,
    Definition.IsDecoded.isStorable ⟨_, isProper_cellDocument "2021-01", h.second⟩⟩

-- every grid has a check of its own, for what the kernel keeps of one adds up

theorem noneOwn (hg : asciiGrid (Json.prettyChars 0 (cellStored "a" a).toJson) = some g) :
    recordsOf g (cellStored "a" a).reread.definition = none := by
  have hcheck : ((Definition.ofJson (cellDocument "x")).toOption.all fun a =>
      (asciiGrid (Json.prettyChars 0 (cellStored "a" a).toJson)).all fun g =>
        (recordsOf g (cellStored "a" a).reread.definition).isNone) = true := by decide +kernel
  replace hcheck := of_all_ok h.first hcheck
  exact Option.isNone_iff_eq_none.1 ((Option.all_eq_true _ _).1 hcheck g hg)

theorem noneSheet (hg : asciiGrid cellSheet = some g) :
    recordsOf g (cellStored "a" a).reread.definition = none := by
  have hcheck : ((Definition.ofJson (cellDocument "x")).toOption.all fun a =>
      (asciiGrid cellSheet).all fun g =>
        (recordsOf g (cellStored "a" a).reread.definition).isNone) = true := by decide +kernel
  replace hcheck := of_all_ok h.first hcheck
  exact Option.isNone_iff_eq_none.1 ((Option.all_eq_true _ _).1 hcheck g hg)

theorem someOwn : ∃ g, asciiGrid (Json.prettyChars 0 (cellStored "a" a).toJson) = some g ∧
    ∃ t, recordsOf g (cellStored "b" b).reread.definition = some t ∧ ones t = 3 := by
  have hcheck : ((Definition.ofJson (cellDocument "x")).toOption.all fun a =>
      (Definition.ofJson (cellDocument "2021-01")).toOption.all fun b =>
        (asciiGrid (Json.prettyChars 0 (cellStored "a" a).toJson)).any fun g =>
          (recordsOf g (cellStored "b" b).reread.definition).any (ones · == 3)) = true := by
    decide +kernel
  replace hcheck := of_all_ok h.first hcheck
  replace hcheck := of_all_ok h.second hcheck
  obtain ⟨g, hg, hany⟩ := (Option.any_eq_true _ _).1 hcheck
  obtain ⟨t, ht, hones⟩ := (Option.any_eq_true _ _).1 hany
  exact ⟨g, hg, t, ht, eq_of_beq hones⟩

theorem someAfter :
    ∃ g, asciiGrid (Json.prettyChars 0 ((cellStored "a" a).reread.used false "").toJson) = some g ∧
      ∃ t, recordsOf g (cellStored "b" b).reread.definition = some t ∧ ones t = 4 := by
  have hcheck : ((Definition.ofJson (cellDocument "x")).toOption.all fun a =>
      (Definition.ofJson (cellDocument "2021-01")).toOption.all fun b =>
        (asciiGrid (Json.prettyChars 0 ((cellStored "a" a).reread.used false "").toJson)).any
          fun g => (recordsOf g (cellStored "b" b).reread.definition).any (ones · == 4)) = true := by
    decide +kernel
  replace hcheck := of_all_ok h.first hcheck
  replace hcheck := of_all_ok h.second hcheck
  obtain ⟨g, hg, hany⟩ := (Option.any_eq_true _ _).1 hcheck
  obtain ⟨t, ht, hones⟩ := (Option.any_eq_true _ _).1 hany
  exact ⟨g, hg, t, ht, eq_of_beq hones⟩

theorem someSheet : ∃ g, asciiGrid cellSheet = some g ∧
    ∃ t, recordsOf g (cellStored "b" b).reread.definition = some t := by
  have hcheck : ((Definition.ofJson (cellDocument "2021-01")).toOption.all fun b =>
      (asciiGrid cellSheet).any fun g =>
        (recordsOf g (cellStored "b" b).reread.definition).isSome) = true := by decide +kernel
  replace hcheck := of_all_ok h.second hcheck
  obtain ⟨g, hg, hsome⟩ := (Option.any_eq_true _ _).1 hcheck
  exact ⟨g, hg, Option.isSome_iff_exists.1 hsome⟩

theorem reads : ∃ g gAfter gSheet t tAfter tSheet, Reads a b g gAfter gSheet t tAfter tSheet := by
  obtain ⟨g, hg, t, ht, hthree⟩ := h.someOwn
  obtain ⟨gAfter, hgAfter, tAfter, htAfter, hfour⟩ := h.someAfter
  obtain ⟨gSheet, hgSheet, tSheet, htSheet⟩ := h.someSheet
  refine ⟨g, gAfter, gSheet, t, tAfter, tSheet, hg, hgAfter, hgSheet, h.noneOwn hg,
    h.noneSheet hgSheet, ht, htAfter, htSheet, fun hsame => ?_⟩
  rw [hsame, hthree] at hfour
  exact absurd hfour (by decide)

end AreCells

theorem exists_reads : ∃ a b : Definition,
    Definition.ofJson (cellDocument "x") = .ok a ∧
    Definition.ofJson (cellDocument "2021-01") = .ok b ∧
    (found (cellDirectory a b) "reg").list = (cellLibrary a b).list ∧
    ∃ g gAfter gSheet t tAfter tSheet, Reads a b g gAfter gSheet t tAfter tSheet := by
  obtain ⟨a, b, h⟩ := exists_areCells
  obtain ⟨hastorable, hbstorable⟩ := h.storable
  exact ⟨a, b, h.first, h.second,
    found_cellDirectory hastorable hbstorable h.firstShallow h.secondShallow, h.reads⟩

theorem canWrite_cellDirectory {e : StoredDefinition} (he : e ∈ (cellLibrary a b).list) :
    (cellDirectory a b).CanWrite ((cellLibrary a b).pathOf e.id) (["reg"] ++ [e.id ++ extension]) := by
  rcases List.mem_pair.1 he with rfl | rfl
  · exact hasFiles_cellDirectory.canWrite
      (e := cellStored "a" a) List.mem_cons_self
      ⟨show "a" ≠ "" by decide, show '/' ∉ "a".toList by decide⟩
  · exact hasFiles_cellDirectory.canWrite
      (e := cellStored "b" b) (List.mem_cons_of_mem _ List.mem_cons_self)
      ⟨show "b" ≠ "" by decide, show '/' ∉ "b".toList by decide⟩

theorem locate_cellSheet : (cellDirectory a b).locate "sheet.csv" = .ok ["sheet.csv"] :=
  show (pairDirectory _ _ _).locate "sheet.csv" = _ by with_unfolding_all rfl

theorem gridIn_cellSheet {g : Grid} (h : asciiGrid cellSheet = some g) :
    gridIn (cellDirectory a b) "sheet.csv" = .ok g :=
  gridIn_of_asciiGrid (Directory.read_eq_ok.2 ⟨_, locate_cellSheet, rfl, by decide +kernel⟩) h

/-- **The report of the sheet is by the second definition**, for the first has no records. -/
theorem cellSheet_stored : ∃ a b : Definition,
    Definition.ofJson (cellDocument "x") = .ok a ∧
    Definition.ofJson (cellDocument "2021-01") = .ok b ∧ ∃ g t,
    IsSupplied (fun d : Directory => d) { library := cellLibrary a b } "sheet.csv" ",4,a" cellOptions
      g (cellDirectory a b) ∧
    (cellLibrary a b).servingOf ",4,a"
      = [(cellStored "a" a).reread] ++ (cellStored "b" b).reread :: [] ∧
    (∀ c ∈ [(cellStored "a" a).reread], recordsOf g c.definition = none) ∧
    recordsOf g (cellStored "b" b).reread.definition = some t ∧
    ∃ report office' s' time, ComesUnasked { library := cellLibrary a b } "sheet.csv" none
        cellOptions (cellDirectory a b) report office' s' ∧
      report.origin = .stored (cellStored "b" b).reread.id ∧ report.table = t ∧
      report.definition = (cellStored "b" b).reread.definition ∧
      office'.library.list = (cellLibrary a b).list.map
        (tallied ([(cellStored "a" a).reread].map (·.id)) (some (cellStored "b" b).reread.id) time) ∧
      Tried (· = "") "sheet.csv" (cellLibrary a b) (cellDirectory a b)
        ((cellLibrary a b).servingOf ",4,a") (some ((cellStored "b" b).reread, t)) office'.library
        s' := by
  obtain ⟨a, b, ha, hb, hfound, _, _, g, _, _, t, hreads⟩ := exists_reads
  have hsupplied : IsSupplied (fun d : Directory => d) { library := cellLibrary a b } "sheet.csv"
      ",4,a" cellOptions g (cellDirectory a b) := by
    refine ⟨⟨rfl, rfl, rfl⟩, gridIn_cellSheet hreads.sheet, hfound, fun e he => ?_,
      List.not_mem_nil⟩
    refine ⟨_, canWrite_cellDirectory (mem_servingOf.1 he).1, fun hsame => ?_⟩
    rw [locate_cellSheet] at hsame
    exact absurd (List.cons.inj (Except.ok.inj hsame)).1 (by decide)
  refine ⟨a, b, ha, hb, g, t, hsupplied, servingOf_cellLibrary, ?_, hreads.someSheet, ?_⟩
  · exact fun c hc => List.mem_singleton.1 hc ▸ hreads.noneSheet
  · exact (makeAlone_stored isDisk_id tells_id hsupplied none).1 _ _ _ _ servingOf_cellLibrary
      (fun c hc => List.mem_singleton.1 hc ▸ hreads.noneSheet) hreads.someSheet

/-- The grid of the file of the first definition. -/
theorem gridIn_own {g : Grid}
    (h : asciiGrid (Json.prettyChars 0 (cellStored "a" a).toJson) = some g) :
    gridIn (cellDirectory a b) ((cellLibrary a b).pathOf "a") = .ok g :=
  gridIn_of_asciiGrid (hasFiles_cellDirectory.read (e := cellStored "a" a) List.mem_cons_self
    ⟨show "a" ≠ "" by decide, show '/' ∉ "a".toList by decide⟩) h

/-- A failure of the first definition is in its file when the second is tried. -/
theorem tried_own {g gAfter : Grid} {r : Option (StoredDefinition × Table)} {l' : Library}
    {d' : Directory}
    (hown : asciiGrid (Json.prettyChars 0 (cellStored "a" a).toJson) = some g)
    (hafter : asciiGrid (Json.prettyChars 0 ((cellStored "a" a).reread.used false "").toJson)
      = some gAfter)
    (hnone : recordsOf g (cellStored "a" a).reread.definition = none)
    (htried : Tried (· = "") ((cellLibrary a b).pathOf "a") (cellLibrary a b) (cellDirectory a b)
      ((cellLibrary a b).servingOf ",4,a") r l' d') :
    ∃ d₁, recordsIn d₁ ((cellLibrary a b).pathOf "a") (cellStored "b" b).reread.definition
        = recordsOf gAfter (cellStored "b" b).reread.definition ∧
      Tried (· = "") ((cellLibrary a b).pathOf "a")
        ((cellLibrary a b).put ((cellStored "a" a).reread.used false "")) d₁
        [(cellStored "b" b).reread] r l' d' := by
  rw [servingOf_cellLibrary] at htried
  obtain ⟨p, time, place, rfl, htried⟩ :=
    htried.of_none ((recordsIn_of_grid (gridIn_own hown) _).trans hnone)
  have hwrite : (cellDirectory a b).CanWrite ((cellLibrary a b).pathOf "a")
      (["reg"] ++ ["a" ++ extension]) :=
    canWrite_cellDirectory (e := (cellStored "a" a).reread) List.mem_cons_self
  obtain rfl : ["reg"] ++ ["a" ++ extension] = p :=
    Except.ok.inj (hwrite.leads.symm.trans place.leads)
  have hread := hwrite.read
    ((cellStored "a" a).reread.used false "").toText.toUTF8
  exact ⟨_, recordsIn_of_grid (gridIn_of_asciiGrid hread hafter) _, htried⟩

/-- **The report of the file of the first definition is not on the table of the second** for the grid
that was loaded: the file has been written before the second is tried. -/
theorem ownFile_stored : ∃ a b : Definition,
    Definition.ofJson (cellDocument "x") = .ok a ∧
    Definition.ofJson (cellDocument "2021-01") = .ok b ∧ ∃ g t,
    gridIn (cellDirectory a b) ((cellLibrary a b).pathOf "a") = .ok g ∧
    (found (cellDirectory a b) "reg").list = (cellLibrary a b).list ∧
    (cellLibrary a b).servingOf ",4,a" = [(cellStored "a" a).reread, (cellStored "b" b).reread] ∧
    (∀ e ∈ (cellLibrary a b).servingOf ",4,a",
      ∃ p, (cellDirectory a b).CanWrite ((cellLibrary a b).pathOf e.id) p) ∧
    recordsOf g (cellStored "a" a).reread.definition = none ∧
    recordsOf g (cellStored "b" b).reread.definition = some t ∧
    ∃ report office' s', (makeAlone (bareRoster "reg") { library := cellLibrary a b }
        ((cellLibrary a b).pathOf "a") none cellOptions : StateM Directory _).run
        (cellDirectory a b) = ((.ok report, office'), s') ∧
      report.origin = .stored "b" ∧ report.table ≠ t := by
  obtain ⟨a, b, ha, hb, hfound, g, gAfter, _, t, tAfter, _, hreads⟩ := exists_reads
  have hwrite : ∀ e ∈ (cellLibrary a b).servingOf ",4,a",
      ∃ p, (cellDirectory a b).CanWrite ((cellLibrary a b).pathOf e.id) p :=
    fun e he => ⟨_, canWrite_cellDirectory (mem_servingOf.1 he).1⟩
  let office : Office := { library := cellLibrary a b }
  have hsought : IsSought (fun d : Directory => d) office.library
      ((cellLibrary a b).pathOf "a") ",4,a" cellOptions g (cellDirectory a b) :=
    isSought_of_agrees ⟨rfl, rfl, rfl⟩ (gridIn_own hreads.own) hfound hwrite
  obtain ⟨r, l', d', htried, hby⟩ := makeAlone_of_tried isDisk_id tells_id hsought none
  obtain ⟨d₁, hrecords, htried⟩ := tried_own hreads.own hreads.ownAfter hreads.noneOwn htried
  have hsecond := (htried.of_some (hrecords.trans hreads.someAfter)).1
  obtain ⟨report, s', hcomes, -, horigin, htable, -⟩ := hby _ _ hsecond
  refine ⟨a, b, ha, hb, g, t, gridIn_own hreads.own, hfound, servingOf_cellLibrary, hwrite,
    hreads.noneOwn, hreads.someOwn, report, _, s', hcomes none {} _ (roster_none {} "reg"), horigin,
    fun hsame => hreads.differ (htable.symm.trans hsame)⟩

end

end UsageGrid.Report
