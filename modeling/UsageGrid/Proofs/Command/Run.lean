import UsageGrid.Command.Perform
import UsageGrid.Proofs.Report.Alone

/-!
# Runs of commands

What a command does where everything is held as a value: single steps first, then a run with a rule
document. Up to where its table is written, a run comes to the report of its files
(`leads_produce`); what it writes and tells from there on is known line by line (`run_deliver`).
-/

namespace UsageGrid

open Host

/-! ## 1. Single steps -/

/-- The surroundings after lines have been told, the last one first. -/
def Host.Held.telling (h : Held) (lines : List String) : Held :=
  { h with err := lines.map (· ++ "\n") ++ h.err }

theorem Host.Held.telling_telling (h : Held) (first second : List String) :
    (h.telling first).telling second = h.telling (second ++ first) := by
  simp [telling]

namespace Command

variable {h h' : Held} {d : Directory}

theorem run_tell (line : String) (h : Held) :
    (tell line : Doing (StateM Held) Unit).run.run h = (.ok (), h.telling [line]) := rfl

theorem run_readText (path : String) (h : Held) :
    (readText path : Doing (StateM Held) String).run.run h
      = ((h.directory.text path).mapError .file, h) := by
  have hread : (Host.readText path : StateM Held _).run h = (h.directory.text path, h) := by
    have hstep : (Files.read path : StateM Held _).run h = (h.directory.read path, h) := rfl
    unfold Host.readText Directory.text
    rw [StateT.run_bind, hstep]
    cases h.directory.read path with
    | error cause => rfl
    | ok content =>
      dsimp only [bind, StateT.run, Except.bind]
      cases String.fromUTF8? content <;> rfl
  show (Host.readText path >>= fun out => pure (out.mapError CommandError.file) :
    StateM Held _).run h = _
  rw [StateT.run_bind, hread]
  rfl

theorem run_writeText {path text : String} :
    (writeText path text : Doing (StateM Held) Unit).run.run h = (.ok (), h') ↔
      ∃ d, h.directory.write path text.toUTF8 = .ok d ∧ h' = { h with directory := d } := by
  have hwrite : (Host.writeText path text : StateM Held _).run h = _ :=
    Held.run_change (·.write path text.toUTF8) h
  show (Host.writeText path text >>= fun out => pure (out.mapError CommandError.file) :
    StateM Held _).run h = _ ↔ _
  rw [StateT.run_bind, hwrite]
  cases h.directory.write path text.toUTF8 with
  | ok d =>
    refine ⟨fun hrun => ⟨d, rfl, (Prod.mk.inj hrun).2.symm⟩, ?_⟩
    rintro ⟨_, ⟨⟩, rfl⟩
    rfl
  | error cause => exact ⟨fun hrun => (nomatch (Prod.mk.inj hrun).1), fun ⟨_, hd, _⟩ => nomatch hd⟩

/-- A step and the rest: where the step fails, so does the sequence. -/
theorem leads_bind {α β : Type} {x : Doing (StateM Held) α} {f : α → Doing (StateM Held) β}
    {Q : Except CommandError α → Directory → Prop} {R : Except CommandError β → Directory → Prop}
    (hx : Leads Held.directory d x.run Q)
    (hok : ∀ a d', Q (.ok a) d' → Leads Held.directory d' (f a).run R)
    (herror : ∀ e d', Q (.error e) d' → R (.error e) d') :
    Leads Held.directory d (x >>= f).run R := by
  intro h hd
  have hstep := hx h hd
  rw [ExceptT.run_bind, StateT.run_bind]
  rcases hrun : x.run.run h with ⟨e | a, h'⟩ <;> rw [hrun] at hstep
  · exact herror e _ hstep
  · exact hok a _ hstep h' rfl

/-- What the surroundings do does not fail. -/
theorem leads_lift {α : Type} {x : StateM Held α} {P : α → Prop}
    (hx : Leads Held.directory d x fun a d' => P a ∧ d' = d) :
    Leads Held.directory d (liftM x : Doing (StateM Held) α).run
      fun out d' => (∃ a, out = .ok a) ∧ d' = d :=
  fun h hd => ⟨⟨_, rfl⟩, (hx h hd).2⟩

/-- A line that is told leaves the directory. -/
theorem leads_tell {β : Type} {f : Unit → Doing (StateM Held) β} {line : String}
    {R : Except CommandError β → Directory → Prop} (hf : Leads Held.directory d (f ()).run R) :
    Leads Held.directory d (tell line >>= f).run R :=
  fun _ hd => hf _ hd

/-- The surroundings in which a command begins: a quiet one shows nothing of the log. -/
def begun (quiet : Bool) (h : Held) : Held := { h with muted := quiet || h.muted }

/-- What a command ends with: 0 if it has come out well, and otherwise 1 and a message. -/
def ended : Except CommandError Unit × Held → Nat × Held
  | (.ok (), h) => (0, h)
  | (.error e, h) => (1, h.telling ["❌ Error: " ++ e.message])

@[simp] theorem ended_ok (h : Held) : ended (.ok (), h) = (0, h) := rfl

@[simp] theorem ended_error (e : CommandError) (h : Held) :
    ended (.error e, h) = (1, h.telling ["❌ Error: " ++ e.message]) := rfl

theorem run_perform (command : Command) (h : Held) :
    (Invocation.perform ⟨false, command⟩ : StateM Held Nat).run h
      = ended ((carryOut command : Doing (StateM Held) Unit).run.run h) := by
  show ((carryOut command : Doing (StateM Held) Unit).run >>= _ : StateM Held Nat).run h = _
  rw [StateT.run_bind]
  rcases (carryOut command : Doing (StateM Held) Unit).run.run h with ⟨e | _, h'⟩ <;> rfl

/-- **Arguments of a command that can be read begin it and end with what it ends with.** -/
theorem run_performArguments {args : List String} {quiet : Bool} {command : Command}
    (hread : Invocation.read args = .invocation ⟨quiet, command⟩) (h : Held) :
    (performArguments args : StateM Held Nat).run h
      = ended ((carryOut command : Doing (StateM Held) Unit).run.run (begun quiet h)) := by
  unfold performArguments
  rw [hread, ← run_perform]
  cases quiet <;> rfl

/-! ## 2. A library is opened -/

theorem leads_valueOf (given : List (String × String)) (name : String) :
    Leads Held.directory d (Settings.valueOf given name) fun _ d' => True ∧ d' = d := by
  refine Leads.bindSame (P := fun _ => True) (fun _ hs => ⟨trivial, hs⟩) fun value _ => ?_
  cases value <;> exact .pure ⟨trivial, rfl⟩

theorem leads_valueText (given : List (String × String)) (pieces : List Settings.Piece) :
    Leads Held.directory d (Settings.valueText given pieces) fun _ d' => True ∧ d' = d := by
  induction pieces with
  | nil => exact .pure ⟨trivial, rfl⟩
  | cons piece rest ih =>
    cases piece with
    | char c => exact ih.bindSame fun _ _ => .pure ⟨trivial, rfl⟩
    | reference name =>
      exact (leads_valueOf given name).bindSame fun _ _ => ih.bindSame fun _ _ =>
        .pure ⟨trivial, rfl⟩

theorem leads_evaluate (given : List (String × String)) (entries : List Settings.Entry) :
    Leads Held.directory d (Settings.evaluate given entries) fun _ d' => True ∧ d' = d := by
  induction entries generalizing given with
  | nil => exact .pure ⟨trivial, rfl⟩
  | cons e rest ih => exact (leads_valueText given e.value).bindSame fun value _ => ih _

theorem leads_firstBytes (paths : List String) :
    Leads Held.directory d (Settings.firstBytes paths) fun _ d' => True ∧ d' = d := by
  induction paths with
  | nil => exact .pure ⟨trivial, rfl⟩
  | cons path rest ih =>
    refine (Held.isDisk.read d path).bindEq ?_
    cases d.read path with
    | ok bytes => exact .pure ⟨trivial, rfl⟩
    | error cause => exact ih

theorem leads_load : Leads Held.directory d Settings.load fun _ d' => True ∧ d' = d :=
  (leads_firstBytes _).bindSame fun _ _ => (leads_evaluate _ _).bindSame fun given _ =>
    (leads_valueOf given _).bindSame fun _ _ => (leads_valueOf given _).bindSame fun _ _ =>
    (leads_valueOf given _).bindSame fun _ _ => .pure ⟨trivial, rfl⟩

/-- A library can always be opened, and no file changes. -/
theorem leads_openLibrary :
    Leads Held.directory d (openLibrary : Doing (StateM Held) Library).run
      fun out d' => (∃ l, out = .ok l) ∧ d' = d := by
  refine leads_bind (leads_lift leads_load) ?_ ?_
  · rintro settings _ ⟨-, rfl⟩
    exact leads_lift (Library.leads_openAt Held.isDisk _ settings.libraryPath)
  · rintro _ _ ⟨⟨_, h⟩, -⟩
    cases h

/-! ## 3. A run up to its table -/

section

variable {m : Type → Type} [Monad m] [Files m] [Console m] [Journal m] [Clock m]

/-- The first part of a run: the report is made. -/
def produce (path rules : String) (skipCheck : Bool) : Doing m Report := do
  tell ("📄 Processing: " ++ path)
  let library ← openLibrary
  let report ← makeReport none {} library path none { rulesPath := some rules, skipCheck }
  tell ("   Rules: " ++ report.definition.name ++ " ("
    ++ toString report.definition.areas.length ++ " area(s))")
  pure report

/-- The rest of it: what has been extracted is told, and the table is written. -/
def deliver (report : Report) (target : Target) : Doing m Unit := do
  tellExtracted report.table
  if 0 < report.rowErrors.length then
    tell ("   ⚠️  " ++ toString report.rowErrors.length ++ " invalid row(s)")
  writeTable report.table target
  tellDone

theorem doRun_eq [LawfulMonad m] (path rules : String) (target : Target) (skipCheck : Bool) :
    (doRun path rules target skipCheck : Doing m Unit)
      = produce path rules skipCheck >>= fun report => deliver report target := by
  unfold doRun produce deliver
  simp only [bind_assoc, pure_bind]

end

/-- The report that a run comes to. -/
def reportIn (d : Directory) (path rules : String) (skipCheck : Bool) : Option Report :=
  Report.givenReport d path rules { rulesPath := some rules, skipCheck }

theorem leads_makeReport (library : Library) (path rules : String) (skipCheck : Bool) :
    Leads Held.directory d (makeReport none {} library path none
        { rulesPath := some rules, skipCheck } : Doing (StateM Held) Report).run fun out d' =>
      Report.Meets (reportIn d path rules skipCheck) d out d' := by
  intro h hd
  have hmade : Leads Held.directory d
      (Report.makeAlone (Report.bareRoster library.path) { library } path none
        { rulesPath := some rules, skipCheck } : StateM Held _) fun out d' =>
      Report.Meets (reportIn d path rules skipCheck) d out.1 d' :=
    Report.leads_makeAlone_given Held.isDisk rfl { library } d none
  exact (hmade h hd).mapError CommandError.report

/-- **A run comes to the report of its files**, or does not come to its table, and no file has
    changed by then. -/
theorem leads_produce (path rules : String) (skipCheck : Bool) :
    Leads Held.directory d (produce path rules skipCheck : Doing (StateM Held) Report).run
      fun out d' => Report.Meets (reportIn d path rules skipCheck) d out d' := by
  refine leads_tell (leads_bind leads_openLibrary ?_ ?_)
  · rintro library _ ⟨-, rfl⟩
    refine leads_bind (leads_makeReport library path rules skipCheck) ?_ ?_
    · intro report d' hmeets
      refine leads_tell (.pure ?_)
      exact hmeets
    · exact fun e d' hmeets => hmeets
  · rintro e _ ⟨⟨_, h⟩, -⟩
    cases h

/-! ## 4. The table of a run -/

def extractedLine (records : Nat) : String :=
  "
⚙️  Extracted: " ++ toString records ++ " records"

def invalidLine (invalid : Nat) : String := "   ⚠️  " ++ toString invalid ++ " invalid row(s)"

/-- What is told while a table is written, the last line first. -/
def deliveryLines (records invalid : Nat) (path : String) : List String :=
  ["
✨ Done!", "💾 Output written to: " ++ path]
    ++ (if 0 < invalid then [invalidLine invalid] else []) ++ [extractedLine records]

theorem run_writeTable {t : Table} {path : String} :
    (writeTable t ⟨some path, true⟩ : Doing (StateM Held) Unit).run.run h = (.ok (), h') ↔
      ∃ d, h.directory.write path (t.toJson.pretty ++ "\n").toUTF8 = .ok d ∧
        h' = { h with directory := d }.telling ["💾 Output written to: " ++ path] := by
  show (writeText path (t.toJson.pretty ++ "\n") >>= fun _ => tell _ :
    Doing (StateM Held) Unit).run.run h = _ ↔ _
  rw [run_bind_eq_ok]
  constructor
  · rintro ⟨_, h₁, hwritten, htold⟩
    obtain ⟨d, hd, rfl⟩ := run_writeText.1 hwritten
    exact ⟨d, hd, (Prod.mk.inj htold).2.symm⟩
  · rintro ⟨d, hd, rfl⟩
    exact ⟨(), _, run_writeText.2 ⟨d, hd, rfl⟩, rfl⟩

/-- **A table that is written as JSON is all that changes**, but for the lines that are told. -/
theorem run_deliver {report : Report} {path : String} :
    (deliver report ⟨some path, true⟩ : Doing (StateM Held) Unit).run.run h = (.ok (), h') ↔
      ∃ d, h.directory.write path (report.table.toJson.pretty ++ "\n").toUTF8 = .ok d ∧
        h' = { h with directory := d }.telling
          (deliveryLines report.table.rows.length report.rowErrors.length path) := by
  have hrest (lines : List String) : (do
      writeTable report.table ⟨some path, true⟩
      tellDone : Doing (StateM Held) Unit).run.run (h.telling lines) = (.ok (), h') ↔
        ∃ d, h.directory.write path (report.table.toJson.pretty ++ "\n").toUTF8 = .ok d ∧
          h' = { h with directory := d }.telling
            ("
✨ Done!" :: ("💾 Output written to: " ++ path) :: lines) := by
    rw [run_bind_eq_ok]
    constructor
    · rintro ⟨_, h₁, hwritten, htold⟩
      obtain ⟨d, hd, rfl⟩ := run_writeTable.1 hwritten
      exact ⟨d, hd, (Prod.mk.inj htold).2.symm⟩
    · rintro ⟨d, hd, rfl⟩
      exact ⟨(), _, run_writeTable.2 ⟨d, hd, rfl⟩, rfl⟩
  unfold deliver deliveryLines
  by_cases hinvalid : 0 < report.rowErrors.length
  · rw [if_pos hinvalid, if_pos hinvalid]
    exact hrest [invalidLine _, extractedLine _]
  · rw [if_neg hinvalid, if_neg hinvalid]
    exact hrest [extractedLine _]

/-! ## 5. The whole run -/

section

variable {path rules output : String} {skipCheck : Bool}

/-- **A run that comes out well has written the table of its files**, and it has told how many rows
    that has and how many of them have been reported. -/
theorem run_doRun
    (hrun : (doRun path rules ⟨some output, true⟩ skipCheck : Doing (StateM Held) Unit).run.run h
      = (.ok (), h')) :
    ∃ (report : Report) (h₁ : Held) (d : Directory),
      reportIn h.directory path rules skipCheck = some report ∧
      h.directory.write output (report.table.toJson.pretty ++ "\n").toUTF8 = .ok d ∧
      h' = { h₁ with directory := d }.telling
        (deliveryLines report.table.rows.length report.rowErrors.length output) := by
  rw [doRun_eq] at hrun
  obtain ⟨report, h₁, hproduce, hdeliver⟩ := run_bind_eq_ok.1 hrun
  have hmeets := leads_produce path rules skipCheck h rfl
  rw [hproduce] at hmeets
  obtain ⟨d, hwrite, rfl⟩ := run_deliver.1 hdeliver
  cases hreport : reportIn h.directory path rules skipCheck with
  | none =>
    rw [hreport] at hmeets
    obtain ⟨_, he⟩ := hmeets
    cases he
  | some report' =>
    rw [hreport] at hmeets
    obtain ⟨hok, hdirectory⟩ := hmeets
    obtain rfl := Except.ok.inj hok
    exact ⟨report, h₁, d, rfl, hdirectory ▸ hwrite, rfl⟩

/-- **Where the files come to a report and its table can be written, a run comes out well.** -/
theorem exists_run_doRun {report : Report} {d : Directory}
    (hreport : reportIn h.directory path rules skipCheck = some report)
    (hwrite : h.directory.write output (report.table.toJson.pretty ++ "\n").toUTF8 = .ok d) :
    ∃ h', (doRun path rules ⟨some output, true⟩ skipCheck : Doing (StateM Held) Unit).run.run h
      = (.ok (), h') := by
  have hmeets := leads_produce path rules skipCheck h rfl
  rw [hreport] at hmeets
  rcases hproduce : (produce path rules skipCheck : Doing (StateM Held) Report).run.run h
    with ⟨out, h₁⟩
  rw [hproduce] at hmeets
  obtain ⟨rfl, hdirectory⟩ := hmeets
  rw [doRun_eq]
  refine ⟨_, run_bind_eq_ok.2 ⟨report, h₁, hproduce, run_deliver.2 ⟨d, ?_, rfl⟩⟩⟩
  exact hdirectory ▸ hwrite

end

end Command

end UsageGrid
