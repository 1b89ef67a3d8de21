import UsageGrid.Proofs.Command.Run
import UsageGrid.Proofs.Table.ReadBack

/-!
# What a run has written is validated

The rows of a table are checked twice: in memory when a report is made, and in what is read back
from the file that it was written to. Both counts agree (`validate_agrees`): the printed table is
parsed with the same rows but for their floating numbers, and the check does not look into those.
-/

namespace UsageGrid.Command

open Host

variable {h h' : Held}

/-! ## 1. Counting rows -/

/-- How many rows are right, and how many are wrong. -/
def rightCount (rows : List Json) : Nat := rows.countP fun row => ¬ IsWrong row

def wrongCount (rows : List Json) : Nat := rows.countP fun row => IsWrong row

theorem rightCount_add_wrongCount (rows : List Json) :
    rightCount rows + wrongCount rows = rows.length := by
  unfold rightCount wrongCount
  rw [List.length_eq_countP_add_countP (fun row => decide (IsWrong row)), Nat.add_comm]
  simp

theorem counts_cons_of_right {row : Json} (h : ¬ IsWrong row) (rest : List Json) :
    rightCount (row :: rest) = rightCount rest + 1 ∧ wrongCount (row :: rest) = wrongCount rest := by
  simp [rightCount, wrongCount, h]

theorem counts_cons_of_wrong {row : Json} (h : IsWrong row) (rest : List Json) :
    rightCount (row :: rest) = rightCount rest ∧ wrongCount (row :: rest) = wrongCount rest + 1 := by
  simp [rightCount, wrongCount, h]

theorem run_tellErrors (errors : List String) (h : Held) : ∃ lines,
    (tellErrors errors : Doing (StateM Held) Unit).run.run h = (.ok (), h.telling lines) := by
  induction errors generalizing h with
  | nil => exact ⟨[], rfl⟩
  | cons e rest ih =>
    obtain ⟨lines, hrest⟩ := ih (h.telling ["   - " ++ e])
    rw [Held.telling_telling] at hrest
    exact ⟨_, (run_bind_of_ok _ (run_tell _ h)).trans hrest⟩

/-- **Each row counts as right or as wrong**, and lines are told of some. -/
theorem run_countRows (i valid invalid : Nat) (rows : List Json) (h : Held) : ∃ lines,
    (countRows i valid invalid rows : Doing (StateM Held) (Nat × Nat)).run.run h
      = (.ok (valid + rightCount rows, invalid + wrongCount rows), h.telling lines) := by
  induction rows generalizing i valid invalid h with
  | nil => exact ⟨[], rfl⟩
  | cons row rest ih =>
    unfold countRows
    split
    · rename_i hright
      obtain ⟨lines, hrest⟩ := ih (i + 1) (valid + 1) invalid h
      obtain ⟨hr, hw⟩ := counts_cons_of_right (not_not.2 hright) rest
      rw [hr, hw, Nat.add_comm (rightCount rest), ← Nat.add_assoc]
      exact ⟨lines, hrest⟩
    · rename_i hright
      have hwrong : IsWrong row := hright
      obtain ⟨hr, hw⟩ := counts_cons_of_wrong hwrong rest
      rw [hr, hw, Nat.add_comm (wrongCount rest), ← Nat.add_assoc]
      by_cases hshown : invalid < shownRows
      · rw [if_pos hshown]
        obtain ⟨told, htold⟩ := run_tellErrors ((rowErrors row).take shownErrors)
          (h.telling ["\n❌ Row " ++ toString i ++ " invalid:"])
        rw [Held.telling_telling] at htold
        obtain ⟨lines, hrest⟩ := ih (i + 1) valid (invalid + 1)
          (h.telling (told ++ ["\n❌ Row " ++ toString i ++ " invalid:"]))
        rw [Held.telling_telling] at hrest
        exact ⟨_, (run_bind_of_ok _ (run_tell _ h)).trans ((run_bind_of_ok _ htold).trans hrest)⟩
      · rw [if_neg hshown]
        exact ih (i + 1) valid (invalid + 1) h

/-! ## 2. A validation -/

def verdictLine (valid invalid : Nat) : String :=
  "\n📊 Results: " ++ toString valid ++ " valid, " ++ toString invalid ++ " invalid"

/-- **Rows that are found are counted**, and wrong ones are a failure. -/
theorem run_doValidate {path text : String} {v : Json} {rows : List Json}
    (htext : h.directory.text path = .ok text) (hparse : Json.parse text = .ok v)
    (hrows : rowsOf v = some rows) : ∃ h' : Held,
    (doValidate path : Doing (StateM Held) Unit).run.run h
      = (if 0 < wrongCount rows then .error (.invalidRows (wrongCount rows)) else .ok (),
        h'.telling [verdictLine (rightCount rows) (wrongCount rows)]) := by
  obtain ⟨h₁, htell, hdirectory⟩ : ∃ h₁ : Held,
      (tell ("✔️  Validating: " ++ path) : Doing (StateM Held) Unit).run.run h = (.ok (), h₁) ∧
        h₁.directory = h.directory :=
    ⟨_, run_tell _ h, rfl⟩
  have hread : (readText path : Doing (StateM Held) String).run.run h₁ = (.ok text, h₁) := by
    rw [run_readText, hdirectory, htext]
    rfl
  have hvalue : (fromExcept .json (Json.parse text) : Doing (StateM Held) Json).run.run h₁
      = (.ok v, h₁) := by
    rw [hparse]
    rfl
  obtain ⟨lines, hcount⟩ := run_countRows 0 0 0 rows h₁
  rw [Nat.zero_add, Nat.zero_add] at hcount
  unfold doValidate
  refine ⟨h₁.telling lines, (run_bind_of_ok _ htell).trans ?_⟩
  refine (run_bind_of_ok _ hread).trans ((run_bind_of_ok _ hvalue).trans ?_)
  rw [hrows]
  refine (run_bind_of_ok _ hcount).trans ((run_bind_of_ok _ (run_tell _ _)).trans ?_)
  by_cases hwrong : 0 < wrongCount rows
  · rw [if_pos hwrong, if_pos hwrong]
    rfl
  · rw [if_neg hwrong, if_neg hwrong]
    rfl

/-! ## 3. A table that has been written -/

theorem rowsOf_toJson (t : Table) :
    rowsOf t.toJson.reread = some (t.rows.map fun row => (Json.object row).reread) := by
  show some (Json.mapItems _ (t.rows.map Json.object)) = _
  rw [Json.mapItems_eq, List.map_map]
  rfl

/-- **As many rows are wrong in what is read back as have been reported.** -/
theorem wrongCount_reread (t : Table) :
    wrongCount (t.rows.map fun row => (Json.object row).reread) = t.rowErrors.length := by
  rw [Table.length_rowErrors]
  unfold wrongCount
  rw [List.countP_map]
  refine List.countP_congr fun row _ => ?_
  simp only [Function.comp_apply, decide_eq_true_eq]
  exact isWrong_mapFloats _ _

/-- A file with the text of a table is validated with the counts of the table. -/
theorem run_doValidate_printed {path : String} {t : Table} {rs : List Record}
    (ht : Table.ofRecords rs = t)
    (htext : h.directory.text path = .ok (t.toJson.pretty ++ "\n")) :
    ∃ (valid : Nat) (h' : Held), valid + t.rowErrors.length = t.rows.length ∧
      (doValidate path : Doing (StateM Held) Unit).run.run h
        = (if 0 < t.rowErrors.length then .error (.invalidRows t.rowErrors.length) else .ok (),
          h'.telling [verdictLine valid t.rowErrors.length]) := by
  subst ht
  obtain ⟨h', hrun⟩ := run_doValidate htext (Table.parse_toJson rs) (rowsOf_toJson _)
  have hcounts := rightCount_add_wrongCount
    ((Table.ofRecords rs).rows.map fun row => (Json.object row).reread)
  rw [wrongCount_reread] at hrun hcounts
  rw [List.length_map] at hcounts
  exact ⟨_, h', hcounts, hrun⟩

/-! ## 4. A run and a validation -/

/-- A validation has counted rows: it tells the counts, and it ends with 0 if none is wrong. -/
def IsVerdict (valid invalid : Nat) (out : Nat × Held) : Prop :=
  out.1 = (if invalid = 0 then 0 else 1) ∧ ∃ h : Held, out.2 = h.telling
    ((if invalid = 0 then [] else ["❌ Error: " ++ toString invalid ++ " invalid row(s)"])
      ++ [verdictLine valid invalid])

/-- A file with the text of a table is validated from the command line. -/
theorem exists_isVerdict {args : List String} {quiet : Bool} {path : String} {t : Table}
    {rs : List Record} (hread : Invocation.read args = .invocation ⟨quiet, .validate path⟩)
    (ht : Table.ofRecords rs = t)
    (htext : h.directory.text path = .ok (t.toJson.pretty ++ "\n")) :
    ∃ valid, valid + t.rowErrors.length = t.rows.length ∧
      IsVerdict valid t.rowErrors.length ((performArguments args : StateM Held Nat).run h) := by
  obtain ⟨valid, h', hcounts, hrun⟩ := run_doValidate_printed (h := begun quiet h) ht htext
  refine ⟨valid, hcounts, ?_⟩
  have hperform := run_performArguments hread h
  rw [show (carryOut (.validate path) : Doing (StateM Held) Unit).run.run (begun quiet h) = _
    from hrun] at hperform
  rw [hperform]
  by_cases hwrong : t.rowErrors.length = 0
  · simp only [hwrong, Nat.lt_irrefl, if_false]
    exact ⟨rfl, h', rfl⟩
  · simp only [Nat.pos_of_ne_zero hwrong, if_true]
    refine ⟨(if_neg hwrong).symm, h', ?_⟩
    rw [ended_error, Held.telling_telling, if_neg hwrong]
    rfl

/-- **A validation agrees with the run that has written the file.** It counts as many rows as the
    run has told to be extracted, as many of them invalid as the run has told, and it ends with 0 if
    and only if the run has told of none. -/
theorem validate_agrees {args : List String} {quiet : Bool} {file rules output : String}
    {h h₁ : Held}
    (hread : Invocation.read args
      = .invocation ⟨quiet, .run file rules ⟨some output, true⟩ false⟩)
    (hrun : (performArguments args : StateM Held Nat).run h = (0, h₁)) :
    ∃ (report : Report) (h₀ : Held), reportIn h.directory file rules false = some report ∧
      h₁ = h₀.telling
        (deliveryLines report.table.rows.length report.rowErrors.length output) ∧
      ∀ (args' : List String) (quiet' : Bool) (h₂ : Held),
        Invocation.read args' = .invocation ⟨quiet', .validate output⟩ →
        h₂.directory.read output = h₁.directory.read output →
        ∃ valid, valid + report.rowErrors.length = report.table.rows.length ∧
          IsVerdict valid report.rowErrors.length
            ((performArguments args' : StateM Held Nat).run h₂) := by
  rw [run_performArguments hread] at hrun
  rcases hdone : (carryOut (.run file rules ⟨some output, true⟩ false) :
    Doing (StateM Held) Unit).run.run (begun quiet h) with ⟨e | _, h'⟩
  · rw [hdone] at hrun
    cases (Prod.mk.inj hrun).1
  · rw [hdone] at hrun
    obtain rfl : h' = h₁ := (Prod.mk.inj hrun).2
    obtain ⟨report, h₀, d, hreport, hwrite, rfl⟩ := run_doRun hdone
    obtain ⟨⟨g, hg⟩, herrors⟩ := Report.givenReport_eq_some hreport
    obtain ⟨rs, -, ht⟩ := map_eq_ok.1 hg
    refine ⟨report, { h₀ with directory := d }, hreport, rfl, fun args' quiet' h₂ hread' hfile => ?_⟩
    have hsame : h₂.directory.read output = d.read output := hfile
    have htext := (Directory.text_congr hsame).trans (Directory.text_of_write hwrite)
    have herrors : report.rowErrors = report.table.rowErrors := herrors
    rw [herrors]
    exact exists_isVerdict hread' ht htext

/-! ## 5. A sheet with a month that is none -/

/-- A date that cannot be read is passed on as it stands. -/
def monthsDocument : Json :=
  .object [
    ("parser_name", .string "months"),
    ("areas", .array [.object [
      ("data_headers", .object [
        ("roles", .array [.object [
          ("source", Rules.exampleRange 0 1 "right"),
          ("extract_params", .object [("on_validation_error", .string "pass")]),
          ("role", .string "date")]]),
        ("data_cells", Rules.exampleRange 1 1 "right"),
        ("data_direction", .string "down")]),
      ("metrics", .object [
        ("source", Rules.exampleRange 1 0 "down"), ("role", .string "metric")])]])]

def monthsRules : List Char := Json.compactChars monthsDocument

def monthsText : List Char := ",Jan-21,soon\nViews,4,5\n".toList

def monthsSheet : ByteArray := (String.ofList monthsText).toUTF8

/-- The sheet and the document, and nothing else. -/
def monthsHeld : Held where
  directory := ⟨[(["months.csv"], .file monthsSheet),
    (["months.json"], .file (String.ofList monthsRules).toUTF8)]⟩

def monthsArguments : List String :=
  ["run", "months.csv", "-r", "months.json", "-o", "table.json", "--json"]

theorem gridIn_months : Report.gridIn monthsHeld.directory "months.csv"
    = Grid.ofText monthsText (Csv.detectDelimiter monthsText) := by
  have hread : monthsHeld.directory.read "months.csv" = .ok monthsSheet :=
    Directory.read_eq_ok.2 ⟨["months.csv"], by with_unfolding_all rfl, rfl, by decide +kernel⟩
  unfold Report.gridIn
  rw [hread]
  exact Grid.ofBytes_of_decode (by decide +kernel : Encoding.detect _ = "utf-8")
    (Encoding.decode_utf8 (by decide +kernel) (by decide +kernel))

theorem text_months :
    monthsHeld.directory.text "months.json" = .ok (String.ofList monthsRules) :=
  Directory.text_eq_ok (Directory.read_eq_ok.2
    ⟨["months.json"], by with_unfolding_all rfl, rfl, by decide +kernel⟩)

/-- One of the two rows of the report has no date. -/
theorem reportIn_months : ∃ report, reportIn monthsHeld.directory "months.csv" "months.json" false
      = some report ∧ report.table.rows.length = 2 ∧ report.rowErrors.length = 1 := by
  have hrun : ((Grid.ofText monthsText (Csv.detectDelimiter monthsText)).toOption.any fun g =>
      (Proposal.scanned? monthsRules).any fun v => (Definition.ofJson v.canonical).toOption.any
        fun d => (Table.ofGrid d g).toOption.any fun t =>
          t.rows.length == 2 && t.rowErrors.length == 1) = true := by decide +kernel
  obtain ⟨g, hg, hrun⟩ := exists_ok_of_any hrun
  obtain ⟨v, hv, hrun⟩ := (Option.any_eq_true _ _).1 hrun
  obtain ⟨d, hd, hrun⟩ := exists_ok_of_any hrun
  obtain ⟨t, ht, hrun⟩ := exists_ok_of_any hrun
  rw [Bool.and_eq_true, beq_iff_eq, beq_iff_eq] at hrun
  exact ⟨_, Report.givenReport_of_ok (gridIn_months.trans hg) text_months
    ((Proposal.ofText_of_scanned hv).trans hd) ht, hrun⟩

/-- **The run tells of one invalid row among two, and so does the validation.** -/
theorem monthsRun_validated : ∃ h₀ h₁ : Held,
    (performArguments monthsArguments : StateM Held Nat).run monthsHeld = (0, h₁) ∧
    h₁ = h₀.telling (deliveryLines 2 1 "table.json") ∧
    IsVerdict 1 1 ((performArguments ["validate", "table.json"] : StateM Held Nat).run h₁) := by
  have hread : Invocation.read monthsArguments = .invocation
      ⟨false, .run "months.csv" "months.json" ⟨some "table.json", true⟩ false⟩ := by decide +kernel
  have hvalidate : Invocation.read ["validate", "table.json"]
      = .invocation ⟨false, .validate "table.json"⟩ := by decide +kernel
  obtain ⟨report, hreport, hrows, herrors⟩ := reportIn_months
  have hplace : monthsHeld.directory.CanWrite "table.json" ["table.json"] :=
    ⟨by with_unfolding_all rfl, by with_unfolding_all exact nofun, by decide +kernel⟩
  obtain ⟨h₁, hdone⟩ := exists_run_doRun (h := begun false monthsHeld) hreport (hplace.write _)
  have hrun : (performArguments monthsArguments : StateM Held Nat).run monthsHeld = (0, h₁) := by
    rw [run_performArguments hread, show (carryOut (.run _ _ _ _) : Doing (StateM Held) Unit).run.run
      (begun false monthsHeld) = _ from hdone, ended_ok]
  obtain ⟨report', h₀, hreport', htold, hagrees⟩ := validate_agrees hread hrun
  obtain rfl := Option.some.inj (hreport.symm.trans hreport')
  obtain ⟨valid, hcounts, hverdict⟩ := hagrees _ false h₁ hvalidate rfl
  rw [hrows, herrors] at hcounts
  obtain rfl : valid = 1 := by omega
  rw [hrows, herrors] at htold
  rw [herrors] at hverdict
  exact ⟨h₀, h₁, hrun, htold, hverdict⟩

end UsageGrid.Command
