import UsageGrid.Proofs.Json.Occurrences
import UsageGrid.Proofs.Json.Parsed

/-!
# Objects inside a text

What the reader does inside an array or object does not depend on what is around it, but for the
depth (`step_inside`). So the text of an object, wherever the reader meets it where a value is due, is
read as that object; and where it meets it inside a string, the first quote ends the string and the
key behind it does not belong there. Either way nothing can follow it in a text that is read but
what can stand behind a value (`Body.not_gives`).
-/

namespace UsageGrid.Json

variable {s t : State} {c : Char} {v : Json} {cs : List Char} {fs gs : List Frame}

/-! ## 1. Inside of what is open -/

/-- Whether the outermost of what is open is an array. -/
def rootIsList (fs : List Frame) : Option Bool := fs.getLast?.map Frame.isList

/-- An array or object is open. -/
structure State.IsOpen (s : State) : Prop where
  frames : s.frames ≠ []
  mode : s.mode.isDone = false

/-- The state with more around it. -/
def State.atop (fs : List Frame) (s : State) : State := ⟨s.frames ++ fs, s.mode⟩

theorem rootIsList_cons (f : Frame) (h : gs ≠ []) : rootIsList (f :: gs) = rootIsList gs := by
  obtain ⟨g, gs, rfl⟩ := List.exists_cons_of_ne_nil h
  unfold rootIsList
  rw [List.getLast?_cons_cons]

/-- What one character does inside: the reader stays inside, or the outermost is closed. `result`
    tells by what is around it what the reader does. -/
inductive Inside (root : Option Bool) (c : Char) (result : List Frame → Except Cause State)
    (t : State) : Prop
  | on (inside : t.IsOpen) (same : rootIsList t.frames = root)
      (atop : ∀ fs, result fs = .ok (t.atop fs) ∨ result fs = .error .tooDeep)
  | closed (w : Json) (done : t = ⟨[], .done w⟩)
      (kind : root = some true ∧ (∃ items, w = .array items) ∨
        root = some false ∧ c = closeBrace ∧ ∃ ms, w = .object ms)
      (atop : ∀ fs, result fs = .ok (State.supply w fs))

/-- A value that is handed on inside. -/
theorem supply_inside (h : gs ≠ []) (v : Json) :
    (State.supply v gs).IsOpen ∧
      rootIsList (State.supply v gs).frames = rootIsList gs ∧
      ∀ fs, State.supply v (gs ++ fs) = (State.supply v gs).atop fs := by
  obtain ⟨g, gs, rfl⟩ := List.exists_cons_of_ne_nil h
  cases g with
  | list items =>
    refine ⟨⟨List.cons_ne_nil _ _, rfl⟩, ?_, fun fs => rfl⟩
    cases gs <;> rfl
  | members ms key =>
    refine ⟨⟨List.cons_ne_nil _ _, rfl⟩, ?_, fun fs => rfl⟩
    cases gs <;> rfl

theorem supplyText_inside (h : gs ≠ []) (asKey : Bool) (text : String) :
    (State.supplyText asKey text gs).IsOpen ∧
      rootIsList (State.supplyText asKey text gs).frames = rootIsList gs ∧
      ∀ fs, State.supplyText asKey text (gs ++ fs)
        = (State.supplyText asKey text gs).atop fs := by
  cases asKey with
  | false =>
    simp only [supplyText_false]
    exact supply_inside h _
  | true =>
    obtain ⟨g, gs, rfl⟩ := List.exists_cons_of_ne_nil h
    cases g with
    | list items => exact supply_inside h _
    | members ms key =>
      refine ⟨⟨List.cons_ne_nil _ _, rfl⟩, ?_, fun fs => rfl⟩
      cases gs <;> rfl

/-- A state in which nothing is opened or closed. -/
theorem Inside.same {result : List Frame → Except Cause State} {mode : Mode}
    (h : State.IsOpen ⟨gs, mode⟩) (hresult : ∀ fs, result fs = .ok ⟨gs ++ fs, mode⟩) : Inside (rootIsList gs) c result ⟨gs, mode⟩ :=
  .on h rfl fun fs => .inl (hresult fs)

theorem Inside.supplied {result : List Frame → Except Cause State} (h : gs ≠ [])
    (hresult : ∀ fs, result fs = .ok (State.supply v (gs ++ fs))) :
    Inside (rootIsList gs) c result (State.supply v gs) := by
  obtain ⟨hne, hroot, hover⟩ := supply_inside h v
  exact .on hne hroot fun fs => .inl ((hresult fs).trans (congrArg Except.ok (hover fs)))

theorem Inside.closing {f : Frame} {m : Mode} (h : f.Closes m c) :
    Inside (rootIsList (f :: gs)) c (fun fs => State.step ⟨f :: gs ++ fs, m⟩ c)
      (State.supply f.closed gs) := by
  cases gs with
  | nil =>
    refine .closed _ rfl ?_ (step_closes h)
    cases h with
    | list items mode => exact .inl ⟨rfl, _, rfl⟩
    | members ms key mode => exact .inr ⟨rfl, rfl, _, rfl⟩
  | cons g gs =>
    obtain ⟨hopen, hroot, hatop⟩ := supply_inside (List.cons_ne_nil g gs) f.closed
    refine .on hopen (hroot.trans (rootIsList_cons _ (List.cons_ne_nil _ _)).symm) fun fs => ?_
    exact .inl ((step_closes h _).trans (congrArg Except.ok (hatop fs)))

theorem Inside.opening {f : Frame} (hgs : gs ≠ []) (h : f.Opens c) (due : Due) :
    Inside (rootIsList gs) c (fun fs => State.step ⟨gs ++ fs, .value due⟩ c)
      ⟨f :: gs, f.start⟩ := by
  refine .on ⟨List.cons_ne_nil _ _, by cases h <;> rfl⟩ (rootIsList_cons f hgs) fun fs => ?_
  rw [step_opens h]
  split
  · exact .inl rfl
  · exact .inr rfl

theorem Mode.Leads.isDone {m m' : Mode} (h : m.Leads c m') : m'.isDone = false := by
  cases h <;> rfl

/-- **What one character does inside does not depend on what is around**, but for the depth. -/
theorem step_inside (h : s.IsOpen) (hstep : s.step c = .ok t) :
    Inside (rootIsList s.frames) c (fun fs => (s.atop fs).step c) t := by
  have htakes := step_eq_ok.1 hstep
  clear hstep
  induction htakes with
  | rests space all => exact .same h fun fs => all _ _ space
  | leads way all => exact .same ⟨h.frames, way.isDone⟩ fun fs => all _
  | opens bracket due => exact .opening h.frames bracket due
  | supplies => exact .supplied h.frames fun fs => if_pos rfl
  | suppliesText asKey read gs =>
    obtain ⟨hopen, hroot, hatop⟩ := supplyText_inside h.frames asKey (String.ofList read.reverse)
    exact .on hopen hroot fun fs => .inl (congrArg Except.ok (hatop fs))
  | separates f gs =>
    exact .same ⟨List.cons_ne_nil _ _, by cases f <;> rfl⟩ fun fs => step_separates f (gs ++ fs)
  | closes bracket => exact .closing bracket
  | @ends number phase c v gs t value all next ih =>
    obtain ⟨hopen, hroot, hatop⟩ := supply_inside h.frames v
    have hover (fs : List Frame) : (State.atop fs ⟨gs, .number number phase⟩).step c
        = ((State.supply v gs).atop fs).step c := (all _).trans (by rw [hatop])
    simp only [hover]
    exact hroot ▸ ih hopen

/-! ## 2. Whole objects -/

/-- After the value there is only space. -/
theorem step_done {w : Json} (h : State.step ⟨[], .done w⟩ c = .ok t) :
    isSpace c = true ∧ t = ⟨[], .done w⟩ := by
  have hsupply : (State.supply w []).step c = .ok t := h
  rcases step_supply hsupply with hspace | ⟨hnext, -⟩
  · exact hspace
  · cases hnext

theorem runs_done {w : Json} (h : Runs ⟨[], .done w⟩ cs t) : t = ⟨[], .done w⟩ := by
  induction cs with
  | nil =>
    cases h
    rfl
  | cons c rest ih =>
    obtain ⟨m, step, next⟩ := runs_cons.1 h
    obtain ⟨-, rfl⟩ := step_done step
    exact ih next

theorem gives_done {w : Json} (h : Gives ⟨[], .done w⟩ cs v) :
    v = w ∧ ∀ d ∈ cs, isSpace d = true := by
  induction cs with
  | nil => exact ⟨(Except.ok.inj (gives_nil.1 h)).symm, fun _ hd => absurd hd List.not_mem_nil⟩
  | cons c rest ih =>
    obtain ⟨m, step, next⟩ := gives_cons.1 h
    obtain ⟨hspace, rfl⟩ := step_done step
    obtain ⟨hv, hrest⟩ := ih next
    exact ⟨hv, List.forall_mem_cons.2 ⟨hspace, hrest⟩⟩

/-- **What is open comes to its end**, where the whole value is handed on. -/
theorem Gives.inside (h : s.IsOpen) (hg : Gives s cs v) : ∃ mid b c m,
    cs = mid ++ c :: b ∧ (∀ d ∈ b, isSpace d = true) ∧ Runs s mid m ∧ m.IsOpen ∧
    rootIsList m.frames = rootIsList s.frames ∧ m.step c = .ok ⟨[], .done v⟩ := by
  induction cs generalizing s with
  | nil =>
    have hfinish := gives_nil.1 hg
    obtain ⟨gs, mode⟩ := s
    obtain ⟨hframes, hmode⟩ := h
    obtain ⟨g, gs, rfl⟩ := List.exists_cons_of_ne_nil hframes
    cases mode with
    | done w => cases hmode
    | number number phase =>
      simp only [State.finish] at hfinish
      repeat' split at hfinish
      all_goals contradiction
    | _ =>
      simp only [State.finish] at hfinish
      repeat' split at hfinish
      all_goals contradiction
  | cons c rest ih =>
    obtain ⟨m, step, next⟩ := gives_cons.1 hg
    cases step_inside h step with
    | on inside same atop =>
      obtain ⟨mid, b, d, m', rfl, hb, hrun, hopen, hroot, hlast⟩ := ih inside next
      exact ⟨c :: mid, b, d, m', rfl, hb, runs_cons.2 ⟨m, step, hrun⟩, hopen, hroot.trans same,
        hlast⟩
    | closed w done kind atop =>
      subst done
      obtain ⟨rfl, hb⟩ := gives_done next
      exact ⟨[], rest, c, s, rfl, hb, .nil s, h, rfl, step⟩

theorem isContainer_value? {number : NumberText} (h : number.value? = some v) :
    v.isContainer = false := by
  rcases value?_cases h with ⟨_, rfl, -⟩ | ⟨_, rfl⟩ <;> rfl

/-- Of the whole a scalar is being read, or has been. -/
def State.IsScalar (s : State) : Prop :=
  s.frames = [] ∧ match s.mode with
    | .text asKey _ _ => asKey = false
    | .number _ _ => True
    | .word _ v | .done v => v.isContainer = false
    | _ => False

theorem Mode.Leads.isScalar {m m' : Mode} (h : m.Leads c m')
    (hm : State.IsScalar ⟨[], m⟩ ∨ ∃ due, m = .value due) : State.IsScalar ⟨[], m'⟩ := by
  cases h with
  | text => exact ⟨rfl, rfl⟩
  | number | moreNumber => exact ⟨rfl, trivial⟩
  | word due c letters scalar =>
    rcases scalar with rfl | ⟨b, rfl⟩ <;> exact ⟨rfl, rfl⟩
  | moreText | moreWord => exact ⟨rfl, (hm.resolve_right nofun).2⟩
  | key | value => exact absurd (hm.resolve_right nofun).2 id

theorem State.IsScalar.step (h : s.IsScalar) (hstep : s.step c = .ok t) : t.IsScalar := by
  have htakes := step_eq_ok.1 hstep
  clear hstep
  induction htakes with
  | rests => exact h
  | leads way all fs =>
    obtain ⟨rfl, -⟩ := id h
    exact way.isScalar (.inl h)
  | opens => exact absurd h.2 id
  | supplies c v fs =>
    obtain ⟨rfl, hv⟩ := h
    exact ⟨rfl, hv⟩
  | suppliesText asKey read fs =>
    obtain ⟨rfl, rfl⟩ := h
    exact ⟨rfl, rfl⟩
  | separates | closes => exact nomatch h.1
  | ends value all next ih =>
    obtain ⟨rfl, -⟩ := h
    exact ih ⟨rfl, isContainer_value? value⟩

theorem State.IsScalar.gives (h : s.IsScalar) (hg : Gives s cs v) : v.isContainer = false := by
  induction cs generalizing s with
  | nil =>
    have hfinish := gives_nil.1 hg
    obtain ⟨fs, mode⟩ := s
    obtain ⟨rfl, hmode⟩ := h
    cases mode with
    | done w =>
      cases hfinish
      exact hmode
    | number number phase =>
      simp only [State.finish] at hfinish
      repeat' split at hfinish
      all_goals first
        | contradiction
        | (cases hfinish
           exact isContainer_value? ‹_›)
    | _ => first | exact absurd hmode id | cases hfinish
  | cons c rest ih =>
    obtain ⟨m, step, next⟩ := gives_cons.1 hg
    exact ih (h.step step) next

/-- An object has been opened. -/
def opened : State := ⟨[.members [] ""], .key true⟩

/-- What is closed is what has been opened. -/
theorem Gives.opened (h : s.IsOpen) (hroot : rootIsList s.frames = some false)
    (hg : Gives s cs v) : ∃ mid b m, cs = mid ++ closeBrace :: b ∧ (∀ d ∈ b, isSpace d = true) ∧
      Runs s mid m ∧ m.IsOpen ∧ rootIsList m.frames = some false ∧
      m.step closeBrace = .ok ⟨[], .done v⟩ ∧ ∃ ms, v = .object ms := by
  obtain ⟨mid, b, c, m, rfl, hb, hrun, hopen, hsame, hlast⟩ := hg.inside h
  cases step_inside hopen hlast with
  | on inside => exact absurd rfl inside.frames
  | closed w done kind =>
    cases done
    rcases kind with ⟨htrue, -⟩ | ⟨hfalse, rfl, hobject⟩
    · cases (hroot.symm.trans (hsame.symm.trans htrue))
    · exact ⟨mid, b, m, rfl, hb, hrun, hopen, hfalse, hlast, hobject⟩

theorem Gives.list (h : s.IsOpen) (hroot : rootIsList s.frames = some true)
    (hg : Gives s cs v) : ∃ items, v = .array items := by
  obtain ⟨mid, b, c, m, -, -, -, hopen, hsame, hlast⟩ := hg.inside h
  cases step_inside hopen hlast with
  | on inside => exact absurd rfl inside.frames
  | closed w done kind =>
    cases done
    rcases kind with ⟨-, harray⟩ | ⟨hfalse, -⟩
    · exact harray
    · cases (hroot.symm.trans (hsame.symm.trans hfalse))

/-- An object begins with its brace. -/
theorem Gives.start {ms : List (String × Json)} (h : Gives {} cs (.object ms)) : ∃ a r,
    cs = a ++ openBrace :: r ∧ (∀ c ∈ a, isSpace c = true) ∧
      Gives Json.opened r (.object ms) := by
  induction cs with
  | nil =>
    have hfinish := gives_nil.1 h
    cases hfinish
  | cons c rest ih =>
    obtain ⟨m, step, next⟩ := gives_cons.1 h
    cases step_eq_ok.1 step with
    | rests space =>
      obtain ⟨a, r, rfl, ha, hr⟩ := ih next
      exact ⟨c :: a, r, rfl, List.forall_mem_cons.2 ⟨space, ha⟩, hr⟩
    | leads way => cases (way.isScalar (.inr ⟨_, rfl⟩)).gives next
    | opens bracket =>
      cases bracket with
      | list =>
        obtain ⟨items, hitems⟩ := next.list ⟨List.cons_ne_nil _ _, rfl⟩ rfl
        cases hitems
      | members => exact ⟨[], rest, rfl, fun _ hd => absurd hd List.not_mem_nil, next⟩

/-- What stands between the braces of a value. -/
def Body (mid : List Char) (v : Json) : Prop :=
  ∃ m, Runs Json.opened mid m ∧ m.IsOpen ∧ rootIsList m.frames = some false ∧
    m.step closeBrace = .ok ⟨[], .done v⟩

/-- The text of a value from brace to brace. -/
def braced (mid : List Char) : List Char := openBrace :: (mid ++ [closeBrace])

theorem isOpen_opened : Json.opened.IsOpen := ⟨List.cons_ne_nil _ _, rfl⟩

/-- **The text of an object**: the braces and what is between them, with space around it. -/
theorem gives_object {ms : List (String × Json)} : Gives {} cs (.object ms) ↔ ∃ a mid b,
    cs = a ++ (braced mid ++ b) ∧ (∀ c ∈ a, isSpace c = true) ∧ (∀ c ∈ b, isSpace c = true) ∧
      Body mid (.object ms) := by
  constructor
  · intro h
    obtain ⟨a, r, rfl, ha, hr⟩ := h.start
    obtain ⟨mid, b, m, rfl, hb, hrun, hopen, hroot, hlast, -⟩ := hr.opened isOpen_opened rfl
    exact ⟨a, mid, b, by simp [braced], ha, hb, m, hrun, hopen, hroot, hlast⟩
  · rintro ⟨a, mid, b, rfl, ha, hb, m, hrun, -, -, hlast⟩
    rw [(isBetween_value [] .anywhere).gives ha, braced, List.cons_append, List.append_assoc,
      gives_of_step (t := Json.opened) rfl, gives_append]
    refine ⟨m, hrun, (gives_of_step hlast).2 ?_⟩
    have hspace : State.IsBetween ⟨[], .done (.object ms)⟩ := isBetween_supply _ []
    have hend := hspace.gives (b := []) (v := .object ms) hb
    rw [List.append_nil] at hend
    exact hend.2 (gives_nil.2 rfl)

/-! ## 3. Objects in other places -/

/-- The run inside is the same with more around it. -/
theorem Runs.atop {m : State} {mid rest : List Char} {w : Json} (h : s.IsOpen)
    (hrun : Runs s mid m) (hm : m.IsOpen) (hg : Gives (s.atop fs) (mid ++ rest) w) :
    Gives (m.atop fs) rest w := by
  induction mid generalizing s with
  | nil =>
    cases hrun
    exact hg
  | cons c mid ih =>
    obtain ⟨n, step, next⟩ := runs_cons.1 hrun
    cases step_inside h step with
    | on inside same atop =>
      rcases atop fs with hon | hdeep
      · exact ih inside next ((gives_of_step hon).1 hg)
      · exact absurd hg (not_gives_of_step hdeep)
    | closed w' done kind atop =>
      subst done
      -- what is closed stays closed
      exact absurd (congrArg State.frames (runs_done next)) hm.frames

/-- **Where a value is due, an object is read as itself.** -/
theorem Body.gives {mid rest : List Char} {w : Json} (h : Body mid v) {due : Due}
    (hg : Gives ⟨fs, .value due⟩ (braced mid ++ rest) w) : Gives (State.supply v fs) rest w := by
  obtain ⟨m, hrun, hopen, hroot, hlast⟩ := h
  rw [braced, List.cons_append, List.append_assoc] at hg
  obtain ⟨n, step, next⟩ := gives_cons.1 hg
  rw [step_value rfl (by decide)] at step
  have hopens : startValue fs openBrace
      = if fs.length < depthLimit then .ok (Json.opened.atop fs) else .error .tooDeep := rfl
  rw [hopens] at step
  split at step
  case isFalse => cases step
  cases step
  have hend := hrun.atop isOpen_opened hopen next
  cases step_inside hopen hlast with
  | on inside => exact absurd rfl inside.frames
  | closed w' done kind atop =>
    cases done
    exact (gives_of_step (atop fs)).1 hend

/-- A character that can stand behind a key or a value. -/
def IsMark (c : Char) : Prop := isSpace c = true ∨ c ∈ [':', ',', ']', closeBrace]

instance : DecidablePred IsMark := fun _ => inferInstanceAs (Decidable (_ ∨ _))

/-- No key of the object begins with a mark. -/
def HasPlainKeys (members : List (String × Json)) : Prop :=
  ∀ k ∈ members.map (·.1), ∀ c ∈ k.toList.head?, ¬ IsMark c

/-- Behind the quote of its first key stands no mark. -/
theorem not_isMark_of_gives {ms : List (String × Json)} (hkeys : HasPlainKeys ms)
    (h : Gives ⟨[.members [] ""], .text true [] .plain⟩ (c :: cs) (.object ms)) : ¬ IsMark c := by
  intro hmark
  obtain ⟨m, step, next⟩ := gives_cons.1 h
  have hstep : m = ⟨[.members [] ""], .text true [c] .plain⟩ := by
    have hc := hmark
    simp only [IsMark, isSpace, Bool.or_eq_true, beq_iff_eq, List.mem_cons, List.not_mem_nil,
      or_false] at hc
    rcases hc with (((rfl | rfl) | rfl) | rfl) | rfl | rfl | rfl | rfl <;> cases step <;> rfl
  subst hstep
  obtain ⟨more, rest, hmore⟩ := next.text
  have hmem : ⟨1, true, String.ofList ([c].reverse ++ more)⟩ ∈
      State.occurrences ⟨[.members [] (String.ofList ([c].reverse ++ more))], .colon⟩ :=
    List.mem_cons_self
  have hkey := mem_keys_of_occurrence (hmore.occurrences hmem)
  refine hkeys _ hkey c ?_ hmark
  rw [String.toList_ofList]
  rfl

/-- Behind the brace of an object stands its first key, which begins with no mark. -/
theorem gives_opened {ms : List (String × Json)} (h : Gives Json.opened cs (.object ms))
    (hne : ms ≠ []) (hkeys : HasPlainKeys ms) : ∃ b c rest, cs = b ++ quote :: c :: rest ∧
      (∀ d ∈ b, isSpace d = true) ∧ ¬ IsMark c := by
  induction cs with
  | nil =>
    have hfinish := gives_nil.1 h
    cases hfinish
  | cons d rest ih =>
    obtain ⟨m, step, next⟩ := gives_cons.1 h
    cases step_eq_ok.1 step with
    | rests space =>
      obtain ⟨b, c, rest, rfl, hb, hc⟩ := ih next
      exact ⟨d :: b, c, rest, rfl, List.forall_mem_cons.2 ⟨space, hb⟩, hc⟩
    | leads way =>
      cases way
      cases rest with
      | nil => cases gives_nil.1 next
      | cons c rest =>
        exact ⟨[], c, rest, rfl, fun _ hd => absurd hd List.not_mem_nil,
          not_isMark_of_gives hkeys next⟩
    | closes bracket =>
      cases bracket
      cases (gives_done next).1
      exact absurd rfl hne

theorem Body.first {mid : List Char} {ms : List (String × Json)} (h : Body mid (.object ms))
    (hne : ms ≠ []) (hkeys : HasPlainKeys ms) : ∃ b c rest,
      mid ++ [closeBrace] = b ++ quote :: c :: rest ∧ (∀ d ∈ b, isSpace d = true) ∧
      ¬ IsMark c := by
  obtain ⟨m, hrun, -, -, hlast⟩ := h
  refine gives_opened (gives_append.2 ⟨m, hrun, ?_⟩) hne hkeys
  exact (gives_of_step hlast).2 (gives_nil.2 rfl)

/-- Space stays in a string that is being read, or is a fault there. -/
theorem runs_text_space {asKey : Bool} {read b : List Char} (hb : ∀ d ∈ b, isSpace d = true)
    (h : Runs ⟨fs, .text asKey read .plain⟩ b t) :
    ∃ read', t = ⟨fs, .text asKey read' .plain⟩ := by
  induction b generalizing read with
  | nil =>
    cases h
    exact ⟨read, rfl⟩
  | cons c rest ih =>
    obtain ⟨hc, hrest⟩ := List.forall_mem_cons.1 hb
    obtain ⟨m, step, next⟩ := runs_cons.1 h
    simp only [isSpace, Bool.or_eq_true, beq_iff_eq] at hc
    rcases hc with ((rfl | rfl) | rfl) | rfl <;> cases step
    exact ih hrest next

/-- Behind a value there is a mark. -/
theorem step_supply_ne (hc : ¬ IsMark c) (v : Json) (fs : List Frame) :
    (State.supply v fs).step c ≠ .ok t := by
  simp only [IsMark, List.mem_cons, List.not_mem_nil, or_false, not_or] at hc
  obtain ⟨hspace, -, hcomma, hlist, hobject⟩ := hc
  intro h
  rcases step_supply h with ⟨h, -⟩ | ⟨-, h⟩
  · exact hspace h
  · cases hfs : (State.supply v fs).frames with
    | nil =>
      rw [hfs] at h
      cases h
    | cons f rest =>
      rw [hfs] at h
      cases f <;> simp [afterValue, hcomma, hlist, hobject] at h

/-- Behind a string that is over there is a mark. -/
theorem not_gives_supplyText {asKey : Bool} {text : String} {rest : List Char} {w : Json}
    (hc : ¬ IsMark c) : ¬ Gives (State.supplyText asKey text fs) (c :: rest) w := by
  intro hg
  obtain ⟨m, step, -⟩ := gives_cons.1 hg
  cases asKey with
  | false =>
    rw [supplyText_false] at step
    exact step_supply_ne hc _ _ step
  | true =>
    cases fs with
    | nil => exact step_supply_ne hc (.string text) [] step
    | cons f fs =>
      cases f with
      | list items => exact step_supply_ne hc (.string text) (.list items :: fs) step
      | members ms key =>
        simp only [IsMark, List.mem_cons, not_or] at hc
        simp [State.supplyText, State.step, hc.1, hc.2.1] at step

/-- **Behind the text of an object there is a mark**, wherever the reader is. -/
theorem Body.not_gives {mid a b rest : List Char} {ms : List (String × Json)} {w : Json}
    (h : Body mid (.object ms)) (hne : ms ≠ []) (hkeys : HasPlainKeys ms)
    (hb : ∀ c ∈ b, isSpace c = true) (hc : ¬ IsMark c) (hs : s.mode.IsSpelled) :
    ¬ Gives s (a ++ (braced mid ++ (b ++ c :: rest))) w := by
  intro hg
  obtain ⟨m, hrun, hg⟩ := gives_append.1 hg
  have hm := hrun.isSpelled hs
  obtain ⟨n, step, next⟩ := gives_cons.1 hg
  rcases step_stray (c := openBrace) ⟨rfl, rfl, by decide⟩ hm step with
    ⟨asKey, read, escape, hmode⟩ | ⟨due, hmode, -⟩
  · obtain ⟨fs, mode⟩ := m
    cases hmode
    cases escape with
    | plain =>
      -- the quote of the first key ends the string
      cases step
      obtain ⟨b', d, rest', hfirst, hb', hd⟩ := h.first hne hkeys
      have hstring : Gives ⟨fs, .text asKey (openBrace :: read) .plain⟩
          (b' ++ (quote :: d :: (rest' ++ (b ++ c :: rest)))) w := by
        have hsplit : mid ++ [closeBrace] ++ (b ++ c :: rest)
            = b' ++ (quote :: d :: (rest' ++ (b ++ c :: rest))) := by
          rw [hfirst]
          simp
        rw [← hsplit]
        exact next
      obtain ⟨m, hspaces, hquote⟩ := gives_append.1 hstring
      obtain ⟨read', rfl⟩ := runs_text_space hb' hspaces
      have hends : State.step ⟨fs, .text asKey read' .plain⟩ quote
          = .ok (State.supplyText asKey (String.ofList read'.reverse) fs) := rfl
      exact not_gives_supplyText hd ((gives_of_step hends).1 hquote)
    | code high digits =>
      have hmem : openBrace ∈ digits ++ [openBrace] := List.mem_append_right _ List.mem_cons_self
      simp only [State.step, stepText, codeUnit?_eq_none hmem rfl] at step
      split at step
      · cases step
        exact State.IsLost.not_gives ⟨asKey, read, high, _, rfl, openBrace, hmem, rfl⟩ next
      · cases step
    | backslash | pairBackslash high | pairMark high => cases step
  · obtain ⟨fs, mode⟩ := m
    cases hmode
    have hend := h.gives hg
    rw [(isBetween_supply _ fs).gives hb] at hend
    obtain ⟨n', step', -⟩ := gives_cons.1 hend
    exact step_supply_ne hc _ _ step'

end UsageGrid.Json
