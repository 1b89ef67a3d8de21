import UsageGrid.Proofs.Host.Surroundings
import UsageGrid.Proofs.Library.Shelved
import UsageGrid.Rules.Example

/-!
# Calls that fail

A call that saves or imports changes memory last, once nothing can fail any more. A call that counts
a use or deletes changes memory first: if its file cannot be written or removed, it fails with memory
changed (`call_error`). It does so when a definition has been put into the folder by hand, in a file
that is not named for its id (`handPlaced`).
-/

namespace UsageGrid.Library

open Host

/-- A call that changes a library. -/
inductive Call where
  | save (d : Definition) (platforms : List String)
  | importFile (path : String) (platforms : List String)
  | use (id : String) (success : Bool)
  | delete (id : String)

/-- The id that a call is given. -/
def Call.given? : Call → Option String
  | .save _ _ | .importFile _ _ => none
  | .use id _ | .delete id => some id

/-- Makes a call. The answer is the id of the definition that it has put in, changed or removed. -/
def call {m : Type → Type} [Monad m] [Files m] [Clock m] (l : Library) :
    Call → m (Except LibraryError String × Library)
  | .save d platforms => l.save d platforms
  | .importFile path platforms => l.importFile path platforms
  | .use id success => do
    let (outcome, l) ← l.use id success
    pure (outcome.map fun _ => id, l)
  | .delete id => do
    let (outcome, l) ← l.delete id
    pure (outcome.map fun _ => id, l)

/-! ## 1. What a failure leaves -/

section

variable {σ : Type}

variable [Files (StateM σ)] [Clock (StateM σ)] (l : Library)

theorem save_error (d : Definition) (platforms : List String) :
    Keeps (fun _ : σ => True) (l.save d platforms) fun out => ∀ e, out.1 = .error e → out.2 = l := by
  refine (Keeps.any _).bind fun made _ => ?_
  cases made with
  | error cause => exact .pure fun _ _ => rfl
  | ok _ =>
    refine (Keeps.any _).bind fun stamp _ => (Keeps.any _).bind fun taken _ =>
      (Keeps.any _).bind fun time _ => (Keeps.any _).bind fun written _ => ?_
    cases written with
    | error e => exact .pure fun _ _ => rfl
    | ok _ => exact .pure fun _ h => nomatch h

theorem importFile_error (path : String) (platforms : List String) :
    Keeps (fun _ : σ => True) (l.importFile path platforms)
      fun out => ∀ e, out.1 = .error e → out.2 = l := by
  refine (Keeps.any _).bind fun text _ => ?_
  cases text with
  | error cause => exact .pure fun _ _ => rfl
  | ok text =>
    dsimp only
    cases Definition.ofText text with
    | error e => exact .pure fun _ _ => rfl
    | ok d => exact save_error l d platforms

/-- Memory is changed where the id is known, whether the file is written or not. -/
theorem use_error (id : String) (success : Bool) :
    Keeps (fun _ : σ => True) (l.use id success) fun out => ∀ e, out.1 = .error e →
      (id ∉ l.ids ∧ out.2 = l) ∨
      ∃ d time, l.get id = .ok d ∧ out.2 = l.put (d.used success time) := by
  unfold use
  cases hget : l.get id with
  | error e => exact .pure fun _ _ => .inl ⟨(get_eq_notFound hget).2, rfl⟩
  | ok d =>
    refine (Keeps.any _).bind fun time _ => (Keeps.any _).bind fun written _ => ?_
    exact .pure fun _ _ => .inr ⟨d, time, rfl, rfl⟩

omit [Clock (StateM σ)] in
theorem delete_error (id : String) :
    Keeps (fun _ : σ => True) (l.delete id) fun out => ∀ e, out.1 = .error e →
      (id ∉ l.ids ∧ out.2 = l) ∨ (id ∈ l.ids ∧ out.2 = l.erase id) := by
  unfold delete
  cases hget : l.get id with
  | error e => exact .pure fun _ _ => .inl ⟨(get_eq_notFound hget).2, rfl⟩
  | ok d =>
    obtain ⟨hd, rfl⟩ := get_eq_ok hget
    refine (Keeps.any _).bind fun removed _ => ?_
    exact .pure fun _ _ => .inr ⟨List.mem_map.2 ⟨d, hd, rfl⟩, rfl⟩

end

/-! ## 2. What shows in the list -/

/-- A definition that leaves a list as it is is the one that the list has. -/
theorem find?_of_insert_eq {d : StoredDefinition} {list : List StoredDefinition}
    (h : insert d list = list) : list.find? (·.id == d.id) = some d := by
  induction list with
  | nil => cases h
  | cons e rest ih =>
    unfold insert at h
    split at h
    · rw [(List.cons.inj h).1]
      exact List.find?_cons_of_pos (beq_self_eq_true _)
    · rename_i hid
      split at h
      · have hlength := congrArg List.length h
        simp at hlength
      · rw [List.find?_cons_of_neg (by simpa using Ne.symm hid)]
        exact ih (List.cons.inj h).2

/-- A use shows: it is counted. -/
theorem list_put_used_ne {l : Library} {d : StoredDefinition} {id : String}
    (h : l.get id = .ok d) (success : Bool) (time : String) :
    (l.put (d.used success time)).list ≠ l.list := by
  intro hsame
  have hfind : l.list.find? (·.id == d.id) = some (d.used success time) :=
    find?_of_insert_eq hsame
  have hget : l.list.find? (·.id == d.id) = some d := by
    obtain ⟨-, rfl⟩ := get_eq_ok h
    unfold get at h
    split at h
    · rename_i hfound
      rw [hfound, Except.ok.inj h]
    · cases h
  have hcount : (d.useCount + 1) % 2 ^ 32 = d.useCount :=
    congrArg StoredDefinition.useCount (Option.some.inj (hfind.symm.trans hget))
  omega

theorem list_erase_ne {l : Library} {id : String} (h : id ∈ l.ids) : (l.erase id).list ≠ l.list := by
  intro hsame
  obtain ⟨d, hd, rfl⟩ := List.mem_map.1 h
  have hkept := List.filter_eq_self.1 hsame d hd
  simp at hkept

section

variable {σ : Type} [Files (StateM σ)] [Clock (StateM σ)]

theorem keeps_call_error (l : Library) (c : Call) :
    Keeps (fun _ : σ => True) (l.call c) fun out => ∀ e, out.1 = .error e →
      (out.2.list = l.list ↔ ∀ id ∈ c.given?, id ∉ l.ids) := by
  cases c with
  | save d platforms =>
    refine (save_error l d platforms).mono fun out hout e he => ?_
    rw [hout e he]
    exact ⟨fun _ _ hid => (nomatch hid), fun _ => rfl⟩
  | importFile path platforms =>
    refine (importFile_error l path platforms).mono fun out hout e he => ?_
    rw [hout e he]
    exact ⟨fun _ _ hid => (nomatch hid), fun _ => rfl⟩
  | use id success =>
    refine (use_error l id success).bind fun out hout => .pure fun e he => ?_
    rcases hout e (map_eq_error.1 he) with ⟨hid, hl⟩ | ⟨d, time, hget, hl⟩
    · exact ⟨fun _ _ hgiven => Option.some.inj hgiven ▸ hid, fun _ => congrArg _ hl⟩
    · obtain ⟨hd, rfl⟩ := get_eq_ok hget
      refine ⟨fun hlist => ?_, fun hnot => ?_⟩
      · exact absurd (hl ▸ hlist) (list_put_used_ne hget success time)
      · exact absurd (List.mem_map.2 ⟨d, hd, rfl⟩) (hnot _ rfl)
  | delete id =>
    refine (delete_error l id).bind fun out hout => .pure fun e he => ?_
    rcases hout e (map_eq_error.1 he) with ⟨hid, hl⟩ | ⟨hid, hl⟩
    · exact ⟨fun _ _ hgiven => Option.some.inj hgiven ▸ hid, fun _ => congrArg _ hl⟩
    · refine ⟨fun hlist => ?_, fun hnot => absurd hid (hnot _ rfl)⟩
      exact absurd (hl ▸ hlist) (list_erase_ne hid)

/-- **A call that fails leaves the list as it was, unless it counts a use of a definition that is
    there, or deletes one**: then memory has changed before the file could not be written or
    removed. Nothing is assumed of the library or its surroundings. -/
theorem call_error {l l' : Library} {c : Call} {s s' : σ} {e : LibraryError}
    (h : (l.call c : StateM σ _).run s = ((.error e, l'), s')) :
    l'.list = l.list ↔ ∀ id ∈ c.given?, id ∉ l.ids := by
  have hcall := (keeps_call_error l c s trivial).1 e
  rw [h] at hcall
  exact hcall rfl

end

/-! ## 3. A folder filled by hand -/

/-- A definition under the id `a`. -/
def storedAsA (d : Definition) : StoredDefinition where
  id := "a"
  name := d.name
  platforms := []
  definition := d
  createdAt := ""
  successRate := StoredDefinition.one
  useCount := 0

/-- There is one file, and it is not named for the id of the definition in it. -/
def handPlaced (d : Definition) : Held where
  directory := ⟨[(["reg"], .folder), (["reg", "hand.json"], fileOf (storedAsA d))]⟩

def handOpened (d : Definition) : Library × Held := (openAt "reg" : StateM Held _).run (handPlaced d)

theorem handOpened_eq {d : Definition} (h : d.IsStorable) (hshallow : d.IsShallow) :
    (handOpened d).1 = { path := "reg", list := [(storedAsA d).reread] } ∧
      (handOpened d).2.directory = (handPlaced d).directory := by
  have hstorable : (storedAsA d).IsStorable := ⟨h, (by decide : 0 < StoredDefinition.countBound)⟩
  have hnames : (handPlaced d).directory.names "reg" = .ok ["hand.json"] := by
    with_unfolding_all rfl
  have hfile : definitionIn (handPlaced d).directory (joinPath "reg" "hand.json")
      = .ok (storedAsA d).reread :=
    definitionIn_fileOf (p := ["reg", "hand.json"]) (by with_unfolding_all rfl) rfl
      (by decide +kernel) hstorable hshallow
  obtain ⟨hlist, hdirectory⟩ :=
    leads_openAt Held.isDisk (handPlaced d).directory "reg" (handPlaced d) rfl
  refine ⟨hlist.trans ?_, hdirectory⟩
  have hnamed : ["hand.json"].filter holdsDefinition = ["hand.json"] := by decide +kernel
  unfold found
  rw [hnames]
  dsimp only
  rw [hnamed]
  exact putFrom_of_ok hfile

/-- The file that is to be removed is not there. -/
theorem run_delete_handOpened {d : Definition} (h : d.IsStorable) (hshallow : d.IsShallow) :
    ∃ s, ((handOpened d).1.call (.delete "a") : StateM Held _).run (handOpened d).2
      = ((.error (.file .notFound), { path := "reg" }), s) := by
  obtain ⟨hlist, hdirectory⟩ := handOpened_eq h hshallow
  have hremove : (handPlaced d).directory.remove "reg/a.json" = .error .notFound := by
    with_unfolding_all rfl
  have hpath : pathOf { path := "reg" } "a" = "reg/a.json" := by decide +kernel
  have hout := Held.isDisk.remove _ "reg/a.json" (handOpened d).2 hdirectory
  rw [hremove] at hout
  obtain ⟨hout, -⟩ := Prod.mk.inj hout
  refine ⟨_, Prod.ext ?_ rfl⟩
  rw [hlist]
  show (((((Files.remove (pathOf { path := "reg" } "a") : StateM Held _).run
    (handOpened d).2).1.mapError LibraryError.file).map fun _ => "a"), ({ path := "reg" } : Library)) = _
  rw [hpath, hout]
  rfl

theorem exampleDefinition :
    ∃ d, Definition.ofJson Rules.exampleDocument = .ok d ∧ d.IsStorable ∧ d.IsShallow := by
  have h : ((Definition.ofJson Rules.exampleDocument).toOption.any fun d =>
      decide d.IsShallow) = true := by decide +kernel
  obtain ⟨d, hd, hshallow⟩ := exists_ok_of_any h
  have hdecoded : d.IsDecoded := ⟨_, Definition.isProper_exampleDocument, hd⟩
  exact ⟨d, hd, hdecoded.isStorable, of_decide_eq_true hshallow⟩

/-- **Deleting it fails, and it is gone from memory.** -/
theorem handOpened_delete : ∃ d, Definition.ofJson Rules.exampleDocument = .ok d ∧
    ∃ e l s, ((handOpened d).1.call (.delete "a") : StateM Held _).run (handOpened d).2
      = ((.error e, l), s) ∧ (handOpened d).1.list ≠ [] ∧ l.list = [] := by
  obtain ⟨d, hd, hstorable, hshallow⟩ := exampleDefinition
  obtain ⟨s, hrun⟩ := run_delete_handOpened hstorable hshallow
  refine ⟨d, hd, _, _, s, hrun, ?_, rfl⟩
  rw [(handOpened_eq hstorable hshallow).1]
  exact List.cons_ne_nil _ _

/-- What is said of failing calls, said of this one. -/
theorem handOpened_call_error : ∃ d, Definition.ofJson Rules.exampleDocument = .ok d ∧
    ∃ e l s, ((handOpened d).1.call (.delete "a") : StateM Held _).run (handOpened d).2
      = ((.error e, l), s) ∧
      (l.list = (handOpened d).1.list ↔
        ∀ id ∈ (Call.delete "a").given?, id ∉ (handOpened d).1.ids) := by
  obtain ⟨d, hd, hstorable, hshallow⟩ := exampleDefinition
  obtain ⟨s, hrun⟩ := run_delete_handOpened hstorable hshallow
  exact ⟨d, hd, _, _, s, hrun, call_error hrun⟩

end UsageGrid.Library
