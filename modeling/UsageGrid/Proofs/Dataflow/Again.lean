import UsageGrid.Proofs.Dataflow.Tidy

/-!
# Running a worker again

A worker takes what it needs from wherever it lies in the store, and writes under the name of the
kind that it produces. With that it may change what it is handed the next time:

* what it needs is overwritten, if it lies under that name and is of another kind;
* it is there twice, if it is of that kind and lies under another name.

Where neither is so (`Store.HasRoom`), the next run is handed the same, what has been written aside
(`Supplied.set`); where one is so, the next run is not supplied (`gather_set_of_not_hasRoom`). A run
that has come out well then comes out as well the next time, or fails (`Session.run_settled`).
-/

namespace UsageGrid.Dataflow

/-- A payload after data of a kind have been written: these, if it is of the kind. -/
def renewed (k : Kind) (d : k.Data) (p : Payload) : Payload := if p.kind = k then ⟨k, d⟩ else p

namespace Store

/-! ## 1. What there is of a kind after a write -/

/-- Written last is written. -/
theorem insertSlot_insertSlot (name : String) (p q : Payload) (slots : Slots) :
    insertSlot name p (insertSlot name q slots) = insertSlot name p slots := by
  induction slots with
  | nil => simp [insertSlot]
  | cons a rest ih =>
    obtain ⟨n, r⟩ := a
    by_cases hn : name = n
    · simp [insertSlot, hn]
    · by_cases hlt : name < n
      · simp [insertSlot, hn, hlt]
      · simp [insertSlot, hn, hlt, ih]

theorem set_set (s : Store) {a b : Artifact} (h : a.name = b.name) : (s.set a).set b = s.set b := by
  unfold set
  rw [h, insertSlot_insertSlot]

/-- No slot after a write under a name lies under it but the one that is written. -/
theorem mem_insertSlot_iff {name : String} {p : Payload} {slots : Slots}
    (h : slots.Pairwise fun a b => a.1 < b.1) {slot : String × Payload} :
    slot ∈ insertSlot name p slots ↔ slot = (name, p) ∨ slot ∈ slots ∧ slot.1 ≠ name := by
  induction slots with
  | nil => simp [insertSlot]
  | cons a rest ih =>
    obtain ⟨n, q⟩ := a
    obtain ⟨ha, hrest⟩ := List.pairwise_cons.1 h
    unfold insertSlot
    split
    · rename_i hn
      subst hn
      have hother : ∀ b ∈ rest, b.1 ≠ name := fun b hb => (ha b hb).ne'
      rw [List.mem_cons, List.mem_cons]
      constructor
      · exact Or.imp_right fun hb => ⟨.inr hb, hother slot hb⟩
      · rintro (rfl | ⟨rfl | hb, hne⟩)
        · exact .inl rfl
        · exact absurd rfl hne
        · exact .inr hb
    · rename_i hn
      split
      · rename_i hlt
        have hother : ∀ b ∈ (n, q) :: rest, b.1 ≠ name :=
          List.forall_mem_cons.2 ⟨Ne.symm hn, fun b hb => (hlt.trans (ha b hb)).ne'⟩
        rw [List.mem_cons]
        exact or_congr_right ⟨fun hb => ⟨hb, hother slot hb⟩, And.left⟩
      · rw [List.mem_cons, ih hrest, List.mem_cons]
        constructor
        · rintro (rfl | rfl | ⟨hb, hne⟩)
          · exact .inr ⟨.inl rfl, Ne.symm hn⟩
          · exact .inl rfl
          · exact .inr ⟨.inr hb, hne⟩
        · rintro (rfl | ⟨rfl | hb, hne⟩)
          · exact .inr (.inl rfl)
          · exact .inl rfl
          · exact .inr (.inr ⟨hb, hne⟩)

variable {s : Store} {j k : Kind} {d : k.Data}

theorem IsOrdered.mem_set (h : s.IsOrdered) {slot : String × Payload} :
    slot ∈ (s.set (.ofData k d)).slots ↔
      slot = (k.name, ⟨k, d⟩) ∨ slot ∈ s.slots ∧ slot.1 ≠ k.name := mem_insertSlot_iff h

/-! ## 2. Room for what is written -/

/-- There is room for data of a kind beside what is needed: of that, what is of the kind lies where
    the data are written, and nothing else does. -/
def HasRoom (s : Store) (needs : List Kind) (k : Kind) : Prop :=
  ∀ slot ∈ s.slots, slot.2.kind ∈ needs → (slot.1 = k.name ↔ slot.2.kind = k)

theorem hasRoom_cons {slot : String × Payload} (hone : s.ofKind j = [slot]) (needs : List Kind) :
    s.HasRoom (j :: needs) k ↔ (slot.1 = k.name ↔ j = k) ∧ s.HasRoom needs k := by
  obtain ⟨hslot, hkind⟩ := mem_of_ofKind hone
  constructor
  · intro h
    refine ⟨?_, fun other hother hneed => h other hother (List.mem_cons_of_mem j hneed)⟩
    have := h slot hslot (List.mem_cons.2 (.inl hkind))
    rwa [hkind] at this
  · rintro ⟨hhere, hrest⟩ other hother hneed
    rcases List.mem_cons.1 hneed with hj | hneed
    · rw [eq_of_ofKind hone hother hj, hkind]
      exact hhere
    · exact hrest other hother hneed

/-- Where all lies under the name of its kind, there is room. -/
theorem IsTidy.hasRoom (h : s.IsTidy) (needs : List Kind) (k : Kind) : s.HasRoom needs k := by
  intro slot hslot _
  rw [h.named slot hslot]
  exact ⟨Kind.name_injective, congrArg Kind.name⟩

/-- Where there is room, the one slot of a kind stays the one slot. -/
theorem IsOrdered.ofKind_set (h : s.IsOrdered) {name : String} {p : Payload}
    (hone : s.ofKind j = [(name, p)]) (hroom : name = k.name ↔ j = k) :
    (s.set (.ofData k d)).ofKind j = [(name, renewed k d p)] := by
  obtain ⟨hslot, hkind⟩ := mem_of_ofKind hone
  refine (h.set k d).ofKind_eq_singleton.2 fun other => ?_
  rw [h.mem_set]
  unfold renewed
  by_cases hj : j = k
  · subst hj
    obtain rfl := hroom.2 rfl
    rw [if_pos hkind]
    constructor
    · rintro ⟨rfl | ⟨hother, hname⟩, hsame⟩
      · rfl
      · exact absurd (congrArg Prod.fst (eq_of_ofKind hone hother hsame)) hname
    · rintro rfl
      exact ⟨.inl rfl, rfl⟩
  · rw [if_neg (hkind ▸ hj)]
    constructor
    · rintro ⟨rfl | ⟨hother, -⟩, hsame⟩
      · exact absurd hsame.symm hj
      · exact eq_of_ofKind hone hother hsame
    · rintro rfl
      exact ⟨.inr ⟨hslot, fun hname => hj (hroom.1 hname)⟩, hkind⟩

/-- Where there is not, there is no such slot, or another. -/
theorem IsOrdered.length_ofKind_set (h : s.IsOrdered) {name : String} {p : Payload}
    (hone : s.ofKind j = [(name, p)]) (hroom : ¬ (name = k.name ↔ j = k)) :
    ((s.set (.ofData k d)).ofKind j).length ≠ 1 := by
  obtain ⟨hslot, hkind⟩ := mem_of_ofKind hone
  intro hlength
  obtain ⟨slot, hslots⟩ := List.length_eq_one_iff.1 hlength
  obtain ⟨hin, hsame⟩ := mem_of_ofKind hslots
  have hwritten : (k.name, (⟨k, d⟩ : Payload)) ∈ (s.set (.ofData k d)).slots :=
    h.mem_set.2 (.inl rfl)
  by_cases hj : j = k
  · subst hj
    have hname : name ≠ j.name := fun hname => hroom ⟨fun _ => rfl, fun _ => hname⟩
    have hold : (name, p) ∈ (s.set (.ofData j d)).slots := h.mem_set.2 (.inr ⟨hslot, hname⟩)
    exact hname (congrArg Prod.fst
      ((eq_of_ofKind hslots hold hkind).trans (eq_of_ofKind hslots hwritten rfl).symm))
  · have hname : name = k.name := by
      by_contra hname
      exact hroom ⟨fun h => absurd h hname, fun h => absurd h hj⟩
    rcases h.mem_set.1 hin with rfl | ⟨hold, hother⟩
    · exact hj hsame.symm
    · exact hother ((congrArg Prod.fst (eq_of_ofKind hone hold hsame)).trans hname)

end Store

/-! ## 3. What a worker is handed the next time -/

section

variable {s : Store} {k : Kind} {d : k.Data} {needs : List Kind} {inputs : Inputs}

/-- **Where there is room, a worker is handed the same**, what has been written aside. -/
theorem Supplied.set (hordered : s.IsOrdered) (hroom : s.HasRoom needs k)
    (h : Supplied s needs inputs) :
    Supplied (s.set (.ofData k d)) needs (inputs.map (renewed k d)) := by
  induction h with
  | nil => exact .nil
  | cons hone _ ih =>
    obtain ⟨hhere, hrest⟩ := (Store.hasRoom_cons hone _).1 hroom
    exact .cons (hordered.ofKind_set hone hhere) (ih hrest)

/-- **Where there is none, it is not supplied.** -/
theorem gather_set_of_not_hasRoom (hordered : s.IsOrdered) (hroom : ¬ s.HasRoom needs k)
    (h : Supplied s needs inputs) (worker : String) :
    ∃ j ∈ needs, ∃ count ≠ 1, Session.gather worker (s.set (.ofData k d)) needs
      = .error (.inputCount worker j count) := by
  induction h with
  | nil => exact absurd (fun _ _ hneed => absurd hneed List.not_mem_nil) hroom
  | @cons j name p needs inputs hone _ ih =>
    by_cases hhere : name = k.name ↔ j = k
    · have hrest : ¬ s.HasRoom needs k := fun hrest =>
        hroom ((Store.hasRoom_cons hone needs).2 ⟨hhere, hrest⟩)
      obtain ⟨i, hi, count, hcount, hgather⟩ := ih hrest
      refine ⟨i, List.mem_cons_of_mem j hi, count, hcount, ?_⟩
      rw [Session.gather_cons_of_one (hordered.ofKind_set hone hhere), hgather]
      rfl
    · have hlength := hordered.length_ofKind_set (d := d) hone hhere
      exact ⟨j, List.mem_cons_self, _, hlength, Session.gather_cons_of_ne_one hlength needs⟩

end

/-! ## 4. Runs -/

section

open Host

variable {σ : Type} [Files (StateM σ)] [Journal (StateM σ)] [Clock (StateM σ)]
  {dir : σ → Directory} (hdisk : IsDisk dir) {w : Worker (StateM σ)} {k : Kind}
  {f : Directory → Inputs → Except WorkerError (List Artifact)}

/-- What comes out of the work is given by the directory and the inputs, and the directory stays. -/
def Worker.Computes (dir : σ → Directory) (w : Worker (StateM σ))
    (f : Directory → Inputs → Except WorkerError (List Artifact)) : Prop :=
  ∀ d inputs, Leads dir d (w.run inputs) fun out d' => out = f d inputs ∧ d' = d

/-- Data of a kind are all that comes out, and come out again where they have been handed in. -/
def Settles (k : Kind) (f : Directory → Inputs → Except WorkerError (List Artifact)) : Prop :=
  ∀ d inputs artifacts, f d inputs = .ok artifacts →
    ∃ x : k.Data, artifacts = [.ofData k x] ∧ f d (inputs.map (renewed k x)) = .ok artifacts

namespace Session

include hdisk in
theorem work_eq (hw : w.Computes dir f) (s : Session) (u : σ) (inputs : Inputs) :
    s.work w u inputs = f (dir u) inputs :=
  (hw (dir u) inputs (s.begun w u) (hdisk.add (dir u) _ u rfl).2).1

include hdisk in
theorem run_of_supplied (hw : w.Computes dir f) {s : Session} {u : σ} {inputs : Inputs}
    {artifacts : List Artifact} (h : Supplied s.store w.needs inputs)
    (hdone : f (dir u) inputs = .ok artifacts) (hdeclared : ∀ a ∈ artifacts, a.kind ∈ w.produces) :
    ((s.run w).run u).1
      = (.ok (artifacts.map (·.name)), { s with store := s.store.setAll artifacts }) := by
  have hwork : s.work w u inputs = .ok artifacts := (work_eq hdisk hw s u inputs).trans hdone
  rw [run_fst, (outputs_eq_ok s w u artifacts).2 ⟨⟨inputs, h, hwork⟩, hdeclared⟩]

omit [Files (StateM σ)] [Clock (StateM σ)] in
theorem run_of_gather_error {s : Session} {e : DataflowError}
    (h : gather w.name s.store w.needs = .error e) (u : σ) : ((s.run w).run u).1 = (.error e, s) := by
  rw [run_fst, outputs_fst, h]
  rfl

include hdisk in
/-- **A run that has come out well comes out as well the next time**, with the same names, and leaves
    the session as it is, if there was room for what has been written. If there was none, the next run
    fails for what it needs. -/
theorem run_settled (hw : w.Computes dir f) (hf : Settles k f) {s s' : Session}
    (hordered : s.store.IsOrdered) {u u' : σ} (hu : dir u' = dir u) {names : List String}
    (h : ((s.run w).run u).1 = (.ok names, s')) :
    (s.store.HasRoom w.needs k → ((s'.run w).run u').1 = (.ok names, s')) ∧
    (¬ s.store.HasRoom w.needs k → ∃ j ∈ w.needs, ∃ count ≠ 1,
      ((s'.run w).run u').1 = (.error (.inputCount w.name j count), s')) := by
  rcases (s.run_allOrNothing w u).2 with
    ⟨e, he⟩ | ⟨inputs, artifacts, hsupplied, hdone, hdeclared, hrun, -⟩
  · exact nomatch (Prod.mk.inj (he.symm.trans h)).1
  obtain ⟨hnames, rfl⟩ := Prod.mk.inj (hrun.symm.trans h)
  obtain rfl := Except.ok.inj hnames
  rw [work_eq hdisk hw, ← hu] at hdone
  obtain ⟨x, rfl, hagain⟩ := hf _ _ _ hdone
  constructor
  · intro hroom
    have hrun' := run_of_supplied (s := { s with store := s.store.set (.ofData k x) }) hdisk hw
      (hsupplied.set hordered hroom) hagain hdeclared
    have hstore : (s.store.set (.ofData k x)).setAll [.ofData k x] = s.store.set (.ofData k x) :=
      s.store.set_set rfl
    rw [hstore] at hrun'
    exact hrun'
  · intro hroom
    obtain ⟨j, hj, count, hcount, hgather⟩ :=
      gather_set_of_not_hasRoom (d := x) hordered hroom hsupplied w.name
    exact ⟨j, hj, count, hcount,
      run_of_gather_error (s := { s with store := s.store.set (.ofData k x) }) hgather u'⟩

end Session

end

end UsageGrid.Dataflow
