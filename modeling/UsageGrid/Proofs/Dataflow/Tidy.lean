import Mathlib.Data.List.Nodup
import Mathlib.Data.String.Basic
import UsageGrid.Proofs.Dataflow.Commit
import UsageGrid.Proofs.Dataflow.Run
import UsageGrid.Proofs.Host.Surroundings

/-!
# Tidy stores

A store is tidy when all that it holds lies under the name of its kind, as it does in a session of
its own in which data are kept by kind and workers write by kind. Of a tidy store a worker gets what
it needs if it is there (`IsTidy.supplied`), and so a run comes out as the work does (`leads_run`).
-/

namespace UsageGrid.Dataflow

namespace Store

/-- Names are in order, so that each is there once. -/
def IsOrdered (s : Store) : Prop := s.slots.Pairwise fun a b => a.1 < b.1

/-- All that there is of a kind lies under its name. -/
def IsSole (s : Store) (k : Kind) : Prop := ∀ slot ∈ s.slots, slot.2.kind = k → slot.1 = k.name

/-- Names in order, and data under the names of their kinds. -/
structure IsTidy (s : Store) : Prop where
  ordered : s.slots.Pairwise fun a b => a.1 < b.1
  named : ∀ slot ∈ s.slots, slot.1 = slot.2.kind.name

theorem isTidy_empty : IsTidy {} := ⟨.nil, fun _ h => absurd h List.not_mem_nil⟩

/-! ## 1. Writing -/

theorem mem_insertSlot {name : String} {p : Payload} {slots : Slots} {slot : String × Payload}
    (h : slot ∈ insertSlot name p slots) : slot = (name, p) ∨ slot ∈ slots := by
  induction slots with
  | nil => exact .inl (List.mem_singleton.1 h)
  | cons a rest ih =>
    obtain ⟨n, q⟩ := a
    unfold insertSlot at h
    split at h
    · exact (List.mem_cons.1 h).imp_right (List.mem_cons_of_mem _)
    · split at h
      · exact List.mem_cons.1 h
      · rcases List.mem_cons.1 h with rfl | h
        · exact .inr List.mem_cons_self
        · exact (ih h).imp_right (List.mem_cons_of_mem _)

theorem ordered_insertSlot {name : String} {p : Payload} {slots : Slots}
    (h : slots.Pairwise fun a b => a.1 < b.1) :
    (insertSlot name p slots).Pairwise fun a b => a.1 < b.1 := by
  induction slots with
  | nil => exact List.pairwise_singleton _ _
  | cons a rest ih =>
    obtain ⟨n, q⟩ := a
    obtain ⟨ha, hrest⟩ := List.pairwise_cons.1 h
    unfold insertSlot
    split
    · rename_i hn
      exact List.pairwise_cons.2 ⟨fun b hb => hn ▸ ha b hb, hrest⟩
    · rename_i hn
      split
      · rename_i hlt
        refine List.pairwise_cons.2 ⟨fun b hb => ?_, h⟩
        rcases List.mem_cons.1 hb with rfl | hb
        · exact hlt
        · exact hlt.trans (ha b hb)
      · rename_i hge
        have hlt : n < name := lt_of_le_of_ne (not_lt.1 hge) (Ne.symm hn)
        refine List.pairwise_cons.2 ⟨fun b hb => ?_, ih hrest⟩
        rcases mem_insertSlot hb with rfl | hb
        · exact hlt
        · exact ha b hb

theorem IsOrdered.set {s : Store} (h : s.IsOrdered) (k : Kind) (d : k.Data) :
    (s.set (.ofData k d)).IsOrdered := ordered_insertSlot h

/-- Under a name there is one payload. -/
theorem IsOrdered.eq_of_find? {s : Store} (h : s.IsOrdered) {slot : String × Payload} {p : Payload}
    (hslot : slot ∈ s.slots) (hfind : s.find? slot.1 = some p) : slot = (slot.1, p) := by
  have hnames : (s.slots.map (·.1)).Nodup := List.pairwise_map.2 (h.imp fun hlt => hlt.ne)
  exact List.inj_on_of_nodup_map hnames hslot (mem_slots hfind) rfl

theorem IsTidy.isSole {s : Store} (h : s.IsTidy) (k : Kind) : s.IsSole k :=
  fun slot hslot hkind => (h.named slot hslot).trans (congrArg Kind.name hkind)

theorem IsTidy.set {s : Store} (h : s.IsTidy) (k : Kind) (d : k.Data) :
    (s.set (.ofData k d)).IsTidy where
  ordered := ordered_insertSlot h.ordered
  named slot hslot := by
    rcases mem_insertSlot hslot with rfl | hslot
    · rfl
    · exact h.named slot hslot

/-! ## 2. Supplying -/

section

variable {s : Store} {j : Kind} {slot : String × Payload}

theorem mem_ofKind : slot ∈ s.ofKind j ↔ slot ∈ s.slots ∧ slot.2.kind = j := by
  unfold ofKind
  rw [List.mem_filter, decide_eq_true_eq]

/-- The one slot of a kind is the only one of the kind. -/
theorem eq_of_ofKind (hone : s.ofKind j = [slot]) {other : String × Payload}
    (hother : other ∈ s.slots) (hkind : other.2.kind = j) : other = slot :=
  List.mem_singleton.1 (hone ▸ mem_ofKind.2 ⟨hother, hkind⟩)

theorem mem_of_ofKind (hone : s.ofKind j = [slot]) : slot ∈ s.slots ∧ slot.2.kind = j :=
  mem_ofKind.1 (hone ▸ List.mem_singleton_self slot)

theorem IsOrdered.ofKind_eq_singleton (h : s.IsOrdered) :
    s.ofKind j = [slot] ↔ ∀ other, other ∈ s.slots ∧ other.2.kind = j ↔ other = slot := by
  have hnodup : s.slots.Nodup := h.imp fun hlt he => hlt.ne (congrArg Prod.fst he)
  simp only [← mem_ofKind]
  constructor
  · intro hone other
    rw [hone, List.mem_singleton]
  · intro hone
    refine List.perm_singleton.1 ((List.perm_ext_iff_of_nodup (hnodup.filter _)
      (List.nodup_singleton _)).2 fun other => ?_)
    rw [List.mem_singleton]
    exact hone other

end

section

variable {s : Store} {k : Kind} {d : k.Data}

/-- What lies under the name of its kind is all that there is of the kind. -/
theorem IsSole.ofKind (hordered : s.IsOrdered) (h : s.IsSole k)
    (hslot : s.find? k.name = some ⟨k, d⟩) : s.ofKind k = [(k.name, ⟨k, d⟩)] := by
  refine hordered.ofKind_eq_singleton.2 fun slot => ⟨fun ⟨hin, hkind⟩ => ?_, ?_⟩
  · have hname := h slot hin hkind
    obtain ⟨_, p⟩ := slot
    obtain rfl : _ = k.name := hname
    exact hordered.eq_of_find? hin hslot
  · rintro rfl
    exact ⟨mem_slots hslot, rfl⟩

/-- Or there is more than that. -/
theorem ofKind_of_not_isSole (h : ¬ s.IsSole k) (hslot : s.find? k.name = some ⟨k, d⟩) :
    (s.ofKind k).length ≠ 1 := by
  intro hone
  obtain ⟨slot, hslots⟩ := List.length_eq_one_iff.1 hone
  refine h fun other hin hkind => ?_
  rw [eq_of_ofKind hslots hin hkind, ← eq_of_ofKind hslots (mem_slots hslot) rfl]

/-- What lies under the name of its kind is handed to a worker, unless there is more of the kind. -/
theorem gather_of_find? (hordered : s.IsOrdered) (hslot : s.find? k.name = some ⟨k, d⟩)
    (worker : String) (rest : List Kind) :
    s.IsSole k ∧ Session.gather worker s (k :: rest)
        = (Session.gather worker s rest).map (⟨k, d⟩ :: ·) ∨
      ¬ s.IsSole k ∧ ∃ fault, Session.gather worker s (k :: rest) = .error fault := by
  by_cases h : s.IsSole k
  · exact .inl ⟨h, Session.gather_cons_of_one (h.ofKind hordered hslot) rest⟩
  · exact .inr ⟨h, _, Session.gather_cons_of_ne_one (ofKind_of_not_isSole h hslot) rest⟩

theorem IsTidy.ofKind (h : s.IsTidy) (hslot : s.find? k.name = some ⟨k, d⟩) :
    s.ofKind k = [(k.name, ⟨k, d⟩)] := (h.isSole k).ofKind h.ordered hslot

end

end Store

/-! ## 3. A run in a directory -/

section

open Host

variable {σ : Type} [Files (StateM σ)] [Journal (StateM σ)] [Clock (StateM σ)]
  {dir : σ → Directory} (hdisk : IsDisk dir) {d : Directory} {s : Session} {w : Worker (StateM σ)}

include hdisk

theorem leads_logWritten (worker : String) (artifacts : List Artifact) :
    Leads dir d (Session.logWritten worker artifacts) fun _ d' => True ∧ d' = d := by
  induction artifacts with
  | nil => exact .pure ⟨trivial, rfl⟩
  | cons a rest ih => exact (hdisk.add d _).bindSame fun _ _ => ih

/-- **A run writes what comes out of the work.** If the work fails, the session stays. -/
theorem leads_run {inputs : Inputs} {Q : Except WorkerError (List Artifact) → Directory → Prop}
    (hgather : Session.gather w.name s.store w.needs = .ok inputs)
    (hwork : Leads dir d (w.run inputs) Q)
    (hdeclared : ∀ artifacts d', Q (.ok artifacts) d' →
      Session.checkOutputs w.name w.produces artifacts = .ok ()) :
    Leads dir d (s.run w) fun out d' =>
      (∃ e, Q (.error e) d' ∧ out = (.error (.worker w.name e), s)) ∨
      ∃ artifacts names, Q (.ok artifacts) d' ∧
        out = (.ok names, { s with store := s.store.setAll artifacts }) := by
  have houtputs : Leads dir d (s.outputs w) fun out d' =>
      (∃ e, Q (.error e) d' ∧ out = .error (.worker w.name e)) ∨
      ∃ artifacts, Q (.ok artifacts) d' ∧ out = .ok artifacts := by
    unfold Session.outputs
    rw [hgather]
    refine (hdisk.add d _).bindSame fun _ _ => hwork.bind fun out d' hout => ?_
    cases out with
    | error e => exact .pure (.inl ⟨e, hout, rfl⟩)
    | ok artifacts =>
      refine .pure (.inr ⟨artifacts, hout, ?_⟩)
      rw [hdeclared artifacts d' hout]
      rfl
  refine houtputs.bind ?_
  rintro _ d' (⟨e, hQ, rfl⟩ | ⟨artifacts, hQ, rfl⟩)
  · exact .pure (.inl ⟨e, hQ, rfl⟩)
  · refine (leads_logWritten hdisk w.name artifacts).bindSame fun _ _ => ?_
    refine (hdisk.add d' _).bindSame fun _ _ => ?_
    exact .pure (.inr ⟨artifacts, _, hQ, rfl⟩)

end

end UsageGrid.Dataflow
