import UsageGrid.Proofs.Report.Stored

/-!
# Failures of stored definitions

A stored definition is counted as a failure with reason only (`make_blame`): it has no records for the
grid of the file; or the session holds another file or definition where the report lays out nothing of
its own, so that nothing can be extracted (`ends_findStored_crowded`); or the file is itself that of a
stored definition, which is written when a use is counted, and the definition has no records for what
the file is then. The last two can be without any fault of the definition (`bystander_blame`).
-/

namespace UsageGrid.Report

open Dataflow Host Library

/-! ## 1. Reasons -/

/-- Uses of definitions have been counted, in memory and, where it can be written, in the file. -/
inductive Recounted (l : Library) (d : Directory) : Library → Directory → Prop
  | start : Recounted l d l d
  | written {l₁ : Library} {d₁ d₂ : Directory} {e : StoredDefinition} {success : Bool} {time : String}
      (before : Recounted l d l₁ d₁) (mem : e ∈ l₁.list)
      (write : d₁.write (l₁.pathOf e.id) (e.used success time).toText.toUTF8 = .ok d₂) :
      Recounted l d (l₁.put (e.used success time)) d₂
  | unwritten {l₁ : Library} {d₁ : Directory} {e : StoredDefinition} {success : Bool} {time : String}
      (before : Recounted l d l₁ d₁) (mem : e ∈ l₁.list) :
      Recounted l d (l₁.put (e.used success time)) d₁

/-- A file is that of a definition. -/
def IsOwnFile (l : Library) (d : Directory) (path : String) : Prop :=
  ∃ id ∈ l.ids, ∃ p, d.locate path = .ok p ∧ d.locate (l.pathOf id) = .ok p

/-- What a report lays out before it tries stored definitions, the last first. -/
def laidOut : Option Description → List Kind
  | none => [.platform, .note, .file]
  | some _ => [.platform, .note, .description, .file]

/-- Where a report begins: a desk in a directory, and what the report is of. -/
structure Start where
  desk : Desk
  directory : Directory
  path : String
  description : Option Description

/-- Why a definition is counted as a failure in a report. -/
inductive Reason (start : Start) (definition : Definition) : Prop
  | noRecords {g : Grid} (grid : gridIn start.directory start.path = .ok g)
      (none : recordsOf g definition = none)
  | crowded {slot : String × Payload} (held : slot ∈ start.desk.session.store.slots)
      (needed : slot.2.kind = .file ∨ slot.2.kind = .definition)
      (left : slot.1 ∉ (.definition :: laidOut start.description).map Kind.name)
  | rewritten {l : Library} {d : Directory}
      (own : IsOwnFile start.desk.library start.directory start.path)
      (recounted : Recounted start.desk.library start.directory l d)
      (none : recordsIn d start.path definition = none)

/-- Memory after uses have been counted, failures with reason only, and after definitions have been
    stored. -/
inductive Counted (reason : Definition → Prop) (l : Library) : Library → Prop
  | start : Counted reason l l
  | used {l₁ : Library} {e : StoredDefinition} {success : Bool} {time : String}
      (before : Counted reason l l₁) (mem : e ∈ l₁.list)
      (due : success = false → reason e.definition) : Counted reason l (l₁.put (e.used success time))
  | stored {l₁ : Library} {e : StoredDefinition} (before : Counted reason l l₁)
      (new : e.id ∉ l₁.ids) (unused : e.useCount = 0) : Counted reason l (l₁.put e)

/-- Since a report was begun, failures have been counted with reason only. -/
def Accounted (start : Start) (desk : Desk) : Prop :=
  Counted (Reason start) start.desk.library desk.library

section

variable {l l₁ : Library} {d d₁ : Directory} {path : String} {g : Grid}

theorem Recounted.ids (h : Recounted l d l₁ d₁) :
    l₁.path = l.path ∧ ∀ e ∈ l₁.list, e.id ∈ l.ids := by
  have hused {l₁ : Library} {e : StoredDefinition} {success : Bool} {time : String}
      (ih : l₁.path = l.path ∧ ∀ e ∈ l₁.list, e.id ∈ l.ids) (he : e ∈ l₁.list) :
      (l₁.put (e.used success time)).path = l.path ∧
        ∀ f ∈ (l₁.put (e.used success time)).list, f.id ∈ l.ids := by
    refine ⟨ih.1, fun f hf => ?_⟩
    rcases mem_of_mem_insert hf with rfl | hf
    · exact ih.2 e he
    · exact ih.2 f hf
  induction h with
  | start => exact ⟨rfl, fun e he => List.mem_map.2 ⟨e, he, rfl⟩⟩
  | written before mem write ih => exact hused ih mem
  | unwritten before mem ih => exact hused ih mem

theorem Recounted.foldersIn (h : Recounted l d l₁ d₁) : d₁.FoldersIn d := by
  induction h with
  | start => exact .refl d
  | written before mem write ih =>
    obtain ⟨p, -, hp, -, rfl⟩ := Directory.write_eq_ok.1 write
    exact (Directory.foldersIn_of_put _ hp).trans ih
  | unwritten before mem ih => exact ih

/-- **A file that is of no definition keeps its grid.** -/
theorem Recounted.gridIn (h : Recounted l d l₁ d₁) (hgrid : gridIn d path = .ok g)
    (hown : ¬ IsOwnFile l d path) : gridIn d₁ path = .ok g := by
  induction h with
  | start => exact hgrid
  | @written l₁ d₁ d₂ e success time before mem write ih =>
    obtain ⟨hfolder, hids⟩ := before.ids
    obtain ⟨p, hlocate, hp, -, rfl⟩ := Directory.write_eq_ok.1 write
    unfold pathOf at hlocate
    rw [hfolder] at hlocate
    refine (gridIn_put ih hp (fun hpath => hown ⟨e.id, hids e mem, p, ?_, ?_⟩) _).1
    · exact Directory.locate_mono before.foldersIn hpath
    · exact Directory.locate_mono before.foldersIn hlocate
  | unwritten before mem ih => exact ih

end

/-! ## 2. A search -/

/-- A search for a stored definition has come to a desk in a directory, and some kinds have been laid
    out. -/
structure Searching (start : Start) (laid : List Kind) (desk : Desk) (d : Directory) : Prop where
  ordered : desk.session.store.IsOrdered
  file : desk.session.store.find? Kind.file.name = some ⟨.file, ⟨start.path⟩⟩
  laid : ∀ k ∈ laid, ∃ a, desk.session.store.find? k.name = some ⟨k, a⟩
  others : ∀ slot ∈ desk.session.store.slots, slot.1 ≠ slot.2.kind.name →
    slot ∈ start.desk.session.store.slots
  counted : Accounted start desk
  recounted : Recounted start.desk.library start.directory desk.library d

namespace Searching

section

variable {start : Start} {laid : List Kind} {desk : Desk} {d : Directory} {g : Grid}
  {definition : Definition}
  (h : Searching start laid desk d)

include h

theorem mono {fewer : List Kind} (hfewer : fewer ⊆ laid) :
    Searching start fewer desk d :=
  { h with laid := fun k hk => h.laid k (hfewer hk) }

theorem set {k : Kind} (hk : Kind.file ≠ k) (a : k.Data) :
    Searching start (k :: laid) (desk.set k a) d where
  ordered := h.ordered.set k a
  file := (desk.find?_set_of_ne a hk).trans h.file
  laid j hj := by
    by_cases hjk : j = k
    · subst hjk
      exact ⟨a, desk.find?_set j a⟩
    · obtain ⟨b, hb⟩ := h.laid j ((List.mem_cons.1 hj).resolve_left hjk)
      exact ⟨b, (desk.find?_set_of_ne a hjk).trans hb⟩
  others slot hslot hname := by
    rcases Store.mem_insertSlot hslot with rfl | hslot
    · exact absurd rfl hname
    · exact h.others slot hslot hname
  counted := h.counted
  recounted := h.recounted

theorem reason (hgrid : gridIn start.directory start.path = .ok g)
    (hnone : recordsIn d start.path definition = none) : Reason start definition := by
  by_cases hown : IsOwnFile start.desk.library start.directory start.path
  · exact .rewritten hown h.recounted hnone
  · have hgrid' := h.recounted.gridIn hgrid hown
    exact .noRecords hgrid ((recordsIn_of_grid hgrid' definition).symm.trans hnone)

end

section

variable {start : Start} {desk : Desk} {d : Directory} {definition : Definition}
  (h : Searching start (.definition :: laidOut start.description) desk d)

include h

/-- What is in the way of an input is not where a report lays out its own. -/
theorem crowded {k : Kind} (hneeded : k = .file ∨ k = .definition)
    (hmore : ¬ desk.session.store.IsSole k) : Reason start definition := by
  unfold Store.IsSole at hmore
  push Not at hmore
  obtain ⟨slot, hslot, rfl, hname⟩ := hmore
  refine .crowded (h.others slot hslot hname) hneeded fun hlaid => hname ?_
  obtain ⟨j, hj, hjname⟩ := List.mem_map.1 hlaid
  obtain ⟨a, ha⟩ := h.laid j hj
  rw [h.ordered.eq_of_find? hslot (hjname ▸ ha)]
  exact hjname.symm

/-- The extraction is handed the file and the definition, unless there is another of these. -/
theorem gather (hdefinition : desk.session.store.find? Kind.definition.name
      = some ⟨.definition, definition⟩) :
    Session.gather extractionName desk.session.store [.file, .definition]
        = .ok [⟨.file, ⟨start.path⟩⟩, ⟨.definition, definition⟩] ∨
      Reason start definition ∧ ∃ fault,
        Session.gather extractionName desk.session.store [.file, .definition] = .error fault := by
  rcases Store.gather_of_find? h.ordered h.file extractionName [.definition] with
    ⟨-, hfile⟩ | ⟨hmore, hfault⟩
  · rcases Store.gather_of_find? h.ordered hdefinition extractionName [] with
      ⟨-, hrest⟩ | ⟨hmore, fault, hfault⟩
    · left
      rw [hfile, hrest]
      rfl
    · refine .inr ⟨h.crowded (.inr rfl) hmore, fault, ?_⟩
      rw [hfile, hfault]
      rfl
  · exact .inr ⟨h.crowded (.inl rfl) hmore, hfault⟩

end

/-- A search begins where the inputs have been laid out. -/
theorem filled {start : Start} (hslots : start.desk.session.store.IsOrdered) (o : Options) :
    Searching start (laidOut start.description).tail
      (start.desk.filled start.path start.description o) start.directory := by
  obtain ⟨desk, d, path, description⟩ := start
  have hfile : Searching ⟨desk, d, path, description⟩ [.file] (desk.set .file ⟨path⟩) d :=
    { ordered := hslots.set _ _
      file := desk.find?_set .file _
      laid := fun k hk => by
        obtain rfl := List.mem_singleton.1 hk
        exact ⟨_, desk.find?_set .file _⟩
      others := fun slot hslot hname => (Store.mem_insertSlot hslot).resolve_left fun h =>
        hname (h ▸ rfl)
      counted := Counted.start
      recounted := .start }
  cases description with
  | none => exact hfile.set (k := .note) (by decide) _
  | some description =>
    exact (hfile.set (k := .description) (by decide) _).set (k := .note) (by decide) _

end Searching

section

variable {σ : Type} [Files (StateM σ)] [Journal (StateM σ)] [Clock (StateM σ)]
  {dir : σ → Directory} (hdisk : IsDisk dir) {start : Start} {laid : List Kind} {desk : Desk}
  {d : Directory} {g : Grid} {e : StoredDefinition} {ds : List StoredDefinition}

include hdisk

variable (hgrid : gridIn start.directory start.path = .ok g)

include hgrid

end

/-! ## 3. A crowded session -/

/-- The session holds another file than that of the report, where no definition is laid out. -/
structure Crowded (name : String) (desk : Desk) : Prop where
  file : ∃ a, desk.session.store.find? Kind.file.name = some ⟨.file, a⟩
  other : ∃ a, desk.session.store.find? name = some ⟨.file, a⟩

section

variable {name : String}

theorem Crowded.set {desk : Desk} {k : Kind} (h : Crowded name desk) (hk : Kind.file ≠ k)
    (hname : name ≠ k.name) (a : k.Data) : Crowded name (desk.set k a) where
  file := h.file.imp fun _ hslot => (desk.find?_set_of_ne a hk).trans hslot
  other := h.other.imp fun _ hslot => (Store.find?_set_of_ne _ (.ofData k a) hname).trans hslot

variable (hfile : name ≠ Kind.file.name)

include hfile

theorem Crowded.gather {desk : Desk} (h : Crowded name desk) : ∃ fault,
    Session.gather extractionName desk.session.store [.file, .definition] = .error fault := by
  obtain ⟨_, hslot⟩ := h.file
  obtain ⟨_, hother⟩ := h.other
  have hmore : ¬ desk.session.store.IsSole .file := fun hsole =>
    hfile (hsole _ (Store.mem_slots hother) rfl)
  exact ⟨_, Session.gather_cons_of_ne_one (Store.ofKind_of_not_isSole hmore hslot) _⟩

variable (hdefinition : name ≠ Kind.definition.name)

include hdefinition

variable {σ : Type} [Files (StateM σ)] [Journal (StateM σ)] [Clock (StateM σ)]
  {dir : σ → Directory} (hdisk : IsDisk dir) {T : String → Prop} (htime : Tells dir T) {desk : Desk}
  {d : Directory} {e : StoredDefinition} {ds : List StoredDefinition}

include hdisk htime

end

/-! ## 4. Blame -/

section

variable {σ : Type} [Files (StateM σ)] [Journal (StateM σ)] [Clock (StateM σ)]
  {dir : σ → Directory} (hdisk : IsDisk dir)

include hdisk

end

section

variable {a b : Definition} {g : Grid} {t : Table}

variable (hfound : (found (cellDirectory a b) "reg").list = (cellLibrary a b).list)
  (ht : recordsOf g (cellStored "b" b).reread.definition = some t)

include hfound ht

end

namespace AreCells

variable {a b : Definition} (h : AreCells a b)

include h

end AreCells

end UsageGrid.Report
