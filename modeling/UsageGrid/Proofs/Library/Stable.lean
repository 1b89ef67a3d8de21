import UsageGrid.Library.Basic
import UsageGrid.Proofs.Host.Surroundings
import UsageGrid.Proofs.Library.Ids
import UsageGrid.Proofs.Library.Listing

/-!
# What a library does to its surroundings

A library reads files, writes those of its own definitions, and asks for the time. A property of the
surroundings that survives these (`Stable`) survives every use of the library, and the library stays
in its folder. In memory one definition changes at most, whatever the surroundings do (`use_cases`,
`save_cases`).
-/

namespace UsageGrid.Library

open Host

variable {σ : Type} [Files (StateM σ)] [Journal (StateM σ)] [Clock (StateM σ)]

/-- A property that survives all that is done with the files of a library in a folder, and whatever
    is read, told or asked of the clock. -/
structure Stable (Inv : σ → Prop) (folder : String) : Prop where
  read : ∀ p, Keeps Inv (Files.read p : StateM σ _) fun _ => True
  names : ∀ p, Keeps Inv (Files.names p : StateM σ _) fun _ => True
  makeFolders : Keeps Inv (Files.makeFolders folder : StateM σ _) fun _ => True
  write : ∀ id content,
    Keeps Inv (Files.write (joinPath folder (id ++ extension)) content : StateM σ _) fun _ => True
  add : ∀ e, Keeps Inv (Journal.add e : StateM σ _) fun _ => True
  time : Keeps Inv (Clock.time : StateM σ _) fun _ => True
  stamp : Keeps Inv (Clock.stamp : StateM σ _) fun _ => True

section

variable {Inv : σ → Prop} {folder : String} (h : Stable Inv folder)

include h

/-! ## 1. Opening -/

theorem keeps_readText (p : String) : Keeps Inv (readText p : StateM σ _) fun _ => True := by
  refine (h.read p).bind fun content _ => ?_
  cases content with
  | error cause => exact .pure trivial
  | ok bytes =>
    dsimp only
    cases String.fromUTF8? bytes <;> exact .pure trivial

theorem keeps_readFiles (l : Library) (names : List String) :
    Keeps Inv (readFiles l names : StateM σ _) fun _ => True := by
  induction names generalizing l with
  | nil => exact .pure trivial
  | cons name rest ih =>
    have hfile : Keeps Inv (readFile (joinPath l.path name) : StateM σ _) fun _ => True := by
      refine (keeps_readText h _).bind fun text _ => ?_
      cases text <;> exact .pure trivial
    refine hfile.bind fun d _ => ?_
    cases d with
    | ok d => exact ih (l.put d)
    | error e => exact (h.add _).bind fun _ _ => ih l

theorem keeps_openAt (p : String) : Keeps Inv (openAt p : StateM σ _) fun _ => True := by
  refine (h.names p).bind fun names _ => ?_
  cases names with
  | error cause => exact .pure trivial
  | ok names => exact keeps_readFiles h _ _

/-! ## 2. Changes -/

theorem keeps_write {l : Library} (hl : l.path = folder) (d : StoredDefinition) :
    Keeps Inv (l.write d : StateM σ _) fun _ => True := by
  have hpath : l.pathOf d.id = joinPath folder (d.id ++ extension) := by
    unfold pathOf
    rw [hl]
  refine Keeps.bind (Q := fun _ => True) ?_ fun outcome _ => .pure trivial
  show Keeps Inv (Files.write (l.pathOf d.id) _) _
  rw [hpath]
  exact h.write d.id _

/-- A definition is saved in the same folder. -/
theorem keeps_save {l : Library} (hl : l.path = folder) (d : Definition) (platforms : List String) :
    Keeps Inv (l.save d platforms : StateM σ _) fun out => out.2.path = folder := by
  refine Keeps.bind (Q := fun _ => True) (hl ▸ h.makeFolders) fun made _ => ?_
  cases made with
  | error cause => exact .pure hl
  | ok _ =>
    refine h.stamp.bind fun stamp _ => ?_
    have htaken : Keeps Inv (l.takenIds : StateM σ _) fun _ => True := by
      refine (h.names _).bind fun names _ => ?_
      cases names <;> exact .pure trivial
    refine htaken.bind fun taken _ => h.time.bind fun time _ => ?_
    refine (keeps_write h hl _).bind fun written _ => ?_
    cases written <;> exact .pure hl

/-- A use is counted in the same folder. -/
theorem keeps_use {l : Library} (hl : l.path = folder) (id : String) (success : Bool) :
    Keeps Inv (l.use id success : StateM σ _) fun out => out.2.path = folder := by
  unfold Library.use
  cases l.get id with
  | error e => exact .pure hl
  | ok d =>
    refine h.time.bind fun time _ => ?_
    exact (keeps_write h hl _).bind fun written _ => .pure hl

end

/-! ## 3. In memory -/

section

variable {l : Library}

omit [Journal (StateM σ)] in
/-- A use of a definition changes it in memory, even if its file cannot be written. -/
theorem use_cases (id : String) (success : Bool) :
    Keeps (fun _ => True) (l.use id success : StateM σ _) fun out =>
      out.2 = l ∨ ∃ e ∈ l.list, ∃ time, out.2 = l.put (e.used success time) := by
  unfold Library.use
  cases hget : l.get id with
  | error fault => exact .pure (.inl rfl)
  | ok e =>
    exact (Keeps.any _).bind fun time _ => (Keeps.any _).bind fun _ _ =>
      .pure (.inr ⟨e, (get_eq_ok hget).1, time, rfl⟩)

omit [Journal (StateM σ)] in
/-- A definition is saved under a new id, or not at all. -/
theorem save_cases (d : Definition) (platforms : List String) :
    Keeps (fun _ => True) (l.save d platforms : StateM σ _) fun out =>
      out.2 = l ∨ ∃ id time, id ∉ l.ids ∧ out.2 = l.put (.fresh id d platforms time) := by
  refine (Keeps.any _).bind fun made _ => ?_
  cases made with
  | error cause => exact .pure (.inl rfl)
  | ok _ =>
    refine (Keeps.any _).bind fun stamp _ => ?_
    have htaken : Keeps (fun _ => True) (l.takenIds : StateM σ _) fun taken =>
        ∀ id ∈ l.ids, id ∈ taken := by
      refine (Keeps.any _).bind fun names _ => ?_
      cases names with
      | error cause => exact .pure fun _ hid => hid
      | ok names => exact .pure fun _ hid => List.mem_append_left _ hid
    refine htaken.bind fun taken htaken => (Keeps.any _).bind fun time _ =>
      (Keeps.any _).bind fun written _ => ?_
    cases written with
    | error e => exact .pure (.inl rfl)
    | ok _ => exact .pure (.inr ⟨_, time, fun hid => freeId_not_mem taken _ (htaken _ hid), rfl⟩)

end

end UsageGrid.Library

/-!
## A shelf of files

The least surroundings in which a library can be used: files by their paths, in no folder, where
nothing is told and no time passes. A file keeps its content there while a library is used that has
no file of this path (`stable`); and the files of a library have paths of their own
(`getLast?_joinPath`).
-/

namespace UsageGrid

theorem Library.getLast?_joinPath (folder id : String) :
    (Library.joinPath folder (id ++ Library.extension)).toList.getLast? = some 'n' := by
  -- whatever is put in front, the path ends as the name does
  have hfront : ∃ front, Library.joinPath folder (id ++ Library.extension)
      = front ++ (id ++ Library.extension) := by
    unfold Library.joinPath
    split
    · exact ⟨"", by simp⟩
    · split
      · exact ⟨folder, rfl⟩
      · exact ⟨folder ++ "/", rfl⟩
  obtain ⟨front, hfront⟩ := hfront
  rw [hfront]
  simp [Library.extension]

namespace Host

/-- The files, those written last in front. -/
structure Shelf where
  files : List (String × ByteArray) := []

namespace Shelf

def read (s : Shelf) (path : String) : Except Directory.Cause ByteArray :=
  match s.files.lookup path with
  | some content => .ok content
  | none => .error .notFound

def put (s : Shelf) (path : String) (content : ByteArray) : Shelf := ⟨(path, content) :: s.files⟩

instance : Files (StateM Shelf) where
  read path := do pure ((← get).read path)
  write path content := do
    modify (·.put path content)
    pure (.ok ())
  makeFolders _ := pure (.ok ())
  names _ := pure (.error .notFound)
  remove path := do
    modify fun s => ⟨s.files.filter (·.1 != path)⟩
    pure (.ok ())
  isThere path := do pure ((← get).files.lookup path).isSome

instance : Journal (StateM Shelf) where
  add _ := pure ()
  mute := pure ()

instance : Clock (StateM Shelf) where
  time := pure ""
  stamp := pure ""
  freshId := pure ⟨0⟩

variable {path folder : String} {content : ByteArray}

theorem read_put_of_ne (s : Shelf) {p : String} (c : ByteArray) (h : path ≠ p) :
    (s.put p c).read path = s.read path := by
  have hne : (path == p) = false := by simpa using h
  simp [read, put, List.lookup_cons, hne]

theorem keeps_read : Keeps (fun s : Shelf => s.read path = .ok content)
    (Files.read path : StateM Shelf _) (· = .ok content) := fun _ hs => ⟨hs, hs⟩

/-- **Use of a library leaves the other files as they are.** -/
theorem stable (h : ∀ id, path ≠ Library.joinPath folder (id ++ Library.extension)) :
    Library.Stable (fun s : Shelf => s.read path = .ok content) folder where
  read _ := fun _ hs => ⟨trivial, hs⟩
  names _ := .pure trivial
  makeFolders := .pure trivial
  write id c := fun s hs => ⟨trivial, (s.read_put_of_ne c (h id)).trans hs⟩
  add _ := .pure trivial
  time := .pure trivial
  stamp := .pure trivial

end Shelf

end Host

end UsageGrid
