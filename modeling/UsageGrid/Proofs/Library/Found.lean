import UsageGrid.Proofs.Directory.Places
import UsageGrid.Proofs.Host.Surroundings
import UsageGrid.Proofs.Library.Listing

/-!
# What is found in a directory

Opening a library finds what the files in its folder hold (`leads_openAt`), each id once. Where the
files agree about every id, that is what any of them holds (`mem_foldl_putFrom`).
-/

namespace UsageGrid

/-- The text of a file, which has to be UTF-8. -/
def Directory.text (d : Directory) (path : String) : Except Directory.Cause String := do
  let content ← d.read path
  match String.fromUTF8? content with
  | some text => pure text
  | none => throw .notUtf8

theorem fromUTF8?_toUTF8 (text : String) : String.fromUTF8? text.toUTF8 = some text := by
  unfold String.fromUTF8?
  rw [String.toUTF8_eq_toByteArray, dif_pos text.isValidUTF8]
  rfl

theorem Directory.text_congr {d d' : Directory} {path : String} (h : d'.read path = d.read path) :
    d'.text path = d.text path := by
  unfold Directory.text
  rw [h]

/-- A text that has been written is read. -/
theorem Directory.text_eq_ok {d : Directory} {path text : String}
    (h : d.read path = .ok text.toUTF8) : d.text path = .ok text := by
  unfold Directory.text
  rw [h, ok_bind, fromUTF8?_toUTF8]
  rfl

theorem Directory.text_of_write {d d' : Directory} {path text : String}
    (h : d.write path text.toUTF8 = .ok d') : d'.text path = .ok text := by
  obtain ⟨p, hp, hnone, hend, rfl⟩ := write_eq_ok.1 h
  exact text_eq_ok (CanWrite.read ⟨hp, hnone, hend⟩ _)

namespace Library

/-! ## 1. Reading a folder -/

/-- The definition in a file. -/
def definitionIn (d : Directory) (path : String) : Except LibraryError StoredDefinition :=
  match d.text path with
  | .error cause => .error (.file cause)
  | .ok text => (StoredDefinition.ofText text).mapError .unreadable

/-- The library with the definition in a file, if that can be read. -/
def putFrom (d : Directory) (l : Library) (name : String) : Library :=
  match definitionIn d (joinPath l.path name) with
  | .ok e => l.put e
  | .error _ => l

/-- The library in a folder of a directory. -/
def found (d : Directory) (path : String) : Library :=
  match d.names path with
  | .error _ => { path }
  | .ok names => (names.filter holdsDefinition).foldl (putFrom d) { path }

section

open Host

variable {σ : Type} [Files (StateM σ)] [Journal (StateM σ)] [Clock (StateM σ)]
  {dir : σ → Directory} (hdisk : IsDisk dir) (d : Directory)

include hdisk

theorem leads_readText (path : String) :
    Leads dir d (readText path) fun out d' => out = d.text path ∧ d' = d := by
  refine (hdisk.read d path).bindEq ?_
  unfold Directory.text
  cases d.read path with
  | error cause => exact .pure ⟨rfl, rfl⟩
  | ok content =>
    rw [ok_bind]
    dsimp only
    cases String.fromUTF8? content <;> exact .pure ⟨rfl, rfl⟩

theorem leads_readFile (path : String) :
    Leads dir d (readFile path) fun out d' => out = definitionIn d path ∧ d' = d := by
  refine (leads_readText hdisk d path).bindEq ?_
  unfold definitionIn
  cases d.text path <;> exact .pure ⟨rfl, rfl⟩

theorem leads_readFiles (l : Library) (names : List String) :
    Leads dir d (readFiles l names) fun l' d' => l' = names.foldl (putFrom d) l ∧ d' = d := by
  induction names generalizing l with
  | nil => exact .pure ⟨rfl, rfl⟩
  | cons name rest ih =>
    refine (leads_readFile hdisk d (joinPath l.path name)).bindEq ?_
    rw [List.foldl_cons]
    unfold putFrom
    cases definitionIn d (joinPath l.path name) with
    | ok e => exact ih (l.put e)
    | error e => exact (hdisk.add d _).bindSame fun _ _ => ih l

/-- **Opening finds what the files hold**, and changes nothing. -/
theorem leads_openAt (path : String) :
    Leads dir d (openAt path) fun l d' => l = found d path ∧ d' = d := by
  refine (hdisk.names d path).bindEq ?_
  unfold found
  cases d.names path with
  | error cause => exact .pure ⟨rfl, rfl⟩
  | ok names => exact leads_readFiles hdisk d _ _

end

/-! ## 2. What there is in it -/

variable {d : Directory} {l : Library} {e : StoredDefinition}

theorem path_putFrom (d : Directory) (l : Library) (name : String) :
    (putFrom d l name).path = l.path := by
  unfold putFrom
  split <;> rfl

theorem ordered_foldl_putFrom (h : Ordered l.list) (names : List String) :
    Ordered (names.foldl (putFrom d) l).list := by
  induction names generalizing l with
  | nil => exact h
  | cons name rest ih =>
    refine ih ?_
    unfold putFrom
    split
    · exact h.insert _
    · exact h

theorem path_foldl_putFrom (names : List String) :
    (names.foldl (putFrom d) l).path = l.path := by
  induction names generalizing l with
  | nil => rfl
  | cons name rest ih => exact ih.trans (path_putFrom d l name)

theorem path_found (path : String) : (found d path).path = path := by
  unfold found
  split
  · rfl
  · exact path_foldl_putFrom _

/-- **What is found comes in order**, each id once. -/
theorem ordered_found (path : String) : Ordered (found d path).list := by
  unfold found
  split
  · exact ordered_nil
  · exact ordered_foldl_putFrom ordered_nil _

theorem putFrom_of_ok {name : String} (h : definitionIn d (joinPath l.path name) = .ok e) :
    putFrom d l name = l.put e := by
  unfold putFrom
  rw [h]

/-- Where no two of the definitions share an id, all are found. -/
theorem mem_foldl_putFrom {S : StoredDefinition → Prop}
    (hS : ∀ x y, S x → S y → x.id = y.id → x = y) (hordered : Ordered l.list)
    (hlist : ∀ x ∈ l.list, S x) {names : List String}
    (hnames : ∀ n ∈ names, ∀ x, definitionIn d (joinPath l.path n) = .ok x → S x) :
    e ∈ (names.foldl (putFrom d) l).list ↔
      e ∈ l.list ∨ ∃ n ∈ names, definitionIn d (joinPath l.path n) = .ok e := by
  induction names generalizing l with
  | nil => simp
  | cons name rest ih =>
    obtain ⟨hname, hrest⟩ := List.forall_mem_cons.1 hnames
    rw [List.foldl_cons]
    cases hfile : definitionIn d (joinPath l.path name) with
    | error fault =>
      have hput : putFrom d l name = l := by
        unfold putFrom
        rw [hfile]
      rw [hput, ih hordered hlist hrest]
      simp [hfile]
    | ok x =>
      have hx : S x := hname x hfile
      have hmem : ∀ y, y ∈ (l.put x).list ↔ y = x ∨ y ∈ l.list := by
        intro y
        refine (mem_insert hordered).trans (or_congr_right' fun hy => ?_)
        exact ⟨And.left, fun h => ⟨h, fun hid => hy (hS y x (hlist y h) hx hid)⟩⟩
      have hall : ∀ y ∈ (l.put x).list, S y := fun y hy =>
        ((hmem y).1 hy).elim (fun he => he ▸ hx) (hlist y)
      have ih : e ∈ (rest.foldl (putFrom d) (l.put x)).list ↔ e ∈ (l.put x).list ∨
          ∃ n ∈ rest, definitionIn d (joinPath l.path n) = .ok e :=
        ih (l := l.put x) (hordered.insert x) hall hrest
      rw [putFrom_of_ok hfile, ih, hmem]
      simp only [List.exists_mem_cons_iff, hfile, Except.ok.injEq]
      rw [or_assoc, or_left_comm, eq_comm (a := e)]

end Library

end UsageGrid
