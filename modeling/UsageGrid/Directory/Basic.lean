import UsageGrid.Text.Ranges

/-!
# Directories

A directory with everything in it, as a value. A path is a text of names with slashes between them;
`.` and empty names stand for nothing, `..` leads back. A name is looked up in a folder that is
there: otherwise the path fails with the cause the file system has for it (`Directory.locate`).

* `read`, `names` and `isThere` look; `write`, `makeFolders` and `remove` change the directory, and
  fail without a change, except that `makeFolders` keeps the folders made before it fails.
* `find?_put` and `find?_erase` say what is found after a change.
-/

/-!
## Why a file cannot be used

The causes the file system reports, each with its text and number.
-/

namespace UsageGrid.Directory

inductive Cause where
  | notFound
  | exists
  | notDirectory
  | isDirectory
  | notEmpty
  | nameTooLong
  | notUtf8
  | nulInPath
  | other (text : String) (number : Nat)
deriving Repr, DecidableEq

def Cause.message : Cause → String
  | .notFound => "No such file or directory (os error 2)"
  | .exists => "File exists (os error 17)"
  | .notDirectory => "Not a directory (os error 20)"
  | .isDirectory => "Is a directory (os error 21)"
  | .notEmpty => "Directory not empty (os error 39)"
  | .nameTooLong => "File name too long (os error 36)"
  | .notUtf8 => "stream did not contain valid UTF-8"
  | .nulInPath => "file name contained an unexpected NUL byte"
  | .other text number => text ++ " (os error " ++ toString number ++ ")"

end UsageGrid.Directory

namespace UsageGrid

namespace Directory

inductive Entry where
  | file (content : ByteArray)
  | folder

/-- The names that lead to an entry, from the outside in. -/
abbrev Place := List String

end Directory

open Directory in
/-- A directory: what there is at each place. Nothing is kept for the directory itself. -/
structure Directory where
  entries : List (Place × Entry) := []

namespace Directory

/-! ## 1. Places -/

/-- What there is at a place; the directory itself is a folder. -/
def find? (d : Directory) : Place → Option Entry
  | [] => some .folder
  | p => d.entries.lookup p

def put (d : Directory) (p : Place) (e : Entry) : Directory :=
  ⟨(p, e) :: d.entries.filter fun (q, _) => q != p⟩

def erase (d : Directory) (p : Place) : Directory :=
  ⟨d.entries.filter fun (q, _) => q != p⟩

/-! ## 2. Paths -/

def nameLimit : Nat := 255
def pathLimit : Nat := 4095

/-- What stands between the slashes of a path. -/
def piecesOf (path : String) : List String :=
  (Text.splitOnChar '/' path.toList).map String.ofList

/-- A piece that stands for nothing. -/
def isIdle (piece : String) : Bool := piece == "" || piece == "."

/-- The names of a path. -/
def namesOf (path : String) : List String := (piecesOf path).filter fun n => !isIdle n

/-- The path asks for a folder. -/
def endsAsFolder (path : String) : Bool := (piecesOf path).getLast?.any isIdle

/-- A folder has to be at the place, or else a name in it cannot be looked up. -/
def needFolder (d : Directory) (p : Place) : Except Cause Unit :=
  match d.find? p with
  | some .folder => .ok ()
  | some (.file _) => .error .notDirectory
  | none => .error .notFound

/-- The place that names lead to from a place. -/
def walk (d : Directory) (p : Place) : List String → Except Cause Place
  | [] => .ok p
  | n :: rest => do
    d.needFolder p
    if n = ".." then
      if p.isEmpty then throw .notFound
      d.walk p.dropLast rest
    else if nameLimit < n.utf8ByteSize then throw .nameTooLong
    else d.walk (p ++ [n]) rest

/-- A path holds no NUL and is not too long. -/
def checkPath (path : String) : Except Cause Unit :=
  if path.toList.contains (Char.ofNat 0) then .error .nulInPath
  else if pathLimit < path.utf8ByteSize then .error .nameTooLong
  else .ok ()

/-- The place of a path in the directory. The entry itself need not be there. -/
def locate (d : Directory) (path : String) : Except Cause Place := do
  checkPath path
  if path = "" ∨ path.startsWith "/" then throw .notFound
  d.walk [] (namesOf path)

/-! ## 3. Looking -/

/-- The content of a file. -/
def read (d : Directory) (path : String) : Except Cause ByteArray := do
  let p ← d.locate path
  match d.find? p with
  | none => throw .notFound
  | some .folder => throw .isDirectory
  | some (.file content) => if endsAsFolder path then throw .notDirectory else pure content

/-- The last name of a place, if it is right inside a folder. -/
def nameIn (folder : Place) (p : Place) : Option String :=
  if p.dropLast = folder then p.getLast? else none

/-- The names in a folder, in order. -/
def names (d : Directory) (path : String) : Except Cause (List String) := do
  let p ← d.locate path
  d.needFolder p
  pure ((d.entries.filterMap fun (q, _) => nameIn p q).mergeSort fun a b => !(b < a))

def isThere (d : Directory) (path : String) : Bool :=
  match d.locate path with
  | .error _ => false
  | .ok p =>
    match d.find? p with
    | none => false
    | some .folder => true
    | some (.file _) => !endsAsFolder path

/-! ## 4. Changing -/

/-- Writes a file, whether there is one or not. -/
def write (d : Directory) (path : String) (content : ByteArray) : Except Cause Directory := do
  let p ← d.locate path
  match d.find? p with
  | some .folder => throw .isDirectory
  | some (.file _) => if endsAsFolder path then throw .notDirectory
  | none => if endsAsFolder path then throw .isDirectory
  pure (d.put p (.file content))

/-- Makes the folders that are missing on the way of the names. -/
def makeAlong (d : Directory) (p : Place) : List String → Directory × Except Cause Unit
  | [] => (d, .ok ())
  | n :: rest =>
    if n = ".." then
      if p.isEmpty then (d, .error .notFound) else d.makeAlong p.dropLast rest
    else if nameLimit < n.utf8ByteSize then (d, .error .nameTooLong)
    else
      match d.find? (p ++ [n]) with
      | some .folder => d.makeAlong (p ++ [n]) rest
      | some (.file _) => (d, .error (if rest.isEmpty then .exists else .notDirectory))
      | none => (d.put (p ++ [n]) .folder).makeAlong (p ++ [n]) rest

/-- Makes a folder and those around it, where they are missing. -/
def makeFolders (d : Directory) (path : String) : Directory × Except Cause Unit :=
  match checkPath path with
  | .error cause => (d, .error cause)
  | .ok () =>
    if path.startsWith "/" then (d, .error .notFound) else d.makeAlong [] (namesOf path)

/-- Removes a file. -/
def remove (d : Directory) (path : String) : Except Cause Directory := do
  let p ← d.locate path
  match d.find? p with
  | none => throw .notFound
  | some .folder => throw .isDirectory
  | some (.file _) => if endsAsFolder path then throw .notDirectory else pure (d.erase p)

/-! ## 5. Laws -/

theorem lookup_filter_ne {β : Type} (l : List (Place × β)) (p q : Place) (h : q ≠ p) :
    (l.filter fun (r, _) => r != p).lookup q = l.lookup q := by
  induction l with
  | nil => rfl
  | cons a l ih =>
    obtain ⟨r, e⟩ := a
    by_cases hr : r = p
    · subst hr
      have : (q == r) = false := by simpa using h
      simp [List.lookup_cons, this, ih]
    · by_cases hq : q = r <;> simp [hr, List.lookup_cons, ih, hq]

theorem lookup_filter_self {β : Type} (l : List (Place × β)) (p : Place) :
    (l.filter fun (r, _) => r != p).lookup p = none := by
  induction l with
  | nil => rfl
  | cons a l ih =>
    obtain ⟨r, e⟩ := a
    by_cases hr : r = p
    · simp [hr, ih]
    · have : (p == r) = false := by simpa using Ne.symm hr
      simp [hr, List.lookup_cons, this, ih]

/-- **What has been put is found.** -/
theorem find?_put (d : Directory) (p : Place) (e : Entry) (h : p ≠ []) :
    (d.put p e).find? p = some e := by
  cases p with
  | nil => exact absurd rfl h
  | cons n p => simp [find?, put]

/-- A change elsewhere does not show. -/
theorem find?_put_of_ne (d : Directory) {p q : Place} (e : Entry) (h : q ≠ p) :
    (d.put p e).find? q = d.find? q := by
  cases q with
  | nil => rfl
  | cons n q =>
    have : ((n :: q) == p) = false := by simpa using h
    simp [find?, put, List.lookup_cons, this, lookup_filter_ne _ _ _ h]

theorem find?_erase (d : Directory) (p : Place) (h : p ≠ []) : (d.erase p).find? p = none := by
  cases p with
  | nil => exact absurd rfl h
  | cons n p => simp [find?, erase, lookup_filter_self]

theorem find?_erase_of_ne (d : Directory) {p q : Place} (h : q ≠ p) :
    (d.erase p).find? q = d.find? q := by
  cases q with
  | nil => rfl
  | cons n q => simp [find?, erase, lookup_filter_ne _ _ _ h]

end Directory

end UsageGrid
