import UsageGrid.Host.Basic
import UsageGrid.Library.Stored
import UsageGrid.Text.Letters

/-!
# The library

A library keeps definitions in a directory, one file each, and in memory. Opening it reads every
file that can be read; saving, importing, using and deleting change both.

* `Library.list` are the definitions in the order of their ids;
* `Library.servingOf` are those that serve a platform, the most promising first.
-/

/-!
## Ids of stored definitions

An id is made of the name of the definition, in lower case and with a hyphen for everything that is
no letter or digit, and of a stamp. If that is taken, a number from two on is added.
-/

namespace UsageGrid.Library

/-- The letters and digits of a text in runs. `run` is the one being read, last first. -/
def runsFrom (run : List Char) : List Char → List (List Char)
  | [] => if run.isEmpty then [] else [run.reverse]
  | c :: rest =>
    if Text.isAlphanumeric c then runsFrom (c :: run) rest
    else if run.isEmpty then runsFrom [] rest
    else run.reverse :: runsFrom [] rest

/-- A name as it stands in an id. -/
def slug (name : String) : String :=
  match runsFrom [] (Text.lower name).toList with
  | [] => "definition"
  | runs => "-".intercalate (runs.map String.ofList)

/-- The ids that are tried one after the other. -/
def candidate (base : String) : Nat → String
  | 0 => base
  | n + 1 => base ++ "-" ++ toString (n + 2)

/-- The first candidate that is not taken. Among one more candidates than there are taken ids, one
    is free. -/
def freeId (taken : List String) (base : String) : String :=
  let ids := (List.range (taken.length + 1)).map (candidate base)
  (ids.find? fun id => !taken.contains id).getD base

end UsageGrid.Library

namespace UsageGrid

inductive LibraryError where
  | notFound (id : String)
  | malformed (e : RuleError)
  | file (cause : Directory.Cause)
  | unreadable (fault : Json.Fault)

def LibraryError.message : LibraryError → String
  | .notFound id => "Definition not found: " ++ id
  | .malformed e => "Invalid definition: " ++ e.message
  | .file cause => "Registry IO error: " ++ cause.message
  | .unreadable fault => "Registry JSON error: " ++ fault.message

/-- A directory, and the definitions in the order of their ids. -/
structure Library where
  path : String
  list : List StoredDefinition := []

namespace Library

/-! ## 1. In memory -/

/-- Puts a definition at the place of its id, replacing one that is there. -/
def insert (d : StoredDefinition) : List StoredDefinition → List StoredDefinition
  | [] => [d]
  | e :: rest =>
    if d.id = e.id then d :: rest
    else if d.id < e.id then d :: e :: rest
    else e :: insert d rest

def put (l : Library) (d : StoredDefinition) : Library := { l with list := insert d l.list }

def erase (l : Library) (id : String) : Library := { l with list := l.list.filter (·.id != id) }

def get (l : Library) (id : String) : Except LibraryError StoredDefinition :=
  match l.list.find? (·.id == id) with
  | some d => .ok d
  | none => .error (.notFound id)

/-- The definitions that serve a platform, in the order in which they are tried. -/
def servingOf (l : Library) (platform : String) : List StoredDefinition :=
  (l.list.filter (·.serves platform)).mergeSort StoredDefinition.comesBefore

def ids (l : Library) : List String := l.list.map (·.id)

/-! ## 2. Files -/

/-- The path of a name in a directory. A path from the root stays as it is. -/
def joinPath (directory name : String) : String :=
  if name.startsWith "/" || directory = "" then name
  else if directory.endsWith "/" then directory ++ name
  else directory ++ "/" ++ name

def extension : String := ".json"

def pathOf (l : Library) (id : String) : String := joinPath l.path (id ++ extension)

/-- A file of this name holds a definition. -/
def holdsDefinition (name : String) : Bool := name.endsWith extension && name != extension

section

variable {m : Type → Type} [Monad m] [Host.Files m]

/-- The definition in a file. -/
def readFile (path : String) : m (Except LibraryError StoredDefinition) := do
  match ← Host.readText path with
  | .error cause => pure (.error (.file cause))
  | .ok text => pure ((StoredDefinition.ofText text).mapError .unreadable)

/-- Reads the files in turn; one that cannot be read is passed over. -/
def readFiles [Host.Journal m] (l : Library) : List String → m Library
  | [] => pure l
  | name :: rest => do
    let path := joinPath l.path name
    match ← readFile path with
    | .ok d => readFiles (l.put d) rest
    | .error e => do
      Host.warning ("Skipping " ++ path ++ ": " ++ e.message)
      readFiles l rest

/-- The library in a directory. A directory that cannot be read is empty. -/
def openAt [Host.Journal m] (path : String) : m Library := do
  match ← Host.Files.names path with
  | .error _ => pure { path }
  | .ok names => readFiles { path } (names.filter holdsDefinition)

def write (l : Library) (d : StoredDefinition) : m (Except LibraryError Unit) := do
  pure ((← Host.writeText (l.pathOf d.id) d.toText).mapError .file)

/-! ## 3. Changes -/

/-- The ids that cannot be given out: those in use and those that have a file. -/
def takenIds (l : Library) : m (List String) := do
  match ← Host.Files.names l.path with
  | .error _ => pure l.ids
  | .ok names =>
    pure (l.ids ++ (names.filter (·.endsWith extension)).map fun n =>
      (n.dropEnd extension.length).toString)

variable [Host.Clock m]

/-- Stores a definition under a new id. -/
def save (l : Library) (d : Definition) (platforms : List String) :
    m (Except LibraryError String × Library) := do
  match ← Host.Files.makeFolders l.path with
  | .error cause => pure (.error (.file cause), l)
  | .ok () => do
    let stamp ← Host.Clock.stamp
    let id := freeId (← l.takenIds) (slug d.name ++ "-" ++ stamp)
    let stored := StoredDefinition.fresh id d platforms (← Host.Clock.time)
    match ← l.write stored with
    | .error e => pure (.error e, l)
    | .ok () => pure (.ok id, l.put stored)

/-- Stores the rule document in a file. -/
def importFile (l : Library) (path : String) (platforms : List String) :
    m (Except LibraryError String × Library) := do
  match ← Host.readText path with
  | .error cause => pure (.error (.file cause), l)
  | .ok text =>
    match Definition.ofText text with
    | .error e => pure (.error (.malformed e), l)
    | .ok d => l.save d platforms

/-- Counts a use. Memory changes first, the file after it. -/
def use (l : Library) (id : String) (success : Bool) :
    m (Except LibraryError Unit × Library) := do
  match l.get id with
  | .error e => pure (.error e, l)
  | .ok d => do
    let d := d.used success (← Host.Clock.time)
    pure (← l.write d, l.put d)

/-- Deletes a definition, from memory first and then its file. -/
def delete (l : Library) (id : String) : m (Except LibraryError Unit × Library) := do
  match l.get id with
  | .error e => pure (.error e, l)
  | .ok _ => do
    let outcome ← Host.Files.remove (l.pathOf id)
    pure (outcome.mapError .file, l.erase id)

end

end Library

end UsageGrid
