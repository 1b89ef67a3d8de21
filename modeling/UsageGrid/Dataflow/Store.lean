import UsageGrid.Dataflow.Error

/-!
# The store

A store keeps one payload under each name, names in order. What is written last under a name is what
is found there (`find?_set`), and nothing else changes (`find?_set_of_ne`).
-/

namespace UsageGrid.Dataflow

/-- The payloads by their names. -/
abbrev Slots := List (String × Payload)

/-- Puts a payload at the place of its name, replacing one that is there. -/
def insertSlot (name : String) (p : Payload) : Slots → Slots
  | [] => [(name, p)]
  | (n, q) :: rest =>
    if name = n then (name, p) :: rest
    else if name < n then (name, p) :: (n, q) :: rest
    else (n, q) :: insertSlot name p rest

structure Store where
  slots : Slots := []

namespace Store

/-! ## 1. Operations -/

def find? (s : Store) (name : String) : Option Payload :=
  (s.slots.find? (·.1 == name)).map (·.2)

def set (s : Store) (a : Artifact) : Store := ⟨insertSlot a.name a.payload s.slots⟩

/-- Writes the artifacts in turn. -/
def setAll (s : Store) (artifacts : List Artifact) : Store := artifacts.foldl set s

def remove (s : Store) (name : String) : Store := ⟨s.slots.filter (·.1 != name)⟩

/-- The data of a kind under a name. -/
def get (s : Store) (k : Kind) (name : String) : Except DataflowError k.Data :=
  match s.find? name with
  | none => .error (.notFound name)
  | some p =>
    match p.as? k with
    | some d => .ok d
    | none => .error (.wrongKind name k p.kind)

/-- The artifacts of a kind, by their names. -/
def ofKind (s : Store) (k : Kind) : Slots := s.slots.filter (·.2.kind = k)

def names (s : Store) : List String := s.slots.map (·.1)

def size (s : Store) : Nat := s.slots.length

def isEmpty (s : Store) : Bool := s.slots.isEmpty

/-! ## 2. Laws -/

theorem find?_insertSlot (name : String) (p : Payload) (l : Slots) :
    (insertSlot name p l).find? (·.1 == name) = some (name, p) := by
  induction l with
  | nil => simp [insertSlot]
  | cons a l ih =>
    obtain ⟨n, q⟩ := a
    by_cases h : name = n
    · simp [insertSlot, h]
    · by_cases hlt : name < n
      · simp [insertSlot, h, hlt]
      · simp [insertSlot, h, hlt, Ne.symm h, ih]

theorem find?_insertSlot_of_ne {name other : String} (p : Payload) (l : Slots)
    (h : other ≠ name) :
    (insertSlot name p l).find? (·.1 == other) = l.find? (·.1 == other) := by
  induction l with
  | nil => simp [insertSlot, Ne.symm h]
  | cons a l ih =>
    obtain ⟨n, q⟩ := a
    by_cases hn : name = n
    · subst hn
      simp [insertSlot, Ne.symm h]
    · by_cases hlt : name < n
      · simp [insertSlot, hn, hlt, Ne.symm h]
      · simp [insertSlot, hn, hlt, List.find?_cons, ih]

/-- **The last write wins.** -/
theorem find?_set (s : Store) (a : Artifact) : (s.set a).find? a.name = some a.payload := by
  simp [find?, set, find?_insertSlot]

/-- Every other slot keeps what it holds. -/
theorem find?_set_of_ne (s : Store) (a : Artifact) {name : String} (h : name ≠ a.name) :
    (s.set a).find? name = s.find? name := by
  simp [find?, set, find?_insertSlot_of_ne _ _ h]

end Store

end UsageGrid.Dataflow
