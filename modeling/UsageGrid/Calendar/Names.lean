import UsageGrid.Calendar.Date

/-!
# Names of months and weekdays

A name is three letters and the rest of them. A name is read in any mixture of capitals and small
letters, and where long names are read a short one will do.
-/

namespace UsageGrid.Calendar

/-- A name: its first three letters, and the others. -/
structure Name where
  short : String
  rest : String
deriving Repr, DecidableEq

def Name.long (n : Name) : String := n.short ++ n.rest

/-- The months, January first. -/
def monthNames : List Name :=
  [⟨"Jan", "uary"⟩, ⟨"Feb", "ruary"⟩, ⟨"Mar", "ch"⟩, ⟨"Apr", "il"⟩, ⟨"May", ""⟩, ⟨"Jun", "e"⟩,
    ⟨"Jul", "y"⟩, ⟨"Aug", "ust"⟩, ⟨"Sep", "tember"⟩, ⟨"Oct", "ober"⟩, ⟨"Nov", "ember"⟩,
    ⟨"Dec", "ember"⟩]

/-- The weekdays, Monday first. -/
def weekdayNames : List Name :=
  [⟨"Mon", "day"⟩, ⟨"Tue", "sday"⟩, ⟨"Wed", "nesday"⟩, ⟨"Thu", "rsday"⟩, ⟨"Fri", "day"⟩,
    ⟨"Sat", "urday"⟩, ⟨"Sun", "day"⟩]

/-- What follows a word at the start of a text, whatever the case of its ASCII letters. -/
def dropWord? : List Char → List Char → Option (List Char)
  | [], cs => some cs
  | _ :: _, [] => none
  | w :: ws, c :: cs => if w.toLower = c.toLower then dropWord? ws cs else none

/-- The place of the first name that the text begins with, and the text after its three letters. -/
def readShort? (names : List Name) (cs : List Char) : Option (Nat × Name × List Char) :=
  names.zipIdx.findSome? fun (n, i) => (dropWord? n.short.toList cs).map fun rest => (i, n, rest)

/-- The place of a name and the text after it; of a long name as much as is there. -/
def readName? (names : List Name) (long : Bool) (cs : List Char) : Option (Nat × List Char) :=
  (readShort? names cs).map fun (i, n, rest) =>
    if long then (i, (dropWord? n.rest.toList rest).getD rest) else (i, rest)

/-- The month of a name that is the whole text. -/
def monthOfName? (cs : List Char) : Option Nat :=
  match readName? monthNames true cs with
  | some (i, []) => some (i + 1)
  | _ => none

end UsageGrid.Calendar
