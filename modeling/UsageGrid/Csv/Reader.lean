/-!
# Reading delimited text

Records end at a line feed, a carriage return or both; fields at the delimiter. A field that begins
with a quote runs to the closing quote, a doubled quote inside stands for one; what follows the
closing quote still belongs to the field. Records may differ in length, and a line that is empty
altogether is no record.

The reader is a fold over the text: `Reading.step` is one symbol, `records` the whole.
-/

namespace UsageGrid.Csv

/-- The symbols that end fields and records. -/
structure Dialect (α : Type) where
  delimiter : α
  quote : α
  isLineEnd : α → Bool

/-- Where the next symbol stands. -/
inductive Place where
  | recordStart
  | fieldStart
  | bare
  | quoted
  | afterQuote
deriving Repr, DecidableEq

/-- What has been read, each list last first. -/
structure Reading (α : Type) where
  records : List (List (List α)) := []
  fields : List (List α) := []
  field : List α := []
  place : Place := .recordStart

namespace Reading

variable {α : Type} [DecidableEq α]

/-- The field is complete, another one follows. -/
def endField (r : Reading α) : Reading α :=
  { r with fields := r.field.reverse :: r.fields, field := [], place := .fieldStart }

/-- The field and the record are complete. -/
def endRecord (r : Reading α) : Reading α :=
  { records := (r.field.reverse :: r.fields).reverse :: r.records, fields := [], field := []
    place := .recordStart }

def push (r : Reading α) (a : α) (place : Place) : Reading α :=
  { r with field := a :: r.field, place }

/-- A symbol outside quotes. -/
def stepBare (d : Dialect α) (r : Reading α) (a : α) : Reading α :=
  if a = d.delimiter then r.endField
  else if d.isLineEnd a then r.endRecord
  else r.push a .bare

/-- The first symbol of a field. -/
def stepFieldStart (d : Dialect α) (r : Reading α) (a : α) : Reading α :=
  if a = d.quote then { r with place := .quoted } else r.stepBare d a

def step (d : Dialect α) (r : Reading α) (a : α) : Reading α :=
  match r.place with
  | .recordStart => if d.isLineEnd a then r else r.stepFieldStart d a
  | .fieldStart => r.stepFieldStart d a
  | .bare => r.stepBare d a
  | .quoted => if a = d.quote then { r with place := .afterQuote } else r.push a .quoted
  | .afterQuote => if a = d.quote then r.push a .quoted else r.stepBare d a

/-- The records at the end of the text; one that has begun is complete there. -/
def finish (r : Reading α) : List (List (List α)) :=
  match r.place with
  | .recordStart => r.records.reverse
  | _ => r.endRecord.records.reverse

end Reading

/-- The records of a text, each the list of its fields. -/
def records {α : Type} [DecidableEq α] (d : Dialect α) (text : List α) : List (List (List α)) :=
  (text.foldl (Reading.step d) {}).finish

/-- Text with a given delimiter and double quotes. -/
def textDialect (delimiter : Char) : Dialect Char where
  delimiter
  quote := Char.ofNat 0x22
  isLineEnd c := c == '\n' || c == '\r'

/-- The mark that may stand in front of a text and is no part of it. -/
def dropMark : List Char → List Char
  | c :: rest => if c.toNat = 0xFEFF then rest else c :: rest
  | [] => []

/-- The records of a text, a mark in front left out. -/
def readText (delimiter : Char) (text : List Char) : List (List (List Char)) :=
  records (textDialect delimiter) (dropMark text)

end UsageGrid.Csv
