import UsageGrid.Csv.Reader
import UsageGrid.Encoding.Utf8

/-!
# Delimited bytes

A delimiter that is no ASCII character can cut a character in two. Text is then split as bytes, and
each field must decode by itself; the first that does not is reported with the place where its
record begins.
-/

namespace UsageGrid.Csv

/-- A field that is no text: the record and its first line and byte, the field, and the bytes of
    the field that still decode. -/
structure BrokenField where
  record : Nat
  line : Nat
  byte : Nat
  field : Nat
  intact : Nat
deriving Repr, DecidableEq

def BrokenField.message (b : BrokenField) : String :=
  "CSV parse error: record " ++ toString b.record ++ " (line " ++ toString b.line ++ ", field: "
    ++ toString b.field ++ ", byte: " ++ toString b.byte
    ++ "): invalid utf-8: invalid UTF-8 in field " ++ toString b.field
    ++ " near byte index " ++ toString b.intact

def byteDialect (delimiter : UInt8) : Dialect UInt8 where
  delimiter
  quote := 0x22
  isLineEnd b := b == 10 || b == 13

/-- A reading with the places, byte and line, at which the records begin, last first. -/
structure Traced where
  reading : Reading UInt8 := {}
  byte : Nat := 0
  line : Nat := 1
  begun : Nat × Nat := (0, 1)
  starts : List (Nat × Nat) := []

def Traced.step (d : Dialect UInt8) (t : Traced) (b : UInt8) : Traced :=
  let reading := t.reading.step d b
  let byte := t.byte + 1
  let line := if b = 10 then t.line + 1 else t.line
  if t.reading.place ≠ .recordStart ∧ reading.place = .recordStart then
    { reading, byte, line, begun := (byte, line), starts := t.begun :: t.starts }
  else { t with reading, byte, line }

/-- The bytes of the pieces before the first fault. -/
def intactBytes (pieces : List Encoding.Piece) : Nat :=
  (pieces.takeWhile Option.isSome).foldl (fun n p => n + (p.map Char.utf8Size).getD 0) 0

/-- The texts of the fields of a record, counted from `i`. -/
def decodeFields (record : Nat) (start : Nat × Nat) (i : Nat) :
    List (List UInt8) → Except BrokenField (List (List Char))
  | [] => .ok []
  | f :: rest => do
    let pieces := Encoding.Utf8.decode f
    match Encoding.exactly? pieces with
    | none => throw ⟨record, start.2, start.1, i, intactBytes pieces⟩
    | some cs =>
      let fields ← decodeFields record start (i + 1) rest
      pure (cs :: fields)

/-- The texts of the records, counted from `i`. -/
def decodeRecords (i : Nat) :
    List (List (List UInt8) × (Nat × Nat)) → Except BrokenField (List (List (List Char)))
  | [] => .ok []
  | (fields, start) :: rest => do
    let fields ← decodeFields i start 0 fields
    let records ← decodeRecords (i + 1) rest
    pure (fields :: records)

/-- The records of a text that is split at a byte. Places count the mark in front, which the first
    record begins with. -/
def readBytes (delimiter : UInt8) (text : List Char) :
    Except BrokenField (List (List (List Char))) :=
  let body := dropMark text
  let byte := if body.length < text.length then Encoding.Utf8.mark.length else 0
  let t := (Encoding.Utf8.encode body).foldl (Traced.step (byteDialect delimiter)) { byte }
  decodeRecords 0 (t.reading.finish.zip (t.begun :: t.starts).reverse)

end UsageGrid.Csv
