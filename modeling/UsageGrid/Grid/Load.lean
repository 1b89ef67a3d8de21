import UsageGrid.Grid.Basic
import UsageGrid.Csv.Reader
import UsageGrid.Csv.Bytes
import UsageGrid.Csv.Delimiter
import UsageGrid.Encoding.Charset
import UsageGrid.Directory.Basic

/-!
# Loading a grid

A file becomes a grid in three steps, each guessed from the file itself: the encoding of its bytes,
the delimiter of its text, and the records of the text, one row each. Blank rows at the end are cut;
what is left must hold a cell.
-/

namespace UsageGrid

inductive GridError where
  | unreadable (cause : Directory.Cause)
  | undecodable (encoding : String)
  | broken (field : Csv.BrokenField)
  | empty
deriving Repr, DecidableEq

def GridError.message : GridError → String
  | .unreadable cause => "Failed to read file: " ++ cause.message
  | .undecodable encoding => "Failed to decode content: nothing decodable as " ++ encoding
  | .broken field => "Invalid CSV content: " ++ field.message
  | .empty => "Grid is empty"

namespace Grid

/-- The grid of records, one row each. -/
def ofRecords (records : List (List (List Char))) : Except GridError Grid :=
  let rows := records.map (·.map fun f => Cell.ofText (String.ofList f))
  let g := (ofRows rows).dropTrailingBlankRows
  if g.isEmpty then .error .empty else .ok g

/-- The grid of delimited text. -/
def ofText (text : List Char) (delimiter : Char) : Except GridError Grid :=
  ofRecords (Csv.readText delimiter text)

/-- The grid of text that is delimited by a byte. A byte below 0x80 is a character. -/
def ofTextAtByte (text : List Char) (delimiter : UInt8) : Except GridError Grid :=
  if delimiter < 0x80 then ofText text (Char.ofNat delimiter.toNat)
  else match Csv.readBytes delimiter text with
    | .ok records => ofRecords records
    | .error field => .error (.broken field)

/-- The text of a file in a named encoding. -/
def decodeText (encoding : String) (bytes : List UInt8) : Except GridError (List Char) :=
  match Encoding.decode encoding bytes with
  | some text => .ok text
  | none => .error (.undecodable encoding)

/-- The grid of a file's bytes. -/
def ofBytes (bytes : List UInt8) : Except GridError Grid := do
  let text ← decodeText (Encoding.detect bytes) bytes
  ofText text (Csv.detectDelimiter text)

end Grid

end UsageGrid
