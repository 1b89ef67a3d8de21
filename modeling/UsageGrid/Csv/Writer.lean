/-!
# Writing delimited text

A record is a line, its fields apart by commas. A field is quoted where it holds a comma, a quote or
a line end; a quote inside is written twice. A record whose text would be nothing at all is written
as an empty quoted field, so that its line is still a record.
-/

namespace UsageGrid.Csv

def isSpecial (c : Char) : Bool :=
  c == ',' || c.toNat == 0x22 || c == '\n' || c == '\r'

/-- Quotes doubled. -/
def doubled (field : List Char) : List Char :=
  field.flatMap fun c => if c.toNat = 0x22 then [c, c] else [c]

def writeField (field : List Char) : List Char :=
  if field.any isSpecial then Char.ofNat 0x22 :: doubled field ++ [Char.ofNat 0x22] else field

/-- Fields with commas between them. -/
def commaSeparated : List (List Char) → List Char
  | [] => []
  | [f] => writeField f
  | f :: rest => writeField f ++ ',' :: commaSeparated rest

def writeRecord (fields : List (List Char)) : List Char :=
  match commaSeparated fields with
  | [] => [Char.ofNat 0x22, Char.ofNat 0x22, '\n']
  | line => line ++ ['\n']

/-- The records, a line each. -/
def write (records : List (List String)) : String :=
  String.ofList (records.flatMap fun r => writeRecord (r.map String.toList))

end UsageGrid.Csv
