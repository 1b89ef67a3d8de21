import UsageGrid.Csv.Writer
import UsageGrid.Extraction.Filter
import UsageGrid.Json.Typed
import UsageGrid.Json.Writer

/-!
# Tables

The records of a document as a table: columns in a fixed order, and one row of named values per
record. A column that no record needs is left out. The table can be written as delimited text
(`Table.csv`) and is kept as JSON (`Table.toJson`, `Table.read`).
-/

namespace UsageGrid

structure Column where
  field : String
  header : String
deriving Repr, DecidableEq

/-- The values of a row, in the order of their fields. -/
abbrev Row := List (String × Json)

structure Table where
  columns : List Column
  rows : List Row

namespace Table

open Rules

/-! ## 1. From records -/

/-- A column whose header is its field. -/
def named (name : String) : Column := ⟨name, name⟩

/-- The names of dimensions in the order in which they first occur. -/
def dimensionNames (records : List Record) : List String :=
  (records.flatMap fun r => r.dimensions.map (·.1)).foldl
    (fun names n => if names.contains n then names else names ++ [n]) []

/-- The kinds of title identifiers that occur. -/
def titleIdKinds (records : List Record) : List TitleIdKind :=
  TitleIdKind.all.filter fun k => records.any fun r => r.titleIds.any fun (l, _) => l = k

def columnIf (needed : Bool) (c : Column) : List Column := if needed then [c] else []

def columnsOf (records : List Record) : List Column :=
  columnIf (records.any fun r => r.organization.isSome) ⟨"organization", "Organization"⟩
    ++ columnIf (records.any fun r => r.title.isSome) ⟨"title", "Title"⟩
    ++ (titleIdKinds records).map (fun k => named k.name)
    ++ (dimensionNames records).map named
    ++ [⟨"metric", "Metric"⟩, ⟨"date", "Date"⟩, ⟨"value", "Value"⟩]

/-- The least whole number that is kept floating. -/
def wholeBound : Int := 9000000000000000

/-- A value as it is written: whole where it is a whole number that is not too large. -/
def number (x : Binary64) : Json :=
  match x.toInt? with
  | some n => if n.natAbs < wholeBound then .int n else .float x
  | none => .float x

/-- The fields of a record, in the order of the columns. -/
def fieldsOf (r : Record) : List (String × Json) :=
  (r.organization.toList.map fun v => ("organization", .string v))
    ++ (r.title.toList.map fun v => ("title", .string v))
    ++ (r.titleIds.map fun (k, v) => (k.name, .string v))
    ++ (r.dimensions.map fun (n, v) => (n, .string v))
    ++ [("metric", .string r.metric), ("date", .string r.date), ("value", number r.value)]

def ofRecords (records : List Record) : Table :=
  ⟨columnsOf records, records.map fun r => Json.sortMembers (fieldsOf r)⟩

def isEmpty (t : Table) : Bool := t.rows.isEmpty

/-- The table that a document makes of a grid. -/
def ofGrid (d : Definition) (g : Grid) : Except ExtractionError Table :=
  (Extraction.execute d g).map ofRecords

/-! ## 2. Delimited text -/

/-- A value as it stands in a line. -/
def shownValue : Option Json → String
  | none | some .null => ""
  | some (.string s) => s
  | some v => v.compact

/-- The lines of the table: the headers, then a line for each row. -/
def lines (t : Table) : List (List String) :=
  t.columns.map (·.header)
    :: t.rows.map fun row => t.columns.map fun c => shownValue (Json.lookup row c.field)

/-- The table as delimited text. -/
def csv (t : Table) : String := Csv.write t.lines

/-! ## 3. JSON -/

def columnRecord : Json.Record :=
  ⟨"Column", [.of "field" Json.asString, .of "header" Json.asString]⟩

def readColumn : Json.Typed Column := fun v => do
  let values ← columnRecord.read v
  pure ⟨← values.get "field" Json.asString, ← values.get "header" Json.asString⟩

def tableRecord : Json.Record :=
  ⟨"NormalizedTable",
    [.of "columns" (Json.asList readColumn), .of "rows" (Json.asList Json.asMap)]⟩

/-- The table that a value holds. -/
def read : Json.Typed Table := fun v => do
  let values ← tableRecord.read v
  pure ⟨← values.get "columns" (Json.asList readColumn),
    ← values.get "rows" (Json.asList Json.asMap)⟩

def columnToJson (c : Column) : Json :=
  .object [("field", .string c.field), ("header", .string c.header)]

def toJson (t : Table) : Json :=
  .object [("columns", .array (t.columns.map columnToJson)),
    ("rows", .array (t.rows.map Json.object))]

end Table

end UsageGrid
