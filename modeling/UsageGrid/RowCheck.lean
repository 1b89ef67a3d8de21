import UsageGrid.Decimal.Reader
import UsageGrid.Table

/-!
# Checking rows

A row that leaves the program is an object with a metric that is not empty, a date of the form
`YYYY-MM-DD`, and a number as its value; every other column holds text or null. `rowErrors` lists
what is wrong with a row, `Table.rowErrors` the rows of a table that something is wrong with.

A date that was passed through as it stood is no date, and this is where it shows.
-/

namespace UsageGrid

namespace RowCheck

/-- What can be wrong with a row. -/
inductive Issue where
  | notOfType (found : Json) (types : List String)
  | tooShort (found : Json) (least : Nat)
  | noMatch (found : Json) (pattern : String)
  | missing (field : String)

def quotedWord (s : String) : String := "\"" ++ s ++ "\""

def Issue.message : Issue → String
  | .notOfType found [type] => found.compact ++ " is not of type " ++ quotedWord type
  | .notOfType found types =>
    found.compact ++ " is not of types " ++ ", ".intercalate (types.map quotedWord)
  | .tooShort found least =>
    found.compact ++ " is shorter than " ++ toString least
      ++ (if least = 1 then " character" else " characters")
  | .noMatch found pattern => found.compact ++ " does not match " ++ quotedWord pattern
  | .missing field => quotedWord field ++ " is a required property"

/-- Four digits, two and two, apart by dashes. -/
def isDay (s : String) : Bool :=
  match s.toList with
  | [a, b, c, d, '-', e, f, '-', g, h] => [a, b, c, d, e, f, g, h].all Decimal.isDigit
  | _ => false

/-- The pattern that a day has, as messages show it. -/
def dayPattern : String := "^[0-9]\x7b4\x7d-[0-9]\x7b2\x7d-[0-9]\x7b2\x7d$"

def metricIssues : Json → List Issue
  | .string s => if s.isEmpty then [.tooShort (.string s) 1] else []
  | v => [.notOfType v ["string"]]

def dateIssues : Json → List Issue
  | .string s => if isDay s then [] else [.noMatch (.string s) dayPattern]
  | v => [.notOfType v ["string"]]

def valueIssues : Json → List Issue
  | .int _ | .float _ => []
  | v => [.notOfType v ["number"]]

/-- The issues of any other column. -/
def otherIssues : Json → List Issue
  | .string _ | .null => []
  | v => [.notOfType v ["null", "string"]]

def memberIssues (key : String) (v : Json) : List Issue :=
  if key = "metric" then metricIssues v
  else if key = "date" then dateIssues v
  else if key = "value" then valueIssues v
  else otherIssues v

def required : List String := ["metric", "date", "value"]

/-- The issues of an object: those of its members in turn, then what is missing. -/
def rowIssues (row : Row) : List Issue :=
  (row.flatMap fun (k, v) => memberIssues k v)
    ++ (required.filter fun k => (Json.lookup row k).isNone).map .missing

/-- The issues of any value that should be a row. -/
def issues : Json → List Issue
  | .object row => rowIssues row
  | v => [.notOfType v ["object"]]

end RowCheck

/-- What is wrong with a row. -/
def rowErrors (v : Json) : List String := (RowCheck.issues v).map RowCheck.Issue.message

/-- The rows that something is wrong with, by their numbers, counted from `i`. -/
def rowErrorsFrom (i : Nat) : List Row → List (Nat × List String)
  | [] => []
  | row :: rest =>
    match rowErrors (.object row) with
    | [] => rowErrorsFrom (i + 1) rest
    | errors => (i, errors) :: rowErrorsFrom (i + 1) rest

def Table.rowErrors (t : Table) : List (Nat × List String) := rowErrorsFrom 0 t.rows

end UsageGrid
