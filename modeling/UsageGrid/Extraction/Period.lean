import UsageGrid.Calendar.Reader
import UsageGrid.Calendar.Writer
import UsageGrid.Text.Find

/-!
# Periods

Usage is counted by the month. A text names a month either whole, or by its year and its month
apart; the result is the first day of the month, written `YYYY-MM-01`.

A format need not say everything. What it leaves out is filled in (`completed`): the day with the
first of the month, and for a part of a date the month with January and the year with 2000.
-/

namespace UsageGrid.Extraction

open UsageGrid.Calendar

/-- Why a text is no period. -/
inductive PeriodError where
  | noYear (pattern : String)
  | mismatch (pattern : String)
  | notADate
  | notAYear
  | notAMonth
  | monthOutOfRange (month : Nat)
deriving Repr, DecidableEq

def PeriodError.message : PeriodError → String
  | .noYear pattern => "date_pattern '" ++ pattern ++ "' carries no year"
  | .mismatch pattern => "does not match date_pattern '" ++ pattern ++ "'"
  | .notADate => "not a recognizable date"
  | .notAYear => "not a year"
  | .notAMonth => "not a month"
  | .monthOutOfRange month => "month " ++ toString month ++ " out of range"

/-! ## 1. Formats that leave something out -/

/-- One of several specifiers occurs in a pattern. -/
def mentions (pattern : String) (specifiers : List String) : Bool :=
  specifiers.any fun s => Text.occursIn s pattern

def mentionsYear (pattern : String) : Bool := mentions pattern ["%Y", "%y", "%G", "%C"]
def mentionsMonth (pattern : String) : Bool := mentions pattern ["%m", "%b", "%B", "%h"]
def mentionsDay (pattern : String) : Bool := mentions pattern ["%d", "%e"]

/-- Adds to a text and its pattern a part that the pattern does not mention. -/
def fillIn (mentioned : String → Bool) (value specifier : String) (tp : String × String) :
    String × String :=
  if mentioned tp.2 then tp else (tp.1 ++ value, tp.2 ++ specifier)

/-- The text and the pattern with all parts of a date. -/
def completed (text pattern : String) : String × String :=
  fillIn mentionsDay " 01" " %d"
    (fillIn mentionsMonth " 01" " %m" (fillIn mentionsYear " 2000" " %Y" (text, pattern)))

/-- The date of a text, what the pattern leaves out filled in. -/
def readPartial? (text pattern : String) : Option Date := do
  let (text, pattern) := completed (Text.trim text) pattern
  (← Format.ofText? pattern).readDate? text.toList

/-! ## 2. Whole periods -/

/-- The patterns tried in turn where none is given. -/
def defaultPatterns : List String :=
  ["%Y-%m-%d", "%Y/%m/%d", "%d.%m.%Y", "%d/%m/%Y", "%Y-%m", "%Y/%m", "%m/%Y", "%m-%Y", "%b-%y",
    "%b-%Y", "%b %y", "%b %Y", "%Y %b", "%Y-%b", "%B-%y", "%B-%Y", "%B %y", "%B %Y", "%Y %B",
    "%Y-%B"]

/-- A number filled up with zeros in front, behind the sign if there is one. -/
def zeroFilled (width : Nat) (n : Int) : String :=
  let sign := if n < 0 then ['-'] else []
  String.ofList (sign ++ Writer.fill '0' (width - sign.length) (Nat.toDigits 10 n.natAbs))

/-- The first day of a month. -/
def monthStart (year month : Int) : String :=
  zeroFilled 4 year ++ "-" ++ zeroFilled 2 month ++ "-01"

def startOf (d : Date) : String := monthStart d.year d.month

/-- The month that a text names. -/
def parsePeriod (text : String) (pattern : Option String) : Except PeriodError String :=
  match pattern with
  | some p =>
    if !mentionsYear p then .error (.noYear p)
    else match readPartial? text p with
      | some d => .ok (startOf d)
      | none => .error (.mismatch p)
  | none =>
    match defaultPatterns.findSome? (readPartial? text) with
    | some d => .ok (startOf d)
    | none => .error .notADate

/-! ## 3. Years and months apart -/

/-- The text without a final `.0`. -/
def dropPointZero (cs : List Char) : List Char := (Text.dropEnd? ['.', '0'] cs).getD cs

/-- A year in four digits, or in two of the years from 2000 on. -/
def plainYear? (cs : List Char) : Option Int :=
  let ds := dropPointZero cs
  if !ds.all Decimal.isDigit then none
  else if ds.length = 4 then some (Decimal.natOfDigits ds)
  else if ds.length = 2 then some (2000 + Decimal.natOfDigits ds)
  else none

/-- The year that a text names. -/
def parseYear (text : String) (pattern : Option String) : Except PeriodError Int :=
  match pattern with
  | some p =>
    match readPartial? text p with
    | some d => .ok d.year
    | none => .error (.mismatch p)
  | none =>
    match plainYear? (Text.trimChars text.toList) with
    | some y => .ok y
    | none => .error .notAYear

/-- A whole number below `2 ^ 32`, which may have a plus sign. -/
def plainCount? (cs : List Char) : Option Nat :=
  let ds := match cs with
    | '+' :: rest => rest
    | _ => cs
  let n := Decimal.natOfDigits ds
  if ds ≠ [] ∧ ds.all Decimal.isDigit ∧ n < Nat.pow 2 32 then some n else none

/-- A month by its number or its English name. -/
def plainMonth (cs : List Char) : Except PeriodError Nat :=
  match plainCount? (dropPointZero cs) with
  | some m => if 1 ≤ m ∧ m ≤ 12 then .ok m else .error (.monthOutOfRange m)
  | none =>
    match monthOfName? cs with
    | some m => .ok m
    | none => .error .notAMonth

/-- The month that a text names, its year aside. -/
def parseMonth (text : String) (pattern : Option String) : Except PeriodError Nat :=
  match pattern with
  | some p =>
    match readPartial? text p with
    | some d => .ok d.month
    | none => .error (.mismatch p)
  | none => plainMonth (Text.trimChars text.toList)

/-- The period of a year and a month. Two parts that are none are joined as they are. -/
def combine (year month : String) : String :=
  match parseYear year none, parseMonth month none with
  | .ok y, .ok m => monthStart y m
  | _, _ => year ++ "-" ++ month

end UsageGrid.Extraction
