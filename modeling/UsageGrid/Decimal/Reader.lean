import UsageGrid.Decimal.Binary64

/-!
# Reading a decimal

The grammar of a number in a cell: an optional sign, digits with at most one point and at least one
digit, and an optional exponent. The number read is the binary64 number nearest to the decimal;
what names an infinity or no number, or lies past the largest number, is not read.
-/

namespace UsageGrid.Decimal

/-- The value of a decimal digit. -/
def digitValue (c : Char) : Nat := c.toNat - 48

/-- ASCII digits alone. -/
def isDigit (c : Char) : Bool := '0' ≤ c && c ≤ '9'

/-- The number a list of digits stands for. -/
def natOfDigits (cs : List Char) : Nat :=
  cs.foldl (fun n c => 10 * n + digitValue c) 0

/-- A sign in front, and the text after it. -/
def splitSign : List Char → Bool × List Char
  | '-' :: rest => (true, rest)
  | '+' :: rest => (false, rest)
  | cs => (false, cs)

/-- The exponent after the digits, zero if there is no text. -/
def exponent? : List Char → Option Int
  | [] => some 0
  | c :: rest =>
    if c = 'e' ∨ c = 'E' then
      let (negative, digits) := splitSign rest
      if digits ≠ [] ∧ digits.all isDigit then
        some (if negative then -(natOfDigits digits : Int) else natOfDigits digits)
      else none
    else none

/-- The number a text stands for, if it follows the grammar and is finite. -/
def readChars? (cs : List Char) : Option Binary64 := do
  let (negative, body) := splitSign cs
  let whole := body.takeWhile isDigit
  let (fraction, rest) := match body.dropWhile isDigit with
    | '.' :: rest => (rest.takeWhile isDigit, rest.dropWhile isDigit)
    | rest => ([], rest)
  guard (whole ≠ [] ∨ fraction ≠ [])
  let e ← exponent? rest
  Binary64.ofDecimal? negative (natOfDigits (whole ++ fraction)) (e - fraction.length)

/-- The number a text stands for, as `readChars?`. -/
def read? (s : String) : Option Binary64 :=
  readChars? s.toList

end UsageGrid.Decimal
