import UsageGrid.Text.Blank
import UsageGrid.Text.Ranges
import UsageGrid.Decimal.Reader

/-!
# Numbers in value cells

A value cell holds a finite number. Commas may group the digits before the point by threes; in a
text that is not grouped so, blanks are passed over and a comma makes it no number.
-/

namespace UsageGrid.Extraction

/-- The text after a minus in front, if there is one. -/
def dropMinus : List Char → List Char
  | '-' :: rest => rest
  | cs => cs

/-- One to three digits. -/
def isHeadGroup (g : List Char) : Bool :=
  decide (1 ≤ g.length) && decide (g.length ≤ 3) && g.all Decimal.isDigit

/-- Three digits. -/
def isTailGroup (g : List Char) : Bool :=
  g.length == 3 && g.all Decimal.isDigit

/-- Digits before the point are grouped by commas, one comma at least. -/
def isGrouped (cs : List Char) : Bool :=
  match Text.splitOnChar ',' ((dropMinus cs).takeWhile (· != '.')) with
  | head :: next :: rest => isHeadGroup head && (next :: rest).all isTailGroup
  | _ => false

/-- The text that is read as a number. -/
def bareNumber (cs : List Char) : List Char :=
  if isGrouped cs then cs.filter (· != ',') else cs.filter fun c => !Text.isBlank c

/-- The number in a cell's text. -/
def parseNumber (text : String) : Option Binary64 :=
  Decimal.readChars? (bareNumber (Text.trimChars text.toList))

end UsageGrid.Extraction
