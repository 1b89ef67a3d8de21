import UsageGrid.Text.Age
import UsageGrid.Text.Segment

/-!
# Named classes of characters

The classes that a pattern may name: ASCII classes such as `alpha`, and the properties of Unicode.

* `asciiClasses` has the classes that stand between `[:` and `:]`;
* `ofProperty?` finds a property, a category or a script by its name alone;
* `ofPropertyValue?` finds the characters for which a property has a value.
-/

namespace UsageGrid.Pattern

open UsageGrid.Text

/-! ## 1. ASCII -/

def asciiDigit : Ranges := Ranges.ofLines ["30-39"]

def asciiWord : Ranges := Ranges.ofLines ["30-39 41-5A 5F 61-7A"]

def asciiSpace : Ranges := Ranges.ofLines ["9-D 20"]

/-- The classes of ASCII characters by their names, which are written exactly. -/
def asciiClasses : List (String × Ranges) :=
  [("alnum", Ranges.ofLines ["30-39 41-5A 61-7A"]),
    ("alpha", Ranges.ofLines ["41-5A 61-7A"]),
    ("ascii", Ranges.ascii),
    ("blank", Ranges.ofLines ["9 20"]),
    ("cntrl", Ranges.ofLines ["0-1F 7F"]),
    ("digit", asciiDigit),
    ("graph", Ranges.ofLines ["21-7E"]),
    ("lower", Ranges.ofLines ["61-7A"]),
    ("print", Ranges.ofLines ["20-7E"]),
    ("punct", Ranges.ofLines ["21-2F 3A-40 5B-60 7B-7E"]),
    ("space", asciiSpace),
    ("upper", Ranges.ofLines ["41-5A"]),
    ("word", asciiWord),
    ("xdigit", Ranges.ofLines ["30-39 41-46 61-66"])]

/-- The other case of an ASCII letter. -/
def otherCase (n : Nat) : Nat :=
  if 0x41 ≤ n ∧ n ≤ 0x5A then n + 0x20 else n - 0x20

/-- A set with both cases of its ASCII letters. -/
def foldedAscii (a : Ranges) : Ranges :=
  let letters := (List.range 0x80).filter fun n =>
    (Char.ofNat n).isAlpha && Ranges.reach n a.items
  a.union (Ranges.ofPairs (letters.map fun n => (otherCase n, otherCase n)))

/-! ## 2. Properties -/

/-- The characters that a name alone stands for. -/
def ofProperty? (name : List Char) : Option Ranges :=
  NamedSet.find? properties name
    <|> NamedSet.find? categories name
    <|> NamedSet.find? scripts name

/-- The properties with values, by their loose names. -/
def valued : List (List String × List NamedSet) :=
  [(["gc", "generalcategory"], categories),
    (["sc", "script"], scripts),
    (["scx", "scriptextensions"], scriptExtensions),
    (["age"], ages),
    (["gcb", "graphemeclusterbreak"], graphemeClasses),
    (["wb", "wordbreak"], wordClasses),
    (["sb", "sentencebreak"], sentenceClasses)]

/-- The characters for which a property has a value. -/
def ofPropertyValue? (property value : List Char) : Option Ranges := do
  let loose := String.ofList (looseName property)
  let (_, table) ← valued.find? fun (names, _) => names.contains loose
  NamedSet.find? table value

/-- What stands between the braces of a property. A sign of inequality is looked for first; it means
    what the sign of equality does. -/
def ofPropertyText? (text : List Char) : Option Ranges :=
  match splitAt? ['!', '='] text <|> splitAt? [':'] text <|> splitAt? ['='] text with
  | some (property, value) => ofPropertyValue? property value
  | none => ofProperty? text
where
  /-- What stands before and after the first occurrence of a mark. -/
  splitAt? (mark : List Char) : List Char → Option (List Char × List Char)
    | [] => none
    | c :: rest =>
      if mark.isPrefixOf (c :: rest) then some ([], (c :: rest).drop mark.length)
      else (splitAt? mark rest).map fun (before, after) => (c :: before, after)

end UsageGrid.Pattern
