import UsageGrid.Json.Basic
import UsageGrid.Decimal.Layout

/-!
# Writing JSON

Two written forms of a value, members in the order they have:

* `Json.compact` without any space;
* `Json.pretty` with two spaces of indent per level, an empty array or object closed at once.

Inside a string the quote, the backslash and the controls below U+0020 are escaped, nothing else.
-/

namespace UsageGrid.Json

/-! ## 1. Scalars -/

/-- Four lower-case hexadecimal digits of a control character. -/
def controlEscape (c : Char) : List Char :=
  let n := c.toNat
  ['\\', 'u', '0', '0', Nat.digitChar (n / 16), Nat.digitChar (n % 16)]

def escapeChar (c : Char) : List Char :=
  if c.toNat = 0x22 then ['\\', c]
  else if c = '\\' then ['\\', '\\']
  else if c.toNat = 8 then ['\\', 'b']
  else if c.toNat = 12 then ['\\', 'f']
  else if c = '\n' then ['\\', 'n']
  else if c = '\r' then ['\\', 'r']
  else if c = '\t' then ['\\', 't']
  else if c.toNat < 0x20 then controlEscape c
  else [c]

def quote : Char := Char.ofNat 0x22
def openBrace : Char := Char.ofNat 0x7B
def closeBrace : Char := Char.ofNat 0x7D

def writeString (s : String) : List Char :=
  quote :: s.toList.flatMap escapeChar ++ [quote]

/-! ## 2. The compact form -/

mutual

def compactChars : Json → List Char
  | .null => ['n', 'u', 'l', 'l']
  | .bool true => ['t', 'r', 'u', 'e']
  | .bool false => ['f', 'a', 'l', 's', 'e']
  | .int n => (toString n).toList
  | .float x => (Decimal.Layout.json.render x).toList
  | .string s => writeString s
  | .array items => '[' :: compactItems items ++ [']']
  | .object members => openBrace :: compactMembers members ++ [closeBrace]

def compactItems : List Json → List Char
  | [] => []
  | [v] => compactChars v
  | v :: rest => compactChars v ++ ',' :: compactItems rest

def compactMembers : List (String × Json) → List Char
  | [] => []
  | [(k, v)] => writeString k ++ ':' :: compactChars v
  | (k, v) :: rest => writeString k ++ ':' :: compactChars v ++ ',' :: compactMembers rest

end

/-- The value on one line, without spaces. -/
def compact (v : Json) : String :=
  String.ofList (compactChars v)

/-! ## 3. The indented form -/

/-- A line break and the indent of a level. -/
def newline (level : Nat) : List Char :=
  '\n' :: List.replicate (2 * level) ' '

mutual

def prettyChars (level : Nat) : Json → List Char
  | .array [] => ['[', ']']
  | .array items =>
    '[' :: newline (level + 1) ++ prettyItems (level + 1) items ++ newline level ++ [']']
  | .object [] => [openBrace, closeBrace]
  | .object members =>
    openBrace :: newline (level + 1) ++ prettyMembers (level + 1) members
      ++ newline level ++ [closeBrace]
  | .null => compactChars .null
  | .bool b => compactChars (.bool b)
  | .int n => compactChars (.int n)
  | .float x => compactChars (.float x)
  | .string s => compactChars (.string s)

def prettyItems (level : Nat) : List Json → List Char
  | [] => []
  | [v] => prettyChars level v
  | v :: rest => prettyChars level v ++ ',' :: newline level ++ prettyItems level rest

def prettyMembers (level : Nat) : List (String × Json) → List Char
  | [] => []
  | [(k, v)] => writeString k ++ ':' :: ' ' :: prettyChars level v
  | (k, v) :: rest =>
    writeString k ++ ':' :: ' ' :: prettyChars level v ++ ',' :: newline level
      ++ prettyMembers level rest

end

/-- The value on several lines, two spaces per level. -/
def pretty (v : Json) : String :=
  String.ofList (prettyChars 0 v)

end UsageGrid.Json
