import UsageGrid.Text.Property

/-!
# Quoted text

How a message shows a text that may hold anything: in double quotes, with escapes for the quote,
the backslash, control characters, and every character that would print as nothing or join the one
before it.
-/

namespace UsageGrid.Text

/-! ## 1. What does not print -/

/-- The characters that edition 17.0 of Unicode adds. -/
def assignedAdded : Ranges := Ranges.ofLines
  ["88F C5C CDC 1ACF-1ADD 1AE0-1AEB 20C1 2B96 A7CE-A7CF A7D2 A7D4 A7F1 FBC3-FBD2 FD90-FD91",
    "FDC8-FDCE 10940-10959 10EC5-10EC7 10ED0-10ED8 10EFA-10EFB 11B60-11B67 11DB0-11DDB",
    "11DE0-11DE9 16EA0-16EB8 16EBB-16ED3 16FF2-16FF6 187F8-187FF 18D09-18D1E 18D80-18DF2",
    "1CCFA-1CCFC 1CEBA-1CED0 1CEE0-1CEF0 1E6C0-1E6DE 1E6E0-1E6F5 1E6FE-1E6FF 1F6D8 1F777-1F77A",
    "1F8D0-1F8D8 1FA54-1FA57 1FA8A 1FA8E 1FAC8 1FACD 1FAEA 1FAEF 1FBFA 2B73A-2B73F 2CEA2-2CEAD",
    "323B0-33479"]

/-- Those among them that join the one before. -/
def graphemeExtendAdded : Ranges := Ranges.ofLines
  ["1ACF-1ADD 1AE0-1AEB 10EFA-10EFB 11B60 11B62-11B64 11B66 1E6E3 1E6E6 1E6EE-1E6EF 1E6F5"]

/-- Controls, formats, private use, unassigned code points and separators, the space left out. -/
def unprintable : Ranges :=
  (Ranges.unions [categoryCc, categoryCf, categoryCo, categoryCn, categoryZ]).diff
    (assignedAdded.union (Ranges.single ' '))

/-- Characters that join the one before them or leave it blank. The voicing marks of half width
    count as joining, but stand for themselves. -/
def dependent : Ranges :=
  (Ranges.unions [graphemeExtend, graphemeExtendAdded, defaultIgnorable]).diff
    (Ranges.ofLines ["FF9E-FF9F"])

/-- Characters that are shown by their code point. -/
def escaped : Ranges := unprintable.union dependent

/-! ## 2. Quotes -/

/-- The lower-case hexadecimal digits of a number. -/
def hexDigits (n : Nat) : List Char :=
  Nat.toDigits 16 n

/-- The escape by code point: `\\u`, then the hexadecimal number in braces. -/
def escapeCode (c : Char) : List Char :=
  ['\\', 'u', Char.ofNat 0x7B] ++ hexDigits c.toNat ++ [Char.ofNat 0x7D]

/-- One character inside quotes. -/
def quoteChar (c : Char) : List Char :=
  if c = '\n' then ['\\', 'n']
  else if c = '\t' then ['\\', 't']
  else if c = '\r' then ['\\', 'r']
  else if c = '\\' then ['\\', '\\']
  else if c.toNat = 0x22 then ['\\', c]
  else if c.toNat = 0 then ['\\', '0']
  else if escaped.contains c then escapeCode c
  else [c]

/-- The text in double quotes. -/
def quoted (s : String) : String :=
  "\x22" ++ String.ofList (s.toList.flatMap quoteChar) ++ "\x22"

end UsageGrid.Text
