import UsageGrid.Text.Property

/-!
# Letters, numbers and lower case

What a name is made of, and the lower case of a text. Names and messages follow edition 17.0 of
Unicode, so this module adds to the sets of edition 16.0 what the later one has more.
-/

namespace UsageGrid.Text

/-! ## 1. Later additions -/

/-- Alphabetic characters that edition 17.0 adds. -/
def alphabeticAdded : Ranges := Ranges.ofLines
  ["88F C5C CDC A7CE-A7CF A7D2 A7D4 A7F1 10940-10959 10EC5-10EC7 10EFA-10EFB 11B60-11B67",
    "11DB0-11DDB 16EA0-16EB8 16EBB-16ED3 16FF2-16FF6 187F8-187FF 18D09-18D1E 18D80-18DF2",
    "1E6C0-1E6DE 1E6E0-1E6F5 1E6FE-1E6FF 2B73A-2B73F 2CEA2-2CEAD 323B0-33479"]

/-- Letters with a case that edition 17.0 adds. -/
def casedAdded : Ranges := Ranges.ofLines
  ["A7CE-A7CF A7D2 A7D4 A7F1 16EA0-16EB8 16EBB-16ED3"]

/-- Characters that case mapping looks through, added by edition 17.0. -/
def caseIgnorableAdded : Ranges := Ranges.ofLines
  ["1ACF-1ADD 1AE0-1AEB A7F1 10EC5 10EFA-10EFB 11B60 11B62-11B64 11B66 11DD9 16FF2-16FF3 1E6E3",
    "1E6E6 1E6EE-1E6EF 1E6F5 1E6FF"]

/-! ## 2. Letters and numbers -/

/-- Alphabetic characters, and digits and numbers of every kind. -/
def alphanumeric : Ranges :=
  Ranges.unions [alphabetic, categoryN, alphabeticAdded, Ranges.ofLines ["11DE0-11DE9"]]

/-- A letter or a number of any script. -/
def isAlphanumeric (c : Char) : Bool := alphanumeric.contains c

/-- Alphabetic characters of any script. -/
def isAlphabetic (c : Char) : Bool := alphabetic.contains c || alphabeticAdded.contains c

/-! ## 3. Lower case -/

/-- The pharyngeal fricative has lost its case since. -/
def isCased (c : Char) : Bool :=
  (cased.contains c && c.toNat != 0x295) || casedAdded.contains c

def isCaseIgnorable (c : Char) : Bool :=
  caseIgnorable.contains c || caseIgnorableAdded.contains c

/-- Whether the sigma between `before` (nearest first) and `after` ends a word: a cased letter
    precedes it and none follows, case-ignorable characters left out. -/
def isFinalSigma (before after : List Char) : Bool :=
  ((before.dropWhile isCaseIgnorable).head?.any isCased)
    && !((after.dropWhile isCaseIgnorable).head?.any isCased)

/-- Lower case of a text. Two characters map by context or to two: the capital sigma at the end
    of a word, and the capital I with a dot above. -/
def lowerChars : List Char → List Char → List Char
  | _, [] => []
  | before, c :: rest =>
    let here :=
      if c.toNat = 0x130 then ['i', Char.ofNat 0x307]
      else if c.toNat = 0x3A3 then
        [if isFinalSigma before rest then Char.ofNat 0x3C2 else Char.ofNat 0x3C3]
      else [Char.ofNat (lowerCase.apply c.toNat)]
    here ++ lowerChars (c :: before) rest

/-- The text in lower case. -/
def lower (s : String) : String :=
  String.ofList (lowerChars [] s.toList)

/-- The text with its ASCII capitals in lower case, all else as it is. -/
def asciiLower (s : String) : String :=
  String.ofList (s.toList.map Char.toLower)

/-- Equal up to the case of ASCII letters. -/
def sameIgnoringCase (a b : String) : Bool :=
  asciiLower a == asciiLower b

end UsageGrid.Text
