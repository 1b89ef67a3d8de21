import UsageGrid.Text.Script
import UsageGrid.Text.Property

/-!
# Where text is divided

The classes of characters by which text is divided into user-perceived characters, words and
sentences, in edition 16.0 of Unicode, derived from other properties as far as the standard does:
`graphemeClasses`, `wordClasses` and `sentenceClasses`, each by name.
-/

namespace UsageGrid.Text

def codes (line : String) : Ranges := Ranges.ofLines [line]

def scriptSet (name : String) : Ranges :=
  (NamedSet.find? scripts name.toList).getD Ranges.empty

/-! ## 1. User-perceived characters -/

/-- Marks that stand before the letter they belong to. -/
def prepend : Ranges := prependedMark.union (Ranges.ofLines
    ["D4E 111C2-111C3 113D1 1193F 11941 11A3A 11A84-11A89 11D46 11F02"])

def zeroWidthJoiner : Ranges := codes "200D"

/-- What extends the character before: joining characters and skin tones. -/
def graphemeExtends : Ranges := (graphemeExtend.union emojiModifier).diff zeroWidthJoiner

/-- Controls, and ignorable code points that are not assigned. -/
def graphemeControl : Ranges :=
  (Ranges.unions
    [categoryZl, categoryZp, categoryCc, categoryCf, categoryCn.inter defaultIgnorable]).diff
    (Ranges.unions [codes "A D 200C-200D", prependedMark, graphemeExtend])

/-- Marks with space that belong to the letter before, but for those that stand apart. -/
def graphemeSpacing : Ranges :=
  ((categoryMc.diff graphemeExtends).diff (Ranges.ofLines
    ["102B-102C 1038 1062-1064 1067-106D 1083 1087-108C 108F 109A-109C 1A61 1A63-1A64 AA7B",
      "AA7D 11720-11721"])).union
    (codes "E33 EB3")

/-- Syllables of Hangul without a final consonant. -/
def hangulOpen : Ranges := codes "AC00-D788/1C"

def graphemeClasses : List NamedSet :=
  [⟨["CR"], codes "D"⟩,
    ⟨["LF"], codes "A"⟩,
    ⟨["CN", "Control"], graphemeControl⟩,
    ⟨["EX", "Extend"], graphemeExtends⟩,
    ⟨["PP", "Prepend"], prepend⟩,
    ⟨["SM", "SpacingMark"], graphemeSpacing⟩,
    ⟨["RI", "Regional_Indicator"], regionalIndicator⟩,
    ⟨["L"], codes "1100-115F A960-A97C"⟩,
    ⟨["V"], codes "1160-11A7 D7B0-D7C6 16D63 16D67-16D6A"⟩,
    ⟨["T"], codes "11A8-11FF D7CB-D7FB"⟩,
    ⟨["LV"], hangulOpen⟩,
    ⟨["LVT"], (codes "AC00-D7A3").diff hangulOpen⟩,
    ⟨["ZWJ"], zeroWidthJoiner⟩]

/-! ## 2. Words -/

def wordExtend : Ranges := graphemeExtends.union (categoryMc.diff zeroWidthJoiner)

/-- Marks before digits count as digits, all but the one of Syriac, which counts as a letter. -/
def digitMark : Ranges := prependedMark.diff (codes "70F")

def wordFormat : Ranges :=
  categoryCf.diff (Ranges.unions [codes "200B-200D", prependedMark, graphemeExtend])

def hebrewLetter : Ranges := (scriptSet "Hebrew").inter categoryLo

def wordKatakana : Ranges := Ranges.ofLines
  ["3031-3035 309B-309C 30A0-30FA 30FC-30FF 31F0-31FF 32D0-32FE 3300-3357 FF66-FF9D",
    "1AFF0-1AFF3 1AFF5-1AFFB 1AFFD-1AFFE 1B000 1B120-1B122 1B155 1B164-1B167"]

/-- Letters of scripts whose words are not apart. -/
def complexContext : Ranges := Ranges.ofLines
  ["E01-E3A E40-E4E E81-E82 E84 E86-E8A E8C-EA3 EA5 EA7-EBD EC0-EC4 EC6 EC8-ECE EDC-EDF",
    "1000-103F 1050-108F 109A-109F 1780-17D3 17D7 17DC-17DD 1950-196D 1970-1974 1980-19AB",
    "19B0-19C9 19DA 19DE-19DF 1A20-1A5E 1A60-1A7C 1AA0-1AAD A9E0-A9EF A9FA-A9FE AA60-AAC2",
    "AADB-AADF 11700-1171A 1171D-1172B 1173A-1173B 1173F-11746"]

/-- Characters that are no letters and count as some. -/
def letterLike : Ranges := Ranges.ofLines
  ["2C2-2C5 2D2-2D7 2DE-2DF 2E5-2EB 2ED 2EF-2FF 55A-55C 55E 58A 5F3 70F A708-A716 A720-A721",
    "A789-A78A AB5B"]

def wordLetter : Ranges :=
  (alphabetic.diff
    (Ranges.unions
      [ideographic, wordKatakana, complexContext, scriptSet "Hiragana", wordExtend,
        hebrewLetter])).union letterLike

def wordClasses : List NamedSet :=
  [⟨["LE", "ALetter"], wordLetter⟩,
    ⟨["CR"], codes "D"⟩,
    ⟨["DQ", "Double_Quote"], codes "22"⟩,
    ⟨["Extend"], wordExtend⟩,
    ⟨["EX", "ExtendNumLet"], categoryPc.union (codes "202F")⟩,
    ⟨["FO", "Format"], wordFormat⟩,
    ⟨["HL", "Hebrew_Letter"], hebrewLetter⟩,
    ⟨["KA", "Katakana"], wordKatakana⟩,
    ⟨["LF"], codes "A"⟩,
    ⟨["ML", "MidLetter"], codes "3A B7 387 55F 5F4 2027 FE13 FE55 FF1A"⟩,
    ⟨["MN", "MidNum"], codes "2C 3B 37E 589 60C-60D 66C 7F8 2044 FE10 FE14 FE50 FE54 FF0C FF1B"⟩,
    ⟨["MB", "MidNumLet"], codes "2E 2018-2019 2024 FE52 FF07 FF0E"⟩,
    ⟨["NL", "Newline"], codes "B-C 85 2028-2029"⟩,
    ⟨["NU", "Numeric"], Ranges.unions [categoryNd, digitMark, codes "66B"]⟩,
    ⟨["RI", "Regional_Indicator"], regionalIndicator⟩,
    ⟨["SQ", "Single_Quote"], codes "27"⟩,
    ⟨["WSegSpace"], codes "20 1680 2000-2006 2008-200A 205F 3000"⟩,
    ⟨["ZWJ"], zeroWidthJoiner⟩]

/-! ## 3. Sentences -/

def sentenceExtend : Ranges := Ranges.unions [graphemeExtend, categoryMc, zeroWidthJoiner]

/-- The letters of Georgian count as having no case. -/
def sentenceLower : Ranges :=
  (lowercase.diff graphemeExtend).diff (codes "10D0-10FA 10FD-10FF")

def sentenceUpper : Ranges := (uppercase.union categoryLt).diff (codes "1C90-1CBA 1CBD-1CBF")

def sentenceLetter : Ranges :=
  (alphabetic.union (codes "5F3")).diff
    (Ranges.unions [sentenceLower, sentenceUpper, sentenceExtend])

def sentenceSeparator : Ranges := codes "85 2028-2029"

def dotTerminal : Ranges := codes "2E 2024 FE52 FF0E"

/-- Brackets and quotes. -/
def sentenceClose : Ranges :=
  Ranges.unions
    [categoryPs, categoryPe, categoryPi, categoryPf,
      codes "22 27 275B-2760 2E00-2E01 2E06-2E08 2E0B 1F676-1F678"]

def sentenceContinue : Ranges := Ranges.ofLines
  ["2C-2D 3A-3B 37E 55D 60C-60D 7F8 1802 1808 2013-2014 3001 FE10-FE11 FE13-FE14 FE31-FE32",
    "FE50-FE51 FE54-FE55 FE58 FE63 FF0C-FF0D FF1A-FF1B FF64"]

def sentenceClasses : List NamedSet :=
  [⟨["AT", "ATerm"], dotTerminal⟩,
    ⟨["CL", "Close"], sentenceClose⟩,
    ⟨["CR"], codes "D"⟩,
    ⟨["EX", "Extend"], sentenceExtend⟩,
    ⟨["FO", "Format"], categoryCf.diff (Ranges.unions [sentenceExtend, digitMark])⟩,
    ⟨["LF"], codes "A"⟩,
    ⟨["LO", "Lower"], sentenceLower⟩,
    ⟨["NU", "Numeric"], Ranges.unions [categoryNd, digitMark, codes "66B-66C"]⟩,
    ⟨["LE", "OLetter"], sentenceLetter⟩,
    ⟨["SC", "SContinue"], sentenceContinue⟩,
    ⟨["SE", "Sep"], sentenceSeparator⟩,
    ⟨["SP", "Sp"], whiteSpace.diff (sentenceSeparator.union (codes "A D"))⟩,
    ⟨["ST", "STerm"], sentenceTerminal.diff dotTerminal⟩,
    ⟨["UP", "Upper"], sentenceUpper⟩]

end UsageGrid.Text
