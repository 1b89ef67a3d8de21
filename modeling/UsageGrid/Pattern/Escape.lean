import UsageGrid.Pattern.Expr
import UsageGrid.Pattern.Flags

/-!
# Escapes in patterns

What stands after a backslash: a character that would mean something else alone, a control, a code
point, a class of characters or a place in the text.
-/

namespace UsageGrid.Pattern

open UsageGrid.Text

/-! ## 1. Classes -/

/-- A named property, after its `p`. -/
def readProperty (f : Flags) (cs : List Char) : Except PatternError (Ranges × List Char) :=
  match skipSpace f.verbose false cs with
  | [] => .error .invalidEscape
  | c :: rest =>
    if isOpeningBrace c then
      match readBraced f.verbose rest with
      | none => .error .invalidEscape
      | some (body, rest) => found (ofPropertyText? body) rest
    else if c = '\\' then .error .invalidEscape
    else found (ofProperty? [c]) (skipSpace f.verbose false rest)
where
  found (s : Option Ranges) (rest : List Char) : Except PatternError (Ranges × List Char) :=
    match s with
    | some s => .ok (s, rest)
    | none => .error .unknownProperty

def isPerlLetter (c : Char) : Bool := "dswDSW".toList.contains c

/-- Digits, blanks or word characters. -/
def perlClass (f : Flags) (letter : Char) : Ranges :=
  let l := letter.toLower
  if l = 'd' then if f.unicode then categoryNd else asciiDigit
  else if l = 's' then if f.unicode then whiteSpace else asciiSpace
  else if f.unicode then wordCharacter else asciiWord

/-! ## 2. Characters -/

def isMeta (c : Char) : Bool :=
  "\\.+*?()|[]^$#&-~".toList.contains c || isOpeningBrace c || isClosingBrace c

/-- Characters that may stand after a backslash for themselves. -/
def isEscapable (c : Char) : Bool :=
  isMeta c || (c.toNat < 0x80 && !c.isAlphanum && c != '<' && c != '>')

/-- The control character of a letter. -/
def controlOf? (c : Char) : Option Char :=
  ([('a', 7), ('f', 12), ('t', 9), ('n', 10), ('r', 13), ('v', 11)].lookup c).map Char.ofNat

/-! ## 3. Escapes -/

/-- What an escape stands for. -/
inductive Escaped where
  | char (c : Char)
  | set (s : Ranges)
  | look (l : Look)

/-- An edge of a word after its `b`, of a kind that may be named in braces. What is in braces and
    begins like no name is left for a count of repetitions. -/
def readWordEdge (f : Flags) (cs : List Char) : Except PatternError (Escaped × List Char) :=
  let isNameChar (c : Char) : Bool := c.isAlpha || c == '-'
  let plain : Except PatternError (Escaped × List Char) := .ok (.look (.wordEdge f.unicode), cs)
  match cs with
  | [] => plain
  | c :: rest =>
    if !isOpeningBrace c then plain
    else
      let inner := skipSpace f.verbose false rest
      match inner.head? with
      | none => .error .invalidEscape
      | some d =>
        if !isNameChar d then plain
        else
          let (name, rest) := gatherAll f.verbose isNameChar inner
          match rest, names.lookup (String.ofList name) with
          | d :: rest, some l =>
            if isClosingBrace d then .ok (.look l, rest) else .error .invalidEscape
          | _, _ => .error .invalidEscape
where
  names : List (String × Look) :=
    [("start", .wordStart f.unicode), ("end", .wordEnd f.unicode),
      ("start-half", .wordStartHalf f.unicode), ("end-half", .wordEndHalf f.unicode)]

/-- A byte of two hexadecimal digits is a character of ASCII, or of any script where characters are
    Unicode. -/
def readByte (f : Flags) (cs : List Char) : Except PatternError (Escaped × List Char) := do
  let braced := (skipSpace f.verbose false cs).head?.any isOpeningBrace
  let (c, rest) ← readHex f.verbose 2 cs
  if !f.unicode ∧ !braced ∧ 0x80 ≤ c.toNat then throw .noText
  pure (.char c, rest)

/-- A place in the text, by its letter. -/
def readPlace (f : Flags) (c : Char) (rest : List Char) :
    Except PatternError (Escaped × List Char) :=
  if c = 'A' then .ok (.look .textStart, rest)
  else if c = 'z' then .ok (.look .textEnd, rest)
  else if c = 'b' then readWordEdge f rest
  else if c = 'B' then .ok (.look (.noWordEdge f.unicode), rest)
  else if c = '<' then .ok (.look (.wordStart f.unicode), rest)
  else if c = '>' then .ok (.look (.wordEnd f.unicode), rest)
  else .error .invalidEscape

/-- An escape, after its backslash. -/
def readEscape (f : Flags) (cs : List Char) : Except PatternError (Escaped × List Char) :=
  match cs with
  | [] => .error .invalidEscape
  | c :: rest =>
    if c.isDigit then .error .backreference
    else if c = 'x' then readByte f rest
    else if c = 'u' then do let (d, rest) ← readHex f.verbose 4 rest; pure (.char d, rest)
    else if c = 'U' then do let (d, rest) ← readHex f.verbose 8 rest; pure (.char d, rest)
    else if c = 'p' ∨ c = 'P' then do
      if !f.unicode then throw .noText
      let (s, rest) ← readProperty f rest
      pure (.set ((f.fold s).complementIf (c == 'P')), rest)
    else if isPerlLetter c then do
      pure (.set (← f.complementIf c.isUpper (perlClass f c)), rest)
    else if isEscapable c then .ok (.char c, rest)
    else match controlOf? c with
      | some d => .ok (.char d, rest)
      | none => readPlace f c rest

end UsageGrid.Pattern
