import UsageGrid.Decimal.Reader
import UsageGrid.Pattern.NamedClass
import UsageGrid.Text.Blank

/-!
# Flags, spacing and numbers of patterns

The flags that act while a pattern is read, and the pieces of its text whose spacing depends on one
of them: in a verbose pattern, blanks and comments count for nothing, also between the digits of a
number and in a name between braces.
-/

/-!
## Errors of patterns

Why a text is no pattern, and how a message says it.
-/

namespace UsageGrid

/-- Why a text is no pattern. -/
inductive PatternError where
  | unclosedGroup
  | unopenedGroup
  | unclosedClass
  | invalidRange
  | invalidEscape
  | invalidHex
  | backreference
  | lookAround
  | invalidGroupName
  | duplicateGroupName
  | invalidFlags
  | nothingToRepeat
  | invalidCount
  | unknownProperty
  | noText
  | tooDeep
  | tooLarge
deriving Repr, DecidableEq

def PatternError.message : PatternError → String
  | .unclosedGroup => "unclosed group"
  | .unopenedGroup => "unopened group"
  | .unclosedClass => "unclosed character class"
  | .invalidRange => "invalid character class range"
  | .invalidEscape => "unrecognized escape sequence"
  | .invalidHex => "invalid hexadecimal character"
  | .backreference => "backreferences are not supported"
  | .lookAround => "look-around is not supported"
  | .invalidGroupName => "invalid capture group name"
  | .duplicateGroupName => "duplicate capture group name"
  | .invalidFlags => "invalid flags"
  | .nothingToRepeat => "repetition operator missing expression"
  | .invalidCount => "invalid repetition count"
  | .unknownProperty => "Unicode property not found"
  | .noText => "pattern can match invalid UTF-8"
  | .tooDeep => "nested too deeply"
  | .tooLarge => "pattern too large"

end UsageGrid

namespace UsageGrid.Pattern

open UsageGrid.Text

/-! ## 1. Flags -/

structure Flags where
  ignoresCase : Bool := false
  multiLine : Bool := false
  dotAll : Bool := false
  crlf : Bool := false
  swapsGreed : Bool := false
  unicode : Bool := true
  verbose : Bool := false
deriving Repr, DecidableEq

/-- Sets or clears the flag of a letter. -/
def Flags.assign (f : Flags) (letter : Char) (on : Bool) : Option Flags :=
  if letter = 'i' then some { f with ignoresCase := on }
  else if letter = 'm' then some { f with multiLine := on }
  else if letter = 's' then some { f with dotAll := on }
  else if letter = 'R' then some { f with crlf := on }
  else if letter = 'U' then some { f with swapsGreed := on }
  else if letter = 'u' then some { f with unicode := on }
  else if letter = 'x' then some { f with verbose := on }
  else none

/-- Letters up to the colon or bracket that ends them, which is left. `minus` says that a minus
    has been read, `seen` which letters have. -/
def readFlags (f : Flags) (minus lastMinus : Bool) (seen : List Char) :
    List Char → Except PatternError (Flags × List Char)
  | [] => .error .invalidFlags
  | c :: rest =>
    if c = ':' ∨ c = ')' then
      if lastMinus then .error .invalidFlags else .ok (f, c :: rest)
    else if c = '-' then
      if minus then .error .invalidFlags else readFlags f true true seen rest
    else if seen.contains c then .error .invalidFlags
    else match f.assign c (!minus) with
      | some f => readFlags f minus false (c :: seen) rest
      | none => .error .invalidFlags

/-- A set with the other cases of its letters, if case is ignored: in Unicode or in ASCII. -/
def Flags.fold (f : Flags) (s : Ranges) : Ranges :=
  if !f.ignoresCase then s else if f.unicode then s.folded else foldedAscii s

/-- A set or its complement, which is no text unless characters are Unicode. -/
def Flags.complementIf (f : Flags) (on : Bool) (s : Ranges) : Except PatternError Ranges :=
  if on ∧ !f.unicode then .error .noText else .ok (s.complementIf on)

/-! ## 2. Spacing -/

/-- What follows blanks and comments, which count for nothing in a verbose pattern. -/
def skipSpace (verbose : Bool) (inComment : Bool) : List Char → List Char
  | [] => []
  | c :: rest =>
    if !verbose then c :: rest
    else if inComment then skipSpace verbose (c != '\n') rest
    else if isBlank c then skipSpace verbose false rest
    else if c = '#' then skipSpace verbose true rest
    else c :: rest

/-- What comes after the next character and the space behind it. -/
def after (verbose : Bool) (cs : List Char) : List Char := skipSpace verbose false (cs.drop 1)

/-- The characters of a kind at the front, as many as wanted, and what follows them and the space
    between and behind them. -/
def gather (verbose : Bool) (wanted : Nat) (isOne : Char → Bool) (inComment : Bool) :
    List Char → List Char × List Char
  | [] => ([], [])
  | c :: rest =>
    if verbose ∧ inComment then gather verbose wanted isOne (c != '\n') rest
    else if verbose ∧ isBlank c then gather verbose wanted isOne false rest
    else if verbose ∧ c = '#' then gather verbose wanted isOne true rest
    else match wanted with
      | 0 => ([], c :: rest)
      | n + 1 =>
        if isOne c then
          let (taken, rest) := gather verbose n isOne false rest
          (c :: taken, rest)
        else ([], c :: rest)

/-- All characters of a kind at the front. -/
def gatherAll (verbose : Bool) (isOne : Char → Bool) (cs : List Char) : List Char × List Char :=
  gather verbose cs.length isOne false cs

def isOpeningBrace (c : Char) : Bool := c.toNat == 0x7B

def isClosingBrace (c : Char) : Bool := c.toNat == 0x7D

/-- The text up to a closing brace, and what follows the brace. -/
def readBraced (verbose : Bool) (cs : List Char) : Option (List Char × List Char) :=
  match gatherAll verbose (fun c => !isClosingBrace c) (skipSpace verbose false cs) with
  | (_, []) => none
  | (body, _ :: rest) => some (body, rest)

/-! ## 3. Counts -/

/-- A number with blanks around it, at most 32 bits wide. -/
def readCount (verbose : Bool) (cs : List Char) : Except PatternError (Nat × List Char) :=
  let (digits, rest) := gatherAll verbose Decimal.isDigit (cs.dropWhile isBlank)
  let n := Decimal.natOfDigits digits
  if digits.isEmpty ∨ Nat.pow 2 32 ≤ n then .error .invalidCount
  else .ok (n, skipSpace verbose false (rest.dropWhile isBlank))

/-- The bounds of a counted repetition, after its opening brace, up to the closing one. -/
def readBounds (verbose : Bool) (cs : List Char) :
    Except PatternError ((Nat × Option Nat) × List Char) := do
  let (least, cs) ← readCount verbose (skipSpace verbose false cs)
  match cs with
  | ',' :: rest =>
    let rest := skipSpace verbose false rest
    if rest.head?.any isClosingBrace then pure ((least, none), rest)
    else
      let (most, cs) ← readCount verbose rest
      if least ≤ most then pure ((least, some most), cs) else throw .invalidCount
  | _ => pure ((least, some least), cs)

/-! ## 4. Code points -/

def isHexDigit (c : Char) : Bool := (hexValue? c).isSome

/-- The character of a code point, which must be one. -/
def charOfCode (digits : List Char) : Except PatternError Char :=
  let n := hexNumber digits
  if digits.isEmpty ∨ !digits.all isHexDigit ∨ !decide (n.isValidChar) then .error .invalidHex
  else .ok (Char.ofNat n)

/-- A code point in hexadecimal: in braces, or of a fixed number of digits. -/
def readHex (verbose : Bool) (width : Nat) (cs : List Char) :
    Except PatternError (Char × List Char) :=
  match skipSpace verbose false cs with
  | [] => .error .invalidHex
  | c :: rest =>
    if isOpeningBrace c then
      match readBraced verbose rest with
      | none => .error .invalidHex
      | some (digits, rest) => do pure (← charOfCode digits, skipSpace verbose false rest)
    else
      let (digits, rest) := gather verbose width isHexDigit false (c :: rest)
      if digits.length < width then .error .invalidHex
      else do pure (← charOfCode digits, rest)

end UsageGrid.Pattern
