import UsageGrid.Json.Reader

/-!
# Values that are passed over

A member that nobody asks for is not read but skimmed: only its strings, words, numbers and brackets
have to be in order. So a skimmed value may be nested as deep as it likes, hold a number out of
range or half of a surrogate pair, and its faults are fewer than those of a value that is read.
-/

namespace UsageGrid.Json

/-- Where skimming stands inside a string: in plain text, after a backslash, or in a code. -/
inductive SkimEscape where
  | plain
  | backslash
  | code (digits : List Char)
deriving Repr, DecidableEq

/-- What may stand next: the first thing in an array or object, a value, a key, its colon, what
    follows a value; or the rest of a string, of a number or of a word. -/
inductive SkimPart where
  | first
  | value
  | key
  | colon
  | next
  | text (asKey : Bool) (escape : SkimEscape)
  | number (phase : NumberPhase)
  | word (rest : List Char)
deriving Repr, DecidableEq

/-- A value that is being skimmed: of each array and object that is open whether it is an object,
    the innermost first, and what may stand next. -/
structure Skim where
  outer : List Bool := []
  part : SkimPart := .value
deriving Repr, DecidableEq

namespace Skim

/-- What a character makes of a skimmed value: there is more of it, the character was its last, or
    it was over before. -/
inductive Outcome where
  | more (k : Skim)
  | last
  | over
deriving Repr, DecidableEq

/-- A value is over that stands in an array or object, or is the whole. -/
def supply : List Bool → Outcome
  | [] => .last
  | outer => .more ⟨outer, .next⟩

def closer (inObject : Bool) : Char := if inObject then closeBrace else ']'

def startValue (outer : List Bool) (c : Char) : Except Cause Outcome :=
  if c.toNat = 0x22 then .ok (.more ⟨outer, .text false .plain⟩)
  else if c = '-' then .ok (.more ⟨outer, .number .sign⟩)
  else if c = '0' then .ok (.more ⟨outer, .number .zero⟩)
  else if Decimal.isDigit c then .ok (.more ⟨outer, .number .whole⟩)
  else if c = 'n' then .ok (.more ⟨outer, .word ['u', 'l', 'l']⟩)
  else if c = 't' then .ok (.more ⟨outer, .word ['r', 'u', 'e']⟩)
  else if c = 'f' then .ok (.more ⟨outer, .word ['a', 'l', 's', 'e']⟩)
  else if c = '[' then .ok (.more ⟨false :: outer, .first⟩)
  else if c = openBrace then .ok (.more ⟨true :: outer, .first⟩)
  else .error .valueExpected

def startKey (outer : List Bool) (c : Char) : Except Cause Outcome :=
  if c.toNat = 0x22 then .ok (.more ⟨outer, .text true .plain⟩) else .error .keyExpected

/-- After a value: a blank, the comma, or the end of what encloses it. -/
def afterValue (c : Char) : List Bool → Except Cause Outcome
  | [] => .ok .over
  | inObject :: outer =>
    if isSpace c then .ok (.more ⟨inObject :: outer, .next⟩)
    else if c = ',' then .ok (.more ⟨inObject :: outer, if inObject then .key else .value⟩)
    else if c = closer inObject then .ok (supply outer)
    else .error (if inObject then .objectEndExpected else .listEndExpected)

def stepText (outer : List Bool) (asKey : Bool) (c : Char) : SkimEscape → Except Cause Outcome
  | .plain =>
    if c.toNat = 0x22 then .ok (if asKey then .more ⟨outer, .colon⟩ else supply outer)
    else if c = '\\' then .ok (.more ⟨outer, .text asKey .backslash⟩)
    else if c.toNat < 0x20 then .error .controlCharacter
    else .ok (.more ⟨outer, .text asKey .plain⟩)
  | .backslash =>
    if c = 'u' then .ok (.more ⟨outer, .text asKey (.code [])⟩)
    else if (simpleEscape? c).isSome then .ok (.more ⟨outer, .text asKey .plain⟩)
    else .error .invalidEscape
  | .code digits =>
    let digits := digits ++ [c]
    if codeWidth digits < 4 then .ok (.more ⟨outer, .text asKey (.code digits)⟩)
    else if (codeUnit? digits).isSome then .ok (.more ⟨outer, .text asKey .plain⟩)
    else .error .invalidEscape

/-- The next character of a number, or the first one after it. -/
def stepNumber (outer : List Bool) (c : Char) (phase : NumberPhase) : Except Cause Outcome :=
  match phase with
  | .sign => if c = '0' then reach .zero else digit .whole
  | .zero => if Decimal.isDigit c then .error .invalidNumber else pointOrMark
  | .whole => if Decimal.isDigit c then reach .whole else pointOrMark
  | .point => digit .fraction
  | .fraction => if Decimal.isDigit c then reach .fraction else mark
  | .mark => if c = '+' ∨ c = '-' then reach .markSign else digit .exponent
  | .markSign => digit .exponent
  | .exponent => if Decimal.isDigit c then reach .exponent else afterValue c outer
where
  reach (phase : NumberPhase) : Except Cause Outcome := .ok (.more ⟨outer, .number phase⟩)
  digit (phase : NumberPhase) : Except Cause Outcome :=
    if Decimal.isDigit c then reach phase else .error .invalidNumber
  mark : Except Cause Outcome := if c = 'e' ∨ c = 'E' then reach .mark else afterValue c outer
  pointOrMark : Except Cause Outcome := if c = '.' then reach .point else mark

def step (k : Skim) (c : Char) : Except Cause Outcome :=
  match k.part with
  | .text asKey escape => stepText k.outer asKey c escape
  | .number phase => stepNumber k.outer c phase
  | .word [] => .error .wordExpected
  | .word [d] => if c = d then .ok (supply k.outer) else .error .wordExpected
  | .word (d :: ds) =>
    if c = d then .ok (.more { k with part := .word ds }) else .error .wordExpected
  | .next => afterValue c k.outer
  | .first =>
    if isSpace c then .ok (.more k)
    else match k.outer with
      | [] => startValue [] c
      | inObject :: outer =>
        if c = closer inObject then .ok (supply outer)
        else if inObject then startKey k.outer c
        else startValue k.outer c
  | .value => if isSpace c then .ok (.more k) else startValue k.outer c
  | .key => if isSpace c then .ok (.more k) else startKey k.outer c
  | .colon =>
    if isSpace c then .ok (.more k)
    else if c = ':' then .ok (.more { k with part := .value })
    else .error .colonExpected

/-- What is wrong if the text ends here; a whole number may end with it. -/
def endCause? (k : Skim) : Option Cause :=
  match k.part with
  | .text _ _ => some .endInString
  | .word _ => some .endInValue
  | .value => some .endInValue
  | .key | .colon => some .endInObject
  | .number .sign | .number .point | .number .mark | .number .markSign => some .invalidNumber
  | .first | .next | .number _ =>
    match k.outer with
    | [] => none
    | inObject :: _ => some (if inObject then .endInObject else .endInList)

/-- Where the fault shows: a control character is noticed before it is taken, and a code that is
    none behind its four bytes. -/
def faultPlace (k : Skim) (p : Position) (c : Char) : Cause → Position
  | .controlCharacter => p
  | .invalidEscape =>
    match k.part with
    | .text _ (.code digits) => p.afterBytes c (4 - codeWidth digits)
    | _ => p.afterByte c
  | _ => p.afterByte c

end Skim

end UsageGrid.Json
