import UsageGrid.Json.Number
import UsageGrid.Json.Writer
import UsageGrid.Text.Ranges

/-!
# Reading JSON

The reader takes one character after the other. Its `State` holds the open arrays and objects and
what may stand next (`Mode`); `State.step` is one character, `scan` a whole text, `read` the value
of a text or the fault that ends it. Members keep the order of the text, so that `Json.parse` is
`read` put in canonical form.

A fault names the place behind the byte that could not be taken, or the end of the text. At most
127 arrays and objects may be open at once.
-/

namespace UsageGrid.Json

/-! ## 1. Faults -/

/-- A place in a text: the line, and the bytes read of it. -/
structure Position where
  line : Nat := 1
  column : Nat := 0
deriving Repr, DecidableEq

/-- The place behind the first byte of a character. -/
def Position.afterByte (p : Position) (c : Char) : Position :=
  if c = '\n' then ⟨p.line + 1, 0⟩ else ⟨p.line, p.column + 1⟩

/-- The place behind so many bytes, which end with or within a character. -/
def Position.afterBytes (p : Position) (c : Char) (n : Nat) : Position :=
  if c = '\n' then ⟨p.line + 1, 0⟩ else ⟨p.line, p.column + n⟩

/-- The place behind a character. -/
def Position.after (p : Position) (c : Char) : Position :=
  if c = '\n' then ⟨p.line + 1, 0⟩ else ⟨p.line, p.column + c.utf8Size⟩

inductive Cause where
  | endInList
  | endInObject
  | endInString
  | endInValue
  | colonExpected
  | listEndExpected
  | objectEndExpected
  | wordExpected
  | valueExpected
  | invalidEscape
  | invalidNumber
  | numberRange
  | controlCharacter
  | keyExpected
  | loneSurrogate
  | trailingComma
  | trailingText
  | unfinishedSurrogate
  | tooDeep
deriving Repr, DecidableEq

def Cause.message : Cause → String
  | .endInList => "EOF while parsing a list"
  | .endInObject => "EOF while parsing an object"
  | .endInString => "EOF while parsing a string"
  | .endInValue => "EOF while parsing a value"
  | .colonExpected => "expected `:`"
  | .listEndExpected => "expected `,` or `]`"
  | .objectEndExpected => "expected `,` or `\x7d`"
  | .wordExpected => "expected ident"
  | .valueExpected => "expected value"
  | .invalidEscape => "invalid escape"
  | .invalidNumber => "invalid number"
  | .numberRange => "number out of range"
  | .controlCharacter => "control character (\\u0000-\\u001F) found while parsing a string"
  | .keyExpected => "key must be a string"
  | .loneSurrogate => "lone leading surrogate in hex escape"
  | .trailingComma => "trailing comma"
  | .trailingText => "trailing characters"
  | .unfinishedSurrogate => "unexpected end of hex escape"
  | .tooDeep => "recursion limit exceeded"

/-- Why a text is not the JSON that was asked for, and where that shows. -/
structure Fault where
  reason : String
  place : Position
deriving Repr, DecidableEq

def Fault.ofCause (cause : Cause) (place : Position) : Fault :=
  ⟨cause.message, place⟩

def Fault.message (f : Fault) : String :=
  f.reason ++ " at line " ++ toString f.place.line ++ " column " ++ toString f.place.column

/-! ## 2. States -/

/-- Where a value is due: anywhere, right after `[`, or after a comma in a list. -/
inductive Due where
  | anywhere
  | listStart
  | listNext
deriving Repr, DecidableEq

/-- Inside a string: plain text, after a backslash, in a code of four digits, or between the two
    codes of a surrogate pair. -/
inductive Escape where
  | plain
  | backslash
  | code (high : Option Nat) (digits : List Char)
  | pairBackslash (high : Nat)
  | pairMark (high : Nat)
deriving Repr, DecidableEq

/-- How far a number has been read. -/
inductive NumberPhase where
  | sign
  | zero
  | whole
  | point
  | fraction
  | mark
  | markSign
  | exponent
deriving Repr, DecidableEq

inductive Mode where
  | value (due : Due)
  | key (first : Bool)
  | colon
  | next
  | done (v : Json)
  | text (asKey : Bool) (reversed : List Char) (escape : Escape)
  | number (t : NumberText) (phase : NumberPhase)
  | word (rest : List Char) (v : Json)

/-- An open array with its items, or an open object with its members and the key of the member that
    is being read; both last first. -/
inductive Frame where
  | list (items : List Json)
  | members (members : List (String × Json)) (key : String)

structure State where
  frames : List Frame := []
  mode : Mode := .value .anywhere

def depthLimit : Nat := 127

/-- The four characters JSON counts as space. -/
def isSpace (c : Char) : Bool :=
  c == ' ' || c == '\n' || c == '\t' || c == '\r'

/-- Hands a finished value to what encloses it. -/
def State.supply (v : Json) : List Frame → State
  | [] => ⟨[], .done v⟩
  | .list items :: fs => ⟨.list (v :: items) :: fs, .next⟩
  | .members ms key :: fs => ⟨.members ((key, v) :: ms) key :: fs, .next⟩

/-- Hands a finished string to what encloses it. -/
def State.supplyText (asKey : Bool) (s : String) : List Frame → State
  | .members ms key :: fs =>
    if asKey then ⟨.members ms s :: fs, .colon⟩
    else State.supply (.string s) (.members ms key :: fs)
  | fs => State.supply (.string s) fs

/-! ## 3. One character -/

def startValue (fs : List Frame) (c : Char) : Except Cause State :=
  if c.toNat = 0x22 then .ok ⟨fs, .text false [] .plain⟩
  else if c = '-' then .ok ⟨fs, .number ⟨true, [], none, none⟩ .sign⟩
  else if c = '0' then .ok ⟨fs, .number ⟨false, [c], none, none⟩ .zero⟩
  else if Decimal.isDigit c then .ok ⟨fs, .number ⟨false, [c], none, none⟩ .whole⟩
  else if c = 'n' then .ok ⟨fs, .word ['u', 'l', 'l'] .null⟩
  else if c = 't' then .ok ⟨fs, .word ['r', 'u', 'e'] (.bool true)⟩
  else if c = 'f' then .ok ⟨fs, .word ['a', 'l', 's', 'e'] (.bool false)⟩
  else if c = '[' then
    if fs.length < depthLimit then .ok ⟨.list [] :: fs, .value .listStart⟩ else .error .tooDeep
  else if c = openBrace then
    if fs.length < depthLimit then .ok ⟨.members [] "" :: fs, .key true⟩ else .error .tooDeep
  else .error .valueExpected

/-- After a value: the comma or the end of what encloses it. -/
def afterValue (c : Char) : List Frame → Except Cause State
  | [] => .error .trailingText
  | .list items :: fs =>
    if c = ',' then .ok ⟨.list items :: fs, .value .listNext⟩
    else if c = ']' then .ok (State.supply (.array items.reverse) fs)
    else .error .listEndExpected
  | .members ms key :: fs =>
    if c = ',' then .ok ⟨.members ms key :: fs, .key false⟩
    else if c = closeBrace then .ok (State.supply (.object ms.reverse) fs)
    else .error .objectEndExpected

/-- The number is over before `c`. -/
def afterNumber (fs : List Frame) (c : Char) (v : Json) : Except Cause State :=
  let s := State.supply v fs
  match s.mode with
  | .next => if isSpace c then .ok s else afterValue c s.frames
  | _ => if isSpace c then .ok s else .error .trailingText

/-- The next character of a number, or the first one after it. -/
def stepNumber (fs : List Frame) (t : NumberText) (c : Char) :
    NumberPhase → Except Cause State
  | .sign =>
    if c = '0' then .ok ⟨fs, .number { t with whole := [c] } .zero⟩
    else if Decimal.isDigit c then .ok ⟨fs, .number { t with whole := [c] } .whole⟩
    else .error .invalidNumber
  | .point =>
    if Decimal.isDigit c then .ok ⟨fs, .number { t with fraction := some [c] } .fraction⟩
    else .error .invalidNumber
  | .mark =>
    if c = '+' then .ok ⟨fs, .number { t with exponent := some (false, []) } .markSign⟩
    else if c = '-' then .ok ⟨fs, .number { t with exponent := some (true, []) } .markSign⟩
    else if Decimal.isDigit c then
      .ok ⟨fs, .number { t with exponent := some (false, [c]) } .exponent⟩
    else .error .invalidNumber
  | .markSign =>
    if Decimal.isDigit c then
      let t' := { t with exponent := t.exponent.map fun (s, ds) => (s, ds ++ [c]) }
      .ok ⟨fs, .number t' .exponent⟩
    else .error .invalidNumber
  | .exponent =>
    if Decimal.isDigit c then
      let t' := { t with exponent := t.exponent.map fun (s, ds) => (s, ds ++ [c]) }
      if t'.overflows then .error .numberRange else .ok ⟨fs, .number t' .exponent⟩
    else finish
  | .fraction =>
    if Decimal.isDigit c then
      .ok ⟨fs, .number { t with fraction := t.fraction.map (· ++ [c]) } .fraction⟩
    else if c = 'e' ∨ c = 'E' then .ok ⟨fs, .number t .mark⟩
    else finish
  | .whole =>
    if Decimal.isDigit c then .ok ⟨fs, .number { t with whole := t.whole ++ [c] } .whole⟩
    else if c = '.' then .ok ⟨fs, .number t .point⟩
    else if c = 'e' ∨ c = 'E' then .ok ⟨fs, .number t .mark⟩
    else finish
  | .zero =>
    if Decimal.isDigit c then .error .invalidNumber
    else if c = '.' then .ok ⟨fs, .number t .point⟩
    else if c = 'e' ∨ c = 'E' then .ok ⟨fs, .number t .mark⟩
    else finish
where
  finish : Except Cause State :=
    match t.value? with
    | some v => afterNumber fs c v
    | none => .error .numberRange

/-- The character of a one-letter escape. -/
def simpleEscape? (c : Char) : Option Char :=
  if c.toNat = 0x22 ∨ c = '\\' ∨ c = '/' then some c
  else if c = 'b' then some (Char.ofNat 8)
  else if c = 'f' then some (Char.ofNat 12)
  else if c = 'n' then some '\n'
  else if c = 'r' then some '\r'
  else if c = 't' then some '\t'
  else none

/-- The bytes that have been read of a code. A code takes four, whatever they hold. -/
def codeWidth (digits : List Char) : Nat := digits.foldl (fun n c => n + c.utf8Size) 0

/-- The code unit of four hexadecimal digits. -/
def codeUnit? (digits : List Char) : Option Nat :=
  if digits.all fun c => (Text.hexValue? c).isSome then some (Text.hexNumber digits) else none

/-- A code of four digits is complete. -/
def endCode (fs : List Frame) (asKey : Bool) (read : List Char) (high : Option Nat) (n : Nat) :
    Except Cause State :=
  match high with
  | none =>
    if 0xDC00 ≤ n ∧ n ≤ 0xDFFF then .error .loneSurrogate
    else if 0xD800 ≤ n ∧ n ≤ 0xDBFF then .ok ⟨fs, .text asKey read (.pairBackslash n)⟩
    else .ok ⟨fs, .text asKey (Char.ofNat n :: read) .plain⟩
  | some h =>
    if 0xDC00 ≤ n ∧ n ≤ 0xDFFF then
      let c := Char.ofNat ((h - 0xD800) * 0x400 + (n - 0xDC00) + 0x10000)
      .ok ⟨fs, .text asKey (c :: read) .plain⟩
    else .error .loneSurrogate

def stepText (fs : List Frame) (asKey : Bool) (read : List Char) (c : Char) :
    Escape → Except Cause State
  | .plain =>
    if c.toNat = 0x22 then .ok (State.supplyText asKey (String.ofList read.reverse) fs)
    else if c = '\\' then .ok ⟨fs, .text asKey read .backslash⟩
    else if c.toNat < 0x20 then .error .controlCharacter
    else .ok ⟨fs, .text asKey (c :: read) .plain⟩
  | .backslash =>
    if c = 'u' then .ok ⟨fs, .text asKey read (.code none [])⟩
    else match simpleEscape? c with
      | some d => .ok ⟨fs, .text asKey (d :: read) .plain⟩
      | none => .error .invalidEscape
  | .code high digits =>
    let digits := digits ++ [c]
    if codeWidth digits < 4 then .ok ⟨fs, .text asKey read (.code high digits)⟩
    else match codeUnit? digits with
      | some n => endCode fs asKey read high n
      | none => .error .invalidEscape
  | .pairBackslash high =>
    if c = '\\' then .ok ⟨fs, .text asKey read (.pairMark high)⟩
    else .error .unfinishedSurrogate
  | .pairMark high =>
    if c = 'u' then .ok ⟨fs, .text asKey read (.code (some high) [])⟩
    else .error .unfinishedSurrogate

def State.step (s : State) (c : Char) : Except Cause State :=
  match s.mode with
  | .text asKey read escape => stepText s.frames asKey read c escape
  | .number t phase => stepNumber s.frames t c phase
  | .word rest v =>
    match rest with
    | [] => .error .wordExpected
    | [d] => if c = d then .ok (State.supply v s.frames) else .error .wordExpected
    | d :: ds => if c = d then .ok { s with mode := .word ds v } else .error .wordExpected
  | .value due =>
    if isSpace c then .ok s
    else match due, s.frames with
      | .listStart, .list items :: fs =>
        if c = ']' then .ok (State.supply (.array items.reverse) fs) else startValue s.frames c
      | .listNext, _ => if c = ']' then .error .trailingComma else startValue s.frames c
      | _, _ => startValue s.frames c
  | .key first =>
    if isSpace c then .ok s
    else if c.toNat = 0x22 then .ok { s with mode := .text true [] .plain }
    else if c = closeBrace then
      match first, s.frames with
      | true, .members ms _ :: fs => .ok (State.supply (.object ms.reverse) fs)
      | _, _ => .error .trailingComma
    else .error .keyExpected
  | .colon =>
    if isSpace c then .ok s
    else if c = ':' then .ok { s with mode := .value .anywhere }
    else .error .colonExpected
  | .next => if isSpace c then .ok s else afterValue c s.frames
  | .done _ => if isSpace c then .ok s else .error .trailingText

/-! ## 4. A whole text -/

/-- The value at the end of the text. -/
def State.finish (s : State) : Except Cause Json :=
  match s.mode with
  | .done v => .ok v
  | .value .listStart => .error .endInList
  | .value _ => .error .endInValue
  | .key true => .error .endInObject
  | .key false => .error .endInValue
  | .colon => .error .endInObject
  | .next =>
    match s.frames with
    | .members _ _ :: _ => .error .endInObject
    | _ => .error .endInList
  | .text _ _ _ => .error .endInString
  | .word _ _ => .error .endInValue
  | .number t phase =>
    match phase with
    | .sign | .point | .mark | .markSign => .error .endInValue
    | _ =>
      match t.value?, s.frames with
      | none, _ => .error .numberRange
      | some v, [] => .ok v
      | some _, .list _ :: _ => .error .endInList
      | some _, .members _ _ :: _ => .error .endInObject

/-- Where the fault shows: a number out of range is noticed before the character that ends it, and a
    code that is none behind its four bytes. -/
def faultPlace (p : Position) (c : Char) (s : State) : Cause → Position
  | .numberRange =>
    match s.mode with
    | .number t .exponent => if Decimal.isDigit c ∨ t.overflows then p.afterByte c else p
    | _ => p
  | .invalidEscape =>
    match s.mode with
    | .text _ _ (.code _ digits) => p.afterBytes c (4 - codeWidth digits)
    | _ => p.afterByte c
  | _ => p.afterByte c

/-- How far a text could be read: the last state, and the fault that ended the reading. -/
structure Scan where
  state : State
  fault : Option Fault

def scan (s : State) (p : Position) : List Char → Scan
  | [] =>
    match s.finish with
    | .ok v => ⟨⟨[], .done v⟩, none⟩
    | .error cause => ⟨s, some (.ofCause cause p)⟩
  | c :: rest =>
    match s.step c with
    | .ok s' => scan s' (p.after c) rest
    | .error cause => ⟨s, some (.ofCause cause (faultPlace p c s cause))⟩

/-- The value of a text, members in the order of the text. -/
def read (text : String) : Except Fault Json :=
  match scan {} {} text.toList with
  | ⟨⟨_, .done v⟩, none⟩ => .ok v
  | ⟨_, some fault⟩ => .error fault
  | _ => .error (.ofCause .endInValue {})

/-- The value of a text in canonical form. -/
def parse (text : String) : Except Fault Json :=
  (read text).map canonical

end UsageGrid.Json
