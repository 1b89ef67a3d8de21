import UsageGrid.Settings.Lines
import UsageGrid.Text.Letters

/-!
# Entries of a settings file

An entry gives a name a value: `NAME=value`, or `export NAME=value`. The value may be quoted, in
part or as a whole; outside single quotes `$NAME` and `${NAME}` stand for the value of another
name. After a blank nothing but a comment may follow.
-/

namespace UsageGrid.Settings

/-- A part of a value. -/
inductive Piece where
  | char (c : Char)
  | reference (name : String)
deriving Repr, DecidableEq

structure Entry where
  name : String
  value : List Piece
deriving Repr, DecidableEq

/-! ## 1. Values -/

/-- What the next character of a value means: inside double quotes or not, right after a backslash,
    inside single quotes, after the end of the value, or in the name of a reference, last character
    first. -/
inductive Reading where
  | plain (double : Bool)
  | escaped (double : Bool)
  | single
  | over
  | bare (double : Bool) (name : List Char)
  | braced (double : Bool) (name : List Char)
deriving Repr, DecidableEq

def openBrace : Char := Char.ofNat 0x7B
def closeBrace : Char := Char.ofNat 0x7D

def reference (reversed : List Char) : Piece := .reference (String.ofList reversed.reverse)

/-- The character that an escape stands for. -/
def escape? (c : Char) : Option Char :=
  if c = 'n' then some '\n'
  else if c = '\\' ∨ c = singleQuote ∨ c = doubleQuote ∨ c = '$' ∨ c = ' ' then some c
  else none

/-- One character outside single quotes and references. -/
def plainPiece (double : Bool) (c : Char) : Reading × List Piece :=
  if c = '$' then (.bare double [], [])
  else if c = '\\' then (.escaped double, [])
  else if c = doubleQuote then (.plain (!double), [])
  else if double then (.plain true, [.char c])
  else if c = singleQuote then (.single, [])
  else if c = ' ' ∨ c = '\t' then (.over, [])
  else (.plain false, [.char c])

/-- One character right after a name without braces. It stands for itself, also if it is a quote. -/
def afterName (double : Bool) (name : List Char) (c : Char) : Reading × List Piece :=
  if c = '$' then (.bare double [], [reference name])
  else (.plain double, [reference name, .char c])

/-- The pieces of the rest of a value, if it is well formed. -/
def pieces : Reading → List Char → Option (List Piece)
  | .plain double, [] => if double then none else some []
  | .escaped double, [] => if double then none else some []
  | .single, [] => none
  | .over, [] => some []
  | .bare double name, [] => if double then none else some [reference name]
  | .braced _ _, [] => none
  | .plain double, c :: rest =>
    let (next, here) := plainPiece double c
    (pieces next rest).map (here ++ ·)
  | .escaped double, c :: rest =>
    match escape? c with
    | some d => (pieces (.plain double) rest).map (.char d :: ·)
    | none => none
  | .single, c :: rest =>
    if c = singleQuote then pieces (.plain false) rest else (pieces .single rest).map (.char c :: ·)
  | .over, c :: rest =>
    if c = ' ' ∨ c = '\t' then pieces .over rest else if c = '#' then some [] else none
  | .bare double name, c :: rest =>
    if Text.isAlphanumeric c then pieces (.bare double (c :: name)) rest
    else if c = openBrace ∧ name = [] then pieces (.braced double []) rest
    else
      let (next, here) := afterName double name c
      (pieces next rest).map (here ++ ·)
  | .braced double name, c :: rest =>
    if c = closeBrace then (pieces (.plain double) rest).map (reference name :: ·)
    else pieces (.braced double (c :: name)) rest

/-! ## 2. Lines -/

def isNameStart (c : Char) : Bool := c.isAlpha || c == '_'

def isNameChar (c : Char) : Bool := c.isAlphanum || c == '_' || c == '.'

/-- The name at the start of a text, and what follows it and blanks. -/
def name? (cs : List Char) : Option (String × List Char) :=
  if cs.head?.any isNameStart then
    some (String.ofList (cs.takeWhile isNameChar), (cs.dropWhile isNameChar).dropWhile Text.isBlank)
  else none

/-- What follows an equals sign and blanks. -/
def afterEquals? : List Char → Option (List Char)
  | '=' :: rest => some (rest.dropWhile Text.isBlank)
  | _ => none

/-- The value that stands behind the equals sign. -/
def value? (cs : List Char) : Option (List Piece) :=
  if cs.head?.all (· = '#') then some [] else pieces (.plain false) cs

/-- The name of an entry and what stands behind its equals sign. The word `export` before a name is
    passed over; it may be a name itself. -/
def named? (cs : List Char) : Option (String × List Char) := do
  let (name, rest) ← name? cs
  match afterEquals? rest with
  | some value => pure (name, value)
  | none =>
    if name = "export" then
      let (name, rest) ← name? rest
      pure (name, ← afterEquals? rest)
    else none

/-- What a line holds. -/
inductive Content where
  | nothing
  | entry (e : Entry)
  | broken
deriving Repr, DecidableEq

def contentOf (line : List Char) : Content :=
  let cs := Text.trimChars line
  if cs.head?.all (· = '#') then .nothing
  else
    match named? cs with
    | none => .broken
    | some (name, rest) =>
      match value? rest with
      | none => .broken
      | some value => .entry ⟨name, value⟩

/-- The entries of a file, up to the first line that is broken. -/
def entriesFrom : List (Option (List Char)) → List Entry
  | [] => []
  | none :: _ => []
  | some line :: rest =>
    match contentOf line with
    | .nothing => entriesFrom rest
    | .entry e => e :: entriesFrom rest
    | .broken => []

def entriesOf (bytes : List UInt8) : List Entry := entriesFrom (linesOf (textOf bytes))

end UsageGrid.Settings
