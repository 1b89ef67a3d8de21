import UsageGrid.Pattern.Escape

/-!
# Classes in brackets

A class between brackets joins characters, ranges, named classes and classes in brackets of its
own, and may be cut by the operators `&&`, `--` and `~~`, which are applied from left to right. It
is read with a stack of open brackets. With the set goes its depth: a bracket, a join of several
items and an operator are each one level.

Reading is bounded by the number of steps, the length of the text: each step takes a character.
-/

namespace UsageGrid.Pattern

open UsageGrid.Text

/-- How two sets of a class are joined. -/
inductive Joint where
  | inter
  | diff
  | symm
deriving Repr, DecidableEq

def Joint.apply (j : Joint) (a b : Ranges) : Ranges :=
  match j with
  | .inter => a.inter b
  | .diff => a.diff b
  | .symm => a.symmDiff b

/-- A set and how deep what it was read from is nested. -/
structure ReadSet where
  set : Ranges
  depth : Nat := 0

/-! ## 1. Open brackets -/

/-- An open bracket: whether it is negated, what stood before an operator, and the items read
    since, joined, with their number and greatest depth. -/
structure Bracket where
  negated : Bool
  left : Option (ReadSet × Joint) := none
  items : Ranges := Ranges.empty
  count : Nat := 0
  depth : Nat := 0

namespace Bracket

def add (b : Bracket) (s : ReadSet) : Bracket :=
  { b with items := b.items.union s.set, count := b.count + 1, depth := max b.depth s.depth }

/-- The items since the last operator. -/
def operand (b : Bracket) : ReadSet := ⟨b.items, if 1 < b.count then b.depth + 1 else b.depth⟩

/-- What the bracket holds so far, before negation. -/
def sum (f : Flags) (b : Bracket) : ReadSet :=
  match b.left with
  | none => b.operand
  | some (a, j) =>
    ⟨j.apply (f.fold a.set) (f.fold b.items), max a.depth b.operand.depth + 1⟩

def operator (f : Flags) (b : Bracket) (j : Joint) : Bracket :=
  { negated := b.negated, left := some (b.sum f, j) }

/-- The class as an item. -/
def close (f : Flags) (b : Bracket) : Except PatternError ReadSet := do
  let s := b.sum f
  pure ⟨← f.complementIf b.negated (f.fold s.set), s.depth + 1⟩

end Bracket

/-- Characters that stand for themselves one by one. -/
def Bracket.addChars (b : Bracket) (cs : List Char) : Bracket :=
  cs.foldl (fun b c => b.add ⟨Ranges.single c, 0⟩) b

/-- The negation and the characters that stand for themselves at the start of a bracket: dashes,
    or else one closing bracket. -/
def openBracket (f : Flags) (cs : List Char) : Bracket × List Char :=
  let cs := skipSpace f.verbose false cs
  let (isNegated, cs) := match cs with
    | '^' :: rest => (true, skipSpace f.verbose false rest)
    | _ => (false, cs)
  let b : Bracket := { negated := isNegated }
  match gatherAll f.verbose (· == '-') cs with
  | ([], ']' :: rest) => (b.addChars [']'], skipSpace f.verbose false rest)
  | (dashes, rest) => (b.addChars dashes, rest)

/-! ## 2. Items -/

/-- A named ASCII class, after its opening `[:`. -/
def readAsciiClass? (cs : List Char) : Option (Ranges × Bool × List Char) :=
  let (isNegated, cs) := match cs with
    | '^' :: rest => (true, rest)
    | _ => (false, cs)
  match cs.dropWhile (· ≠ ':') with
  | ':' :: ']' :: rest =>
    (asciiClasses.lookup (String.ofList (cs.takeWhile (· ≠ ':')))).map fun s => (s, isNegated, rest)
  | _ => none

/-- A character of a class, which is one of ASCII unless characters are Unicode, or a set that an
    escape names. -/
def readClassItem (f : Flags) (cs : List Char) :
    Except PatternError ((Char ⊕ Ranges) × List Char) := do
  let (item, rest) ← match cs with
    | [] => throw .unclosedClass
    | '\\' :: rest => do
      let (e, rest) ← readEscape f rest
      match e with
      | .char c => pure (.inl c, rest)
      | .set s => pure (.inr s, rest)
      | .look _ => throw .invalidEscape
    | c :: rest => pure (Sum.inl c, rest)
  match item with
  | .inl c => if !f.unicode ∧ 0x80 ≤ c.toNat then throw .noText
  | .inr _ => pure ()
  pure (item, rest)

/-- The character behind the next one, blanks and the start of one comment left out. -/
def peek (verbose : Bool) (cs : List Char) : Option Char :=
  let behind := cs.drop 1
  if !verbose then behind.head?
  else match behind.dropWhile isBlank with
    | '#' :: rest => (rest.dropWhile isBlank).head?
    | rest => rest.head?

/-- Whether a dash here continues a range. -/
def continuesRange (f : Flags) (cs : List Char) : Bool :=
  cs.head? == some '-' && peek f.verbose cs != some ']' && peek f.verbose cs != some '-'

/-- One item of a class: a range, a character or a named set. -/
def readClassRange (f : Flags) (cs : List Char) : Except PatternError (Ranges × List Char) := do
  let (first, rest) ← readClassItem f cs
  let rest := skipSpace f.verbose false rest
  if continuesRange f rest then
    let (last, rest') ← readClassItem f (after f.verbose rest)
    match first, last with
    | .inl lo, .inl hi =>
      if lo ≤ hi then pure ((Ranges.range lo hi).inter Ranges.all, rest')
      else throw .invalidRange
    | _, _ => throw .invalidRange
  else match first with
    | .inl c => pure (Ranges.single c, rest)
    | .inr s => pure (s, rest)

/-! ## 3. Classes -/

/-- The deepest nesting of a pattern. -/
def depthLimit : Nat := 250

/-- The rest of a class, with the brackets that are open, innermost first. -/
def readClass (f : Flags) :
    Nat → List Bracket → List Char → Except PatternError (ReadSet × List Char)
  | 0, _, _ => .error .unclosedClass
  | _, [], _ => .error .unclosedClass
  | steps + 1, b :: outer, cs =>
    match skipSpace f.verbose false cs with
    | [] => .error .unclosedClass
    | ']' :: rest => do
      let s ← b.close f
      if depthLimit < s.depth then throw .tooDeep
      match outer with
      | [] => pure (s, rest)
      | o :: outer => readClass f steps (o.add s :: outer) rest
    | '[' :: rest =>
      let named := match rest with
        | ':' :: rest => readAsciiClass? rest
        | _ => none
      match named with
      | some (s, isNegated, rest) => do
        let s ← f.complementIf isNegated (f.fold s)
        readClass f steps (b.add ⟨s, 0⟩ :: outer) rest
      | none =>
        if depthLimit < outer.length then .error .tooDeep
        else
          let (inner, rest) := openBracket f rest
          readClass f steps (inner :: b :: outer) rest
    | '&' :: '&' :: rest => readClass f steps (b.operator f .inter :: outer) rest
    | '-' :: '-' :: rest => readClass f steps (b.operator f .diff :: outer) rest
    | '~' :: '~' :: rest => readClass f steps (b.operator f .symm :: outer) rest
    | cs => do
      let (s, rest) ← readClassRange f cs
      readClass f steps (b.add ⟨s, 0⟩ :: outer) rest

/-- A class, after its opening bracket. -/
def readBracket (f : Flags) (cs : List Char) : Except PatternError (ReadSet × List Char) :=
  let (b, rest) := openBracket f cs
  readClass f (cs.length + 1) [b] rest

end UsageGrid.Pattern
