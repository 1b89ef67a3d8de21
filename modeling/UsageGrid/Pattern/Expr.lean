import UsageGrid.Pattern.NamedClass

/-!
# Regular expressions

The expression that a pattern stands for once its flags have been applied: characters in a row, sets
of characters, places in the text, numbered groups, repetitions that take as much or as little as
they can, sequences, and alternatives of which the first that leads to a match counts.

Expressions are built by `ofSet`, `repetition`, `sequence` and `choice`, which bring them into a
simple form: what cannot take a character is not repeated, characters in a row are one literal,
alternatives that are sets are one set, and what all alternatives begin with stands before them.
-/

namespace UsageGrid

open UsageGrid.Text

/-- A place between two characters. At the edges of words, `wide` says whether words are made of the
    characters of all scripts or of ASCII. -/
inductive Look where
  | textStart
  | textEnd
  | lineStart
  | lineEnd
  | crlfLineStart
  | crlfLineEnd
  | wordEdge (wide : Bool)
  | noWordEdge (wide : Bool)
  | wordStart (wide : Bool)
  | wordEnd (wide : Bool)
  | wordStartHalf (wide : Bool)
  | wordEndHalf (wide : Bool)
deriving DecidableEq

inductive Expr where
  | empty
  | literal (cs : List Char)
  | set (s : Ranges)
  | look (l : Look)
  | group (index : Nat) (e : Expr)
  | repeated (least : Nat) (most : Option Nat) (greedy : Bool) (e : Expr)
  | seq (a b : Expr)
  | alt (a b : Expr)
deriving DecidableEq

/-! ## 1. Places -/

/-- Whether there is a character, and words are made of it. -/
def isWordChar (wide : Bool) (c : Option Char) : Bool :=
  c.any fun c => if wide then wordCharacter.contains c else Pattern.asciiWord.contains c

/-- Whether a place lies between these two neighbours. -/
def Look.holds (before after : Option Char) : Look → Bool
  | .textStart => before.isNone
  | .textEnd => after.isNone
  | .lineStart => before.isNone || before == some '\n'
  | .lineEnd => after.isNone || after == some '\n'
  | .crlfLineStart =>
    before.isNone || before == some '\n' || (before == some '\r' && after != some '\n')
  | .crlfLineEnd =>
    after.isNone || after == some '\r' || (after == some '\n' && before != some '\r')
  | .wordEdge w => isWordChar w before != isWordChar w after
  | .noWordEdge w => isWordChar w before == isWordChar w after
  | .wordStart w => !isWordChar w before && isWordChar w after
  | .wordEnd w => isWordChar w before && !isWordChar w after
  | .wordStartHalf w => !isWordChar w before
  | .wordEndHalf w => !isWordChar w after

namespace Expr

/-! ## 2. Lengths -/

/-- The number of bytes of a code point. -/
def bytesOf (n : Nat) : Nat :=
  if n < 0x80 then 1 else if n < 0x800 then 2 else if n < 0x10000 then 3 else 4

def literalLength (cs : List Char) : Nat := cs.foldl (fun n c => n + bytesOf c.toNat) 0

/-- The fewest bytes of a match; nothing if there is no match. -/
def minLength : Expr → Option Nat
  | .empty | .look _ => some 0
  | .literal cs => some (literalLength cs)
  | .set s => s.items.head?.map fun (lo, _) => bytesOf lo
  | .group _ e => e.minLength
  | .repeated least _ _ e => e.minLength.map (· * least)
  | .seq a b => do pure ((← a.minLength) + (← b.minLength))
  | .alt a b => do pure (min (← a.minLength) (← b.minLength))

/-- The most bytes of a match; nothing if there is no bound or no match. -/
def maxLength : Expr → Option Nat
  | .empty | .look _ => some 0
  | .literal cs => some (literalLength cs)
  | .set s => s.items.getLast?.map fun (_, hi) => bytesOf hi
  | .group _ e => e.maxLength
  | .repeated _ most _ e => do pure ((← e.maxLength) * (← most))
  | .seq a b => do pure ((← a.maxLength) + (← b.maxLength))
  | .alt a b => do pure (max (← a.maxLength) (← b.maxLength))

/-- Whether the expression can match without taking a character. -/
def nullable : Expr → Bool
  | .empty => true
  | .literal cs => cs.isEmpty
  | .set _ => false
  | .look _ => true
  | .group _ e => e.nullable
  | .repeated least _ _ e => least == 0 || e.nullable
  | .seq a b => a.nullable && b.nullable
  | .alt a b => a.nullable || b.nullable

/-- Whether every match begins at the start of the text, as far as the form shows it. -/
def startsText : Expr → Bool
  | .look .textStart => true
  | .group _ e => e.startsText
  | .repeated least _ _ e => 0 < least && e.startsText
  | .seq a b => a.startsText || (a.maxLength == some 0 && b.startsText)
  | .alt a b => a.startsText && b.startsText
  | _ => false

/-- Whether every match stops at the end of the text, as far as the form shows it. -/
def endsText : Expr → Bool
  | .look .textEnd => true
  | .group _ e => e.endsText
  | .repeated least _ _ e => 0 < least && e.endsText
  | .seq a b => b.endsText || (b.maxLength == some 0 && a.endsText)
  | .alt a b => a.endsText && b.endsText
  | _ => false

/-! ## 3. Simple forms -/

/-- A set; of a single character, that character. -/
def ofSet (s : Ranges) : Expr :=
  match s.items with
  | [(lo, hi)] => if lo = hi then .literal [Char.ofNat lo] else .set s
  | _ => .set s

/-- A repetition. What can take no character is matched once at most. -/
def repetition (least : Nat) (most : Option Nat) (greedy : Bool) (e : Expr) : Expr :=
  let (least, most) :=
    if e.maxLength = some 0 then (min least 1, some (min (most.getD 1) 1)) else (least, most)
  if least = 0 ∧ most = some 0 then .empty
  else if least = 1 ∧ most = some 1 then e
  else .repeated least most greedy e

/-- The members of a sequence. -/
def parts : Expr → List Expr
  | .empty => []
  | .seq a b => a :: b.parts
  | e => [e]

/-- The members of a choice. -/
def branches : Expr → List Expr
  | .alt a b => a :: b.branches
  | e => [e]

def ofParts : List Expr → Expr
  | [] => .empty
  | [e] => e
  | e :: rest => .seq e (ofParts rest)

def ofBranches : List Expr → Expr
  | [] => .set Ranges.empty
  | [e] => e
  | e :: rest => .alt e (ofBranches rest)

/-- Puts an expression before others, joining two literals. -/
def prepend (e : Expr) (rest : List Expr) : List Expr :=
  match e, rest with
  | .literal cs, .literal ds :: more => .literal (cs ++ ds) :: more
  | e, rest => e :: rest

/-- Expressions one after the other. -/
def sequence (es : List Expr) : Expr := ofParts ((es.flatMap parts).foldr prepend [])

/-- The character that an expression is. -/
def char? : Expr → Option Char
  | .literal [c] => some c
  | _ => none

/-- The set that an expression is. -/
def set? : Expr → Option Ranges
  | .set s => some s
  | _ => none

/-- The set of alternatives that are all characters, or all sets. -/
def setOfAll? (es : List Expr) : Option Ranges :=
  (es.mapM char?).map Ranges.ofChars <|> (es.mapM set?).map Ranges.unions

/-- The number of members at the front that two sequences share. -/
def shared : List Expr → List Expr → Nat
  | a :: as, b :: bs => if a = b then shared as bs + 1 else 0
  | _, _ => 0

/-- The number of members that all alternatives begin with, if each is a sequence of several. -/
def sharedByAll (es : List Expr) : Nat :=
  match es.map parts with
  | [] => 0
  | first :: rest =>
    if es.all fun e => 2 ≤ e.parts.length then
      rest.foldl (fun n ps => min n (shared first ps)) first.length
    else 0

/-- Alternatives in order of preference. Taking out what they share leaves shorter ones, so the
    steps are bounded by their lengths. -/
def choiceWithin : Nat → List Expr → Expr
  | 0, es => ofBranches es
  | steps + 1, es =>
    let es := es.flatMap branches
    if es.length < 2 then ofBranches es
    else match setOfAll? es with
      | some s => ofSet s
      | none =>
        let n := sharedByAll es
        if n = 0 then ofBranches es
        else
          let before := (es.head?.map parts).getD [] |>.take n
          let after := es.map fun e => sequence (e.parts.drop n)
          sequence (before ++ [choiceWithin steps after])

def choice (es : List Expr) : Expr :=
  choiceWithin (es.foldl (fun n e => n + e.parts.length) 1) es

end Expr

end UsageGrid
