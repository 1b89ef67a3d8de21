import UsageGrid.Pattern.Bracket
import UsageGrid.Pattern.Footprint
import UsageGrid.Text.Letters

/-!
# Reading a pattern

The written form of a pattern is read from left to right with a stack of open groups. Flags act
while reading: they decide what a letter, a dot or an edge stands for, so the expression that comes
out knows no flags. With every item goes its depth: a class, a repetition, a group, a sequence of
several items and a choice are each one level, and there is a limit to them. `Expr.ofText?` gives
the expression and the number of groups, or why the text is no pattern.

The text is read with a bound on the steps, its length: each step takes a character.
-/

namespace UsageGrid

namespace Pattern

open UsageGrid.Text

/-! ## 1. Groups -/

/-- An item of a sequence, with its depth. A directive that only sets flags matches nothing and
    cannot be repeated. -/
structure Item where
  expr : Expr
  depth : Nat := 0
  isDirective : Bool := false

/-- Items one after the other. -/
def Item.sequence (items : List Item) : Item :=
  match items with
  | [item] => { item with isDirective := false }
  | _ =>
    { expr := Expr.sequence (items.map Item.expr)
      depth := if items.isEmpty then 0 else items.foldl (fun d i => max d i.depth) 0 + 1 }

/-- Alternatives, two at least. -/
def Item.choice (items : List Item) : Item :=
  { expr := Expr.choice (items.map Item.expr)
    depth := items.foldl (fun d i => max d i.depth) 0 + 1 }

/-- An open group: how it will stand in the expression, the flags to restore, the alternatives and
    the items before it, last first. -/
structure Level where
  index : Option Nat
  flags : Flags
  branches : List Item := []
  items : List Item := []

/-- The items read since the last bar. -/
def Level.branch (l : Level) : Item := Item.sequence l.items.reverse

def Level.add (l : Level) (i : Item) : Level := { l with items := i :: l.items }

def Level.bar (l : Level) : Level := { l with branches := l.branch :: l.branches, items := [] }

/-- What stands in the group. -/
def Level.body (l : Level) : Item :=
  if l.branches.isEmpty then l.branch else Item.choice (l.branch :: l.branches).reverse

/-- The group as an item. -/
def Level.close (l : Level) : Item :=
  let body := l.body
  let expr := match l.index with
    | some i => .group i body.expr
    | none => body.expr
  { expr, depth := body.depth + 1 }

structure Reading where
  level : Level
  outer : List Level := []
  flags : Flags := {}
  groups : Nat := 0
  names : List (List Char) := []

def Reading.addItem (r : Reading) (i : Item) : Reading := { r with level := r.level.add i }

def Reading.add (r : Reading) (e : Expr) : Reading := r.addItem { expr := e }

/-- Repeats the last item, as much as can be or, if asked, as little. -/
def Reading.repeatLast (r : Reading) (least : Nat) (most : Option Nat) (lazily : Bool) :
    Except PatternError Reading :=
  match r.level.items with
  | [] => .error .nothingToRepeat
  | i :: items =>
    if i.isDirective then .error .nothingToRepeat
    else if depthLimit ≤ i.depth then .error .tooDeep
    else
      let greedy := lazily == r.flags.swapsGreed
      let item : Item :=
        { expr := Expr.repetition least most greedy i.expr, depth := i.depth + 1 }
      .ok { r with level := { r.level with items := item :: items } }

/-- Repeats the last item; a question mark that follows at once asks for as little as can be. -/
def Reading.repeatUncounted (r : Reading) (least : Nat) (most : Option Nat) (cs : List Char) :
    Except PatternError (Reading × List Char) := do
  match cs with
  | '?' :: rest => pure (← r.repeatLast least most true, rest)
  | _ => pure (← r.repeatLast least most false, cs)

/-- Repeats the last item by the counts after an opening brace. -/
def Reading.repeatCounted (r : Reading) (cs : List Char) :
    Except PatternError (Reading × List Char) := do
  let ((least, most), rest) ← readBounds r.flags.verbose cs
  if !rest.head?.any isClosingBrace then throw .invalidCount
  r.repeatUncounted least most (after r.flags.verbose rest)

def Reading.openGroup (r : Reading) (index : Option Nat) (flags : Flags) : Reading :=
  { r with level := { index, flags := r.flags }, outer := r.level :: r.outer, flags }

def Reading.openNumbered (r : Reading) : Reading :=
  { r.openGroup (some (r.groups + 1)) r.flags with groups := r.groups + 1 }

def isNameChar (first : Bool) (c : Char) : Bool :=
  c == '_' || (if first then isAlphabetic c
    else c == '.' || c == '[' || c == ']' || isAlphanumeric c)

/-- The name of a group, after its angle bracket. -/
def Reading.openNamed (r : Reading) (cs : List Char) : Except PatternError (Reading × List Char) :=
  let name := cs.takeWhile (· ≠ '>')
  match cs.dropWhile (· ≠ '>'), name with
  | [], _ => .error .invalidGroupName
  | _, [] => .error .invalidGroupName
  | _ :: rest, c :: more =>
    if !(isNameChar true c && more.all (isNameChar false)) then .error .invalidGroupName
    else if r.names.contains name then .error .duplicateGroupName
    else .ok ({ r.openNumbered with names := name :: r.names }, rest)

/-- Flags for the rest of the group, or for a group of their own. -/
def Reading.openFlagged (r : Reading) (cs : List Char) :
    Except PatternError (Reading × List Char) := do
  if cs.isEmpty then throw .unclosedGroup
  let (flags, rest) ← readFlags r.flags false false [] cs
  match rest with
  | ')' :: after =>
    if cs.head? = some ')' then throw .nothingToRepeat
    pure ({ r.addItem { expr := .empty, isDirective := true } with flags }, after)
  | _ :: after => pure (r.openGroup none flags, after)
  | [] => throw .unclosedGroup

/-- An opening bracket and what it says about its group. -/
def Reading.startGroup (r : Reading) (cs : List Char) : Except PatternError (Reading × List Char) :=
  if depthLimit < r.outer.length then .error .tooDeep
  else match skipSpace r.flags.verbose false cs with
    | '?' :: '=' :: _ | '?' :: '!' :: _ | '?' :: '<' :: '=' :: _ | '?' :: '<' :: '!' :: _ =>
      .error .lookAround
    | '?' :: 'P' :: '<' :: rest => r.openNamed rest
    | '?' :: '<' :: rest => r.openNamed rest
    | '?' :: rest => r.openFlagged rest
    | cs => .ok (r.openNumbered, cs)

def Reading.closeGroup (r : Reading) : Except PatternError Reading :=
  match r.outer with
  | [] => .error .unopenedGroup
  | l :: outer =>
    let item := r.level.close
    if depthLimit < item.depth then .error .tooDeep
    else .ok { r with level := l.add item, outer, flags := r.level.flags }

/-! ## 2. Items -/

/-- A character that stands for itself. -/
def literal (f : Flags) (c : Char) : Expr := Expr.ofSet (f.fold (Ranges.single c))

/-- Every character but a line end, or every one. -/
def dot (f : Flags) : Except PatternError Expr :=
  if !f.unicode then .error .noText
  else if f.dotAll then .ok (.set Ranges.all)
  else if f.crlf then .ok (.set (Ranges.ofChars ['\n', '\r']).complement)
  else .ok (.set (Ranges.single '\n').complement)

def lineStart (f : Flags) : Look :=
  if f.multiLine then if f.crlf then .crlfLineStart else .lineStart else .textStart

def lineEnd (f : Flags) : Look :=
  if f.multiLine then if f.crlf then .crlfLineEnd else .lineEnd else .textEnd

/-- The next item, operator or bracket of a pattern. -/
def Reading.step (r : Reading) (c : Char) (rest : List Char) :
    Except PatternError (Reading × List Char) :=
  let f := r.flags
  if c = '(' then r.startGroup rest
  else if c = ')' then do pure (← r.closeGroup, rest)
  else if c = '|' then .ok ({ r with level := r.level.bar }, rest)
  else if c = '[' then do
    let (s, rest) ← readBracket f rest
    pure (r.addItem { expr := Expr.ofSet s.set, depth := s.depth }, rest)
  else if c = '?' then r.repeatUncounted 0 (some 1) rest
  else if c = '*' then r.repeatUncounted 0 none rest
  else if c = '+' then r.repeatUncounted 1 none rest
  else if isOpeningBrace c then r.repeatCounted rest
  else if c = '.' then do pure (r.add (← dot f), rest)
  else if c = '^' then .ok (r.add (.look (lineStart f)), rest)
  else if c = '$' then .ok (r.add (.look (lineEnd f)), rest)
  else if c = '\\' then do
    let (e, rest) ← readEscape f rest
    match e with
    | .char d => pure (r.add (literal f d), rest)
    | .set s => pure (r.add (Expr.ofSet s), rest)
    | .look l => pure (r.add (.look l), rest)
  else .ok (r.add (literal f c), rest)

/-! ## 3. The whole pattern -/

def readAll : Nat → Reading → List Char → Except PatternError Reading
  | 0, _, _ => .error .unclosedGroup
  | steps + 1, r, cs =>
    match skipSpace r.flags.verbose false cs with
    | [] => .ok r
    | c :: rest => do
      let (r, rest) ← r.step c rest
      readAll steps r rest

end Pattern

/-- The expression of a pattern, and the number of its groups. -/
def Expr.ofText? (text : String) : Except PatternError (Expr × Nat) := do
  let cs := text.toList
  let r ← Pattern.readAll (cs.length + 1) { level := { index := none, flags := {} } } cs
  if !r.outer.isEmpty then throw .unclosedGroup
  let body := r.level.body
  if Pattern.depthLimit < body.depth then throw .tooDeep
  if !body.expr.fits then throw .tooLarge
  pure (body.expr, r.groups)

end UsageGrid
