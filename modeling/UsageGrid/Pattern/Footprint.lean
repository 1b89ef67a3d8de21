import UsageGrid.Pattern.Expr

/-!
# The size of a pattern

A pattern may be no larger than ten mebibytes when it is laid out as an automaton over the bytes of
UTF-8, once for reading forwards and once for reading backwards. A state takes 32 bytes, each way
out of a set of bytes eight more and each way out of a choice four more.

* `utf8Sequences` writes a set of characters as sequences of byte ranges;
* forwards, a set is laid out with equal tails shared, backwards with equal heads; what can be
  shared is looked up in a table whose slots hold one entry each, the last one;
* `measure` walks an expression as the layout does, for the number of a state decides its slot;
* `Expr.fits` says whether both layouts stay within the limit.
-/

namespace UsageGrid

open UsageGrid.Text

/-! ## 1. Characters as bytes -/

/-- The bytes of a code point. -/
def utf8Bytes (n : Nat) : List Nat :=
  if n < 0x80 then [n]
  else if n < 0x800 then [0xC0 + n / 64, 0x80 + n % 64]
  else if n < 0x10000 then [0xE0 + n / 4096, 0x80 + n / 64 % 64, 0x80 + n % 64]
  else [0xF0 + n / 262144, 0x80 + n / 4096 % 64, 0x80 + n / 64 % 64, 0x80 + n % 64]

/-- Where a range must be parted so that its ends are written with bytes that differ by ranges:
    between lengths of encodings, and where the last `i` bytes do not run from least to greatest. -/
def parting? (lo hi : Nat) : Option Nat :=
  let lengths := [0x80, 0x800, 0x10000].find? fun m => decide (lo < m) && decide (m ≤ hi)
  let tails := [64, 4096, 262144].findSome? fun m =>
    if lo / m = hi / m then none
    else if lo % m ≠ 0 then some ((lo / m + 1) * m)
    else if hi % m ≠ m - 1 then some (hi / m * m)
    else none
  lengths <|> if hi < 0x80 then none else tails

/-- The byte sequences of a range of code points. -/
def rangeSequences (lo hi : Nat) : List (List (Nat × Nat)) :=
  match parting? lo hi with
  | none => [(utf8Bytes lo).zip (utf8Bytes hi)]
  | some m =>
    if _h : lo < m ∧ m ≤ hi then rangeSequences lo (m - 1) ++ rangeSequences m hi
    else [(utf8Bytes lo).zip (utf8Bytes hi)]
termination_by hi - lo

/-- The byte sequences of a set, in order. -/
def utf8Sequences (s : Ranges) : List (List (Nat × Nat)) :=
  s.items.flatMap fun (lo, hi) => rangeSequences lo hi

/-! ## 2. Tables of shared states -/

/-- One step of the hash that finds the slot of an entry. -/
def hashStep (h : UInt64) (n : Nat) : UInt64 := (h ^^^ n.toUInt64) * 1099511628211

def hashStart : UInt64 := 14695981039346656037

/-- States by what they are, in slots of one entry. -/
structure Slots (α : Type) where
  entries : Array (Option (α × Nat))

namespace Slots

variable {α : Type} [BEq α]

def ofSize (n : Nat) : Slots α := ⟨Array.replicate n none⟩

def slot (s : Slots α) (hash : UInt64) : Nat := hash.toNat % s.entries.size

def find? (s : Slots α) (slot : Nat) (key : α) : Option Nat :=
  match s.entries.getD slot none with
  | some (k, state) => if k == key then some state else none
  | none => none

def put (s : Slots α) (slot : Nat) (key : α) (state : Nat) : Slots α :=
  ⟨s.entries.setIfInBounds slot (some (key, state))⟩

end Slots

/-! ## 3. Sets forwards -/

/-- A way on by a range of bytes. -/
structure Way where
  lo : Nat
  hi : Nat
  next : Nat
deriving BEq

/-- A node that may get more ways: those that are settled, and the bytes of the last one, which goes
    to the node above. -/
structure OpenNode where
  ways : Array Way := #[]
  last : Option (Nat × Nat) := none

def OpenNode.settle (n : OpenNode) (next : Nat) : OpenNode :=
  match n.last with
  | some (lo, hi) => ⟨n.ways.push ⟨lo, hi, next⟩, none⟩
  | none => n

/-- A set as it is laid out forwards: the states and ways so far, the state that all sequences lead
    to, and the nodes of the sequence last added, from the root on. -/
structure Forwards where
  states : Nat
  ways : Nat := 0
  goal : Nat
  table : Slots (Array Way)
  spine : List OpenNode := [{}]

namespace Forwards

def hash (ways : Array Way) : UInt64 :=
  ways.foldl (fun h w => hashStep (hashStep (hashStep h w.lo) w.hi) w.next) hashStart

/-- The state of a node, new unless there is one in the table. -/
def close (f : Forwards) (ways : Array Way) : Nat × Forwards :=
  let slot := f.table.slot (hash ways)
  match f.table.find? slot ways with
  | some state => (state, f)
  | none =>
    (f.states,
      { f with
        states := f.states + 1
        ways := f.ways + ways.size
        table := f.table.put slot ways f.states })

/-- Closes nodes from the outermost on, given last first, each leading to the one before. -/
def closeAll (f : Forwards) (next : Nat) : List OpenNode → Nat × Forwards
  | [] => (next, f)
  | n :: rest =>
    let (state, f) := f.close (n.settle next).ways
    closeAll f state rest

/-- Closes the nodes past the first `keep + 1` of the spine. -/
def trim (f : Forwards) (keep : Nat) : Forwards :=
  let (next, f') := f.closeAll f.goal (f.spine.drop (keep + 1)).reverse
  let kept := f.spine.take (keep + 1)
  { f' with spine := kept.dropLast ++ (kept.getLast?.map (·.settle next)).toList }

/-- The number of bytes at the front that a sequence shares with the spine. -/
def shared : List (Nat × Nat) → List OpenNode → Nat
  | b :: bs, n :: ns => if n.last = some b then shared bs ns + 1 else 0
  | _, _ => 0

def addSequence (f : Forwards) (bytes : List (Nat × Nat)) : Forwards :=
  let n := shared bytes f.spine
  let f := f.trim n
  match bytes.drop n with
  | [] => f
  | b :: rest =>
    let top := f.spine.getLast?.map fun node => { node with last := some b }
    { f with spine := f.spine.dropLast ++ top.toList ++ rest.map fun b => { last := some b } }

/-- The root is closed last. -/
def finish (f : Forwards) : Forwards :=
  let f := f.trim 0
  (f.close ((f.spine.head?.map OpenNode.ways).getD #[])).2

end Forwards

/-- The states and ways that a set adds forwards to a number of states. -/
def layForwards (states : Nat) (s : Ranges) : Nat × Nat :=
  let f : Forwards := { states := states + 1, goal := states, table := Slots.ofSize 10000 }
  let f := ((utf8Sequences s).foldl Forwards.addSequence f).finish
  (f.states - states, f.ways)

/-! ## 4. Sets backwards -/

/-- A byte range before a state. -/
structure Before where
  state : Nat
  lo : Nat
  hi : Nat
deriving BEq

/-- A sequence laid out backwards: its first byte leads to the goal, and each byte to the one before
    it. -/
def layBytes (table : Slots Before) (states next : Nat) :
    List (Nat × Nat) → Slots Before × Nat
  | [] => (table, states)
  | (lo, hi) :: rest =>
    let key : Before := ⟨next, lo, hi⟩
    let slot := table.slot (hashStep (hashStep (hashStep hashStart next) lo) hi)
    match table.find? slot key with
    | some state => layBytes table states state rest
    | none => layBytes (table.put slot key states) (states + 1) states rest

/-- The states that a set adds backwards to a number of states, and the number of its sequences,
    which a choice leads to. -/
def layBackwards (states : Nat) (s : Ranges) : Nat × Nat :=
  let sequences := utf8Sequences s
  let (_, n) := sequences.foldl
    (fun (table, n) bytes => layBytes table n (states + 1) bytes)
    (Slots.ofSize 1000, states + 2)
  (n - states, sequences.length)

/-! ## 5. Literals that are alternatives -/

/-- The ways of a node by their byte, each with the words that go on behind it. Words are gathered
    up to one that stops here; from there on they are kept apart. -/
structure Chunk where
  ways : List (Nat × List (List Nat)) := []

/-- Adds a word to the node of its first byte. -/
def Chunk.add (c : Chunk) (b : Nat) (word : List Nat) : Chunk :=
  if c.ways.any (·.1 == b) then
    ⟨c.ways.map fun (a, words) => if a = b then (a, words ++ [word]) else (a, words)⟩
  else ⟨c.ways ++ [(b, [word])]⟩

/-- The chunks of a node, last first. A word that stops here begins a new one, unless nothing has
    gone on from here and a word has stopped here before. -/
def chunksOf (words : List (List Nat)) : List Chunk :=
  words.foldl
    (fun chunks word =>
      match word, chunks with
      | b :: rest, c :: cs => c.add b rest :: cs
      | [], [c] => ⟨[]⟩ :: [c]
      | [], cs => if cs.all (·.ways.isEmpty) then cs else ⟨[]⟩ :: cs
      | b :: rest, [] => [Chunk.add ⟨[]⟩ b rest])
    [⟨[]⟩]

/-- The states, ways of sets and ways of choices of a tree of words, of at most so many letters. -/
def treeSize : Nat → List (List Nat) → Nat × Nat × Nat
  | 0, _ => (0, 0, 0)
  | depth + 1, words =>
    let chunks := chunksOf words
    let filled := chunks.filter fun c => !c.ways.isEmpty
    let own : Nat × Nat × Nat :=
      (filled.length + 1,
        filled.foldl (fun n c => if 1 < c.ways.length then n + c.ways.length else n) 0,
        filled.length + (chunks.length - 1))
    (chunks.flatMap (·.ways)).foldl
      (fun (n, s, u) (_, words) =>
        if words.all List.isEmpty then (n, s, u)
        else
          let (n', s', u') := treeSize depth words
          (n + n', s + s', u + u'))
      own

/-! ## 6. Expressions -/

/-- The bytes that a layout may take. -/
def footprintLimit : Nat := 10 * 1024 * 1024

/-- A layout so far: the number of its states, and the bytes they take beyond their own. -/
structure Layout where
  states : Nat := 0
  extra : Nat := 0

/-- More states and bytes, up to the limit. -/
def Layout.grow (l : Layout) (states extra : Nat) : Option Layout :=
  let l : Layout := ⟨l.states + states, l.extra + extra⟩
  if 32 * l.states + l.extra ≤ footprintLimit then some l else none

/-- A layout, and whether what was laid out last stops in a choice, so that going on from there is
    one way more. -/
abbrev Laid := Layout × Bool

/-- The bytes of going on. -/
def onward (choice : Bool) : Nat := if choice then 4 else 0

/-- Lays out the same thing several times more, each after the one before. -/
def again (body : Layout → Option Laid) : Nat → Laid → Option Laid
  | 0, laid => some laid
  | n + 1, (l, choice) =>
    match body l with
    | none => none
    | some (l, next) =>
      match l.grow 0 (onward choice) with
      | none => none
      | some l => again body n (l, next)

/-- Lays out the same thing a number of times. -/
def exactly (body : Layout → Option Laid) (n : Nat) (l : Layout) : Option Laid :=
  match n with
  | 0 => (l.grow 1 0).map (·, false)
  | n + 1 => do again body n (← body l)

/-- Lays out turns that may each be the last. -/
def optional (body : Layout → Option Laid) : Nat → Laid → Option Laid
  | 0, (l, choice) => (l.grow 0 (onward choice)).map (·, false)
  | n + 1, (l, choice) =>
    match l.grow 1 0 with
    | none => none
    | some l =>
      match body l with
      | none => none
      | some (l, next) =>
        match l.grow 0 (onward choice + 8) with
        | none => none
        | some l => optional body n (l, next)

/-- Lays out a repetition without an upper bound. `takes` says that every turn takes a byte. -/
def unbounded (body : Layout → Option Laid) (takes : Bool) (least : Nat) (l : Layout) :
    Option Laid := do
  if least = 0 then
    if takes then
      let (l, choice) ← body (← l.grow 1 0)
      pure (← l.grow 0 (4 + onward choice), true)
    else
      let (l, choice) ← body l
      pure (← l.grow 3 (16 + onward choice), false)
  else if least = 1 then
    let (l, choice) ← body l
    pure (← l.grow 1 (4 + onward choice), true)
  else
    let (l, before) ← exactly body (least - 1) l
    let (l, choice) ← body l
    pure (← l.grow 1 (4 + onward before + onward choice), true)

def layRepetition (body : Layout → Option Laid) (takes : Bool) (least : Nat) (most : Option Nat)
    (l : Layout) : Option Laid :=
  match most with
  | none => unbounded body takes least l
  | some most =>
    if least = 0 ∧ most = 1 then do
      let (l, choice) ← body (← l.grow 1 0)
      pure (← l.grow 1 (8 + onward choice), false)
    else if least = most then exactly body least l
    else do
      let (l, choice) ← exactly body least l
      optional body (most - least) (← l.grow 1 0, choice)

/-- Lays out a set: of ASCII, in one state. -/
def laySet (backwards : Bool) (s : Ranges) (l : Layout) : Option Laid :=
  if s.items.all fun (_, hi) => hi < 0x80 then (l.grow 2 (8 * s.items.length)).map (·, false)
  else if backwards then
    let (states, sequences) := layBackwards l.states s
    (l.grow states (4 * sequences)).map (·, false)
  else
    let (states, ways) := layForwards l.states s
    (l.grow states (8 * ways)).map (·, false)

/-- Alternatives that are all literals share what they begin with, or stop with. -/
def layWords (backwards : Bool) (words : List (List Char)) (l : Layout) : Option Laid :=
  let words := words.map fun cs => cs.flatMap fun c => utf8Bytes c.toNat
  let words := if backwards then words.map List.reverse else words
  let longest := words.foldl (fun n w => max n w.length) 0
  let (states, ways, choices) := treeSize (longest + 1) words
  (l.grow (states + 1) (8 * ways + 4 * choices)).map (·, false)

/-- The literals that an expression chooses from, if it does so from nothing else. -/
def Expr.words? : Expr → Option (List (List Char))
  | .literal cs => some [cs]
  | .alt (.literal cs) b => b.words?.map (cs :: ·)
  | _ => none

/-- Lays out an expression behind what there is. In a choice, `further` says that the choice has
    been opened already. -/
def measure (backwards : Bool) : Expr → Layout → Option Laid
  | .empty, l | .look _, l => (l.grow 1 0).map (·, false)
  | .literal cs, l => (l.grow (max 1 (Expr.literalLength cs)) 0).map (·, false)
  | .set s, l => laySet backwards s l
  | .group _ e, l =>
    if backwards then measure backwards e l
    else do
      let (l, choice) ← measure backwards e (← l.grow 1 0)
      pure (← l.grow 1 (onward choice), false)
  | .repeated least most _ e, l =>
    layRepetition (measure backwards e) (e.minLength.any (0 < ·)) least most l
  | .seq a b, l =>
    if backwards then do
      let (l, choice) ← measure backwards b l
      let (l, stop) ← measure backwards a l
      pure (← l.grow 0 (onward choice), stop)
    else do
      let (l, choice) ← measure backwards a l
      let (l, stop) ← measure backwards b l
      pure (← l.grow 0 (onward choice), stop)
  | .alt a b, l =>
    match (Expr.alt a b).words? with
    | some words => layWords backwards words l
    | none => do
      let (l, choice) ← measure backwards a l
      measureRest backwards false (← l.grow 0 (onward choice + 4)) b
where
  /-- The alternatives after the first. The second opens the choice. -/
  measureRest (backwards opened : Bool) (l : Layout) : Expr → Option Laid
    | .alt a b => do
      let (l, choice) ← measure backwards a l
      measureRest backwards true (← l.grow (if opened then 0 else 2) (onward choice + 4)) b
    | e => do
      let (l, choice) ← measure backwards e l
      pure (← l.grow (if opened then 0 else 2) (onward choice + 4), false)

/-- Lays out a whole pattern: the way to its start, unless it stands at one end of the text, the
    expression as group zero, and the end. -/
def measureWhole (backwards : Bool) (e : Expr) : Option Layout := do
  let fixed := if backwards then e.endsText else e.startsText
  let l ← if fixed then Layout.grow {} 1 0 else Layout.grow {} 3 16
  if backwards then
    let (l, choice) ← measure backwards e l
    l.grow 1 (onward choice)
  else
    let (l, _) ← measure backwards (.group 0 e) l
    l.grow 1 0

/-- Whether a pattern is small enough. -/
def Expr.fits (e : Expr) : Bool := (measureWhole false e).isSome && (measureWhole true e).isSome

end UsageGrid
