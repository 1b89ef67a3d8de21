/-!
# Sets of characters as ranges

A set of characters is the list of its code point ranges, in order and apart from each other:

* `Ranges.ofPairs` brings any ranges into that form, `Ranges.ofLines` reads a table;
* `union`, `diff`, `inter`, `symmDiff` and `complement` keep it;
* `contains` walks the list up to the code point.

Tables are written in hexadecimal, items apart by one space: `41-5A` is a range, `AA` one code
point, and `100-12E/2` every second code point of a range.
-/

namespace UsageGrid.Text

/-! ## 1. Hexadecimal numbers -/

/-- The value of a hexadecimal digit of either case. -/
def hexValue? (c : Char) : Option Nat :=
  if '0' ≤ c ∧ c ≤ '9' then some (c.toNat - 48)
  else if 'a' ≤ c ∧ c ≤ 'f' then some (c.toNat - 87)
  else if 'A' ≤ c ∧ c ≤ 'F' then some (c.toNat - 55)
  else none

/-- Digits that are none count as zero: the tables hold digits only. -/
def hexNumber (cs : List Char) : Nat :=
  cs.foldl (fun n c => 16 * n + (hexValue? c).getD 0) 0

/-- The pieces between separators, as many as there are separators and one more. -/
def splitOnChar (sep : Char) (cs : List Char) : List (List Char) :=
  cs.foldr
    (fun c pieces =>
      if c = sep then [] :: pieces
      else match pieces with
        | [] => [[c]]
        | p :: ps => (c :: p) :: ps)
    [[]]

/-- The items of several lines. -/
def itemsOf (lines : List String) : List (List Char) :=
  lines.flatMap fun line => splitOnChar ' ' line.toList

/-! ## 2. Ranges in order -/

/-- A set of code points, given by inclusive ranges in order. -/
structure Ranges where
  items : List (Nat × Nat)
deriving Repr, DecidableEq

namespace Ranges

/-- Whether a code point lies in one of the ranges, which are in order. -/
def reach (n : Nat) : List (Nat × Nat) → Bool
  | [] => false
  | (lo, hi) :: rest => if n < lo then false else if n ≤ hi then true else reach n rest

def contains (r : Ranges) (c : Char) : Bool := reach c.toNat r.items

def isEmpty (r : Ranges) : Bool := r.items.isEmpty

/-- Joins a range with those after it that overlap or adjoin it. -/
def absorb (lo hi : Nat) : List (Nat × Nat) → List (Nat × Nat)
  | [] => [(lo, hi)]
  | (a, b) :: rest => if a ≤ hi + 1 then absorb lo (max hi b) rest else (lo, hi) :: absorb a b rest

/-- Ranges sorted by their lower ends, joined where they meet. -/
def joined : List (Nat × Nat) → List (Nat × Nat)
  | [] => []
  | (lo, hi) :: rest => absorb lo hi rest

def startsFirst (p q : Nat × Nat) : Bool := p.1 ≤ q.1

/-- The set of ranges in any order. -/
def ofPairs (ps : List (Nat × Nat)) : Ranges := ⟨joined (ps.mergeSort startsFirst)⟩

/-- What is left of ranges when others are taken away. -/
def cut : List (Nat × Nat) → List (Nat × Nat) → List (Nat × Nat)
  | [], _ => []
  | rs, [] => rs
  | (a, b) :: rs, (c, d) :: cs =>
    if d < a then cut ((a, b) :: rs) cs
    else if b < c then (a, b) :: cut rs ((c, d) :: cs)
    else
      let before := if a < c then [(a, c - 1)] else []
      if b ≤ d then before ++ cut rs ((c, d) :: cs)
      else before ++ cut ((d + 1, b) :: rs) cs
termination_by rs cs => rs.length + cs.length

/-! ## 3. Sets -/

def empty : Ranges := ⟨[]⟩

/-- Every character: all code points but the surrogates. -/
def all : Ranges := ⟨[(0, 0xD7FF), (0xE000, 0x10FFFF)]⟩

def ascii : Ranges := ⟨[(0, 0x7F)]⟩

def range (lo hi : Char) : Ranges := ⟨[(lo.toNat, hi.toNat)]⟩

def single (c : Char) : Ranges := range c c

def ofChars (cs : List Char) : Ranges := ofPairs (cs.map fun c => (c.toNat, c.toNat))

def union (a b : Ranges) : Ranges := ⟨joined (List.merge a.items b.items startsFirst)⟩

def unions (rs : List Ranges) : Ranges := ofPairs (rs.flatMap items)

def diff (a b : Ranges) : Ranges := ⟨cut a.items b.items⟩

def inter (a b : Ranges) : Ranges := a.diff (a.diff b)

/-- In one of two sets and not in both. -/
def symmDiff (a b : Ranges) : Ranges := (a.diff b).union (b.diff a)

def complement (a : Ranges) : Ranges := all.diff a

def complementIf (on : Bool) (a : Ranges) : Ranges := if on then a.complement else a

/-! ## 4. Tables -/

/-- The code points from one to another in steps. -/
def stepped (lo hi step : Nat) : List (Nat × Nat) :=
  (List.range ((hi - lo) / step + 1)).map fun i => (lo + step * i, lo + step * i)

/-- The ranges of one item of a table. -/
def ofItem (item : List Char) : List (Nat × Nat) :=
  match splitOnChar '/' item with
  | [bounds, step] =>
    match splitOnChar '-' bounds with
    | [lo, hi] => stepped (hexNumber lo) (hexNumber hi) (hexNumber step)
    | _ => []
  | _ =>
    match splitOnChar '-' item with
    | [lo, hi] => [(hexNumber lo, hexNumber hi)]
    | _ => [(hexNumber item, hexNumber item)]

/-- Reads a table. -/
def ofLines (lines : List String) : Ranges := ofPairs ((itemsOf lines).flatMap ofItem)

end Ranges

end UsageGrid.Text

/-!
## Sets of characters with names

Categories, scripts and other properties are found by name. Names are compared loosely: case,
spaces, hyphens and low lines do not count, nor does a leading `is`, nor any character outside
ASCII.
-/

namespace UsageGrid.Text

/-- A set with the names it goes by. -/
structure NamedSet where
  names : List String
  set : Ranges
deriving Repr, DecidableEq

/-- What counts of a name. -/
def significant (name : List Char) : List Char :=
  (name.filter fun c => c.toNat < 0x80 && c != ' ' && c != '_' && c != '-').map Char.toLower

/-- A name as it is compared. `is` alone in front of `c` is part of the name: it abbreviates
    another property than `c` does. -/
def looseName (name : List Char) : List Char :=
  match name with
  | i :: s :: rest =>
    if (i = 'i' ∨ i = 'I') ∧ (s = 's' ∨ s = 'S') then
      let bare := significant rest
      if bare = ['c'] then ['i', 's', 'c'] else bare
    else significant name
  | _ => significant name

/-- The set of a name. -/
def NamedSet.find? (table : List NamedSet) (name : List Char) : Option Ranges :=
  let loose := looseName name
  (table.find? fun s => s.names.any fun n => significant n.toList == loose).map NamedSet.set

end UsageGrid.Text
