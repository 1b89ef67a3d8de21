/-!
# UTF-8

Bytes are decoded one at a time. `Pending` holds the character that is not complete yet: what has
been gathered of it, how many bytes are owed, and which bytes may come next. A byte that does not
fit ends the pending character as a fault and is read afresh, so every fault is one longest piece
that no character starts with.
-/

namespace UsageGrid.Encoding

/-- A character or a fault in its place. -/
abbrev Piece := Option Char

/-- The character that stands for a fault. -/
def replacement : Char := Char.ofNat 0xFFFD

/-- Decoded text, each fault replaced. -/
def lossy (pieces : List Piece) : List Char :=
  pieces.map (·.getD replacement)

/-- Decoded text, if there is no fault. -/
def exactly? (pieces : List Piece) : Option (List Char) :=
  pieces.mapM id

namespace Utf8

/-- An unfinished character: its bits so far, the bytes owed, and the bounds of the next byte. -/
structure Pending where
  value : Nat
  owed : Nat
  least : Nat
  greatest : Nat
deriving Repr, DecidableEq

/-- What a first byte starts: a whole character, a pending one, or a fault. -/
inductive Start where
  | whole (c : Char)
  | pending (p : Pending)
  | fault

def start (b : Nat) : Start :=
  if b < 0x80 then .whole (Char.ofNat b)
  else if b < 0xC2 then .fault
  else if b < 0xE0 then .pending ⟨b - 0xC0, 1, 0x80, 0xBF⟩
  else if b = 0xE0 then .pending ⟨0, 2, 0xA0, 0xBF⟩
  else if b = 0xED then .pending ⟨0xD, 2, 0x80, 0x9F⟩
  else if b < 0xF0 then .pending ⟨b - 0xE0, 2, 0x80, 0xBF⟩
  else if b = 0xF0 then .pending ⟨0, 3, 0x90, 0xBF⟩
  else if b < 0xF4 then .pending ⟨b - 0xF0, 3, 0x80, 0xBF⟩
  else if b = 0xF4 then .pending ⟨4, 3, 0x80, 0x8F⟩
  else .fault

/-- The pending character with one more byte. -/
def Pending.extend (p : Pending) (b : Nat) : Start :=
  let value := p.value * 64 + (b - 0x80)
  if p.owed ≤ 1 then .whole (Char.ofNat value) else .pending ⟨value, p.owed - 1, 0x80, 0xBF⟩

/-- The pieces of the bytes after a pending character. -/
def decodeFrom : Option Pending → List UInt8 → List Piece
  | none, [] => []
  | some _, [] => [none]
  | pending, b :: rest =>
    let n := b.toNat
    let (fault, begun) := match pending with
      | none => ([], start n)
      | some p => if p.least ≤ n ∧ n ≤ p.greatest then ([], p.extend n) else ([none], start n)
    fault ++ match begun with
      | .whole c => some c :: decodeFrom none rest
      | .pending p => decodeFrom (some p) rest
      | .fault => none :: decodeFrom none rest

/-- The pieces that bytes decode to. -/
def decode (bytes : List UInt8) : List Piece :=
  decodeFrom none bytes

/-- The bytes of one character. -/
def encodeChar (c : Char) : List UInt8 :=
  let n := c.toNat
  if n < 0x80 then [n.toUInt8]
  else if n < 0x800 then [(0xC0 + n / 64).toUInt8, (0x80 + n % 64).toUInt8]
  else if n < 0x10000 then
    [(0xE0 + n / 4096).toUInt8, (0x80 + n / 64 % 64).toUInt8, (0x80 + n % 64).toUInt8]
  else
    [(0xF0 + n / 262144).toUInt8, (0x80 + n / 4096 % 64).toUInt8, (0x80 + n / 64 % 64).toUInt8,
      (0x80 + n % 64).toUInt8]

/-- The bytes of a text. -/
def encode (cs : List Char) : List UInt8 :=
  cs.flatMap encodeChar

/-- The mark that may stand in front of a text. -/
def mark : List UInt8 := [0xEF, 0xBB, 0xBF]

end Utf8

end UsageGrid.Encoding
