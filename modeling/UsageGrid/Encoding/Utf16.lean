import UsageGrid.Encoding.Utf8

/-!
# UTF-16

Bytes are paired into units in either order of bytes, and units into characters. A surrogate that
stands alone is a fault, and so is what is left at the end: a half unit, a high surrogate that still
waits, or both together as one.
-/

namespace UsageGrid.Encoding

inductive ByteOrder where
  | little
  | big
deriving Repr, DecidableEq

namespace Utf16

/-- The unit of two bytes. -/
def unit (order : ByteOrder) (first second : UInt8) : Nat :=
  match order with
  | .little => first.toNat + 256 * second.toNat
  | .big => 256 * first.toNat + second.toNat

def isHigh (n : Nat) : Bool := 0xD800 ≤ n && n ≤ 0xDBFF

def isLow (n : Nat) : Bool := 0xDC00 ≤ n && n ≤ 0xDFFF

/-- The units of the bytes, and whether half a unit is left. -/
def units (order : ByteOrder) : List UInt8 → List Nat × Bool
  | [] => ([], false)
  | [_] => ([], true)
  | a :: b :: rest =>
    let (us, half) := units order rest
    (unit order a b :: us, half)

/-- The pieces of units after a high surrogate that waits; `half` says whether half a unit
    follows them. -/
def pieces (half : Bool) : Option Nat → List Nat → List Piece
  | none, [] => if half then [none] else []
  | some _, [] => [none]
  | none, n :: rest =>
    if isHigh n then pieces half (some n) rest
    else if isLow n then none :: pieces half none rest
    else some (Char.ofNat n) :: pieces half none rest
  | some h, n :: rest =>
    if isLow n then
      some (Char.ofNat ((h - 0xD800) * 0x400 + (n - 0xDC00) + 0x10000)) :: pieces half none rest
    else if isHigh n then none :: pieces half (some n) rest
    else none :: some (Char.ofNat n) :: pieces half none rest

/-- The pieces that bytes decode to. -/
def decode (order : ByteOrder) (bytes : List UInt8) : List Piece :=
  let (us, half) := units order bytes
  pieces half none us

/-- The bytes of a unit. -/
def unitBytes (order : ByteOrder) (n : Nat) : List UInt8 :=
  match order with
  | .little => [(n % 256).toUInt8, (n / 256).toUInt8]
  | .big => [(n / 256).toUInt8, (n % 256).toUInt8]

/-- The bytes of one character. -/
def encodeChar (order : ByteOrder) (c : Char) : List UInt8 :=
  let n := c.toNat
  if n < 0x10000 then unitBytes order n
  else
    unitBytes order (0xD800 + (n - 0x10000) / 0x400)
      ++ unitBytes order (0xDC00 + (n - 0x10000) % 0x400)

/-- The bytes of a text. -/
def encode (order : ByteOrder) (cs : List Char) : List UInt8 :=
  cs.flatMap (encodeChar order)

/-- The mark that names the order of bytes. -/
def mark : ByteOrder → List UInt8
  | .little => [0xFF, 0xFE]
  | .big => [0xFE, 0xFF]

end Utf16

end UsageGrid.Encoding
