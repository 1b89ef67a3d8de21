/-!
# Session ids

A session is known by a number of 128 bits, written as five groups of hexadecimal digits.
-/

namespace UsageGrid.Dataflow

structure SessionId where
  bits : Nat
deriving Repr, DecidableEq

namespace SessionId

/-- The lowest hexadecimal digits of a number, the highest of them first. -/
def hexDigits (n : Nat) : Nat → List Char
  | 0 => []
  | k + 1 => hexDigits (n / 16) k ++ [Nat.digitChar (n % 16)]

/-- Digits in groups of the given sizes. -/
def grouped (digits : List Char) : List Nat → List (List Char)
  | [] => []
  | k :: rest => digits.take k :: grouped (digits.drop k) rest

def label (id : SessionId) : String :=
  "-".intercalate ((grouped (hexDigits id.bits 32) [8, 4, 4, 4, 12]).map String.ofList)

end SessionId

end UsageGrid.Dataflow
