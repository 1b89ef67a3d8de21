import UsageGrid.Decimal.Shortest

/-!
# How a number is laid out

A number is written from its shortest digits. Where the point falls decides between positional and
scientific form; the choices are one `Layout` value:

* `Layout.json`: positional from `0.00001` to `9999999999999999.0`, else with an exponent; a
  whole number keeps `.0`;
* `Layout.plain`: always positional, a whole number without a point.
-/

namespace UsageGrid.Decimal

/-- The decisions of a written form. `pointFrom` and `pointTo` bound the places of the point,
    counted from before the first digit, at which the positional form is used. -/
structure Layout where
  tie : Tie
  pointFrom : Option Int
  pointTo : Option Int
  keepsPoint : Bool

/-- Numbers inside JSON text. -/
def Layout.json : Layout := ⟨.even, some (-4), some 16, true⟩

/-- Numbers shown in a message or read as cell text. -/
def Layout.plain : Layout := ⟨.up, none, none, false⟩

def zeros (n : Nat) : List Char := List.replicate n '0'

/-- Digits with the point before the digit number `point`, zeros filling the gap. -/
def positional (layout : Layout) (digits : List Char) (point : Int) : List Char :=
  let n : Int := digits.length
  if point ≤ 0 then '0' :: '.' :: (zeros (-point).toNat ++ digits)
  else if n ≤ point then
    digits ++ zeros (point - n).toNat ++ (if layout.keepsPoint then ['.', '0'] else [])
  else digits.take point.toNat ++ '.' :: digits.drop point.toNat

/-- One digit before the point, then the exponent with its sign. -/
def scientific (digits : List Char) (point : Int) : List Char :=
  let mantissa := match digits with
    | d :: e :: rest => d :: '.' :: e :: rest
    | ds => ds
  let sign := if 1 ≤ point then ['+'] else []
  mantissa ++ 'e' :: sign ++ (toString (point - 1)).toList

def Layout.isPositional (layout : Layout) (point : Int) : Bool :=
  (layout.pointFrom.all (· ≤ point)) && (layout.pointTo.all (point ≤ ·))

/-- The written form of a number. -/
def Layout.render (layout : Layout) (x : Binary64) : String :=
  let sign := if x.negative then ['-'] else []
  if x.mantissa = 0 then
    String.ofList (sign ++ '0' :: (if layout.keepsPoint then ['.', '0'] else []))
  else
    let d := shortest layout.tie x
    let digits := Nat.toDigits 10 d.digits
    let point := d.scale + digits.length
    String.ofList (sign ++
      if layout.isPositional point then positional layout digits point
      else scientific digits point)

/-- A value rounded to a whole number, with the sign of a zero kept. -/
def wholeText (x : Binary64) : String :=
  let n := x.nearestInt.natAbs
  (if x.negative then "-" else "") ++ toString n

end UsageGrid.Decimal
