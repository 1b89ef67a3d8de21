import UsageGrid.Calendar.Fields
import UsageGrid.Calendar.Format
import UsageGrid.Calendar.Names
import UsageGrid.Decimal.Reader

/-!
# Reading a date by a format

The items of a format take their part of the text one after the other and say fields; nothing of
the text may be left. Blanks of the format stand for any blanks, none among them, and a number may
have blanks in front. Numbers take as many digits as their width allows, years with a sign as many
as there are.
-/

namespace UsageGrid.Calendar

/-- The digits a number has at most; a time stamp may have any number of them. -/
def Quantity.width : Quantity → Option Nat
  | .year | .isoYear => some 4
  | .ordinal => some 3
  | .quarter | .daysFromSunday | .daysFromMonday => some 1
  | .nanosecond => some 9
  | .timestamp => none
  | _ => some 2

/-- A number that may have a sign. -/
def Quantity.isSigned : Quantity → Bool
  | .year | .isoYear => true
  | _ => false

/-- What a number says. -/
def Quantity.fields (q : Quantity) (v : Int) : List (Slot × Int) :=
  match q with
  | .year => [(.year, v)]
  | .century => [(.century, v)]
  | .yearOfCentury => [(.yearOfCentury, v)]
  | .isoYear => [(.isoYear, v)]
  | .isoYearOfCentury => [(.isoYearOfCentury, v)]
  | .quarter => [(.quarter, v)]
  | .month => [(.month, v)]
  | .day => [(.day, v)]
  | .weekFromSunday => [(.weekFromSunday, v)]
  | .weekFromMonday => [(.weekFromMonday, v)]
  | .isoWeek => [(.isoWeek, v)]
  | .daysFromSunday => [(.weekday, if v = 0 then 6 else if v < 7 then v - 1 else v)]
  | .daysFromMonday => [(.weekday, v - 1)]
  | .ordinal => [(.ordinal, v)]
  | .hour => [(.half, v / 12), (.hourOfHalf, v % 12)]
  | .hourOfHalf => [(.hourOfHalf, if v = 12 then 0 else if v = 0 then 12 else v)]
  | .minute => [(.minute, v)]
  | .second => [(.second, v)]
  | .nanosecond => [(.nanosecond, v)]
  | .timestamp => [(.timestamp, v)]

namespace Reader

/-- What an item takes from the text: the fields it says, and the text after it. -/
abbrev Taken := List (Slot × Int) × List Char

def dropBlanks (cs : List Char) : List Char := cs.dropWhile Text.isBlank

/-- A number of at most so many digits, one at least. -/
def digits? (most : Option Nat) (cs : List Char) : Option (Nat × List Char) :=
  let all := cs.takeWhile Decimal.isDigit
  let ds := all.take (most.getD all.length)
  if ds.isEmpty then none else some (Decimal.natOfDigits ds, cs.drop ds.length)

/-- A number with a sign or without; all its digits belong to one with a sign. -/
def signed? (most : Option Nat) (cs : List Char) : Option (Int × List Char) :=
  match cs with
  | '-' :: rest => (digits? none rest).map fun (n, rest) => (-(n : Int), rest)
  | '+' :: rest => (digits? none rest).map fun (n, rest) => ((n : Int), rest)
  | _ => (digits? most cs).map fun (n, rest) => ((n : Int), rest)

def number? (q : Quantity) (cs : List Char) : Option Taken :=
  let cs := dropBlanks cs
  let found :=
    if q.isSigned then signed? q.width cs
    else (digits? q.width cs).map fun (n, rest) => ((n : Int), rest)
  found.map fun (v, rest) => (q.fields v, rest)

/-- Exactly so many digits as a fraction of a second. -/
def fixedFraction? (n : Nat) (cs : List Char) : Option Taken :=
  let ds := cs.take n
  if ds.length = n ∧ ds.all Decimal.isDigit then
    some ([(.nanosecond, Decimal.natOfDigits ds * Nat.pow 10 (9 - n))], cs.drop n)
  else none

/-- Digits as a fraction of a second; those after the ninth count for nothing. -/
def anyFraction? (cs : List Char) : Option Taken :=
  let ds := (cs.takeWhile Decimal.isDigit).take 9
  if ds.isEmpty then none
  else some ([(.nanosecond, Decimal.natOfDigits ds * Nat.pow 10 (9 - ds.length))],
    cs.dropWhile Decimal.isDigit)

/-- A fraction with its point; there need not be one. -/
def fraction? (digits : Option Nat) : List Char → Option Taken
  | '.' :: rest =>
    match digits with
    | none => anyFraction? rest
    | some n => fixedFraction? n rest
  | cs => some ([], cs)

/-- The half of a day. -/
def half? (cs : List Char) : Option Taken :=
  match dropWord? ['a', 'm'] cs, dropWord? ['p', 'm'] cs with
  | some rest, _ => some ([(.half, 0)], rest)
  | none, some rest => some ([(.half, 1)], rest)
  | none, none => none

/-- Two digits. -/
def twoDigits? : List Char → Option (Nat × List Char)
  | a :: b :: rest =>
    if Decimal.isDigit a ∧ Decimal.isDigit b then some (Decimal.natOfDigits [a, b], rest) else none
  | _ => none

/-- The minutes of an offset, which may be missing at the end of the text. -/
def offsetMinutes? (mayMiss : Bool) (cs : List Char) : Option (Nat × List Char) :=
  match cs with
  | [] => if mayMiss then some (0, []) else none
  | _ => (twoDigits? cs).bind fun (m, rest) => if m < 60 then some (m, rest) else none

/-- A sign, hours and minutes; colons and blanks between them count for nothing. -/
def signedOffset? (mayMiss : Bool) (cs : List Char) : Option Taken :=
  match cs with
  | [] => none
  | c :: rest =>
    if c = '+' ∨ c = '-' ∨ c.toNat = 0x2212 then do
      let (h, rest) ← twoDigits? rest
      let (m, rest) ← offsetMinutes? mayMiss (rest.dropWhile fun c => c = ':' ∨ Text.isBlank c)
      let seconds : Int := 3600 * h + 60 * m
      pure ([(.offset, if c = '+' then seconds else -seconds)], rest)
    else none

/-- An offset from universal time. -/
def offset? (zulu mayMiss : Bool) (cs : List Char) : Option Taken :=
  match cs with
  | [] => none
  | c :: rest =>
    if zulu ∧ (c = 'Z' ∨ c = 'z') then some ([(.offset, 0)], rest) else signedOffset? mayMiss cs

/-- The offset of a time stamp, which may be a name of universal time. -/
def stampOffset? (cs : List Char) : Option Taken :=
  let cs := dropBlanks cs
  match dropWord? ['u', 't', 'c'] cs with
  | some rest => some ([(.offset, 0)], rest)
  | none => offset? true false cs

/-- What is due after a date in a time stamp. -/
def stampMark? : List Char → Option (List Char)
  | c :: rest => if c = 't' ∨ c = 'T' ∨ c = ' ' then some rest else none
  | [] => none

/-- What an item other than a time stamp takes. -/
def item? (i : Item) (cs : List Char) : Option Taken :=
  match i with
  | .literal text => if text.isPrefixOf cs then some ([], cs.drop text.length) else none
  | .space _ => some ([], dropBlanks cs)
  | .number q _ => number? q cs
  | .month long => (readName? monthNames long cs).map fun (i, rest) => ([(.month, i + 1)], rest)
  | .weekday long => (readName? weekdayNames long cs).map fun (i, rest) => ([(.weekday, i)], rest)
  | .half _ => half? cs
  | .fraction digits => fraction? digits cs
  | .bareFraction digits => fixedFraction? digits cs
  | .zoneName => some ([], cs.dropWhile fun c => !Text.isBlank c)
  | .offset _ => offset? false false (dropBlanks cs)
  | .looseOffset => offset? true true (dropBlanks cs)
  | .stamp => none

/-- The items of a time stamp before and after its mark. -/
def stampDate : Format :=
  [.number .year .zero, .space [], .literal ['-'], .number .month .zero, .space [], .literal ['-'],
    .number .day .zero]

def stampTime : Format :=
  [.number .hour .zero, .space [], .literal [':'], .number .minute .zero, .space [],
    .literal [':'], .number .second .zero, .fraction none, .space []]

/-- Items other than time stamps, one after the other. -/
def plainItems? (f : Fields) : Format → List Char → Option (Fields × List Char)
  | [], cs => some (f, cs)
  | i :: rest, cs => do
    let (said, cs) ← item? i cs
    plainItems? (← f.setAll? said) rest cs

/-- A whole time stamp. -/
def stamp? (f : Fields) (cs : List Char) : Option (Fields × List Char) := do
  let (f, cs) ← plainItems? f stampDate cs
  let (f, cs) ← plainItems? f stampTime (← stampMark? cs)
  let (said, cs) ← stampOffset? cs
  pure (← f.setAll? said, cs)

/-- Items one after the other. -/
def items? (f : Fields) : Format → List Char → Option (Fields × List Char)
  | [], cs => some (f, cs)
  | i :: rest, cs => do
    let (f, cs) ← match i with
      | .stamp => stamp? f cs
      | i => do
        let (said, cs) ← item? i cs
        pure (← f.setAll? said, cs)
    items? f rest cs

end Reader

/-- The date that a whole text gives by a format. -/
def Format.readDate? (format : Format) (text : List Char) : Option Date := do
  let (f, rest) ← Reader.items? {} format text
  guard rest.isEmpty
  f.toDate?

end UsageGrid.Calendar
