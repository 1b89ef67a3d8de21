import UsageGrid.Text.Blank

/-!
# Date formats

A format is a text in which specifiers such as `%Y` stand for the parts of a date or time. It is
read into items (`Format.ofText?`); a text with an unknown specifier is no format. A specifier of
several parts, such as `%F`, stands for its items one after the other.

A number may be padded otherwise than it is by nature: `%-m` without padding, `%_m` with blanks,
`%0m` with zeros. Nothing else can be padded.
-/

namespace UsageGrid.Calendar

/-- The numbers a format can name. -/
inductive Quantity where
  | year
  | century
  | yearOfCentury
  | isoYear
  | isoYearOfCentury
  | quarter
  | month
  | day
  | weekFromSunday
  | weekFromMonday
  | isoWeek
  | daysFromSunday
  | daysFromMonday
  | ordinal
  | hour
  | hourOfHalf
  | minute
  | second
  | nanosecond
  | timestamp
deriving Repr, DecidableEq

inductive Padding where
  | none
  | zero
  | blank
deriving Repr, DecidableEq

inductive Item where
  | literal (text : List Char)
  | space (text : List Char)
  | number (q : Quantity) (padding : Padding)
  | month (long : Bool)
  | weekday (long : Bool)
  | half (upper : Bool)
  | fraction (digits : Option Nat)
  | bareFraction (digits : Nat)
  | zoneName
  | offset (colons : Nat)
  | looseOffset
  | stamp
deriving Repr, DecidableEq

abbrev Format := List Item

namespace Format

/-! ## 1. Specifiers -/

/-- A number padded with zeros. -/
def zeroed (q : Quantity) : Item := .number q .zero

def sep (c : Char) : Item := .literal [c]

def blank : Item := .space [' ']

/-- Month, day and year of the century. -/
def slashDate : Format :=
  [zeroed .month, sep '/', zeroed .day, sep '/', zeroed .yearOfCentury]

/-- Hour, minute and second. -/
def clock : Format :=
  [zeroed .hour, sep ':', zeroed .minute, sep ':', zeroed .second]

/-- The number of a one-letter specifier and its natural padding. -/
def numbers : List (Char × Quantity × Padding) :=
  [('C', .century, .zero), ('G', .isoYear, .zero), ('H', .hour, .zero), ('I', .hourOfHalf, .zero),
    ('M', .minute, .zero), ('S', .second, .zero), ('U', .weekFromSunday, .zero),
    ('V', .isoWeek, .zero), ('W', .weekFromMonday, .zero), ('Y', .year, .zero), ('d', .day, .zero),
    ('e', .day, .blank), ('f', .nanosecond, .zero), ('g', .isoYearOfCentury, .zero),
    ('j', .ordinal, .zero), ('k', .hour, .blank), ('l', .hourOfHalf, .blank), ('m', .month, .zero),
    ('q', .quarter, .none), ('s', .timestamp, .none), ('u', .daysFromMonday, .none),
    ('w', .daysFromSunday, .none), ('y', .yearOfCentury, .zero)]

/-- The items of the other one-letter specifiers. -/
def others : List (Char × Format) :=
  [('A', [.weekday true]), ('B', [.month true]), ('D', slashDate),
    ('F', [zeroed .year, sep '-', zeroed .month, sep '-', zeroed .day]), ('P', [.half false]),
    ('R', [zeroed .hour, sep ':', zeroed .minute]), ('T', clock), ('X', clock), ('Z', [.zoneName]),
    ('a', [.weekday false]), ('b', [.month false]), ('h', [.month false]),
    ('c', [.weekday false, blank, .month false, blank, .number .day .blank, blank] ++ clock
      ++ [blank, zeroed .year]),
    ('n', [.space ['\n']]), ('p', [.half true]),
    ('r', [zeroed .hourOfHalf, sep ':', zeroed .minute, sep ':', zeroed .second, blank,
      .half true]),
    ('t', [.space ['\t']]),
    ('v', [.number .day .blank, sep '-', .month false, sep '-', zeroed .year]), ('x', slashDate),
    ('z', [.offset 0]), ('+', [.stamp]), ('%', [sep '%'])]

/-- How far the letters after a percent sign have come. -/
inductive Progress where
  | more
  | complete (items : Format)
  | unknown
deriving Repr, DecidableEq

/-- A number padded otherwise. -/
def padded (p : Padding) (c : Char) : Progress :=
  match numbers.lookup c with
  | some (q, _) => .complete [.number q p]
  | none => .unknown

/-- A specifier of one letter. -/
def single (c : Char) : Progress :=
  match numbers.lookup c, others.lookup c with
  | some (q, p), _ => .complete [.number q p]
  | none, some items => .complete items
  | none, none => .unknown

/-- The meaning of the letters after a percent sign. No specifier begins another. -/
def progress : List Char → Progress
  | ['-'] | ['0'] | ['_'] | ['#'] | ['.'] | [':'] | [':', ':'] | [':', ':', ':'] => .more
  | ['3'] | ['6'] | ['9'] | ['.', '3'] | ['.', '6'] | ['.', '9'] => .more
  | ['-', c] => padded .none c
  | ['0', c] => padded .zero c
  | ['_', c] => padded .blank c
  | ['#', 'z'] => .complete [.looseOffset]
  | [':', 'z'] => .complete [.offset 1]
  | [':', ':', 'z'] => .complete [.offset 2]
  | [':', ':', ':', 'z'] => .complete [.offset 3]
  | ['.', 'f'] => .complete [.fraction none]
  | ['.', c, 'f'] => .complete [.fraction (some (c.toNat - 48))]
  | [c, 'f'] => if c.isDigit then .complete [.bareFraction (c.toNat - 48)] else .unknown
  | [c] => single c
  | _ => .unknown

/-! ## 2. Formats -/

/-- Adds a character of plain text in front; blanks and other characters make items apart. -/
def addPlain (c : Char) : Format → Format
  | .space cs :: items =>
    if Text.isBlank c then .space (c :: cs) :: items else .literal [c] :: .space cs :: items
  | .literal cs :: items =>
    if Text.isBlank c then .space [c] :: .literal cs :: items else .literal (c :: cs) :: items
  | items => (if Text.isBlank c then .space [c] else .literal [c]) :: items

/-- The items of the rest of a text, where `seen` are the letters after a percent sign. -/
def itemsFrom : Option (List Char) → List Char → Option Format
  | none, [] => some []
  | some _, [] => none
  | none, c :: rest =>
    if c = '%' then itemsFrom (some []) rest else (itemsFrom none rest).map (addPlain c)
  | some seen, c :: rest =>
    match progress (seen ++ [c]) with
    | .more => itemsFrom (some (seen ++ [c])) rest
    | .complete items => (itemsFrom none rest).map (items ++ ·)
    | .unknown => none

/-- The items of a text, if it is a format. -/
def ofText? (text : String) : Option Format := itemsFrom none text.toList

/-- A text that is a format. -/
def isFormat (text : String) : Bool := (ofText? text).isSome

end Format

end UsageGrid.Calendar
