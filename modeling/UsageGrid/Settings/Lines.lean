import UsageGrid.Encoding.Utf8
import UsageGrid.Text.Blank

/-!
# Lines of a settings file

A line of settings may go on over several lines of the file, as long as a quote is open. It ends
before a comment: a `#` after blanks outside quotes. A line that begins with `#` is a comment
altogether. If the file ends inside a line, that line is broken, and nothing comes after it.
-/

namespace UsageGrid.Settings

/-! ## 1. Where a line is -/

def doubleQuote : Char := Char.ofNat 0x22
def singleQuote : Char := Char.ofNat 0x27

inductive Spot where
  | plain
  | escape
  | blank
  | comment
  | quoted (mark : Char)
  | quotedEscape (mark : Char)
deriving Repr, DecidableEq

/-- Outside quotes, not right after blanks. -/
def plainStep (c : Char) : Spot :=
  if Text.isBlank c && c ≠ '\n' && c ≠ '\r' then .blank
  else if c = '\\' then .escape
  else if c = doubleQuote ∨ c = singleQuote then .quoted c
  else .plain

def blankStep (c : Char) : Spot :=
  if c = '#' then .comment
  else if c = '\\' then .escape
  else if c = doubleQuote ∨ c = singleQuote then .quoted c
  else .plain

def Spot.step (s : Spot) (c : Char) : Spot :=
  match s with
  | .plain => plainStep c
  | .blank => blankStep c
  | .escape => .plain
  | .quoted mark =>
    if c = '\\' then .quotedEscape mark else if c = mark then .plain else .quoted mark
  | .quotedEscape mark => .quoted mark
  | .comment => .comment

/-- Where a line of the file leads, and what of it stands before a comment. -/
def scanLine (s : Spot) (read : List Char) : List Char → Spot × List Char
  | [] => (s, read.reverse)
  | c :: rest =>
    match s.step c with
    | .comment => (.comment, read.reverse)
    | s' => scanLine s' (c :: read) rest

/-! ## 2. Lines -/

/-- The lines of a file with their line feeds. `read` is the current one, last character first. -/
def rawLines (read : List Char) : List Char → List (List Char)
  | [] => if read.isEmpty then [] else [read.reverse]
  | c :: rest =>
    if c = '\n' then (c :: read).reverse :: rawLines [] rest else rawLines (c :: read) rest

/-- A line without its line feed and a carriage return before it. -/
def dropEnding (line : List Char) : List Char :=
  match line.reverse with
  | '\n' :: '\r' :: rest => rest.reverse
  | '\n' :: rest => rest.reverse
  | _ => line

/-- The line begins with the mark of a comment. -/
def isComment (line : List Char) : Bool := (line.dropWhile Text.isBlank).head? = some '#'

/-- The lines of settings; nothing stands for a broken one. `before` is the part of the current
    line that has been read. -/
def settingLines (before : List Char) (s : Spot) : List (List Char) → List (Option (List Char))
  | [] => if s = .plain then [] else [none]
  | line :: rest =>
    let whole := before ++ line
    if isComment whole then some [] :: settingLines [] .plain rest
    else
      match scanLine s [] line with
      | (.plain, _) => some (dropEnding whole) :: settingLines [] .plain rest
      | (.comment, kept) => some (before ++ kept) :: settingLines [] .plain rest
      | (s', _) => settingLines whole s' rest

/-- The text of a file up to the first line that is no UTF-8. -/
def textOf (bytes : List UInt8) : List Char :=
  let pieces := Encoding.Utf8.decode bytes
  let text := (pieces.takeWhile Option.isSome).filterMap id
  if text.length = pieces.length then text
  else (text.reverse.dropWhile (· ≠ '\n')).reverse

/-- The lines of settings in a file. A byte order mark in front does not belong to them. -/
def linesOf (text : List Char) : List (Option (List Char)) :=
  let text := match text with
    | c :: rest => if c.toNat = 0xFEFF then rest else text
    | [] => []
  settingLines [] .plain (rawLines [] text)

end UsageGrid.Settings
