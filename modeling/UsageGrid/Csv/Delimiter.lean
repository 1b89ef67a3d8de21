import UsageGrid.Text.Blank

/-!
# Guessing the delimiter

The candidate is taken that splits the first lines most often and most evenly: the score of a
delimiter is its greatest count on a line, times the number of lines with that count. Of equal
scores the first candidate wins, and a comma stands where no candidate occurs.
-/

/-!
## Lines

A line ends at a line feed, and a carriage return before it belongs to the end. What stands after
the last line feed is a line unless it is empty.
-/

namespace UsageGrid.Text

/-- A line without the carriage return at its end. -/
def dropReturn (line : List Char) : List Char :=
  if line.getLast? = some '\r' then line.dropLast else line

/-- The lines after the text read so far of the current one, last character first. -/
def linesFrom : List Char → List Char → List (List Char)
  | [], [] => []
  | read, [] => [read.reverse]
  | read, c :: rest =>
    if c = '\n' then dropReturn read.reverse :: linesFrom [] rest else linesFrom (c :: read) rest

/-- The lines of a text. -/
def lines (text : List Char) : List (List Char) := linesFrom [] text

end UsageGrid.Text

namespace UsageGrid.Csv

def candidates : List Char := [';', ',', '\t', '|']

/-- The lines that are looked at: the first ten that are not blank. -/
def sample (text : List Char) : List (List Char) :=
  ((Text.lines text).filter fun l => !l.all Text.isBlank).take 10

/-- The greatest count of a delimiter on a line, times the lines that have it. -/
def score (lines : List (List Char)) (delimiter : Char) : Nat :=
  let counts := lines.map (·.count delimiter)
  let greatest := counts.foldl max 0
  greatest * counts.count greatest

/-- The better of two: the later one only if its score is greater. -/
def better (lines : List (List Char)) (best : Char × Nat) (candidate : Char) : Char × Nat :=
  let s := score lines candidate
  if best.2 < s then (candidate, s) else best

/-- The delimiter of a text. -/
def detectDelimiter (text : List Char) : Char :=
  (candidates.foldl (better (sample text)) (',', 0)).1

end UsageGrid.Csv
