import UsageGrid.Pattern.Reader
import UsageGrid.Pattern.Search

/-!
# Patterns

A pattern is a text that reads as a regular expression; the text alone decides which pattern it is.
`Pattern.extract` takes from a text what the first group of the first match covers, or the whole
match where the pattern has no such group or the group took no part.
-/

namespace UsageGrid

/-- A text together with the expression it reads as. -/
structure Pattern where
  source : String
  expr : Expr
  groups : Nat
  reads : Expr.ofText? source = .ok (expr, groups)

namespace Pattern

/-- Two patterns of one text are one. -/
theorem eq_of_source {p q : Pattern} (h : p.source = q.source) : p = q := by
  cases p with
  | mk s e g r =>
    cases q with
    | mk s' e' g' r' =>
      simp only at h
      subst h
      have := r.symm.trans r'
      simp only [Except.ok.injEq, Prod.mk.injEq] at this
      obtain ⟨rfl, rfl⟩ := this
      rfl

instance : DecidableEq Pattern := fun p q =>
  if h : p.source = q.source then isTrue (eq_of_source h)
  else isFalse fun e => h (congrArg Pattern.source e)

/-- The pattern that a text reads as. -/
def ofText? (source : String) : Except PatternError Pattern :=
  match h : Expr.ofText? source with
  | .ok (expr, groups) => .ok ⟨source, expr, groups, h⟩
  | .error e => .error e

/-- The part of a text between two places. -/
def slice (text : List Char) (from? to? : Option Nat) : Option (List Char) :=
  match from?, to? with
  | some a, some b => some ((text.take b).drop a)
  | _, _ => none

/-- What the pattern takes from a text, trimmed; nothing if it does not match. -/
def extract (p : Pattern) (text : String) : Option String :=
  let cs := text.toList
  let (start, program) := Program.compile p.expr
  match program.search start (max 1 p.groups) cs with
  | none => none
  | some slots =>
    let part (i : Nat) : Option (List Char) :=
      slice cs (slots.getD (2 * i) none) (slots.getD (2 * i + 1) none)
    ((part 1) <|> (part 0)).map fun m => String.ofList (Text.trimChars m)

end Pattern

end UsageGrid
