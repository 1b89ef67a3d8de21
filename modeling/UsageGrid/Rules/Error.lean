import UsageGrid.Grid.Coord
import UsageGrid.Json.Reader
import UsageGrid.Json.Typed
import UsageGrid.Pattern.Reader
import UsageGrid.Rules.Role

/-!
# What is wrong with a rule document

Every error but one names the place in the document at which it shows, so that its message can be
handed to whoever wrote the document.
-/

/-!
## Places in a rule document

A place is the list of keys and indices that lead to it from the root. Messages write it as
`areas[0].data_headers.roles[1].source`, the root as `<document>`.
-/

namespace UsageGrid.Rules

inductive Step where
  | key (name : String)
  | index (i : Nat)
deriving Repr, DecidableEq

structure Path where
  steps : List Step := []
deriving Repr, DecidableEq

namespace Path

def root : Path := {}

def key (p : Path) (name : String) : Path := ⟨p.steps ++ [.key name]⟩

def index (p : Path) (i : Nat) : Path := ⟨p.steps ++ [.index i]⟩

def stepLabel (first : Bool) : Step → String
  | .key name => if first then name else "." ++ name
  | .index i => "[" ++ toString i ++ "]"

/-- The place as messages write it. -/
def label (p : Path) : String :=
  match p.steps with
  | [] => "<document>"
  | s :: rest => stepLabel true s ++ String.join (rest.map (stepLabel false))

end Path

/-! ## Errors -/

/-- What should have stood at a place. -/
inductive Wanted where
  | array
  | object
  | source
  | role
  | word (s : String)
  | count
  | countOrNull
deriving Repr, DecidableEq

def Wanted.name : Wanted → String
  | .array => "an array"
  | .object => "an object"
  | .source => "a source object"
  | .role => "a role string"
  | .word s => "the string '" ++ s ++ "'"
  | .count => "a non-negative integer"
  | .countOrNull => "an integer or null"

/-- What is wrong with the value of a field. -/
inductive Problem where
  | kind (wanted : Wanted) (found : Json)
  | word (wanted found : String)
  | misfit (m : Json.Misfit)
  | negative (n : Int)
  | pattern (e : PatternError)
  | dateFormat (text : String)
  | composedPart
  | twoOrigins
  | noOrigin
  | blankDimension
  | reservedDimension (name : String)
  | repeatedDimension (name : String)
  | repeatedTitleId (kind : TitleIdKind)
  | reservedTarget (name : String)
  | mergedDimensions (first second target : String)

def Problem.message : Problem → String
  | .kind wanted found => "expected " ++ wanted.name ++ ", found " ++ found.kindName
  | .word wanted found => "must be '" ++ wanted ++ "', found '" ++ found ++ "'"
  | .misfit m => m.message
  | .negative n => "must not be negative (got " ++ toString n ++ ")"
  | .pattern e => "invalid regex: " ++ e.message
  | .dateFormat text => "invalid strftime pattern '" ++ text ++ "'"
  | .composedPart => "a composed date part must read a plain 'source'"
  | .twoOrigins => "'source' and 'composed' are mutually exclusive"
  | .noOrigin => "one of 'source' or 'composed' is required"
  | .blankDimension => "dimension name must not be empty"
  | .reservedDimension name => "dimension name '" ++ name ++ "' is a reserved output column"
  | .repeatedDimension name => "dimension '" ++ name ++ "' is defined twice"
  | .repeatedTitleId k => "title id '" ++ k.name ++ "' is defined twice"
  | .reservedTarget name => "alias target '" ++ name ++ "' is a reserved output column"
  | .mergedDimensions first second target =>
    "dimensions '" ++ first ++ "' and '" ++ second ++ "' both map to '" ++ target ++ "'"

/-- Why an object is not one source. -/
inductive Confusion where
  | stray (key : String)
  | empty
  | mixed (shapes : List String)
deriving Repr, DecidableEq

def Confusion.message : Confusion → String
  | .stray key =>
    "key '" ++ key ++ "' matches none of coord \x7brow, col\x7d, range "
      ++ "\x7bcoord, direction, max_count\x7d, value \x7bvalue\x7d"
  | .empty => "empty object matches none of coord, range, value"
  | .mixed shapes => "mixes fields of " ++ " and ".intercalate shapes

end UsageGrid.Rules

namespace UsageGrid

/-- Why a text or value is no rule document. -/
inductive RuleError where
  | notJson (fault : Json.Fault)
  | missingField (path : Rules.Path)
  | unknownField (path : Rules.Path)
  | invalidField (path : Rules.Path) (problem : Rules.Problem)
  | ambiguousSource (path : Rules.Path) (confusion : Rules.Confusion)
  | roleMismatch (path : Rules.Path) (wanted : List Rules.Role) (found : String)
  | negativeCount (path : Rules.Path) (n : Int)
  | conflictingAlias (path : Rules.Path) (name first second : String)
  | aliasChain (path : Rules.Path) (target next : String)
  | noAreas
  | duplicateRole (path : Rules.Path) (role : Rules.Role)
  | missingRole (path : Rules.Path) (role : Rules.Role)
  | notPerpendicular (path : Rules.Path) (found data : Direction)

namespace RuleError

/-- The place that the error names. -/
def path : RuleError → Option Rules.Path
  | .notJson _ | .noAreas => none
  | .missingField p | .unknownField p | .invalidField p _ | .ambiguousSource p _
  | .roleMismatch p _ _ | .negativeCount p _ | .conflictingAlias p _ _ _ | .aliasChain p _ _
  | .duplicateRole p _ | .missingRole p _ | .notPerpendicular p _ _ => some p

def message : RuleError → String
  | .notJson fault => "invalid JSON: " ++ fault.message
  | .missingField p => p.label ++ ": missing required field"
  | .unknownField p => p.label ++ ": unknown field"
  | .invalidField p problem => p.label ++ ": " ++ problem.message
  | .ambiguousSource p confusion => p.label ++ ": ambiguous source, " ++ confusion.message
  | .roleMismatch p wanted found =>
    p.label ++ ": role must be " ++ " or ".intercalate (wanted.map fun r => "'" ++ r.name ++ "'")
      ++ ", found '" ++ found ++ "'"
  | .negativeCount p n =>
    p.label ++ ": max_count must not be negative (got " ++ toString n ++ ")"
  | .conflictingAlias p name first second =>
    p.label ++ ": alias '" ++ name ++ "' maps to both '" ++ first ++ "' and '" ++ second ++ "'"
  | .aliasChain p target next =>
    p.label ++ ": alias target '" ++ target ++ "' is itself aliased to '" ++ next ++ "'"
  | .noAreas => "areas: at least one area is required"
  | .duplicateRole p role =>
    p.label ++ ": " ++ role.name
      ++ " is sourced more than once (data_headers.roles and area fields)"
  | .missingRole p role =>
    p.label ++ ": no source for " ++ role.name ++ "; add it to data_headers.roles or to the area"
  | .notPerpendicular p found data =>
    p.label ++ ": direction '" ++ found.name ++ "' must be perpendicular to data_direction '"
      ++ data.name ++ "'"

end RuleError

end UsageGrid
