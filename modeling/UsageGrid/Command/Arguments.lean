/-!
# Arguments of a command

A command takes plain arguments and options. An option is written `--name` or by a letter, `-n`, and
several letters may share one hyphen. A value stands behind the option (`--name value`, `-n value`)
or with it (`--name=value`, `-nvalue`, `-n=value`). After `--` every argument is plain.

What does not fit is a usage error, for which there is no answer; whoever asks for help gets that
instead. Of the two, what stands first counts: an argument that will not do, or one too many, is an
error where it stands, while one that is missing is noticed last.
-/

namespace UsageGrid.Command

/-- An option of a command, and the values that will do. -/
structure Flag where
  name : String
  letter : Option Char := none
  takesValue : Bool := false
  mayRepeat : Bool := false
  accepts : String → Bool := fun _ => true

/-- What a command takes: options, and plain arguments, of each which texts will do. -/
structure Intake where
  flags : List Flag
  plain : List (String → Bool) := []

/-- What has been given: plain arguments, and options with their values, all in order. -/
structure Given where
  plain : List String := []
  options : List (String × String) := []
deriving Repr, DecidableEq

/-- How the arguments of a command end. -/
inductive Outcome where
  | given (g : Given)
  | help
  | wrong
deriving Repr, DecidableEq

namespace Given

def has (g : Given) (name : String) : Bool := g.options.any (·.1 == name)

def value? (g : Given) (name : String) : Option String := g.options.lookup name

def values (g : Given) (name : String) : List String :=
  g.options.filterMap fun (n, v) => if n == name then some v else none

/-- Adds a plain argument that will do where it stands. -/
def addPlain (g : Given) (intake : Intake) (text : String) : Option Given :=
  if intake.plain[g.plain.length]?.any (· text) then some { g with plain := g.plain ++ [text] }
  else none

/-- Adds an option, which may come again only if it may repeat. -/
def addOption (g : Given) (f : Flag) (value : String) : Option Given :=
  if (g.has f.name && !f.mayRepeat) || !f.accepts value then none
  else some { g with options := g.options ++ [(f.name, value)] }

end Given

/-- What the letters behind a hyphen mean: options complete with their values, one that still needs
    its value, help, or nothing. -/
inductive Letters where
  | complete (g : Given)
  | pending (g : Given) (f : Flag)
  | help
  | wrong

def Letters.ofOption : Option Given → Letters
  | some g => .complete g
  | none => .wrong

/-- A value that is written with its option. -/
def attached : List Char → String
  | '=' :: rest => String.ofList rest
  | cs => String.ofList cs

/-- Reads the letters behind a hyphen. -/
def readLetters (flags : List Flag) (g : Given) : List Char → Letters
  | [] => .complete g
  | c :: rest =>
    match flags.find? (·.letter = some c) with
    | none => if c = 'h' then .help else .wrong
    | some f =>
      if f.takesValue then
        if rest.isEmpty then .pending g f else .ofOption (g.addOption f (attached rest))
      else
        match g.addOption f "" with
        | some g => readLetters flags g rest
        | none => .wrong

/-- Reads an option by its name, with or without a value. -/
def readName (flags : List Flag) (g : Given) (cs : List Char) : Letters :=
  let name := String.ofList (cs.takeWhile (· ≠ '='))
  let value := (cs.dropWhile (· ≠ '=')).tail?
  match flags.find? (·.name == name) with
  | none => if name = "help" && value.isNone then .help else .wrong
  | some f =>
    match f.takesValue, value with
    | true, some text => .ofOption (g.addOption f (String.ofList text))
    | true, none => .pending g f
    | false, none => .ofOption (g.addOption f "")
    | false, some _ => .wrong

/-- The argument looks like an option. A hyphen alone does not. -/
def looksLikeOption (text : String) : Bool := text.startsWith "-" && text != "-"

/-- Reads one argument that stands before any `--`. -/
def readOne (intake : Intake) (g : Given) (text : String) : Letters :=
  match text.toList with
  | '-' :: '-' :: name => readName intake.flags g name
  | '-' :: c :: rest => readLetters intake.flags g (c :: rest)
  | _ => .ofOption (g.addPlain intake text)

/-- Reads plain arguments. -/
def readPlain (intake : Intake) (g : Given) (texts : List String) : Outcome :=
  match texts.foldlM (fun g text => g.addPlain intake text) g with
  | some g => .given g
  | none => .wrong

/-- Reads arguments in turn. `pending` is an option that needs its value. -/
def readArguments (intake : Intake) (g : Given) (pending : Option Flag) :
    List String → Outcome
  | [] => if pending.isNone then .given g else .wrong
  | text :: rest =>
    match pending with
    | some f =>
      if looksLikeOption text then .wrong
      else match g.addOption f text with
        | some g => readArguments intake g none rest
        | none => .wrong
    | none =>
      if text = "--" then readPlain intake g rest
      else match readOne intake g text with
        | .complete g => readArguments intake g none rest
        | .pending g f => readArguments intake g (some f) rest
        | .help => .help
        | .wrong => .wrong

/-! ## Numbers -/

/-- A whole number below a bound, in decimal digits; a plus sign may stand before it. -/
def number? (bound : Nat) (text : String) : Option Nat :=
  let digits := match text.toList with
    | '+' :: rest => rest
    | cs => cs
  if digits.isEmpty || !digits.all Char.isDigit then none
  else
    let n := digits.foldl (fun n c => 10 * n + (c.toNat - '0'.toNat)) 0
    if n < bound then some n else none

/-- A whole number below a bound that may have either sign; below zero there is none. -/
def signedNumber? (bound : Nat) (text : String) : Option Nat :=
  match text.toList with
  | '-' :: digits =>
    if digits.head? = some '+' then none else number? (min bound 1) (String.ofList digits)
  | _ => number? bound text

end UsageGrid.Command
