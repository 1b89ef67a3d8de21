import UsageGrid.Table
import UsageGrid.Text.Find

/-!
# Drafts

A draft is a text that should hold one rule document, with or without prose around it. The document
is looked for in a block fenced as JSON, then in any fenced block, then between the outermost
braces (`documentText`). It is accepted if it is well formed and its evaluation does not fail;
otherwise the draft is rejected with a reason that can be handed back to its author.
-/

namespace UsageGrid.Proposal

/-! ## 1. The document in a text -/

def fence : List Char := ['`', '`', '`']

/-- What follows the first line, or all of it where there is no other. -/
def afterLine (cs : List Char) : List Char :=
  match Text.cutAt? ['\n'] cs with
  | some (_, rest) => rest
  | none => cs

/-- The block between an opening and the fence after it; `hasInfo` says that the line of the
    opening does not belong to the block. -/
def fenced? (opening : List Char) (hasInfo : Bool) (cs : List Char) : Option (List Char) := do
  let (_, rest) ← Text.cutAt? opening cs
  let (body, _) ← Text.cutAt? fence (if hasInfo then afterLine rest else rest)
  pure body

/-- The text from the first opening to the last closing brace. -/
def betweenBraces? (cs : List Char) : Option (List Char) :=
  let inner := (cs.dropWhile (· ≠ Json.openBrace)).reverse.dropWhile (· ≠ Json.closeBrace)
  if inner.isEmpty then none else some inner.reverse

/-- The part of a text that should be the document. -/
def documentChars (cs : List Char) : List Char :=
  let found := fenced? (fence ++ ['j', 's', 'o', 'n']) false cs
    <|> fenced? fence true cs
    <|> betweenBraces? cs
  Text.trimChars (found.getD cs)

/-- The part of a text that should be the document. -/
def documentText (text : String) : String := String.ofList (documentChars text.toList)

/-! ## 2. Judging a document -/

/-- Why a draft is not accepted. -/
inductive Rejection where
  | malformed (e : RuleError)
  | failed (e : ExtractionError)
  | noRecords

def Rejection.message : Rejection → String
  | .malformed e => "rule document rejected: " ++ e.message
  | .failed e => "evaluation failed: " ++ e.message
  | .noRecords =>
    "the document is valid but produced no records; check data_cells, "
      ++ "the walking directions and the skip lists"

/-- The definition in a text and its table for a grid. -/
def check (text : String) (g : Grid) : Except Rejection (Definition × Table) := do
  let d ← (Definition.ofText text).mapError Rejection.malformed
  let t ← (Table.ofGrid d g).mapError Rejection.failed
  pure (d, t)

/-- As `check`, and where records are required the table must have some. -/
def accept (requireRecords : Bool) (text : String) (g : Grid) :
    Except Rejection (Definition × Table) := do
  let (d, t) ← check text g
  if t.isEmpty && requireRecords then throw .noRecords
  pure (d, t)

end UsageGrid.Proposal

/-!
## Why no document was found

A proposer may fail to answer at all (`ProposerError`). The search for a document ends with such a
failure, or when every attempt has been rejected (`ProposalError`).
-/

namespace UsageGrid

inductive ProposerError where
  | noEndpoint (message : String)
  | requestFailed (message : String)
  | refused (message : String)
  | emptyAnswer
deriving Repr, DecidableEq

def ProposerError.message : ProposerError → String
  | .noEndpoint message => "Missing proposer endpoint: " ++ message
  | .requestFailed message => "HTTP request failed: " ++ message
  | .refused message => "Proposer error: " ++ message
  | .emptyAnswer => "Empty proposal"

inductive ProposalError where
  | proposer (e : ProposerError)
  | exhausted (attempts : Nat) (last : Proposal.Rejection)

def ProposalError.message : ProposalError → String
  | .proposer e => "proposer failed: " ++ e.message
  | .exhausted attempts last =>
    "no valid rule document after " ++ toString attempts ++ " attempt(s); last error: "
      ++ last.message

end UsageGrid
