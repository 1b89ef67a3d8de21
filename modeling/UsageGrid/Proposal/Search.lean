import UsageGrid.Description
import UsageGrid.Grid.Preview
import UsageGrid.Host.Basic
import UsageGrid.Proposal.Draft

/-!
# The search for a document

A proposer drafts a rule document from a description of the report and a preview of its grid. The
draft is judged; if it is rejected, the next request carries the document and the reason. The search
ends with the first draft that is accepted, with the first failure of the proposer, or when the
attempts are used up. There is always at least one attempt.
-/

namespace UsageGrid.Proposal

/-- What a proposer gets for one attempt. Attempts count from one. -/
structure Request where
  description : Description
  preview : String
  note : Option String := none
  attempt : Nat := 1
  /-- The document that was rejected last. -/
  previousDocument : Option String := none
  /-- Why it was rejected. -/
  feedback : Option String := none
deriving Repr, DecidableEq

namespace Request

def members (r : Request) : List (String × Json) :=
  [("data_description", r.description.toJson), ("grid_preview", .string r.preview),
    ("user_note", .ofOption .string r.note), ("attempt", .int r.attempt),
    ("previous_document", .ofOption .string r.previousDocument),
    ("feedback", .ofOption .string r.feedback)]

def toJson (r : Request) : Json := .object r.members

/-- The request after a document has been rejected. -/
def next (r : Request) (document : String) (reason : Rejection) : Request :=
  { r with
    attempt := r.attempt + 1, previousDocument := some document, feedback := some reason.message }

end Request

/-- Whoever drafts documents. The answer is free text that should hold one document. -/
abbrev Proposer (m : Type → Type) := Request → m (Except ProposerError String)

structure Options where
  maxAttempts : Nat := 5
  previewRows : Nat := 30
  requireRecords : Bool := true
deriving Repr, DecidableEq

/-- The number of attempts, at least one. -/
def Options.attempts (o : Options) : Nat := max 1 o.maxAttempts

structure Outcome where
  definition : Definition
  table : Table
  /-- The number of attempts, the accepted one included. -/
  attempts : Nat

section

variable {m : Type → Type} [Monad m] [Host.Journal m]

/-- Tells that a document was rejected. -/
def logRejection (attempt : Nat) : Rejection → m Unit
  | .noRecords => Host.warning "Document is valid but produced no records"
  | reason => do
    Host.warning ("Attempt " ++ toString attempt ++ " rejected")
    Host.detail reason.message

def logAcceptance (attempt : Nat) (d : Definition) (t : Table) : m Unit :=
  Host.success ("'" ++ d.name ++ "' accepted after " ++ toString attempt ++ " attempt(s), "
    ++ toString t.rows.length ++ " records")

/-- How an attempt ends. -/
inductive Verdict where
  | failed (e : ProposerError)
  | accepted (outcome : Outcome)
  | rejected (document : String) (reason : Rejection)

/-- The verdict on a draft. -/
def judge (o : Options) (g : Grid) (attempt : Nat) (draft : String) : Verdict :=
  let document := documentText draft
  match accept o.requireRecords document g with
  | .ok (d, t) => .accepted ⟨d, t, attempt⟩
  | .error reason => .rejected document reason

def logVerdict (attempt : Nat) : Verdict → m Unit
  | .failed _ => pure ()
  | .accepted outcome => logAcceptance attempt outcome.definition outcome.table
  | .rejected _ reason => logRejection attempt reason

/-- Asks once. -/
def tryOnce (ask : Proposer m) (o : Options) (g : Grid) (r : Request) : m Verdict := do
  Host.info ("Proposal attempt " ++ toString r.attempt ++ "/" ++ toString o.attempts)
  match ← ask r with
  | .error e => pure (.failed e)
  | .ok draft => do
    let verdict := judge o g r.attempt draft
    logVerdict r.attempt verdict
    pure verdict

/-- Asks, and after a rejection as often again as attempts are left. -/
def searchFrom (ask : Proposer m) (o : Options) (g : Grid) :
    (left : Nat) → Request → m (Except ProposalError Outcome)
  | left, r => tryOnce ask o g r >>= fun
    | .failed e => pure (.error (.proposer e))
    | .accepted outcome => pure (.ok outcome)
    | .rejected document reason =>
      match left with
      | 0 => pure (.error (.exhausted r.attempt reason))
      | left + 1 => searchFrom ask o g left (r.next document reason)

/-- The first request for a grid. -/
def firstRequest (o : Options) (description : Description) (g : Grid) (note : Option String) :
    Request :=
  { description, preview := g.preview o.previewRows, note }

/-- Searches for a document that can be applied to a grid. -/
def search (ask : Proposer m) (o : Options) (description : Description) (g : Grid)
    (note : Option String) : m (Except ProposalError Outcome) :=
  searchFrom ask o g (o.attempts - 1) (firstRequest o description g note)

end

end UsageGrid.Proposal
