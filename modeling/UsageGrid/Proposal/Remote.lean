import UsageGrid.Proposal.Search
import UsageGrid.Rules.Grammar

/-!
# A proposer at an endpoint

Each request is posted as JSON together with the grammar of rule documents. The reply is the draft
itself, or an object with the draft as its member `proposal`. A request that could not be sent or
met a fault of the server is sent again, as often as tries are left; any other reply is final.
-/

/-!
## Status codes

The reason phrases of HTTP status codes, and the classes of codes that matter here.
-/

namespace UsageGrid.Proposal.Status

def reasons : List (Nat × String) := [
  (100, "Continue"), (101, "Switching Protocols"), (102, "Processing"), (103, "Early Hints"),
  (200, "OK"), (201, "Created"), (202, "Accepted"), (203, "Non Authoritative Information"),
  (204, "No Content"), (205, "Reset Content"), (206, "Partial Content"), (207, "Multi-Status"),
  (208, "Already Reported"), (226, "IM Used"),
  (300, "Multiple Choices"), (301, "Moved Permanently"), (302, "Found"), (303, "See Other"),
  (304, "Not Modified"), (305, "Use Proxy"), (307, "Temporary Redirect"),
  (308, "Permanent Redirect"),
  (400, "Bad Request"), (401, "Unauthorized"), (402, "Payment Required"), (403, "Forbidden"),
  (404, "Not Found"), (405, "Method Not Allowed"), (406, "Not Acceptable"),
  (407, "Proxy Authentication Required"), (408, "Request Timeout"), (409, "Conflict"),
  (410, "Gone"), (411, "Length Required"), (412, "Precondition Failed"),
  (413, "Payload Too Large"), (414, "URI Too Long"), (415, "Unsupported Media Type"),
  (416, "Range Not Satisfiable"), (417, "Expectation Failed"), (418, "I'm a teapot"),
  (421, "Misdirected Request"), (422, "Unprocessable Entity"), (423, "Locked"),
  (424, "Failed Dependency"), (425, "Too Early"), (426, "Upgrade Required"),
  (428, "Precondition Required"), (429, "Too Many Requests"),
  (431, "Request Header Fields Too Large"), (451, "Unavailable For Legal Reasons"),
  (500, "Internal Server Error"), (501, "Not Implemented"), (502, "Bad Gateway"),
  (503, "Service Unavailable"), (504, "Gateway Timeout"), (505, "HTTP Version Not Supported"),
  (506, "Variant Also Negotiates"), (507, "Insufficient Storage"), (508, "Loop Detected"),
  (510, "Not Extended"), (511, "Network Authentication Required")]

/-- A code with its reason. -/
def label (code : Nat) : String :=
  "HTTP " ++ toString code ++ " " ++ (reasons.lookup code).getD "<unknown status code>"

def isSuccess (code : Nat) : Bool := 200 ≤ code && code < 300

/-- The fault is on the other side, and may be gone at the next try. -/
def isServerError (code : Nat) : Bool := 500 ≤ code && code < 600

/-- A reply with this code has no body, whatever follows it. -/
def hasNoBody (code : Nat) : Bool := code == 204 || code == 304

end UsageGrid.Proposal.Status

namespace UsageGrid.Proposal

structure Remote where
  url : String
  token : Option String := none
  /-- The number of tries; none counts as one. -/
  tries : Nat := 3
deriving Repr, DecidableEq

namespace Remote

/-! ## 1. Requests and replies -/

def tryLimit (p : Remote) : Nat := max 1 p.tries

/-- The text that is posted. -/
def body (r : Request) : String :=
  (Json.object (("grammar", .string Rules.grammar) :: r.members)).compact

/-- A token can stand in a header. -/
def isSendable (token : String) : Bool :=
  token.toList.all fun c => c = '\t' || (0x20 ≤ c.toNat && c.toNat ≠ 0x7F)

/-- A byte order mark in front of a text does not belong to it. -/
def withoutMark (text : String) : String :=
  match text.toList with
  | c :: rest => if c.toNat = 0xFEFF then String.ofList rest else text
  | [] => text

/-- The draft in the body of a reply. -/
def draftOf (text : String) : Except ProposerError String :=
  if Text.isBlankText text then .error .emptyAnswer
  else
    match Json.parse text with
    | .ok (.object members) =>
      match Json.lookup members "proposal" with
      | some (.string draft) => if Text.isBlankText draft then .error .emptyAnswer else .ok draft
      | some v => .ok v.compact
      | none => .ok text
    | _ => .ok text

/-- What a reply means. -/
def judgeReply (r : Host.Reply) : Except ProposerError String :=
  let text := if Status.hasNoBody r.status then "" else withoutMark r.body
  if Status.isServerError r.status then .error (.requestFailed (Status.label r.status))
  else if Status.isSuccess r.status then draftOf text
  else .error (.refused (Status.label r.status ++ ": " ++ text))

/-! ## 2. Asking -/

section

variable {m : Type → Type} [Monad m] [Host.Endpoint m]

/-- Posts a request once. -/
def postOnce (p : Remote) (r : Request) : m (Except ProposerError String) := do
  if !(p.token.all isSendable) then pure (.error (.requestFailed "builder error"))
  else
    match ← Host.Endpoint.post ⟨p.url, p.token, body r⟩ with
    | .error reason => pure (.error (.requestFailed reason))
    | .ok reply => pure (judgeReply reply)

/-- How long to wait before another try. -/
def waitMilliseconds : Nat := 1000

variable [Host.Journal m]

/-- Tells what is tried, and tries it. -/
def tryPost (p : Remote) (r : Request) (i : Nat) : m (Except ProposerError String) := do
  Host.detail ("POST " ++ p.url ++ " (try " ++ toString i ++ "/" ++ toString p.tryLimit ++ ")")
  p.postOnce r

/-- Tells that a try has failed, and waits. -/
def waitAfter (message : String) : m Unit := do
  Host.warning ("Proposer request failed: " ++ message ++ ", retrying in "
    ++ toString waitMilliseconds ++ "ms")
  Host.Endpoint.pause waitMilliseconds

/-- The try number `i` and those that are left after it. -/
def postFrom (p : Remote) (r : Request) : (left i : Nat) → m (Except ProposerError String)
  | 0, i => p.tryPost r i
  | left + 1, i => do
    match ← p.tryPost r i with
    | .error (.requestFailed message) => do
      waitAfter message
      postFrom p r left (i + 1)
    | outcome => pure outcome

/-- The endpoint as a proposer. -/
def proposer (p : Remote) : Proposer m := fun r => p.postFrom r (p.tryLimit - 1) 1

end

end Remote

end UsageGrid.Proposal
