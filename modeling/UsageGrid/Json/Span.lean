import UsageGrid.Json.Skim
import UsageGrid.Json.Typed

/-!
# Values of a fixed type in a text

A text is read as a value of a fixed type (`readAs`). What does not fit is a fault that shows where
it stands: a scalar that does not fit shows behind it, an array or object before it, a missing field
behind the object. What does not fit comes before a fault of the text that stands behind it. A
member that the type does not know is skimmed only.

To know the places, the characters are taken once more along the states of the reader, and each
value gets a `Span`.
-/

namespace UsageGrid.Json

/-! ## 1. Spans -/

/-- A place in a text, and the text behind it. -/
structure Mark where
  place : Position := {}
  rest : List Char := []

namespace Mark

/-- The place behind the next character. -/
def next (k : Mark) : Mark :=
  match k.rest with
  | [] => k
  | c :: rest => ⟨k.place.after c, rest⟩

/-- The place behind blanks. -/
def afterBlanks (place : Position) : List Char → Mark
  | [] => ⟨place, []⟩
  | c :: rest => if isSpace c then afterBlanks (place.after c) rest else ⟨place, c :: rest⟩

def skipBlanks (k : Mark) : Mark := afterBlanks k.place k.rest

def begins (k : Mark) (c : Char) : Bool := k.rest.head? = some c

/-- The place at which reading stops, when it is given up between two parts of an array or object:
    behind what ends it, or behind the comma of an array. -/
def giveUp (k : Mark) (inObject : Bool) : Mark :=
  let k := k.skipBlanks
  if k.begins (if inObject then closeBrace else ']') then k.next
  else if k.begins ',' && !inObject then k.next.skipBlanks
  else k

end Mark

/-- Where a value stands, and the values in it. For a member also the place behind its key. -/
inductive Span where
  | mk (start stop : Mark) (key : Mark) (isObject closed : Bool) (parts : List Span)

namespace Span

def start : Span → Mark | .mk s _ _ _ _ _ => s
def stop : Span → Mark | .mk _ s _ _ _ _ => s
def key : Span → Mark | .mk _ _ k _ _ _ => k
def isObject : Span → Bool | .mk _ _ _ o _ _ => o
def closed : Span → Bool | .mk _ _ _ _ c _ => c
def parts : Span → List Span | .mk _ _ _ _ _ p => p

/-- The value that a way leads to, and the array or object right around it. -/
def find (around : Option Span) (s : Span) : List Nat → Option Span × Span
  | [] => (around, s)
  | i :: rest =>
    match s.parts[i]? with
    | some p => p.find (some s) rest
    | none => (around, s)

end Span

/-! ## 2. Finding them -/

/-- An array or object that is open, its parts last first. -/
structure Open where
  start : Mark
  key : Mark
  isObject : Bool
  parts : List Span := []

/-- What is open, the place behind the last key, and where a scalar has begun. -/
structure Tracker where
  opened : List Open := []
  key : Mark := {}
  begun : Option Mark := none
  root : Option Span := none

namespace Tracker

/-- Hands a span to what encloses it. -/
def supply (t : Tracker) (s : Span) : Tracker :=
  match t.opened with
  | [] => { t with root := some s, begun := none }
  | o :: rest => { t with opened := { o with parts := s :: o.parts } :: rest, begun := none }

/-- A scalar is over. -/
def endScalar (t : Tracker) (stop : Mark) : Tracker :=
  match t.begun with
  | some start => t.supply (.mk start stop t.key false true [])
  | none => t

/-- An array or object is over, or the text is. -/
def close (t : Tracker) (stop : Mark) (closed : Bool) : Tracker :=
  match t.opened with
  | [] => t
  | o :: rest =>
    { t with opened := rest }.supply
      (.mk o.start stop o.key o.isObject closed o.parts.reverse)

def isNumber : Mode → Bool
  | .number _ _ => true
  | _ => false

/-- The reader is in a scalar that is no key. -/
def inScalar : Mode → Bool
  | .number _ _ | .word _ _ | .text false _ _ => true
  | _ => false

def inKey : Mode → Bool
  | .text true _ _ => true
  | _ => false

/-- What becomes of the spans when the reader goes from a state to the next by a character that
    stands between two marks. -/
def step (t : Tracker) (s s' : State) (c : Char) (before after : Mark) : Tracker :=
  let t := if isNumber s.mode && !isNumber s'.mode then t.endScalar before
    else if inScalar s.mode && !inScalar s'.mode then t.endScalar after
    else if !inScalar s.mode && inScalar s'.mode then { t with begun := some before }
    else if inKey s.mode && !inKey s'.mode then { t with key := after }
    else t
  if s.frames.length < s'.frames.length then
    { t with opened := ⟨before, t.key, c = openBrace, []⟩ :: t.opened }
  else if s'.frames.length < s.frames.length then t.close after true
  else t

/-- The span of the whole text, what is open being closed at its end. -/
def finish (t : Tracker) (stop : Mark) : Option Span :=
  (t.opened.foldl (fun t _ => t.close stop false) t).root

end Tracker

/-! ## 3. As much as can be read -/

/-- A number that is complete where the text stops. -/
def State.numberAtEnd? (s : State) (cause : Cause) : Option Json :=
  match s.mode, cause with
  | .number _ _, .numberRange | .number _ _, .invalidNumber => none
  | .number _ .sign, _ | .number _ .point, _ | .number _ .mark, _ | .number _ .markSign, _ => none
  | .number t _, _ => t.value?
  | _, _ => none

/-- The value that is left if all that is open is closed. -/
def State.cutOff (inner : Option Json) : List Frame → Option Json
  | [] => inner
  | .list items :: fs => State.cutOff (some (.array (inner.toList ++ items).reverse)) fs
  | .members members key :: fs =>
    State.cutOff (some (.object ((inner.toList.map fun v => (key, v)) ++ members).reverse)) fs

/-- What could be read of a text: the value and its span, and the fault that ends the text. -/
structure Outline where
  value : Option Json
  span : Option Span
  fault : Option Fault

/-- How far an outline has come: the state of the reader, the spans, and the value that is being
    skimmed, if one is. -/
structure Progress where
  state : State := {}
  tracker : Tracker := {}
  skim : Option Skim := none

namespace Progress

/-- The value that is due belongs to a member of the whole that nobody asks for. -/
def isUnasked (knows : String → Bool) (s : State) : Bool :=
  match s.mode, s.frames with
  | .value .anywhere, [.members _ key] => !knows key
  | _, _ => false

/-- The skimmed value is over. It leaves a null. -/
def endSkim (g : Progress) (stop : Mark) : Progress :=
  { state := State.supply .null g.state.frames, tracker := g.tracker.endScalar stop }

/-- The next character, which stands between two marks, is read. -/
def read (g : Progress) (knows : String → Bool) (c : Char) (before after : Mark) :
    Except (Cause × Position) Progress :=
  match g.state.step c with
  | .error cause => .error (cause, faultPlace before.place c g.state cause)
  | .ok s =>
    let t := g.tracker.step g.state s c before after
    .ok (if isUnasked knows s then ⟨s, { t with begun := some after }, some {}⟩ else ⟨s, t, none⟩)

/-- The next character, which stands between two marks, is read or skimmed. -/
def step (g : Progress) (knows : String → Bool) (c : Char) (before after : Mark) :
    Except (Cause × Position) Progress :=
  match g.skim with
  | none => g.read knows c before after
  | some k =>
    match k.step c with
    | .error cause => .error (cause, k.faultPlace before.place c cause)
    | .ok (.more k) => .ok { g with skim := some k }
    | .ok .last => .ok (g.endSkim after)
    | .ok .over => (g.endSkim before).read knows c before after

/-- The outline of a text that ends with a fault. -/
def broken (g : Progress) (stop : Mark) (cause : Cause) (place : Position) : Outline :=
  let fault := some (Fault.ofCause cause place)
  match g.state.mode with
  | .done v => ⟨some v, g.tracker.root, fault⟩
  | _ =>
    match g.state.numberAtEnd? cause with
    | some v =>
      ⟨State.cutOff (some v) g.state.frames, (g.tracker.endScalar stop).finish stop, fault⟩
    | none => ⟨State.cutOff none g.state.frames, g.tracker.finish stop, fault⟩

/-- The outline of a text that ends here. -/
def finish (g : Progress) (stop : Mark) : Outline :=
  match g.skim.bind Skim.endCause? with
  | some cause => g.broken stop cause stop.place
  | none =>
    let g := if g.skim.isSome then g.endSkim stop else g
    match g.state.finish with
    | .error cause => g.broken stop cause stop.place
    | .ok v =>
      let t := if Tracker.isNumber g.state.mode then g.tracker.endScalar stop else g.tracker
      ⟨some v, t.root, none⟩

/-- The outline of a text from here on. -/
def outline (g : Progress) (knows : String → Bool) (p : Position) : List Char → Outline
  | [] => g.finish ⟨p, []⟩
  | c :: rest =>
    match g.step knows c ⟨p, c :: rest⟩ ⟨p.after c, rest⟩ with
    | .ok g => g.outline knows (p.after c) rest
    | .error (cause, place) => g.broken ⟨p, c :: rest⟩ cause place

end Progress

/-- The outline of a text of which only some members are asked for. -/
def outline (knows : String → Bool) (text : String) : Outline :=
  Progress.outline {} knows {} text.toList

/-! ## 4. Misfits in a text -/

def isContainer : Json → Bool
  | .array _ | .object _ => true
  | _ => false

def isString : Json → Bool
  | .string _ => true
  | _ => false

/-- What ends a fault that is not of the kind of a value. -/
def valueExpected (k : Mark) : Fault := .ofCause .valueExpected k.place

/-- A misfit as a fault of the text. `around` is the array or object around the value. -/
def Misfit.fault (m : Misfit) (around : Option Span) (s : Span) : Fault :=
  let shown (k : Mark) : Fault := ⟨m.message, k.place⟩
  match m.cause with
  | .type found "string or map" =>
    if isString found then shown s.stop else valueExpected s.start.next
  | .value (.object []) "map with a single key" => valueExpected s.start.next.skipBlanks.next
  | .value (.object _) "map with a single key" =>
    valueExpected ((s.parts.head?.getD s).stop.skipBlanks)
  | .type found _ | .value found _ => shown (if isContainer found then s.start else s.stop)
  | .unknownWord _ _ => shown (if s.isObject then (s.parts.head?.getD s).key else s.stop)
  | .missingField _ | .length _ _ => shown s.stop
  | .tooLong _ => .ofCause .trailingText s.start.next.place
  | .duplicateField _ => shown s.key.skipBlanks
  | .noShape _ | .other _ => shown (around.elim s.stop fun a => s.stop.giveUp a.isObject)

/-- The misfit does not come of a value being cut off: that a value is of the wrong kind shows where
    it begins, and that the one key of an object is unknown shows behind the key. -/
def Misfit.isCertain (m : Misfit) (s : Span) : Bool :=
  s.closed || match m.cause with
    | .type _ _ => true
    | .unknownWord _ _ => !s.parts.isEmpty
    | _ => false

/-- The value of a type that a text holds. Of an object only the members that the type knows are
    read. -/
def readAs {α : Type} (knows : String → Bool) (type : Typed α) (text : String) : Except Fault α :=
  let o := outline knows text
  match o.value, o.span with
  | some v, some span =>
    match type v, o.fault with
    | .ok a, none => .ok a
    | .ok _, some fault => .error fault
    | .error m, fault =>
      let (around, s) := span.find none m.way
      match fault with
      | none => .error (m.fault around s)
      | some fault => .error (if m.isCertain s then m.fault around s else fault)
  | _, _ => .error (o.fault.getD (.ofCause .endInValue {}))

end UsageGrid.Json
