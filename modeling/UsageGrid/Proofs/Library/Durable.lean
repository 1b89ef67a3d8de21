import Mathlib.Logic.Function.Basic
import UsageGrid.Proofs.Library.Call
import UsageGrid.Proofs.Library.Rates

/-!
# A library is a map that lasts

What a library is to do is said of a catalogue, a map from ids to cards with exact rates
(`Catalogue.Step`). A library that has been opened on an empty folder does it, call by call: its
memory represents the catalogue, and opening its folder anew finds what is read back of its memory
(`uses_durable`). That is the same list, unless a document is nested too deep to be read back or a
number is not read back as it was; nothing refuses such a document when it is saved
(`nestedLibrary_reopened`).
-/

namespace UsageGrid.Library

open Host StoredDefinition

/-! ## 1. Catalogues -/

/-- What is to be known of a definition: the rate is exact, and the count has no bound. -/
structure Card where
  definition : Definition
  platforms : List String
  createdAt : String
  lastUsed : Option String
  rate : ℚ
  count : ℕ

def Card.fresh (d : Definition) (platforms : List String) (time : String) : Card :=
  ⟨d, platforms, time, none, 1, 0⟩

def Card.used (c : Card) (success : Bool) (time : String) : Card :=
  { c with lastUsed := some time, rate := exactRate c.rate success, count := c.count + 1 }

abbrev Catalogue := String → Option Card

/-- A call that is made in a directory, and its answer. -/
structure Event where
  directory : Directory
  call : Call
  answer : Except LibraryError String

namespace Catalogue

open Function (update)

/-- What a call is to do. -/
inductive Step (cat : Catalogue) : Event → Catalogue → Prop where
  | saved {d : Directory} {definition : Definition} {platforms : List String} {id : String}
      (new : cat id = none) (time : String) :
      Step cat ⟨d, .save definition platforms, .ok id⟩
        (update cat id (some (.fresh definition platforms time)))
  | imported {d : Directory} {file text : String} {definition : Definition}
      {platforms : List String} {id : String} (read : d.text file = .ok text)
      (valid : Definition.ofText text = .ok definition) (new : cat id = none) (time : String) :
      Step cat ⟨d, .importFile file platforms, .ok id⟩
        (update cat id (some (.fresh definition platforms time)))
  | unreadable {d : Directory} {file : String} {platforms : List String} {cause : Directory.Cause}
      (unread : d.text file = .error cause) :
      Step cat ⟨d, .importFile file platforms, .error (.file cause)⟩ cat
  | invalid {d : Directory} {file text : String} {platforms : List String} {e : RuleError}
      (read : d.text file = .ok text) (invalid : Definition.ofText text = .error e) :
      Step cat ⟨d, .importFile file platforms, .error (.malformed e)⟩ cat
  | used {d : Directory} {id : String} {c : Card} (known : cat id = some c) (success : Bool)
      (time : String) :
      Step cat ⟨d, .use id success, .ok id⟩ (update cat id (some (c.used success time)))
  | notUsed {d : Directory} {id : String} (unknown : cat id = none) (success : Bool) :
      Step cat ⟨d, .use id success, .error (.notFound id)⟩ cat
  | deleted {d : Directory} {id : String} {c : Card} (known : cat id = some c) :
      Step cat ⟨d, .delete id, .ok id⟩ (update cat id none)
  | notDeleted {d : Directory} {id : String} (unknown : cat id = none) :
      Step cat ⟨d, .delete id, .error (.notFound id)⟩ cat

/-- What calls are to do one after the other, the last one first. -/
inductive Run : List Event → Catalogue → Prop where
  | empty : Run [] fun _ => none
  | step {events : List Event} {cat cat' : Catalogue} {event : Event} (before : Run events cat)
      (step : Step cat event cat') : Run (event :: events) cat'

/-! ## 2. Rates of a catalogue -/

/-- All rates lie between zero and one. -/
def HasRates (cat : Catalogue) : Prop := ∀ id c, cat id = some c → 0 ≤ c.rate ∧ c.rate ≤ 1

theorem HasRates.set {cat : Catalogue} (h : cat.HasRates) {id : String} {o : Option Card}
    (ho : ∀ c, o = some c → 0 ≤ c.rate ∧ c.rate ≤ 1) : HasRates (update cat id o) := by
  intro id' c hc
  by_cases hid : id' = id
  · subst hid
    rw [Function.update_self] at hc
    exact ho c hc
  · rw [Function.update_of_ne hid] at hc
    exact h id' c hc

theorem exactRate_mem {rate : ℚ} (h : 0 ≤ rate ∧ rate ≤ 1) (success : Bool) :
    0 ≤ exactRate rate success ∧ exactRate rate success ≤ 1 := by
  obtain ⟨hnonneg, hle⟩ := h
  cases success with
  | true =>
    have hrate : exactRate rate true = 9 / 10 * rate + 1 / 10 := rfl
    constructor <;> linarith
  | false =>
    have hrate : exactRate rate false = 9 / 10 * rate := rfl
    constructor <;> linarith

theorem Step.hasRates {cat cat' : Catalogue} {event : Event} (h : Step cat event cat')
    (hrates : cat.HasRates) : cat'.HasRates := by
  have hfresh (d : Definition) (platforms : List String) (time : String) (c : Card)
      (hc : some (Card.fresh d platforms time) = some c) : 0 ≤ c.rate ∧ c.rate ≤ 1 := by
    cases hc
    exact ⟨zero_le_one, le_rfl⟩
  cases h with
  | saved _ time => exact hrates.set (hfresh _ _ time)
  | imported _ _ _ time => exact hrates.set (hfresh _ _ time)
  | used known success time =>
    refine hrates.set fun c hc => ?_
    cases hc
    exact exactRate_mem (hrates _ _ known) success
  | deleted _ => exact hrates.set fun c hc => nomatch hc
  | unreadable _ | invalid _ _ | notUsed _ _ | notDeleted _ => exact hrates

/-- **All rates of a catalogue lie between zero and one**, whatever has been called. -/
theorem Run.hasRates {events : List Event} {cat : Catalogue} (h : Run events cat) :
    cat.HasRates := by
  induction h with
  | empty => exact fun _ _ h => nomatch h
  | step _ step ih => exact step.hasRates ih

end Catalogue

/-! ## 3. Memory and catalogue -/

/-- A card says of a stored definition what is so: the rate is near the exact one, and the uses are
    counted in 32 bits. -/
structure Card.Describes (c : Card) (e : StoredDefinition) : Prop where
  name : e.name = c.definition.name
  platforms : e.platforms = c.platforms
  definition : e.definition = c.definition
  createdAt : e.createdAt = c.createdAt
  lastUsed : e.lastUsed = c.lastUsed
  rate : IsRate e.successRate c.rate
  count : e.useCount = c.count % countBound

theorem Card.describes_fresh (id : String) (d : Definition) (platforms : List String)
    (time : String) : (Card.fresh d platforms time).Describes (.fresh id d platforms time) :=
  ⟨rfl, rfl, rfl, rfl, rfl, isRate_one, rfl⟩

theorem Card.Describes.used {c : Card} {e : StoredDefinition} (h : c.Describes e) (success : Bool)
    (time : String) : (c.used success time).Describes (e.used success time) where
  name := h.name
  platforms := h.platforms
  definition := h.definition
  createdAt := h.createdAt
  lastUsed := rfl
  rate := h.rate.after success
  count := by
    show (e.useCount + 1) % countBound = (c.count + 1) % countBound
    rw [h.count, Nat.mod_add_mod]

namespace Catalogue

/-- A list has the definitions of a catalogue, in the order of their ids. -/
structure Represents (cat : Catalogue) (list : List StoredDefinition) : Prop where
  ordered : Ordered list
  card : ∀ e ∈ list, ∃ c, cat e.id = some c ∧ c.Describes e
  entry : ∀ id c, cat id = some c → ∃ e ∈ list, e.id = id

namespace Represents

open Function (update)

variable {cat : Catalogue} {list : List StoredDefinition} (h : cat.Represents list)

include h

theorem eq_none {id : String} (hid : id ∉ list.map (·.id)) : cat id = none := by
  cases hc : cat id with
  | none => rfl
  | some c =>
    obtain ⟨e, he, rfl⟩ := h.entry id c hc
    exact absurd (List.mem_map.2 ⟨e, he, rfl⟩) hid

theorem set {e : StoredDefinition} {c : Card} (hc : c.Describes e) :
    Represents (update cat e.id (some c)) (insert e list) where
  ordered := h.ordered.insert e
  card f hf := by
    rcases (mem_insert h.ordered).1 hf with rfl | ⟨hf, hne⟩
    · exact ⟨c, Function.update_self .., hc⟩
    · obtain ⟨c', hc', hdescribes⟩ := h.card f hf
      exact ⟨c', (Function.update_of_ne hne ..).trans hc', hdescribes⟩
  entry id c' hc' := by
    by_cases hid : id = e.id
    · exact ⟨e, (mem_insert h.ordered).2 (.inl rfl), hid.symm⟩
    · rw [Function.update_of_ne hid] at hc'
      obtain ⟨f, hf, rfl⟩ := h.entry id c' hc'
      exact ⟨f, (mem_insert h.ordered).2 (.inr ⟨hf, hid⟩), rfl⟩

theorem unset (id : String) : Represents (update cat id none) (list.filter (·.id != id)) where
  ordered := h.ordered.filter _
  card f hf := by
    obtain ⟨hf, hne⟩ := List.mem_filter.1 hf
    obtain ⟨c, hc, hdescribes⟩ := h.card f hf
    exact ⟨c, (Function.update_of_ne (by simpa using hne) ..).trans hc, hdescribes⟩
  entry id' c hc := by
    by_cases hid : id' = id
    · subst hid
      rw [Function.update_self] at hc
      cases hc
    · rw [Function.update_of_ne hid] at hc
      obtain ⟨f, hf, rfl⟩ := h.entry id' c hc
      exact ⟨f, List.mem_filter.2 ⟨hf, by simpa using hid⟩, rfl⟩

end Represents

end Catalogue

/-! ## 4. A library in use -/

section

variable {σ : Type} [Files (StateM σ)] [Journal (StateM σ)] [Clock (StateM σ)]
  {dir : σ → Directory}

/-- No file failed, but one that was to be imported. -/
def Event.IsWritten (event : Event) : Prop := ∀ cause, event.answer = .error (.file cause) →
  ∃ file platforms, event.call = .importFile file platforms ∧
    event.directory.text file = .error cause

/-- A call saves only what has been read from a text. -/
def Call.IsDecoded : Call → Prop
  | .save d _ => d.IsDecoded
  | _ => True

/-- A library has been opened on a folder that is empty or not there yet, and calls have been made
    one after the other, the last one first. In between, anything may happen that leaves the
    directory as it is. -/
inductive Uses (dir : σ → Directory) (path : String) : List Event → Library → σ → Prop where
  | opened (s : σ) (vacant : IsVacant (dir s) path) :
      Uses dir path [] ((openAt path : StateM σ _).run s).1 ((openAt path : StateM σ _).run s).2
  | elsewhere {events : List Event} {l : Library} {s s' : σ} (before : Uses dir path events l s)
      (same : dir s' = dir s) : Uses dir path events l s'
  | called {events : List Event} {l l' : Library} {s s' : σ} {c : Call}
      {answer : Except LibraryError String} (before : Uses dir path events l s)
      (decoded : c.IsDecoded) (run : (l.call c : StateM σ _).run s = ((answer, l'), s'))
      (written : Event.IsWritten ⟨dir s, c, answer⟩) :
      Uses dir path (⟨dir s, c, answer⟩ :: events) l' s'

variable (hdisk : IsDisk dir) {d : Directory} {l : Library} {cat : Catalogue}

/-- The library, its folder and the catalogue after a call. -/
def Agrees (cat : Catalogue) (d : Directory) (c : Call)
    (out : Except LibraryError String × Library) (d' : Directory) (path : String) : Prop :=
  Event.IsWritten ⟨d, c, out.1⟩ → ∃ cat', Catalogue.Step cat ⟨d, c, out.1⟩ cat' ∧
    cat'.Represents out.2.list ∧ Shelved d' out.2 ∧ out.2.path = path

include hdisk

/-- **One call does what it is to do.** -/
theorem leads_call (h : Shelved d l) (hcat : cat.Represents l.list) {c : Call}
    (hdecoded : c.IsDecoded) :
    Leads dir d (l.call c) fun out d' => Agrees cat d c out d' l.path := by
  cases c with
  | save definition platforms =>
    refine (leads_save hdisk h (Definition.IsDecoded.isStorable hdecoded) platforms).mono ?_
    rintro _ d' (⟨id, time, hid, rfl, hshelved, -⟩ | ⟨cause, rfl⟩) hwritten
    · exact ⟨_, .saved (hcat.eq_none hid) time, hcat.set (Card.describes_fresh id _ _ _),
        hshelved, rfl⟩
    · obtain ⟨_, _, hcall, -⟩ := hwritten cause rfl
      cases hcall
  | importFile file platforms =>
    refine (leads_readText hdisk d file).bindEq ?_
    cases htext : d.text file with
    | error cause => exact .pure fun _ => ⟨cat, .unreadable htext, hcat, h, rfl⟩
    | ok text =>
      dsimp only
      cases hvalid : Definition.ofText text with
      | error e => exact .pure fun _ => ⟨cat, .invalid htext hvalid, hcat, h, rfl⟩
      | ok definition =>
        have hstorable := (Definition.isDecoded_of_ofText hvalid).isStorable
        refine (leads_save hdisk h hstorable platforms).mono ?_
        rintro _ d' (⟨id, time, hid, rfl, hshelved, -⟩ | ⟨cause, rfl⟩) hwritten
        · exact ⟨_, .imported htext hvalid (hcat.eq_none hid) time,
            hcat.set (Card.describes_fresh id _ _ _), hshelved, rfl⟩
        · obtain ⟨_, _, hcall, hunread⟩ := hwritten cause rfl
          cases hcall
          rw [htext] at hunread
          cases hunread
  | use id success =>
    refine (leads_use hdisk h id success).bind fun out d' hout => .pure fun _ => ?_
    rcases hout with ⟨e, he, rfl, time, rfl, hshelved⟩ | ⟨hid, rfl, rfl⟩
    · obtain ⟨c, hc, hdescribes⟩ := hcat.card e he
      exact ⟨_, .used hc success time, hcat.set (hdescribes.used success time), hshelved, rfl⟩
    · exact ⟨cat, .notUsed (hcat.eq_none hid) success, hcat, h, rfl⟩
  | delete id =>
    refine (leads_delete hdisk h id).bind fun out d' hout => .pure fun _ => ?_
    rcases hout with ⟨hid, rfl, hshelved⟩ | ⟨hid, rfl, rfl⟩
    · obtain ⟨e, he, rfl⟩ := List.mem_map.1 hid
      obtain ⟨c, hc, -⟩ := hcat.card e he
      exact ⟨_, .deleted hc, hcat.unset e.id, hshelved, rfl⟩
    · exact ⟨cat, .notDeleted (hcat.eq_none hid), hcat, h, rfl⟩

/-- **Every library in use does what it is to do, and keeps its files.** -/
theorem Uses.represents {path : String} {events : List Event} {s : σ}
    (h : Uses dir path events l s) :
    Shelved (dir s) l ∧ l.path = path ∧ ∃ cat, Catalogue.Run events cat ∧ cat.Represents l.list := by
  induction h with
  | opened s vacant =>
    obtain ⟨hl, hdir⟩ := leads_openAt hdisk (dir s) path s rfl
    rw [hl, hdir, found_of_isVacant vacant]
    refine ⟨shelved_of_isVacant vacant, rfl, _, .empty, ?_⟩
    exact ⟨ordered_nil, fun _ he => absurd he List.not_mem_nil, fun _ _ h => nomatch h⟩
  | elsewhere _ same ih => rwa [same]
  | @called events l l' s s' c answer _ decoded run written ih =>
    obtain ⟨hshelved, hpath, cat, hrun, hcat⟩ := ih
    have hcall := leads_call hdisk hshelved hcat decoded s rfl
    rw [run] at hcall
    obtain ⟨cat', hstep, hcat', hshelved', hpath'⟩ := hcall written
    exact ⟨hshelved', hpath'.trans hpath, cat', .step hrun hstep, hcat'⟩

/-- **A library is a map that lasts.** After any calls whose files could be written, memory
    represents the catalogue that the calls lead to; and the folder, opened anew, gives what is read
    back of memory. It is the same list if no document in it is nested too deep to be read back and
    its numbers are read back as they are. -/
theorem uses_durable {path : String} {events : List Event} {s : σ}
    (h : Uses dir path events l s) :
    (∃ cat, Catalogue.Run events cat ∧ cat.Represents l.list ∧ cat.HasRates) ∧
    ((openAt path : StateM σ _).run s).1.list
      = (l.list.filter fun e => e.definition.IsShallow).map reread ∧
    ((∀ e ∈ l.list, e.definition.IsShallow ∧ e.reread = e) →
      ((openAt path : StateM σ _).run s).1.list = l.list) := by
  obtain ⟨hshelved, rfl, cat, hrun, hcat⟩ := h.represents hdisk
  have hlist : ((openAt l.path : StateM σ _).run s).1.list
      = (l.list.filter fun e => e.definition.IsShallow).map reread := by
    rw [(leads_openAt hdisk (dir s) l.path s rfl).1]
    exact found_shelved hshelved
  refine ⟨⟨cat, hrun, hcat, hrun.hasRates⟩, hlist, fun hsame => hlist.trans ?_⟩
  rw [List.filter_eq_self.2 fun e he => decide_eq_true (hsame e he).1]
  exact (List.map_congr_left fun e he => (hsame e he).2).trans (List.map_id' _)

end

/-! ## 5. A library in a directory alone -/

/-- A definition that is saved to a folder without files is the only one there. -/
theorem leads_save_alone {d d₁ d₂ : Directory} {l : Library} {id : String}
    {definition : Definition} {platforms : List String}
    (hmake : d.makeFolders l.path = (d₁, .ok ())) (hnames : d₁.names l.path = .ok [])
    (hid : freeId l.ids (slug definition.name ++ "-" ++ "0") = id)
    (hwrite : d₁.write (l.pathOf id)
      (StoredDefinition.fresh id definition platforms "").toText.toUTF8 = .ok d₂) :
    Leads (fun d : Directory => d) d (l.save definition platforms) fun out d' =>
      out = (.ok id, l.put (.fresh id definition platforms "")) ∧ d' = d₂ := by
  refine (isDisk_id.makeFolders d _).bind fun made d' hmade => ?_
  obtain ⟨rfl, rfl⟩ := Prod.mk.inj (hmade.trans hmake)
  refine (leads_stamp d').bindEq ?_
  have htaken : Leads (fun d : Directory => d) d' l.takenIds fun taken d'' =>
      taken = l.ids ∧ d'' = d' := by
    refine (isDisk_id.names d' _).bindEq ?_
    rw [hnames]
    exact .pure ⟨List.append_nil _, rfl⟩
  refine htaken.bindEq ?_
  refine (tells_id d').bindEq ?_
  rw [hid]
  refine (leads_write isDisk_id d' l _).bind fun out d'' hout => ?_
  rcases hout with ⟨rfl, hd⟩ | ⟨cause, -, herror, -⟩
  · exact .pure ⟨rfl, Except.ok.inj (hd.symm.trans hwrite)⟩
  · cases herror.symm.trans hwrite

/-- Arrays in each other. -/
def nested : Nat → Json
  | 0 => .array []
  | n + 1 => .array [nested n]

/-- A document without a name, and with one condition that is nested. -/
def nestedDocument (n : Nat) : Json :=
  .canonical (.object [
    ("areas", .array [Rules.exampleArea]),
    ("heuristics", .object [("conds", .array [nested n]), ("kind", .string "and")]),
    ("parser_name", .string "")])

theorem isProper_nestedDocument (n : Nat) : (nestedDocument n).IsProper := by
  have hnested : (nested n).Fits := by
    induction n with
    | zero => trivial
    | succ n ih => exact ⟨ih, trivial⟩
  refine ⟨Json.canonical_canonical _, Json.fits_canonical ?_⟩
  simp [Json.Fits, Json.FitsMembers, Json.FitsItems, Rules.exampleArea, Rules.exampleRange,
    Rules.exampleCoord, Json.IsWhole64, hnested]

/-- The library after the definition has been saved. -/
def savedLibrary (d : Definition) : Library where
  path := "reg"
  list := [.fresh "definition-0" d [] ""]

theorem uses_savedLibrary {d : Definition} (hname : d.name = "") (hd : d.IsDecoded) :
    ∃ s, Uses (fun d : Directory => d) "reg" [⟨{}, .save d [], .ok "definition-0"⟩]
      (savedLibrary d) s := by
  have hmake : ({} : Directory).makeFolders "reg" = (⟨[(["reg"], .folder)]⟩, .ok ()) := by
    with_unfolding_all rfl
  have hnames : (⟨[(["reg"], .folder)]⟩ : Directory).names "reg" = .ok [] := by
    with_unfolding_all rfl
  have hopened : Uses (fun d : Directory => d) "reg" [] _ _ := .opened {} ⟨_, hmake, hnames⟩
  have hopen : (openAt "reg" : StateM Directory _).run {} = ({ path := "reg" }, {}) := by
    with_unfolding_all rfl
  rw [hopen] at hopened
  have hid : freeId [] (slug d.name ++ "-" ++ "0") = "definition-0" := by
    rw [hname]
    with_unfolding_all rfl
  have hplace : Directory.CanWrite ⟨[(["reg"], .folder)]⟩ (pathOf { path := "reg" } "definition-0")
      ["reg", "definition-0.json"] :=
    ⟨by with_unfolding_all rfl, by with_unfolding_all exact nofun, by decide +kernel⟩
  have hwrite := hplace.write (StoredDefinition.fresh "definition-0" d [] "").toText.toUTF8
  obtain ⟨hout, -⟩ := leads_save_alone (l := { path := "reg" }) hmake hnames hid hwrite {} rfl
  refine ⟨_, .called hopened (c := .save d []) hd (Prod.ext hout rfl) ?_⟩
  exact fun _ h => nomatch h

/-- The document that is saved is read from a text, but not from its file. -/
theorem nestedLibrary_reopened : (nestedDocument 123).depth = Json.depthLimit ∧
    ∃ d, Definition.ofJson (nestedDocument 123) = .ok d ∧ ∃ s,
      Uses (fun d : Directory => d) "reg" [⟨{}, .save d [], .ok "definition-0"⟩]
        (savedLibrary d) s ∧
      (savedLibrary d).list ≠ [] ∧ ((openAt "reg" : StateM Directory _).run s).1.list = [] := by
  have h : ((Definition.ofJson (nestedDocument 123)).toOption.any fun d =>
      d.name == "" && !decide d.IsShallow) = true := by decide +kernel
  refine ⟨by decide +kernel, ?_⟩
  obtain ⟨d, hd, h⟩ := exists_ok_of_any h
  simp only [Bool.and_eq_true, beq_iff_eq, Bool.not_eq_true', decide_eq_false_iff_not] at h
  obtain ⟨hname, hdeep⟩ := h
  obtain ⟨s, huses⟩ := uses_savedLibrary hname ⟨_, isProper_nestedDocument 123, hd⟩
  refine ⟨d, hd, s, huses, List.cons_ne_nil _ _, ?_⟩
  have hdeep' : decide (StoredDefinition.fresh "definition-0" d [] "").definition.IsShallow
      = false := decide_eq_false hdeep
  have hfound : (found s "reg").list
      = ([StoredDefinition.fresh "definition-0" d [] ""].filter fun e =>
        e.definition.IsShallow).map reread :=
    found_shelved (huses.represents isDisk_id).1
  rw [(leads_openAt isDisk_id s "reg" s rfl).1, hfound,
    List.filter_cons_of_neg (by rw [hdeep']; exact Bool.false_ne_true)]
  rfl

/-- A library with a definition that is not nested. -/
theorem savedLibrary_durable : ∃ d, Definition.ofJson (nestedDocument 0) = .ok d ∧ ∃ s,
    Uses (fun d : Directory => d) "reg" [⟨{}, .save d [], .ok "definition-0"⟩]
      (savedLibrary d) s ∧
    (∃ cat, Catalogue.Run [⟨{}, .save d [], .ok "definition-0"⟩] cat ∧
      cat.Represents (savedLibrary d).list ∧ cat.HasRates) ∧
    ((openAt "reg" : StateM Directory _).run s).1.list
      = ((savedLibrary d).list.filter fun e => e.definition.IsShallow).map reread ∧
    ((∀ e ∈ (savedLibrary d).list, e.definition.IsShallow ∧ e.reread = e) →
      ((openAt "reg" : StateM Directory _).run s).1.list = (savedLibrary d).list) := by
  have h : ((Definition.ofJson (nestedDocument 0)).toOption.any fun d => d.name == "") = true := by
    decide +kernel
  obtain ⟨d, hd, hname⟩ := exists_ok_of_any h
  obtain ⟨s, huses⟩ := uses_savedLibrary (eq_of_beq hname) ⟨_, isProper_nestedDocument 0, hd⟩
  exact ⟨d, hd, s, huses, uses_durable isDisk_id huses⟩

end UsageGrid.Library
