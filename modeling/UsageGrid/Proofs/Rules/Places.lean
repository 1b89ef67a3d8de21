import UsageGrid.Proofs.Outcome
import UsageGrid.Rules.Fields

/-!
# Places in a document

A place leads from the root of a document to a value in it, key by key and index by index, or to
nothing (`Path.in?`). An error points into the document if there is something at the place that it
names; the place of a missing field is one under a value that has nothing there (`PointsInto`).

A decoder is handed a value with its place. Where that is the place of the value in a document, its
errors point into the document, if those of its steps do (`Guides`, `IsGuide`): so it is for the
fields of an object, whatever they are read by.
-/

namespace UsageGrid.Rules

/-! ## 1. What is at a place -/

/-- The value to which a step leads. -/
def Step.from? : Step → Json → Option Json
  | .key name, v => v.get? name
  | .index i, .array items => items[i]?
  | .index _, _ => none

namespace Path

/-- The value at a place of a document. -/
def in? (p : Path) (root : Json) : Option Json := p.steps.foldlM (fun v s => s.from? v) root

/-- The place before the last step. -/
def parent (p : Path) : Path := ⟨p.steps.dropLast⟩

def IsIn (p : Path) (root : Json) : Prop := ∃ v, p.in? root = some v

/-- There is no field at the place, though there could be one: the place before it is there, and has
    no such key, or null under it. -/
def IsMissingIn (p : Path) (root : Json) : Prop :=
  ∃ parent key holder, p = Path.key parent key ∧ parent.in? root = some holder ∧
    ∀ v ∈ holder.get? key, v = .null

section

variable {p : Path} {root v w : Json}

theorem in?_root (root : Json) : Path.root.in? root = some root := rfl

theorem in?_append (p : Path) (s : Step) (root : Json) :
    (Path.mk (p.steps ++ [s])).in? root = (p.in? root).bind s.from? := by
  unfold in?
  rw [List.foldlM_append]
  cases p.steps.foldlM (fun v s => s.from? v) root with
  | none => rfl
  | some v => exact Option.bind_fun_some (s.from? v)

theorem in?_key {name : String} (hp : p.in? root = some v) :
    (p.key name).in? root = v.get? name := by
  refine (in?_append p _ root).trans ?_
  rw [hp]
  rfl

theorem in?_index {items : List Json} (hp : p.in? root = some (.array items)) (i : Nat) :
    (p.index i).in? root = items[i]? := by
  refine (in?_append p _ root).trans ?_
  rw [hp]
  rfl

/-- What is there is under something, unless it is the whole. -/
theorem IsIn.parent (h : p.IsIn root) : p.parent.IsIn root := by
  obtain ⟨steps⟩ := p
  rcases List.eq_nil_or_concat steps with rfl | ⟨before, s, rfl⟩
  · exact h
  · obtain ⟨v, hv⟩ := h
    rw [List.concat_eq_append] at hv ⊢
    obtain ⟨w, hw, -⟩ := Option.bind_eq_some_iff.1 ((in?_append ⟨before⟩ s root).symm.trans hv)
    refine ⟨w, ?_⟩
    unfold Path.parent
    rw [List.dropLast_concat]
    exact hw

theorem IsMissingIn.parent (h : p.IsMissingIn root) : p.parent.IsIn root := by
  obtain ⟨parent, key, holder, rfl, hholder, -⟩ := h
  refine ⟨holder, ?_⟩
  unfold Path.parent Path.key
  rw [List.dropLast_concat]
  exact hholder

end

end Path

end Rules

open Rules

/-! ## 2. What an error points at -/

/-- The error names a place in the document: of a field that is not there, or else of what is
    wrong. -/
def RuleError.PointsInto (root : Json) : RuleError → Prop
  | .notJson _ => False
  | .noAreas => True
  | .missingField p => p.IsMissingIn root
  | .unknownField p | .invalidField p _ | .ambiguousSource p _ | .roleMismatch p _ _
  | .negativeCount p _ | .conflictingAlias p _ _ _ | .aliasChain p _ _ | .duplicateRole p _
  | .missingRole p _ | .notPerpendicular p _ _ => p.IsIn root

theorem RuleError.PointsInto.place {root : Json} {e : RuleError} (h : e.PointsInto root)
    (hareas : e ≠ .noAreas) : ∃ p, e.path = some p ∧
      (e = .missingField p ∧ p.IsMissingIn root ∨ e ≠ .missingField p ∧ p.IsIn root) := by
  cases e with
  | notJson => exact h.elim
  | noAreas => exact absurd rfl hareas
  | missingField p => exact ⟨p, rfl, .inl ⟨rfl, h⟩⟩
  | unknownField p | invalidField p | ambiguousSource p | roleMismatch p | negativeCount p
  | conflictingAlias p | aliasChain p | duplicateRole p | missingRole p | notPerpendicular p =>
    exact ⟨p, rfl, .inr ⟨nofun, h⟩⟩

namespace Rules

/-! ## 3. What a message says -/

/-- The text begins with the place. -/
def Quotes (p : Path) (text : String) : Prop := ∃ rest, text = p.label ++ ": " ++ rest

theorem Quotes.append {p : Path} {text : String} (h : Quotes p text) (more : String) :
    Quotes p (text ++ more) := by
  obtain ⟨rest, rfl⟩ := h
  exact ⟨rest ++ more, String.append_assoc⟩

theorem quotes_of_colon (p : Path) {text : String} (rest : String) (h : text = ": " ++ rest) :
    Quotes p (p.label ++ text) := by
  rw [h]
  exact ⟨rest, String.append_assoc.symm⟩

/-- A message begins with the place that the error names. -/
theorem quotes_message {e : RuleError} {p : Path} (h : e.path = some p) : Quotes p e.message := by
  cases e with
  | notJson | noAreas => cases h
  | missingField =>
    cases h
    exact quotes_of_colon p "missing required field" rfl
  | unknownField =>
    cases h
    exact quotes_of_colon p "unknown field" rfl
  | invalidField =>
    cases h
    exact (quotes_of_colon p "" rfl).append _
  | ambiguousSource =>
    cases h
    exact (quotes_of_colon p "ambiguous source, " rfl).append _
  | roleMismatch =>
    cases h
    exact ((quotes_of_colon p "role must be " rfl).append _).append _ |>.append _ |>.append _
  | negativeCount =>
    cases h
    exact ((quotes_of_colon p "max_count must not be negative (got " rfl).append _).append _
  | conflictingAlias =>
    cases h
    exact (quotes_of_colon p "alias '" rfl).append _ |>.append _ |>.append _ |>.append _
      |>.append _ |>.append _
  | aliasChain =>
    cases h
    exact (quotes_of_colon p "alias target '" rfl).append _ |>.append _ |>.append _ |>.append _
  | duplicateRole =>
    cases h
    exact ((quotes_of_colon p "" rfl).append _).append _
  | missingRole =>
    cases h
    exact ((quotes_of_colon p "no source for " rfl).append _).append _
  | notPerpendicular =>
    cases h
    exact (quotes_of_colon p "direction '" rfl).append _ |>.append _ |>.append _ |>.append _

/-! ## 4. Computations -/

section

variable {α β : Type} {root : Json}

/-- The errors of a computation point into the document, and its result is as described. -/
def Guides (root : Json) (x : Except RuleError α) (Q : α → Prop) : Prop :=
  match x with
  | .ok a => Q a
  | .error e => e.PointsInto root

namespace Guides

variable {x : Except RuleError α} {f : α → Except RuleError β} {Q Q' : α → Prop} {R : β → Prop}

theorem pure {a : α} (h : Q a) : Guides root (Pure.pure a) Q := h

theorem bind (hx : Guides root x Q) (hf : ∀ a, Q a → Guides root (f a) R) :
    Guides root (x >>= f) R := by
  cases x with
  | error e => exact hx
  | ok a => exact hf a hx

theorem map {g : α → β} (hx : Guides root x Q) (hg : ∀ a, Q a → R (g a)) :
    Guides root (x.map g) R := by
  cases x with
  | error e => exact hx
  | ok a => exact hg a hx

theorem mono (hx : Guides root x Q) (h : ∀ a, Q a → Q' a) : Guides root x Q' := by
  cases x with
  | error e => exact hx
  | ok a => exact h a hx

theorem pointsInto (hx : Guides root x Q) {e : RuleError} (h : x = .error e) :
    e.PointsInto root := by
  subst h
  exact hx

theorem forM {f : α → Except RuleError PUnit} {as : List α}
    (h : ∀ a ∈ as, Guides root (f a) fun _ => True) : Guides root (as.forM f) fun _ => True := by
  induction as with
  | nil => exact trivial
  | cons a rest ih =>
    obtain ⟨ha, hrest⟩ := List.forall_mem_cons.1 h
    exact ha.bind fun _ _ => ih hrest

end Guides

/-- Handed a value of the document with its place, a decoder has errors that point into the document,
    and a result as described for the place. -/
def IsGuide (root : Json) (decode : Decoder α) (Q : Path → α → Prop) : Prop :=
  ∀ v p, p.in? root = some v → Guides root (decode v p) (Q p)

/-- What is so of items at the places of an array, counted from `i`. -/
def Each (Q : Path → α → Prop) (path : Path) : Nat → List α → Prop
  | _, [] => True
  | i, a :: rest => Q (path.index i) a ∧ Each Q path (i + 1) rest

/-- What is so at every place up to a number is so of as many items. -/
theorem Each.of_index {Q : Path → α → Prop} {path : Path} {n : Nat}
    (hQ : ∀ j a, j < n → Q (path.index j) a) {i : Nat} {as : List α} (h : i + as.length = n) :
    Each Q path i as := by
  induction as generalizing i with
  | nil => exact trivial
  | cons a rest ih =>
    rw [List.length_cons] at h
    exact ⟨hQ i a (by omega), ih (by omega)⟩

/-! ## 5. Fields -/

theorem IsGuide.items {decode : Decoder α} {Q : Path → α → Prop} (h : IsGuide root decode Q)
    {p : Path} {items : List Json} (hp : p.in? root = some (.array items)) {i : Nat}
    {rest : List Json} (hrest : items.drop i = rest) :
    Guides root (decodeItems decode p i rest) (Each Q p i) := by
  induction rest generalizing i with
  | nil => exact trivial
  | cons v rest ih =>
    have hv : items[i]? = some v := by
      rw [← List.head?_drop, hrest]
      rfl
    have hrest' : items.drop (i + 1) = rest := by
      rw [← List.tail_drop, hrest]
      rfl
    refine (h v (p.index i) ((Path.in?_index hp i).trans hv)).bind fun a ha => ?_
    exact (ih hrest').bind fun as has => .pure ⟨ha, has⟩

theorem IsGuide.list {decode : Decoder α} {Q : Path → α → Prop} (h : IsGuide root decode Q) :
    IsGuide root (decodeList decode) fun p => Each Q p 0 := by
  intro v p hp
  cases v with
  | array items => exact h.items hp rfl
  | null | bool _ | int _ | float _ | string _ | object _ => exact ⟨_, hp⟩

namespace Fields

/-- The fields are those of an object in the document. -/
def IsOf (f : Fields) (root : Json) : Prop := f.path.in? root = some (.object f.members)

theorem isGuide_of (known : List String) :
    IsGuide root (Fields.of known) fun p f => f.path = p ∧ f.IsOf root := by
  intro v p hp
  cases v with
  | object members =>
    unfold Fields.of
    dsimp only
    split
    · rename_i k w hfind
      have hlookup : (Json.lookup members k).isSome = true := by
        unfold Json.lookup
        rw [Option.isSome_map, List.find?_isSome]
        exact ⟨_, List.mem_of_find?_eq_some hfind, beq_self_eq_true k⟩
      obtain ⟨w', hw'⟩ := Option.isSome_iff_exists.1 hlookup
      exact ⟨w', (Path.in?_key hp).trans hw'⟩
    · exact ⟨rfl, hp⟩
  | null | bool _ | int _ | float _ | string _ | array _ => exact ⟨_, hp⟩

/-- Where nothing is left without null, there is at most null. -/
theorem eq_null_of_filter {o : Option Json} (h : (o.filter fun v => !v.isNull) = none) :
    ∀ v ∈ o, v = .null := by
  intro v hv
  have hnull := Option.filter_eq_none_iff.1 h v hv
  cases v with
  | null => rfl
  | bool _ | int _ | float _ | string _ | array _ | object _ => exact absurd rfl hnull

section

variable {f : Fields} (hf : f.IsOf root) (key : String)

include hf

theorem in?_place {v : Json} (h : f.get? key = some v) : (f.place key).in? root = some v :=
  (Path.in?_key hf).trans (Option.eq_some_of_filter_eq_some h)

theorem isMissingIn_place (h : f.get? key = none) : (f.place key).IsMissingIn root :=
  ⟨f.path, key, _, rfl, hf, eq_null_of_filter h⟩

theorem guides_required :
    Guides root (f.required key) fun v => (f.place key).in? root = some v := by
  unfold required
  cases h : f.get? key with
  | none => exact isMissingIn_place hf key h
  | some v => exact in?_place hf key h

theorem guides_leaf (type : Json.Typed α) :
    Guides root (f.leaf key type) fun a =>
      ∃ v, (f.place key).in? root = some v ∧ type v = .ok a := by
  refine (guides_required hf key).bind fun v hv => ?_
  unfold ofLeaf
  cases h : type v with
  | error m => exact ⟨v, hv⟩
  | ok a => exact ⟨v, hv, h⟩

theorem guides_leaf? (type : Json.Typed α) :
    Guides root (f.leaf? key type) fun o =>
      ∀ a ∈ o, ∃ v, (f.place key).in? root = some v ∧ type v = .ok a := by
  unfold leaf?
  cases h : f.get? key with
  | none =>
    intro a h
    cases h
  | some v =>
    have hv := in?_place hf key h
    dsimp only
    unfold ofLeaf
    cases htype : type v with
    | error m => exact ⟨v, hv⟩
    | ok a =>
      rintro _ ⟨⟩
      exact ⟨v, hv, htype⟩

theorem guides_part {decode : Decoder α} {Q : Path → α → Prop} (h : IsGuide root decode Q) :
    Guides root (f.part key decode) (Q (f.place key)) :=
  (guides_required hf key).bind fun v hv => h v _ hv

theorem guides_part? {decode : Decoder α} {Q : Path → α → Prop} (h : IsGuide root decode Q) :
    Guides root (f.part? key decode) fun o => ∀ a ∈ o, Q (f.place key) a := by
  unfold part?
  cases hkey : f.get? key with
  | none =>
    intro a h
    cases h
  | some v =>
    refine (h v _ (in?_place hf key hkey)).map fun a ha => ?_
    rintro _ ⟨⟩
    exact ha

theorem guides_parts {decode : Decoder α} {Q : Path → α → Prop} (h : IsGuide root decode Q) :
    Guides root (f.parts key decode) (Each Q (f.place key) 0) := by
  unfold parts
  cases hkey : f.get? key with
  | none => exact trivial
  | some v => exact h.list v _ (in?_place hf key hkey)

theorem guides_word (wanted : String) (isRequired : Bool) :
    Guides root (f.word key wanted isRequired) fun _ => True := by
  unfold word
  cases hkey : f.get? key with
  | none =>
    cases isRequired with
    | true => exact isMissingIn_place hf key hkey
    | false => exact trivial
  | some v =>
    have hv := in?_place hf key hkey
    cases v with
    | string s =>
      dsimp only
      split
      · exact trivial
      · exact ⟨_, hv⟩
    | null | bool _ | int _ | float _ | array _ | object _ => exact ⟨_, hv⟩

end

end Fields

end

end Rules

end UsageGrid
