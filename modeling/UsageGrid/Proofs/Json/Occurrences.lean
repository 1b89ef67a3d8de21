import UsageGrid.Proofs.Json.Canonical
import UsageGrid.Proofs.Json.Runs

/-!
# The strings of a value

A string that the reader has handed on stays: it is found in every later state at the same level,
and in the value at the end (`occurrences_step`, `Gives.occurrences`). So what a text has between
two quotes is in a string of its value; and a character that can only stand there, such as the grave
accent, can only be found in a text if a string of the value has it (`Gives.graves`).
-/

namespace UsageGrid.Json

/-! ## 1. Strings and keys by level -/

/-- A string in a value: how many arrays and objects are around it, and whether it is a key. -/
structure Occurrence where
  level : Nat
  isKey : Bool
  text : String

mutual

/-- The strings of a value that stands at a level. -/
def occurrences (level : Nat) : Json → List Occurrence
  | .string s => [⟨level, false, s⟩]
  | .array items => occurrencesItems (level + 1) items
  | .object members => occurrencesMembers (level + 1) members
  | _ => []

def occurrencesItems (level : Nat) : List Json → List Occurrence
  | [] => []
  | v :: rest => occurrences level v ++ occurrencesItems level rest

def occurrencesMembers (level : Nat) : List (String × Json) → List Occurrence
  | [] => []
  | (k, v) :: rest => ⟨level, true, k⟩ :: occurrences level v ++ occurrencesMembers level rest

end

/-- The strings of a value, keys among them. -/
def texts (v : Json) : List String := (occurrences 0 v).map (·.text)

variable {o : Occurrence} {level : Nat}

theorem mem_occurrencesItems {items : List Json} :
    o ∈ occurrencesItems level items ↔ ∃ v ∈ items, o ∈ occurrences level v := by
  induction items with
  | nil => simp [occurrencesItems]
  | cons v rest ih => simp [occurrencesItems, ih]

theorem mem_occurrencesMembers {members : List (String × Json)} :
    o ∈ occurrencesMembers level members ↔
      ∃ m ∈ members, o = ⟨level, true, m.1⟩ ∨ o ∈ occurrences level m.2 := by
  induction members with
  | nil => simp [occurrencesMembers]
  | cons m rest ih =>
    obtain ⟨k, v⟩ := m
    simp [occurrencesMembers, ih, or_assoc]

mutual

/-- What is found in a value that stands at a level is at this level or further in, and a key is
    further in. -/
theorem level_le : ∀ (v : Json) (level : Nat), ∀ o ∈ occurrences level v,
    level ≤ o.level ∧ (o.isKey = true → level < o.level)
  | .null, _, _, h | .bool _, _, _, h | .int _, _, _, h | .float _, _, _, h =>
    absurd h List.not_mem_nil
  | .string s, level, o, h => by
    obtain rfl := List.mem_singleton.1 h
    exact ⟨Nat.le_refl _, fun h => nomatch h⟩
  | .array items, level, o, h => by
    have := levelItems_le items (level + 1) o h
    omega
  | .object members, level, o, h => by
    have := levelMembers_le members (level + 1) o h
    omega

theorem levelItems_le : ∀ (items : List Json) (level : Nat), ∀ o ∈ occurrencesItems level items,
    level ≤ o.level
  | [], _, _, h => absurd h List.not_mem_nil
  | v :: rest, level, o, h => by
    rcases List.mem_append.1 h with h | h
    · exact (level_le v level o h).1
    · exact levelItems_le rest level o h

theorem levelMembers_le : ∀ (members : List (String × Json)) (level : Nat),
    ∀ o ∈ occurrencesMembers level members, level ≤ o.level
  | [], _, _, h => absurd h List.not_mem_nil
  | (k, v) :: rest, level, o, h => by
    rcases List.mem_append.1 h with h | h
    · rcases List.mem_cons.1 h with rfl | h
      · exact Nat.le_refl _
      · exact (level_le v level o h).1
    · exact levelMembers_le rest level o h

end

/-- The keys at the first level are those of the value itself. -/
theorem mem_keys_of_occurrence {members : List (String × Json)} {k : String}
    (h : ⟨1, true, k⟩ ∈ occurrences 0 (.object members)) : k ∈ members.map (·.1) := by
  obtain ⟨m, hm, heq | hinside⟩ := mem_occurrencesMembers.1 h
  · cases heq
    exact List.mem_map.2 ⟨m, hm, rfl⟩
  · exact absurd ((level_le m.2 1 _ hinside).2 rfl) (Nat.lt_irrefl 1)

mutual

/-- The canonical form has no other strings. -/
theorem occurrences_canonical (level : Nat) : ∀ v : Json,
    occurrences level v.canonical ⊆ occurrences level v
  | .null | .bool _ | .int _ | .float _ | .string _ => List.Subset.refl _
  | .array items => occurrences_canonicalItems (level + 1) items
  | .object members => by
    intro o ho
    obtain ⟨m, hm, ho⟩ := mem_occurrencesMembers.1 ho
    exact occurrences_canonicalMembers (level + 1) members
      (mem_occurrencesMembers.2 ⟨m, mem_of_mem_sortMembers hm, ho⟩)

theorem occurrences_canonicalItems (level : Nat) : ∀ items : List Json,
    occurrencesItems level (canonicalItems items) ⊆ occurrencesItems level items
  | [] => List.Subset.refl _
  | v :: rest => by
    have hv := occurrences_canonical level v
    have hrest := occurrences_canonicalItems level rest
    intro o ho
    exact (List.mem_append.1 ho).elim (fun h => List.mem_append_left _ (hv h))
      fun h => List.mem_append_right _ (hrest h)

theorem occurrences_canonicalMembers (level : Nat) : ∀ members : List (String × Json),
    occurrencesMembers level (canonicalMembers members) ⊆ occurrencesMembers level members
  | [] => List.Subset.refl _
  | (k, v) :: rest => by
    have hv := occurrences_canonical level v
    have hrest := occurrences_canonicalMembers level rest
    intro o ho
    simp only [canonicalMembers, occurrencesMembers, List.cons_append, List.mem_cons,
      List.mem_append] at ho ⊢
    exact ho.imp_right fun h => h.imp (fun h => hv h) fun h => hrest h

end

mutual

/-- Numbers are no strings. -/
theorem occurrences_mapFloats (f : Binary64 → Binary64) (level : Nat) : ∀ v : Json,
    occurrences level (v.mapFloats f) = occurrences level v
  | .null | .bool _ | .int _ | .float _ | .string _ => rfl
  | .array items => occurrencesItems_mapItems f (level + 1) items
  | .object members => occurrencesMembers_mapMembers f (level + 1) members

theorem occurrencesItems_mapItems (f : Binary64 → Binary64) (level : Nat) :
    ∀ items : List Json, occurrencesItems level (mapItems f items) = occurrencesItems level items
  | [] => rfl
  | v :: rest => congrArg₂ List.append (occurrences_mapFloats f level v)
    (occurrencesItems_mapItems f level rest)

theorem occurrencesMembers_mapMembers (f : Binary64 → Binary64) (level : Nat) :
    ∀ members : List (String × Json),
      occurrencesMembers level (mapMembers f members) = occurrencesMembers level members
  | [] => rfl
  | (k, v) :: rest => by
    simp only [mapMembers, occurrencesMembers, occurrences_mapFloats f level v,
      occurrencesMembers_mapMembers f level rest]

end

theorem texts_canonical (v : Json) : v.canonical.texts ⊆ v.texts :=
  List.map_subset _ (occurrences_canonical 0 v)

theorem texts_mapFloats (f : Binary64 → Binary64) (v : Json) : (v.mapFloats f).texts = v.texts := by
  unfold texts
  rw [occurrences_mapFloats]

/-! ## 2. States of the reader -/

/-- The strings of an open array or object; `pending` says that the key belongs to a member that is
    being read, and not to the last one. -/
def Frame.occurrences (level : Nat) (pending : Bool) : Frame → List Occurrence
  | .list items => occurrencesItems level items
  | .members ms key =>
    (if pending then [⟨level, true, key⟩] else []) ++ occurrencesMembers level ms

def framesOccurrences (pending : Bool) : List Frame → List Occurrence
  | [] => []
  | f :: fs => f.occurrences (fs.length + 1) pending ++ framesOccurrences true fs

/-- The value that is due or being read belongs to what is open. -/
def Mode.isInside : Mode → Bool
  | .value _ | .colon | .number _ _ | .word _ _ | .text false _ _ => true
  | _ => false

/-- The strings that the reader has handed on. -/
def State.occurrences (s : State) : List Occurrence :=
  match s.mode with
  | .done v => Json.occurrences 0 v
  | mode => framesOccurrences mode.isInside s.frames

variable {fs : List Frame} {s t : State} {c : Char} {v : Json} {cs : List Char}

theorem subset_supply (v : Json) : framesOccurrences true fs ⊆ (State.supply v fs).occurrences := by
  cases fs with
  | nil => exact List.nil_subset _
  | cons f fs =>
    cases f with
    | list items =>
      intro o ho
      simp only [framesOccurrences, Frame.occurrences, List.mem_append] at ho
      simp only [State.supply, State.occurrences, framesOccurrences, Frame.occurrences,
        occurrencesItems, List.mem_append]
      tauto
    | members ms key =>
      intro o ho
      simp only [framesOccurrences, Frame.occurrences, if_true, List.mem_append,
        List.mem_singleton] at ho
      simp only [State.supply, State.occurrences, framesOccurrences, Frame.occurrences,
        occurrencesMembers, List.mem_append, List.mem_cons]
      tauto

theorem supply_subset : occurrences fs.length v ⊆ (State.supply v fs).occurrences := by
  cases fs with
  | nil => exact List.Subset.refl _
  | cons f fs =>
    cases f with
    | list items =>
      intro o ho
      simp only [State.supply, State.occurrences, framesOccurrences, Frame.occurrences,
        occurrencesItems, List.mem_append]
      exact .inl (.inl ho)
    | members ms key =>
      intro o ho
      simp only [State.supply, State.occurrences, framesOccurrences, Frame.occurrences,
        occurrencesMembers, List.mem_append, List.mem_cons]
      exact .inl (.inr (.inl (.inr ho)))

theorem subset_supplyText (asKey : Bool) (read : List Char) (text : String) :
    State.occurrences ⟨fs, .text asKey read .plain⟩ ⊆
      (State.supplyText asKey text fs).occurrences := by
  cases asKey with
  | false =>
    rw [supplyText_false]
    exact subset_supply _
  | true =>
    cases fs with
    | nil => exact List.nil_subset _
    | cons f fs =>
      cases f with
      | list items => exact @subset_supply (.list items :: fs) _
      | members ms key =>
        intro o ho
        simp only [State.occurrences, Mode.isInside, framesOccurrences, Frame.occurrences,
          Bool.false_eq_true, if_false, List.nil_append, List.mem_append] at ho
        simp only [State.supplyText, State.occurrences, framesOccurrences, Frame.occurrences,
          Mode.isInside, if_true, List.mem_append]
        tauto

/-- The string itself is found where it has been handed on. -/
theorem mem_supplyText (asKey : Bool) (text : String) :
    ∃ o ∈ (State.supplyText asKey text fs).occurrences, o.text = text := by
  have hstring : ∃ o ∈ (State.supply (.string text) fs).occurrences, o.text = text :=
    ⟨⟨fs.length, false, text⟩, supply_subset (List.mem_singleton.2 rfl), rfl⟩
  cases asKey with
  | false => rwa [supplyText_false]
  | true =>
    cases fs with
    | nil => exact hstring
    | cons f fs =>
      cases f with
      | list items => exact hstring
      | members ms key =>
        refine ⟨⟨fs.length + 1, true, text⟩, ?_, rfl⟩
        simp [State.supplyText, State.occurrences, framesOccurrences, Frame.occurrences,
          Mode.isInside]

theorem occurrences_array_reverse {items : List Json} :
    occurrencesItems (level + 1) items ⊆ occurrences level (.array items.reverse) := by
  intro o ho
  obtain ⟨v, hv, ho⟩ := mem_occurrencesItems.1 ho
  exact mem_occurrencesItems.2 ⟨v, List.mem_reverse.2 hv, ho⟩

theorem occurrences_object_reverse {members : List (String × Json)} :
    occurrencesMembers (level + 1) members ⊆ occurrences level (.object members.reverse) := by
  intro o ho
  obtain ⟨m, hm, ho⟩ := mem_occurrencesMembers.1 ho
  exact mem_occurrencesMembers.2 ⟨m, List.mem_reverse.2 hm, ho⟩

/-- The end of an array or object hands on what is in it. -/
theorem subset_closed {f : Frame} {m : Mode} (h : f.Closes m c) :
    State.occurrences ⟨f :: fs, m⟩ ⊆ (State.supply f.closed fs).occurrences := by
  cases h with
  | list items mode =>
    have hsubset : framesOccurrences m.isInside (.list items :: fs) ⊆
        (State.supply (.array items.reverse) fs).occurrences := by
      intro o ho
      rcases List.mem_append.1 ho with ho | ho
      · exact supply_subset (occurrences_array_reverse ho)
      · exact subset_supply _ ho
    rcases mode with rfl | rfl <;> exact hsubset
  | members ms key mode =>
    -- no key is pending where an object can end
    have hsubset : framesOccurrences false (.members ms key :: fs) ⊆
        (State.supply (.object ms.reverse) fs).occurrences := by
      intro o ho
      rcases List.mem_append.1 ho with ho | ho
      · exact supply_subset (occurrences_object_reverse ho)
      · exact subset_supply _ ho
    rcases mode with rfl | rfl <;> exact hsubset

/-! ## 3. One character -/

theorem Mode.Leads.subset {m m' : Mode} (h : m.Leads c m') :
    State.occurrences ⟨fs, m⟩ ⊆ State.occurrences ⟨fs, m'⟩ := by
  cases h with
  | moreText asKey => cases asKey <;> exact List.Subset.refl _
  | _ => exact List.Subset.refl _

theorem subset_opened {f : Frame} (h : f.Opens c) :
    framesOccurrences true fs ⊆ State.occurrences ⟨f :: fs, f.start⟩ := by
  cases h <;> exact List.Subset.refl _

/-- **One character keeps the strings that have been handed on.** -/
theorem occurrences_step (h : s.step c = .ok t) : s.occurrences ⊆ t.occurrences := by
  have htakes := step_eq_ok.1 h
  clear h
  induction htakes with
  | rests => exact List.Subset.refl _
  | leads way => exact way.subset
  | opens bracket => exact subset_opened bracket
  | supplies => exact subset_supply _
  | suppliesText asKey read fs => exact subset_supplyText asKey read _
  | separates f => cases f <;> exact List.Subset.refl _
  | closes bracket => exact subset_closed bracket
  | ends _ _ _ ih => exact List.Subset.trans (subset_supply _) ih

theorem occurrences_finish (h : s.finish = .ok v) : s.occurrences ⊆ occurrences 0 v := by
  obtain ⟨fs, mode⟩ := s
  cases mode with
  | done w =>
    cases h
    exact List.Subset.refl _
  | number number phase =>
    cases fs with
    | nil => exact List.nil_subset _
    | cons f fs =>
      simp only [State.finish] at h
      repeat' split at h
      all_goals contradiction
  | _ =>
    simp only [State.finish] at h
    repeat' split at h
    all_goals contradiction

/-- **What the reader has handed on is found in the value.** -/
theorem Gives.occurrences (h : Gives s cs v) : s.occurrences ⊆ Json.occurrences 0 v := by
  induction cs generalizing s with
  | nil => exact occurrences_finish (gives_nil.1 h)
  | cons c rest ih =>
    obtain ⟨m, step, next⟩ := gives_cons.1 h
    exact List.Subset.trans (occurrences_step step) (ih next)

/-! ## 4. What stands in a string -/

/-- A string that is being read goes on to its end, and is handed on. -/
theorem Gives.text {asKey : Bool} {read : List Char} {escape : Escape}
    (h : Gives ⟨fs, .text asKey read escape⟩ cs v) :
    ∃ more rest, Gives (State.supplyText asKey (String.ofList (read.reverse ++ more)) fs) rest v := by
  induction cs generalizing read escape with
  | nil =>
    have hfinish := gives_nil.1 h
    cases hfinish
  | cons c rest ih =>
    obtain ⟨m, step, next⟩ := gives_cons.1 h
    rcases stepText_cases asKey read c escape with ⟨more, _, hon⟩ | ⟨rfl, rfl⟩ | ⟨cause, hfault⟩
    · cases (hon fs).symm.trans step
      obtain ⟨more', rest', hmore⟩ := ih next
      rw [List.reverse_append, List.append_assoc] at hmore
      exact ⟨more.reverse ++ more', rest', hmore⟩
    · cases step
      exact ⟨[], rest, by rwa [List.append_nil]⟩
    · cases (hfault fs).symm.trans step

/-- What has been read of a string is found at the beginning of a string of the value. -/
theorem Gives.mem_texts {asKey : Bool} {read : List Char} {escape : Escape}
    (h : Gives ⟨fs, .text asKey read escape⟩ cs v) :
    ∃ text ∈ v.texts, read.reverse <+: text.toList := by
  obtain ⟨more, rest, hmore⟩ := h.text
  obtain ⟨o, ho, htext⟩ := @mem_supplyText fs asKey (String.ofList (read.reverse ++ more))
  refine ⟨o.text, List.mem_map.2 ⟨o, hmore.occurrences ho, rfl⟩, ?_⟩
  rw [htext, String.toList_ofList]
  exact List.prefix_append _ _

/-- A grave accent stands in a string, or the state after it is lost. -/
theorem step_grave (hs : s.mode.IsSpelled) (h : s.step '`' = .ok t) :
    (∃ asKey read, s.mode = .text asKey read .plain ∧
      t = ⟨s.frames, .text asKey ('`' :: read) .plain⟩) ∨ t.IsLost := by
  obtain ⟨fs, mode⟩ := s
  rcases step_stray ⟨rfl, rfl, by decide⟩ hs h with
    ⟨asKey, read, escape, rfl⟩ | ⟨due, rfl, hstart⟩
  · cases escape with
    | plain =>
      cases h
      exact .inl ⟨asKey, read, rfl, rfl⟩
    | code high digits =>
      have hmem : '`' ∈ digits ++ ['`'] := List.mem_append_right _ List.mem_cons_self
      simp only [State.step, stepText, codeUnit?_eq_none hmem rfl] at h
      split at h
      · cases h
        exact .inr ⟨asKey, read, high, _, rfl, '`', hmem, rfl⟩
      · cases h
    | backslash | pairBackslash high | pairMark high => cases h
  · cases hstart

/-- **Three grave accents in a text are in a string of its value.** -/
theorem Gives.graves (hs : s.mode.IsSpelled) (h : Gives s cs v)
    (hcs : ['`', '`', '`'] <:+: cs) : ∃ text ∈ v.texts, ['`', '`', '`'] <:+: text.toList := by
  obtain ⟨a, b, rfl⟩ := hcs
  rw [List.append_assoc] at h
  obtain ⟨m, hrun, hrest⟩ := gives_append.1 h
  obtain ⟨m', step, next⟩ := gives_cons.1 hrest
  rcases step_grave (hrun.isSpelled hs) step with ⟨asKey, read, -, rfl⟩ | hlost
  · have hread : Gives ⟨m.frames, .text asKey ('`' :: '`' :: '`' :: read) .plain⟩ b v :=
      (gives_of_step rfl).1 ((gives_of_step rfl).1 next)
    obtain ⟨text, htext, rest, hrest⟩ := hread.mem_texts
    refine ⟨text, htext, read.reverse, rest, ?_⟩
    rw [← hrest]
    simp
  · exact absurd next hlost.not_gives

end UsageGrid.Json
