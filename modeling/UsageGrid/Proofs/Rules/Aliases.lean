import UsageGrid.Proofs.Rules.Area

/-!
# The checks of alias lists

An alias list is read pair by pair, and each check looks at the pairs before or at the list as a
whole. What they come to (`Aliases.check_eq_ok`): the list is consistent. The other two checks keep
dimensions apart from the reserved columns (`checkReserved_eq_ok`) and from each other
(`checkAreas_eq_ok`). By a consistent list no name is renamed twice (`renamed_renamed`).
-/

namespace UsageGrid.Rules.Aliases

/-! ## 1. One target for each name -/

/-- No name has two targets. -/
def OneTarget (l : Aliases) : Prop := ∀ name s t, (name, s) ∈ l → (name, t) ∈ l → s = t

theorem mem_of_lookup {l : Aliases} {name target : String} (h : l.lookup name = some target) :
    (name, target) ∈ l := by
  obtain ⟨l₁, l₂, rfl, -⟩ := List.lookup_eq_some_iff.1 h
  simp

theorem not_mem_of_lookup {l : Aliases} {name : String} (h : l.lookup name = none)
    (target : String) : (name, target) ∉ l := by
  intro hmem
  have := List.lookup_eq_none_iff.1 h (name, target) hmem
  simp at this

theorem lookup_of_mem {l : Aliases} (hl : OneTarget l) {name target : String}
    (h : (name, target) ∈ l) : l.lookup name = some target := by
  cases hlook : l.lookup name with
  | none => exact absurd h (not_mem_of_lookup hlook target)
  | some t => rw [hl name t target (mem_of_lookup hlook) h]

theorem OneTarget.cons_new {l : Aliases} (h : OneTarget l) {name : String}
    (hnew : ∀ target, (name, target) ∉ l) (target : String) : OneTarget ((name, target) :: l) := by
  intro n s t hs ht
  rcases List.mem_cons.1 hs with hs | hs
  · rcases List.mem_cons.1 ht with ht | ht
    · cases hs
      cases ht
      rfl
    · cases hs
      exact absurd ht (hnew t)
  · rcases List.mem_cons.1 ht with ht | ht
    · cases ht
      exact absurd hs (hnew s)
    · exact h n s t hs ht

theorem OneTarget.cons_known {l : Aliases} (h : OneTarget l) {name target : String}
    (hknown : (name, target) ∈ l) : OneTarget ((name, target) :: l) := by
  have hin {p : String × String} (hp : p ∈ (name, target) :: l) : p ∈ l :=
    (List.mem_cons.1 hp).elim (fun heq => heq ▸ hknown) id
  exact fun n s t hs ht => h n s t (hin hs) (hin ht)

theorem checkTargets_eq_ok {path : Path} {l : Aliases} {i : Nat} {before : Aliases}
    (hb : OneTarget before) :
    checkTargets path i before l = .ok () ↔ OneTarget (l ++ before) := by
  induction l generalizing i before with
  | nil => simpa [checkTargets] using hb
  | cons p rest ih =>
    obtain ⟨name, target⟩ := p
    -- reading on: the pair moves from the list to those before
    have step (hb' : OneTarget ((name, target) :: before)) :
        checkTargets path (i + 1) ((name, target) :: before) rest = .ok ()
          ↔ OneTarget ((name, target) :: rest ++ before) := by
      rw [ih hb']
      have hmem (q : String × String) :
          q ∈ rest ++ (name, target) :: before ↔ q ∈ (name, target) :: rest ++ before := by
        simp only [List.cons_append, List.mem_append, List.mem_cons]
        exact or_left_comm
      simp only [OneTarget, hmem]
    unfold checkTargets
    cases hlook : before.lookup name with
    | none => exact step (hb.cons_new (not_mem_of_lookup hlook) target)
    | some first =>
      have hfirst := mem_of_lookup hlook
      by_cases he : first = target
      · subst he
        dsimp only
        rw [if_pos rfl]
        exact step (hb.cons_known hfirst)
      · dsimp only
        rw [if_neg he]
        constructor
        · rintro ⟨⟩
        · intro h
          exact absurd (h name first target (List.mem_append_right _ hfirst) List.mem_cons_self) he

/-! ## 2. No second step -/

theorem checkChains_eq_ok {path : Path} {all l : Aliases} {i : Nat} :
    checkChains path all i l = .ok ()
      ↔ ∀ p ∈ l, ∀ next ∈ all.lookup p.2, p.1 ≠ p.2 → next = p.2 := by
  induction l generalizing i with
  | nil => simp [checkChains]
  | cons p rest ih =>
    obtain ⟨name, target⟩ := p
    unfold checkChains
    rw [List.forall_mem_cons]
    cases hlook : all.lookup target with
    | none => simp [ih]
    | some next =>
      by_cases hc : name ≠ target ∧ next ≠ target
      · simp [hc]
      · dsimp only
        rw [if_neg hc, ih]
        constructor
        · intro h
          refine ⟨?_, h⟩
          rintro _ ⟨⟩ hne
          exact Classical.byContradiction fun hnext => hc ⟨hne, hnext⟩
        · exact fun h => h.2

theorem consistent_iff {l : Aliases} :
    l.Consistent ↔ OneTarget l ∧ ∀ p ∈ l, ∀ next ∈ l.lookup p.2, p.1 ≠ p.2 → next = p.2 := by
  constructor
  · intro h
    refine ⟨h.oneTarget, fun p hp next hnext _ => ?_⟩
    exact h.noChain p.1 p.2 next hp (mem_of_lookup hnext)
  · rintro ⟨hone, hchain⟩
    refine ⟨hone, fun name s t hs ht => ?_⟩
    by_cases hne : name = s
    · subst hne
      exact hone name t name ht hs
    · exact hchain (name, s) hs t (lookup_of_mem hone ht) hne

theorem check_eq_ok {path : Path} {l : Aliases} : check path l = .ok () ↔ l.Consistent := by
  have hnil : OneTarget [] := fun _ _ _ h => absurd h List.not_mem_nil
  unfold check
  rw [consistent_iff, bind_eq_ok]
  constructor
  · rintro ⟨_, ht, hc⟩
    have hone := (checkTargets_eq_ok hnil).1 ht
    rw [List.append_nil] at hone
    exact ⟨hone, checkChains_eq_ok.1 hc⟩
  · rintro ⟨hone, hchain⟩
    refine ⟨(), (checkTargets_eq_ok hnil).2 ?_, checkChains_eq_ok.2 hchain⟩
    rwa [List.append_nil]

/-! ## 3. Dimensions -/

theorem checkReserved_eq_ok {path : Path} {l : Aliases} {i : Nat} :
    checkReserved path i l = .ok () ↔ ∀ p ∈ l, isReserved p.2 = false := by
  induction l generalizing i with
  | nil => simp [checkReserved]
  | cons p rest ih =>
    obtain ⟨name, target⟩ := p
    unfold checkReserved
    rw [List.forall_mem_cons]
    by_cases h : isReserved target = true
    · simp [h]
    · simp [h, ih]

theorem checkMerged_eq_ok {aliases : Aliases} {path : Path} {l : List Dimension} {i : Nat}
    {seen : List (String × String)} :
    checkMerged aliases path i seen l = .ok ()
      ↔ (l.map fun d => renamed aliases d.name).Nodup
        ∧ ∀ d ∈ l, renamed aliases d.name ∉ seen.map (·.1) := by
  induction l generalizing i seen with
  | nil => simp [checkMerged]
  | cons d rest ih =>
    unfold checkMerged
    dsimp only
    rw [List.map_cons, List.nodup_cons, List.forall_mem_cons]
    cases hlook : seen.lookup (renamed aliases d.name) with
    | some first =>
      refine ⟨fun h => (nomatch h), fun h => (h.2.1 ?_).elim⟩
      exact List.mem_map_of_mem (mem_of_lookup hlook)
    | none =>
      have hd : renamed aliases d.name ∉ seen.map (·.1) := by
        intro hmem
        obtain ⟨⟨target, first⟩, hp, rfl⟩ := List.mem_map.1 hmem
        exact not_mem_of_lookup hlook first hp
      dsimp only
      rw [ih]
      constructor
      · rintro ⟨hn, hs⟩
        refine ⟨⟨fun hmem => ?_, hn⟩, hd, fun e he hes => ?_⟩
        · obtain ⟨e, he, heq⟩ := List.mem_map.1 hmem
          exact hs e he (heq ▸ List.mem_cons_self)
        · exact hs e he (List.mem_cons_of_mem _ hes)
      · rintro ⟨⟨hmem, hn⟩, -, hs⟩
        refine ⟨hn, fun e he hes => ?_⟩
        rcases List.mem_cons.1 hes with hes | hes
        · exact hmem (List.mem_map.2 ⟨e, he, hes⟩)
        · exact hs e he hes

theorem checkAreas_eq_ok {aliases : Aliases} {path : Path} {areas : List Area} {i : Nat} :
    checkAreas aliases path i areas = .ok ()
      ↔ ∀ a ∈ areas, (a.dimensions.map fun d => renamed aliases d.name).Nodup := by
  induction areas generalizing i with
  | nil => simp [checkAreas]
  | cons a rest ih =>
    rw [checkAreas, bind_eq_ok, List.forall_mem_cons]
    constructor
    · rintro ⟨_, ha, hrest⟩
      exact ⟨(checkMerged_eq_ok.1 ha).1, ih.1 hrest⟩
    · rintro ⟨ha, hrest⟩
      exact ⟨(), checkMerged_eq_ok.2 ⟨ha, fun _ _ => List.not_mem_nil⟩, ih.2 hrest⟩

end UsageGrid.Rules.Aliases

namespace UsageGrid.Rules

/-! ## 4. Renaming -/

theorem renamed_eq_or_mem (aliases : Aliases) (name : String) :
    renamed aliases name = name ∨ (name, renamed aliases name) ∈ aliases := by
  unfold renamed
  cases h : aliases.lookup name with
  | none => exact .inl rfl
  | some target => exact .inr (Aliases.mem_of_lookup h)

/-- A name that has been renamed stays. -/
theorem renamed_renamed {aliases : Aliases} (h : aliases.Consistent) (name : String) :
    renamed aliases (renamed aliases name) = renamed aliases name := by
  rcases renamed_eq_or_mem aliases name with hsame | hfirst
  · rw [hsame, hsame]
  · rcases renamed_eq_or_mem aliases (renamed aliases name) with hsame | hsecond
    · exact hsame
    · exact h.noChain name _ _ hfirst hsecond

end UsageGrid.Rules
