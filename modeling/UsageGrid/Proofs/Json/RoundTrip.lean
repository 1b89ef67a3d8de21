import UsageGrid.Proofs.Json.Steps

/-!
# An object that is written and read as a type

The reading of a typed value keeps track of where its parts stand. As many spans are open as there
are open arrays and objects (`Tracks`); so the span of the whole is there at the end, and an object
whose members are all asked for is read as the type reads it (`readAs_pretty`), unless it is nested
too deep (`readAs_pretty_deep`).
-/

namespace UsageGrid.Json

open Progress

variable {knows : String → Bool}

/-! ## 1. One step opens or closes at most one -/

theorem frames_supply (v : Json) (fs : List Frame) :
    (State.supply v fs).frames.length = fs.length := by
  cases fs with
  | nil => rfl
  | cons f fs => cases f <;> rfl

theorem frames_supplyText (asKey : Bool) (s : String) (fs : List Frame) :
    (State.supplyText asKey s fs).frames.length = fs.length := by
  cases asKey with
  | false =>
    rw [supplyText_false]
    exact frames_supply _ _
  | true =>
    cases fs with
    | nil => rfl
    | cons f fs => cases f <;> rfl

/-- So many arrays and objects are open after a step: one more or less, or as many as before. -/
theorem frames_step {s t : State} {c : Char} (h : s.step c = .ok t) :
    t.frames.length ≤ s.frames.length + 1 ∧ s.frames.length ≤ t.frames.length + 1 := by
  have htakes := step_eq_ok.1 h
  clear h
  induction htakes with
  | rests | leads | separates => exact ⟨Nat.le_succ _, Nat.le_succ _⟩
  | opens => exact ⟨Nat.le_refl _, Nat.le_add_right _ 2⟩
  | supplies =>
    rw [frames_supply]
    exact ⟨Nat.le_succ _, Nat.le_succ _⟩
  | suppliesText =>
    rw [frames_supplyText]
    exact ⟨Nat.le_succ _, Nat.le_succ _⟩
  | closes =>
    rw [frames_supply]
    exact ⟨Nat.le_add_right _ 2, Nat.le_refl _⟩
  | ends _ _ _ ih => rwa [frames_supply] at ih

/-! ## 2. What is tracked -/

namespace Tracker

theorem opened_supply (t : Tracker) (s : Span) :
    (t.supply s).opened.length = t.opened.length := by
  unfold supply
  split
  · rename_i h
    rw [h]
  · rename_i h
    rw [h]
    rfl

theorem opened_endScalar (t : Tracker) (stop : Mark) :
    (t.endScalar stop).opened.length = t.opened.length := by
  unfold endScalar
  split
  · exact opened_supply _ _
  · rfl

theorem opened_close (t : Tracker) (stop : Mark) (closed : Bool) :
    (t.close stop closed).opened.length = t.opened.length - 1 := by
  unfold close
  split
  · rename_i h
    rw [h]
    rfl
  · rename_i h
    rw [opened_supply, h]
    rfl

/-- As many spans are open as there are open arrays and objects. -/
def Tracks (t : Tracker) (s : State) : Prop := t.opened.length = s.frames.length

theorem Tracks.step {t : Tracker} {s s' : State} {c : Char} (h : t.Tracks s)
    (hstep : s.step c = .ok s') (before after : Mark) : (t.step s s' c before after).Tracks s' := by
  obtain ⟨hup, hdown⟩ := frames_step hstep
  have hframes (u : Tracker) (hu : u.Tracks s) :
      Tracks (if s.frames.length < s'.frames.length then
          { u with opened := ⟨before, u.key, c = openBrace, []⟩ :: u.opened }
        else if s'.frames.length < s.frames.length then u.close after true
        else u) s' := by
    unfold Tracks at hu ⊢
    split
    · rw [List.length_cons]
      omega
    · split
      · rw [opened_close]
        omega
      · omega
  refine hframes _ ?_
  -- scalars and keys open nothing
  refine Eq.trans ?_ h
  repeat' split
  all_goals first | exact opened_endScalar _ _ | rfl

end Tracker

/-- Along a run of the reader the outline keeps track. -/
theorem outline_of_reads {s t : State} {cs : List Char} (h : Reads knows s cs t)
    {tracker : Tracker} (htracks : tracker.Tracks s) (place : Position) (rest : List Char) :
    ∃ (tracker' : Tracker) (place' : Position), tracker'.Tracks t ∧
      Progress.outline ⟨s, tracker, none⟩ knows place (cs ++ rest)
        = Progress.outline ⟨t, tracker', none⟩ knows place' rest := by
  induction h generalizing tracker place with
  | nil s => exact ⟨tracker, place, htracks, rfl⟩
  | @cons s m t c cs step asked next ih =>
    obtain ⟨tracker', place', htracks', heq⟩ :=
      ih (htracks.step step ⟨place, c :: (cs ++ rest)⟩ ⟨place.after c, cs ++ rest⟩) (place.after c)
    refine ⟨tracker', place', htracks', ?_⟩
    rw [← heq]
    have hread : Progress.step ⟨s, tracker, none⟩ knows c ⟨place, c :: (cs ++ rest)⟩
        ⟨place.after c, cs ++ rest⟩ = .ok ⟨m, tracker.step s m c ⟨place, c :: (cs ++ rest)⟩
          ⟨place.after c, cs ++ rest⟩, none⟩ := by
      simp only [Progress.step, Progress.read, step, asked, Bool.false_eq_true, if_false]
    rw [List.cons_append, Progress.outline, hread]

/-! ## 3. Objects of a type -/

section

variable {m : String × Json} {rest : List (String × Json)}
  (hfits : (Json.object (m :: rest)).Fits) (hasked : ∀ n ∈ m :: rest, knows n.1 = true)

/-- Around its members an object is opened and closed. -/
theorem reads_object {last : String} {read : List (String × Json)}
    (h : ReadsTo knows ⟨[.members [] ""], .key true⟩ (prettyMembers 1 (m :: rest))
      ⟨[.members read last], .next⟩) :
    ∃ inner, prettyChars 0 (.object (m :: rest)) = inner ++ [closeBrace] ∧
      Reads knows {} inner ⟨[.members read last], .next⟩ := by
  refine ⟨openBrace :: (newline 1 ++ (prettyMembers 1 (m :: rest) ++ newline 0)),
    by simp [prettyChars], ?_⟩
  refine .cons (m := ⟨[.members [] ""], .key true⟩) rfl rfl ?_
  refine (reads_space (isBetween_key _ _) rfl (Spacing.isSpace_of_mem_newline 1)).append ?_
  exact h.append rfl (reads_space (isBetween_next _) rfl (Spacing.isSpace_of_mem_newline 0))

include hfits hasked

/-- **An object is outlined as a whole**: its value as it is read, and where it stands. -/
theorem outline_pretty (hdepth : (Json.object (m :: rest)).depth ≤ depthLimit) :
    ∃ span, outline knows (Json.object (m :: rest)).pretty
      = ⟨some (Json.object (m :: rest)).reread, some span, none⟩ := by
  have hdepth' : ([] : List Frame).length + 1 + depthMembers (m :: rest) ≤ depthLimit := by
    unfold depth at hdepth
    rw [List.length_nil]
    omega
  obtain ⟨last, hmembers⟩ := readsTo_members .indented [] [] "" true 1 (m :: rest)
    (List.cons_ne_nil _ _) hfits hdepth' fun _ => hasked
  rw [List.append_nil, Spacing.charsMembers_indented] at hmembers
  obtain ⟨inner, hinner, hreads⟩ := reads_object hmembers
  have hstart : Tracker.Tracks {} {} := rfl
  obtain ⟨tracker, place, htracks, heq⟩ := outline_of_reads hreads hstart {} [closeBrace]
  obtain ⟨o, ho⟩ : ∃ o, tracker.opened = [o] := List.length_eq_one_iff.1 htracks
  unfold outline Json.pretty
  rw [String.toList_ofList, hinner, heq]
  -- the last step closes the one object that is open
  have hstep : State.step ⟨[.members (mapMembers rereadFloat (m :: rest)).reverse last], .next⟩
        closeBrace = .ok ⟨[], .done (Json.object (m :: rest)).reread⟩ := by
    simp [State.step, isSpace, afterValue, closeBrace, State.supply, mapFloats]
  have hread : Progress.step ⟨⟨[.members (mapMembers rereadFloat (m :: rest)).reverse last], .next⟩,
        tracker, none⟩ knows closeBrace ⟨place, [closeBrace]⟩ ⟨place.after closeBrace, []⟩
      = .ok ⟨⟨[], .done (Json.object (m :: rest)).reread⟩,
          tracker.close ⟨place.after closeBrace, []⟩ true, none⟩ := by
    simp only [Progress.step, Progress.read, hstep]
    rfl
  have hroot : ∃ span, (tracker.close ⟨place.after closeBrace, []⟩ true).root = some span := by
    unfold Tracker.close
    rw [ho]
    exact ⟨_, rfl⟩
  obtain ⟨span, hspan⟩ := hroot
  refine ⟨span, ?_⟩
  rw [Progress.outline, hread]
  show Outline.mk _ (tracker.close ⟨place.after closeBrace, []⟩ true).root none = _
  rw [hspan]

/-- **A value that a type reads is read from its text.** -/
theorem readAs_pretty {α : Type} {type : Typed α} {a : α}
    (hdepth : (Json.object (m :: rest)).depth ≤ depthLimit)
    (ha : type (Json.object (m :: rest)).reread = .ok a) :
    readAs knows type (Json.object (m :: rest)).pretty = .ok a := by
  obtain ⟨span, hspan⟩ := outline_pretty hfits hasked hdepth
  unfold readAs
  rw [hspan]
  dsimp only
  rw [ha]

/-- **A text that is nested too deep is not read.** -/
theorem readAs_pretty_deep {α : Type} (type : Typed α)
    (hdepth : depthLimit < (Json.object (m :: rest)).depth) :
    ∃ fault, readAs knows type (Json.object (m :: rest)).pretty = .error fault := by
  have hbreaks : Breaks knows {} (prettyChars 0 (.object (m :: rest))) := by
    rw [← Spacing.chars_indented]
    exact breaks_value _ [] .anywhere 0 _ hfits (Nat.zero_le _) (by rw [List.length_nil]; omega)
      (by rintro _ ⟨⟩ _; exact hasked)
  obtain ⟨a, c, b, t, cause, hcs, hreads, hstep⟩ := hbreaks
  have hstart : Tracker.Tracks {} {} := rfl
  obtain ⟨tracker, place, -, heq⟩ := outline_of_reads hreads hstart {} (c :: b)
  have hfault : ∃ fault, (outline knows (Json.object (m :: rest)).pretty).fault = some fault := by
    have hread : Progress.step ⟨t, tracker, none⟩ knows c ⟨place, c :: b⟩ ⟨place.after c, b⟩
        = .error (cause, faultPlace place c t cause) := by
      simp only [Progress.step, Progress.read, hstep]
    unfold outline Json.pretty
    rw [String.toList_ofList, hcs, heq, Progress.outline, hread]
    show ∃ fault, (Progress.broken _ _ cause _).fault = some fault
    unfold Progress.broken
    split
    · exact ⟨_, rfl⟩
    · split <;> exact ⟨_, rfl⟩
  obtain ⟨fault, hfault⟩ := hfault
  unfold readAs
  dsimp only
  rw [hfault]
  repeat' split
  all_goals first | exact ⟨_, rfl⟩ | simp_all

end

end UsageGrid.Json
