import UsageGrid.Proofs.Json.Canonical
import UsageGrid.Proofs.Json.Steps

/-!
# What a text gives

What holds of the scalars of a text and passes from the parts to a whole that is not nested too deep
holds of every value that is read (`Inherited`, `holds_read`): the reader keeps it, from one
character to the next, of what it holds in its frames and what it is about to hand on. So a value
that has been read is no deeper than the reader goes (`depth_read`), and it is `IsProper`
(`isProper_of_parse`): canonical, and its whole numbers have 64 bits.
-/

namespace UsageGrid.Json

/-- A value as it is read from a text. -/
structure IsProper (v : Json) : Prop where
  canonical : v.canonical = v
  fits : v.Fits

theorem IsProper.distinct {v : Json} (h : v.IsProper) : v.Distinct :=
  h.canonical ▸ distinct_canonical v

theorem IsProper.mapFloats {v : Json} (h : v.IsProper) (f : Binary64 → Binary64) :
    (v.mapFloats f).IsProper :=
  ⟨by rw [canonical_mapFloats, h.canonical], fits_mapFloats f v h.fits⟩

/-! ## 1. Inherited properties -/

/-- A property of values by the number of arrays and objects around them. -/
structure Inherited (P : Nat → Json → Prop) : Prop where
  null : ∀ n, n ≤ depthLimit → P n .null
  bool : ∀ n b, n ≤ depthLimit → P n (.bool b)
  string : ∀ n s, n ≤ depthLimit → P n (.string s)
  number : ∀ n (t : NumberText) v, t.value? = some v → n ≤ depthLimit → P n v
  array : ∀ n items, n < depthLimit → (∀ v ∈ items, P (n + 1) v) → P n (.array items)
  object : ∀ n members, n < depthLimit → (∀ m ∈ members, P (n + 1) m.2) → P n (.object members)

section

variable {P : Nat → Json → Prop}

def Frame.Holds (P : Nat → Json → Prop) (n : Nat) : Frame → Prop
  | .list items => ∀ v ∈ items, P n v
  | .members ms _ => ∀ m ∈ ms, P n m.2

def FramesHold (P : Nat → Json → Prop) : List Frame → Prop
  | [] => True
  | f :: fs => fs.length < depthLimit ∧ f.Holds P (fs.length + 1) ∧ FramesHold P fs

def Mode.Holds (P : Nat → Json → Prop) (n : Nat) : Mode → Prop
  | .done v => P 0 v
  | .word _ v => P n v
  | _ => True

structure State.Holds (P : Nat → Json → Prop) (s : State) : Prop where
  frames : FramesHold P s.frames
  mode : s.mode.Holds P s.frames.length

variable {fs : List Frame} {v : Json} {c : Char} {s t : State}

theorem FramesHold.length_le (h : FramesHold P fs) : fs.length ≤ depthLimit := by
  cases fs with
  | nil => exact Nat.zero_le _
  | cons f fs => exact h.1

theorem holds_supply (hfs : FramesHold P fs) (hv : P fs.length v) :
    (State.supply v fs).Holds P := by
  cases fs with
  | nil => exact ⟨trivial, hv⟩
  | cons f fs =>
    obtain ⟨hroom, hf, hrest⟩ := hfs
    cases f with
    | list items => exact ⟨⟨hroom, List.forall_mem_cons.2 ⟨hv, hf⟩, hrest⟩, trivial⟩
    | members ms key => exact ⟨⟨hroom, List.forall_mem_cons.2 ⟨hv, hf⟩, hrest⟩, trivial⟩

variable (hP : Inherited P)

include hP

theorem holds_supplyText (hfs : FramesHold P fs) (asKey : Bool) (text : String) :
    (State.supplyText asKey text fs).Holds P := by
  have hstring : P fs.length (.string text) := hP.string _ _ hfs.length_le
  unfold State.supplyText
  split
  · split
    · exact ⟨hfs, trivial⟩
    · exact holds_supply hfs hstring
  · exact holds_supply hfs hstring

theorem holds_closed {f : Frame} (hfs : FramesHold P (f :: fs)) :
    (State.supply f.closed fs).Holds P := by
  obtain ⟨hroom, hf, hrest⟩ := hfs
  refine holds_supply hrest ?_
  cases f with
  | list items => exact hP.array _ _ hroom fun v hv => hf v (List.mem_reverse.1 hv)
  | members ms key => exact hP.object _ _ hroom fun m hm => hf m (List.mem_reverse.1 hm)

/-! ## 2. One character -/

theorem Mode.Leads.holds {m m' : Mode} {n : Nat} (h : m.Leads c m') (hn : n ≤ depthLimit)
    (hm : m.Holds P n) : m'.Holds P n := by
  cases h with
  | word due c letters scalar =>
    rcases scalar with rfl | ⟨b, rfl⟩
    · exact hP.null n hn
    · exact hP.bool n b hn
  | moreWord d ds v => exact hm
  | text | number | key | value | moreText | moreNumber => trivial

/-- **One character keeps what holds of the parts.** -/
theorem holds_step (hs : s.Holds P) (h : s.step c = .ok t) : t.Holds P := by
  have htakes := step_eq_ok.1 h
  clear h
  induction htakes with
  | rests => exact hs
  | leads way => exact ⟨hs.frames, way.holds hP hs.frames.length_le hs.mode⟩
  | opens bracket due room =>
    cases bracket <;> exact ⟨⟨room, fun _ h => absurd h List.not_mem_nil, hs.frames⟩, trivial⟩
  | supplies => exact holds_supply hs.frames hs.mode
  | suppliesText => exact holds_supplyText hP hs.frames _ _
  | separates f => cases f <;> exact ⟨hs.frames, trivial⟩
  | closes => exact holds_closed hP hs.frames
  | ends value _ _ ih => exact ih (holds_supply hs.frames (hP.number _ _ _ value hs.frames.length_le))

/-! ## 3. Whole texts -/

theorem holds_finish (hs : s.Holds P) (h : s.finish = .ok v) : P 0 v := by
  obtain ⟨fs, mode⟩ := s
  cases mode with
  | done w =>
    cases h
    exact hs.mode
  | number number phase =>
    simp only [State.finish] at h
    repeat' split at h
    all_goals first
      | contradiction
      | (cases h
         exact hP.number _ _ _ ‹_› (Nat.zero_le _))
  | _ =>
    simp only [State.finish] at h
    repeat' split at h
    all_goals contradiction

/-- By induction along the text. -/
theorem holds_scan (hs : s.Holds P) (p : Position) (cs : List Char) :
    (scan s p cs).state.Holds P := by
  induction cs generalizing s p with
  | nil =>
    unfold scan
    split
    · rename_i hv
      exact ⟨trivial, holds_finish hP hs hv⟩
    · exact hs
  | cons c rest ih =>
    unfold scan
    split
    · rename_i hstep
      exact ih (holds_step hP hs hstep) _
    · exact hs

/-- **What is inherited holds of what is read.** -/
theorem holds_read {text : String} (h : read text = .ok v) : P 0 v := by
  have hscan := holds_scan hP (s := {}) ⟨trivial, trivial⟩ {} text.toList
  unfold read at h
  split at h
  · rename_i hdone
    rw [hdone] at hscan
    cases h
    exact hscan.mode
  · cases h
  · cases h

end

/-! ## 4. Whole numbers of 64 bits -/

theorem gather_fst_le (start : Nat) (digits : List Char) (h : start ≤ significandMax) :
    (gather start digits).1 ≤ significandMax := by
  induction digits generalizing start with
  | nil => exact h
  | cons c rest ih =>
    unfold gather
    dsimp only
    split
    · rename_i hnext
      exact ih _ hnext
    · exact h

/-- A number is whole, of 64 bits, or floating. -/
theorem value?_cases {t : NumberText} {v : Json} (h : t.value? = some v) :
    (∃ n, v = .int n ∧ IsWhole64 n) ∨ ∃ x, v = .float x := by
  have hfloat {negative : Bool} {significand : Nat} {exponent : Int}
      (h : floatOfParts negative significand exponent = some v) : ∃ x, v = .float x := by
    simp only [floatOfParts, bind, Option.bind_eq_some_iff] at h
    obtain ⟨_, -, _, -, h⟩ := h
    exact ⟨_, (Option.some.inj h).symm⟩
  unfold NumberText.value? at h
  split at h
  · have hmax : (gather 0 t.whole).1 ≤ 2 ^ 64 - 1 := gather_fst_le 0 t.whole (Nat.zero_le _)
    unfold wholeNumber at h
    dsimp only at h
    split at h
    · exact .inr (hfloat h)
    · split at h
      · obtain rfl := Option.some.inj h
        refine .inl ⟨_, rfl, ?_⟩
        unfold IsWhole64
        omega
      · split at h
        · exact .inr (hfloat h)
        · rename_i hsmall
          obtain rfl := Option.some.inj h
          have hpow : Nat.pow 2 63 = 2 ^ 63 := rfl
          refine .inl ⟨_, rfl, ?_⟩
          unfold IsWhole64
          omega
  · exact .inr (hfloat h)

theorem inherited_fits : Inherited fun _ v => v.Fits where
  null _ _ := trivial
  bool _ _ _ := trivial
  string _ _ _ := trivial
  number _ _ v hv _ := by
    rcases value?_cases hv with ⟨n, rfl, hn⟩ | ⟨x, rfl⟩
    · exact hn
    · trivial
  array _ items _ h := (fitsItems_iff items).2 h
  object _ members _ h := (fitsMembers_iff members).2 h

theorem fits_read {text : String} {v : Json} (h : read text = .ok v) : v.Fits :=
  holds_read inherited_fits h

/-- **A text gives a proper value.** -/
theorem isProper_of_parse {text : String} {v : Json} (h : parse text = .ok v) : v.IsProper := by
  unfold parse at h
  cases hread : read text with
  | error fault =>
    rw [hread] at h
    cases h
  | ok w =>
    rw [hread] at h
    cases h
    exact ⟨canonical_canonical w, fits_canonical (fits_read hread)⟩

/-! ## 5. Depth -/

theorem inherited_depth : Inherited fun n v => n + v.depth ≤ depthLimit where
  null _ h := h
  bool _ _ h := h
  string _ _ h := h
  number _ _ v hv h := by
    rcases value?_cases hv with ⟨n, rfl, -⟩ | ⟨x, rfl⟩ <;> exact h
  array n items hroom h := by
    have hitems : depthItems items ≤ depthLimit - (n + 1) :=
      depthItems_le.2 fun v hv => by
        have := h v hv
        omega
    unfold depth
    omega
  object n members hroom h := by
    have hmembers : depthMembers members ≤ depthLimit - (n + 1) :=
      depthMembers_le.2 fun m hm => by
        have := h m hm
        omega
    unfold depth
    omega

/-- **A value that is read is no deeper than the reader goes.** -/
theorem depth_read {text : String} {v : Json} (h : read text = .ok v) : v.depth ≤ depthLimit := by
  have := holds_read inherited_depth h
  omega

end UsageGrid.Json
