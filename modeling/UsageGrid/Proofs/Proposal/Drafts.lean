import UsageGrid.Proofs.Json.Embedded
import UsageGrid.Proofs.Text.Parts
import UsageGrid.Proposal.Remote

/-!
# The document in a draft

A document is found in a draft whichever way it is put there: in a block fenced as JSON
(`documentChars_json`), in another fenced block (`documentChars_fenced`), or without a fence
(`documentChars_bare`).
-/

namespace UsageGrid.Proposal

open Json (braced openBrace closeBrace isSpace)

/-- What begins a block that is fenced as JSON. -/
def jsonFence : List Char := fence ++ ['j', 's', 'o', 'n']

/-- The text of a document: from brace to brace, with space around it, and without a fence. -/
structure IsBlock (block mid : List Char) : Prop where
  around : ∃ a b, block = a ++ (braced mid ++ b) ∧ (∀ c ∈ a, isSpace c = true) ∧
    ∀ c ∈ b, isSpace c = true
  free : ¬ fence <:+: block

variable {block mid p q info : List Char}

/-! ## 1. Fences -/

theorem fence_prefix_jsonFence : fence <+: jsonFence := List.prefix_append _ _

theorem not_mem_fence {c : Char} (h : c ∉ jsonFence) : c ∉ fence :=
  fun hc => h (fence_prefix_jsonFence.subset hc)

theorem not_mem_jsonFence {c : Char} (h : isSpace c = true) : c ∉ jsonFence := by
  simp only [isSpace, Bool.or_eq_true, beq_iff_eq] at h
  rcases h with ((rfl | rfl) | rfl) | rfl <;> decide

/-- Where there is no fence, there is none of JSON. -/
theorem free_jsonFence (h : ¬ fence <:+: p) : ¬ jsonFence <:+: p :=
  fun hp => h (fence_prefix_jsonFence.isInfix.trans hp)

/-- Behind a text without a fence a fence of JSON begins where it is put. -/
theorem free_before_jsonFence (h : ¬ fence <:+: p) : ¬ jsonFence <:+: p ++ jsonFence.dropLast := by
  intro hinfix
  rcases List.infix_append_iff_ne_nil.1 hinfix with hp | hrest | ⟨l₁, l₂, hne₁, hne₂, heq, hp, hrest⟩
  · exact free_jsonFence h hp
  · exact absurd hrest.length_le (by decide)
  · -- the last letter of the word is not there
    obtain ⟨l₂, c, rfl⟩ := (List.eq_nil_or_concat' l₂).resolve_left hne₂
    have hc : c = 'n' := by
      have := congrArg List.getLast? heq
      simpa [jsonFence, fence] using this.symm
    subst hc
    have hmem : 'n' ∈ jsonFence.dropLast :=
      hrest.subset (List.mem_append_right _ List.mem_cons_self)
    exact absurd hmem (by decide)

/-- A line of info adds no fence of JSON but where it begins with one. -/
theorem free_before_info (h : ¬ fence <:+: p) (hinfo : ¬ jsonFence <:+: fence ++ info) :
    ¬ jsonFence <:+: p ++ (fence ++ info) := by
  intro hinfix
  rcases List.infix_append_iff_ne_nil.1 hinfix with hp | hrest | ⟨l₁, l₂, hne₁, hne₂, heq, hp, hrest⟩
  · exact free_jsonFence h hp
  · exact hinfo hrest
  · -- as many accents as a fence has cannot stand in front of it
    match l₁, hne₁ with
    | [_], _ =>
      obtain ⟨-, rfl⟩ := List.cons.inj heq
      simp [fence] at hrest
    | [_, _], _ =>
      obtain ⟨-, heq⟩ := List.cons.inj heq
      obtain ⟨-, rfl⟩ := List.cons.inj heq
      simp [fence] at hrest
    | a :: b :: c :: l₁, _ =>
      have hfence : fence <+: a :: b :: c :: l₁ := by
        simp only [jsonFence, fence, List.cons_append, List.cons.injEq] at heq ⊢
        obtain ⟨rfl, rfl, rfl, -⟩ := heq
        exact ⟨l₁, rfl⟩
      exact h (hfence.isInfix.trans hp.isInfix)

/-- The first fence is the one that is put, or begins with accents before it. -/
theorem cutAt?_fence (h : ¬ fence <:+: p) (rest : List Char) : ∃ before more,
    (∀ c ∈ more, c = '`') ∧
      Text.cutAt? fence (p ++ (fence ++ rest)) = some (before, more ++ rest) := by
  induction p with
  | nil => exact ⟨[], [], by simp, Text.cutAt?_start (by decide)⟩
  | cons c p ih =>
    obtain ⟨hstart, hrest⟩ := not_or.1 (List.infix_cons_iff.not.1 h)
    by_cases hstarts : fence <+: c :: (p ++ (fence ++ rest))
    · -- at most two accents stand before the fence
      obtain ⟨more, hmore⟩ := hstarts
      have hcut : Text.cutAt? fence (c :: p ++ (fence ++ rest)) = some ([], more) := by
        rw [List.cons_append, ← hmore]
        exact Text.cutAt?_start (by decide)
      rw [hcut]
      match p with
      | [] =>
        simp only [fence, List.cons_append, List.nil_append, List.cons.injEq] at hmore
        exact ⟨[], ['`'], by simp, by rw [hmore.2.2.2]; rfl⟩
      | [d] =>
        simp only [fence, List.cons_append, List.nil_append, List.cons.injEq] at hmore
        exact ⟨[], ['`', '`'], by simp, by rw [hmore.2.2.2]; rfl⟩
      | d :: e :: p =>
        simp only [fence, List.cons_append, List.nil_append, List.cons.injEq] at hmore
        obtain ⟨rfl, rfl, rfl, -⟩ := hmore
        exact absurd ⟨p, rfl⟩ hstart
    · obtain ⟨before, more, hmore, hcut⟩ := ih hrest
      refine ⟨c :: before, more, hmore, ?_⟩
      rw [List.cons_append, Text.cutAt?_cons hstarts, hcut]
      rfl

/-- Behind a text without a fence no block is closed, whatever opens it. -/
theorem cutAt?_closing {part : List Char} (hpart : fence <+: part)
    (hq : ¬ fence <:+: q) : Text.cutAt? part (fence ++ q) = none ∨
      ∃ before after, Text.cutAt? part (fence ++ q) = some (before, after) ∧ ¬ fence <:+: after := by
  cases hcut : Text.cutAt? part (fence ++ q) with
  | none => exact .inl rfl
  | some r =>
    obtain ⟨before, after⟩ := r
    refine .inr ⟨before, after, rfl, fun hafter => hq ?_⟩
    have heq := Text.eq_append_of_cutAt? hcut
    have hlen := hpart.length_le
    have hsuffix : after <:+ q := by
      refine List.suffix_of_suffix_length_le ⟨before ++ part, heq.symm⟩ ⟨fence, rfl⟩ ?_
      have := congrArg List.length heq
      simp only [List.length_append] at this
      omega
    exact hafter.trans hsuffix.isInfix

/-! ## 2. Braces -/

theorem isBlank_of_isSpace {c : Char} (h : isSpace c = true) : Text.isBlank c = true := by
  simp only [isSpace, Bool.or_eq_true, beq_iff_eq] at h
  rcases h with ((rfl | rfl) | rfl) | rfl <;> rfl

/-- Blanks around the braces are trimmed. -/
theorem trimChars_braced {a b : List Char} (ha : ∀ c ∈ a, Text.isBlank c = true)
    (hb : ∀ c ∈ b, Text.isBlank c = true) : Text.trimChars (a ++ (braced mid ++ b)) = braced mid := by
  refine Text.trimChars_around ha hb ?_ ?_ (List.cons_ne_nil _ _)
  · intro c hc
    obtain rfl := Option.some.inj hc
    rfl
  · intro c hc
    rw [braced, ← List.cons_append, List.getLast?_concat] at hc
    obtain rfl := Option.some.inj hc
    rfl

theorem trimChars_braced_self (mid : List Char) : Text.trimChars (braced mid) = braced mid := by
  have hnone : ∀ c ∈ ([] : List Char), Text.isBlank c = true := List.forall_mem_nil _
  have htrim : Text.trimChars ([] ++ (braced mid ++ [])) = braced mid :=
    trimChars_braced hnone hnone
  rwa [List.nil_append, List.append_nil] at htrim

/-- The outermost braces are found, whatever is around them. -/
theorem betweenBraces?_braced {a b : List Char} (ha : openBrace ∉ a) (hb : closeBrace ∉ b) :
    betweenBraces? (a ++ (braced mid ++ b)) = some (braced mid) := by
  have hbefore : ∀ c ∈ a, decide (c ≠ openBrace) = true := fun c hc =>
    decide_eq_true fun heq => ha (heq ▸ hc)
  have hbehind : ∀ c ∈ b.reverse, decide (c ≠ closeBrace) = true := fun c hc =>
    decide_eq_true fun heq => hb (heq ▸ List.mem_reverse.1 hc)
  have hstart : (a ++ (braced mid ++ b)).dropWhile (· ≠ openBrace) = braced mid ++ b := by
    rw [List.dropWhile_append_of_pos hbefore]
    rfl
  have hend : (braced mid ++ b).reverse.dropWhile (· ≠ closeBrace) = (braced mid).reverse := by
    rw [List.reverse_append, List.dropWhile_append_of_pos hbehind]
    have hlast : (braced mid).reverse = closeBrace :: (mid.reverse ++ [openBrace]) := by
      simp [braced]
    rw [hlast]
    rfl
  have hne : (braced mid).reverse.isEmpty = false := by simp [braced]
  unfold betweenBraces?
  dsimp only
  rw [hstart, hend, hne, List.reverse_reverse]
  rfl

/-! ## 3. Blocks -/

namespace IsBlock

variable (h : IsBlock block mid)

include h

/-- The first character and the last one are in no fence. -/
theorem ends : ∃ first inner last, block = first :: (inner ++ [last]) ∧
    first ∉ jsonFence ∧ last ∉ jsonFence := by
  obtain ⟨a, b, rfl, ha, hb⟩ := h.around
  obtain ⟨first, rest, hfirst, hnot⟩ : ∃ first rest, a ++ [openBrace] = first :: rest ∧
      first ∉ jsonFence := by
    cases a with
    | nil => exact ⟨_, _, rfl, by decide⟩
    | cons c a => exact ⟨c, _, rfl, not_mem_jsonFence (ha c List.mem_cons_self)⟩
  obtain ⟨init, last, hlast, hnot'⟩ : ∃ init last, closeBrace :: b = init ++ [last] ∧
      last ∉ jsonFence := by
    rcases List.eq_nil_or_concat' b with rfl | ⟨b, c, rfl⟩
    · exact ⟨[], _, rfl, by decide⟩
    · exact ⟨closeBrace :: b, c, rfl,
        not_mem_jsonFence (hb c (List.mem_append_right _ List.mem_cons_self))⟩
  refine ⟨first, rest ++ (mid ++ init), last, ?_, hnot, hnot'⟩
  calc a ++ (braced mid ++ b)
      = (a ++ [openBrace]) ++ (mid ++ (closeBrace :: b)) := by simp [braced]
    _ = first :: (rest ++ (mid ++ init) ++ [last]) := by
      rw [hfirst, hlast]
      simp

/-- What opens or closes a block is not found in the block, nor across its end. -/
theorem cutAt? {part : List Char} (hpart : fence <+: part) (hmem : part ⊆ jsonFence)
    (rest : List Char) : Text.cutAt? part (block ++ rest)
      = (Text.cutAt? part rest).map fun (before, after) => (block ++ before, after) := by
  obtain ⟨first, inner, last, rfl, -, hlast⟩ := h.ends
  have hne : part ≠ [] := by
    rintro rfl
    exact absurd hpart (by decide)
  have hfree : ¬ part <:+: first :: inner := fun hp =>
    h.free ((hpart.isInfix.trans hp).trans ⟨[], [last], rfl⟩)
  have hsplit (rest : List Char) :
      first :: (inner ++ [last]) ++ rest = (first :: inner) ++ last :: rest := by simp
  rw [hsplit, Text.cutAt?_separated hne (fun hc => hlast (hmem hc)) hfree]
  simp

/-- What is trimmed of a block is the document from brace to brace. -/
theorem trimChars : Text.trimChars block = braced mid := by
  obtain ⟨a, b, rfl, ha, hb⟩ := h.around
  exact trimChars_braced (fun c hc => isBlank_of_isSpace (ha c hc))
    fun c hc => isBlank_of_isSpace (hb c hc)

end IsBlock

/-! ## 4. Drafts -/

theorem fenced?_eq (opening : List Char) (hasInfo : Bool) (cs : List Char) :
    fenced? opening hasInfo cs = (Text.cutAt? opening cs).bind fun r =>
      (Text.cutAt? fence (if hasInfo then afterLine r.2 else r.2)).map (·.1) := by
  unfold fenced?
  cases Text.cutAt? opening cs with
  | none => rfl
  | some r =>
    obtain ⟨before, rest⟩ := r
    dsimp only [bind, Option.bind_some]
    cases Text.cutAt? fence (if hasInfo then afterLine rest else rest) <;> rfl

/-- What follows a block that is closed. -/
theorem IsBlock.closed (h : IsBlock block mid) (q : List Char) :
    Text.cutAt? fence (block ++ (fence ++ q)) = some (block, q) := by
  rw [h.cutAt? (List.prefix_refl _) fence_prefix_jsonFence.subset,
    Text.cutAt?_start (by decide)]
  simp

/-- **A block fenced as JSON is found**, whatever follows it. -/
theorem documentChars_json (h : IsBlock block mid) (hp : ¬ fence <:+: p) (q : List Char) :
    documentChars (p ++ (jsonFence ++ (block ++ (fence ++ q)))) = braced mid := by
  have hfound : fenced? jsonFence false (p ++ (jsonFence ++ (block ++ (fence ++ q))))
      = some block := by
    rw [fenced?_eq, Text.cutAt?_append (by decide) (free_before_jsonFence hp), Option.bind_some]
    dsimp only
    rw [if_neg Bool.false_ne_true, h.closed q]
    rfl
  show Text.trimChars ((fenced? jsonFence false _ <|> _).getD _) = _
  rw [hfound]
  exact h.trimChars

/-- **A block on the lines after a fence is found**, if the line of the fence has no fence of
    JSON. -/
theorem documentChars_fenced (h : IsBlock block mid) (hp : ¬ fence <:+: p) (hq : ¬ fence <:+: q)
    (hline : '\n' ∉ info) (hinfo : ¬ jsonFence <:+: fence ++ info) :
    documentChars (p ++ (fence ++ (info ++ '\n' :: (block ++ (fence ++ q))))) = braced mid := by
  have hnone : fenced? jsonFence false (p ++ (fence ++ (info ++ '\n' :: (block ++ (fence ++ q)))))
      = none := by
    have hsplit : p ++ (fence ++ (info ++ '\n' :: (block ++ (fence ++ q))))
        = (p ++ (fence ++ info)) ++ '\n' :: (block ++ (fence ++ q)) := by simp
    rw [fenced?_eq, hsplit, Text.cutAt?_separated (by decide) (by decide)
      (free_before_info hp hinfo), h.cutAt? fence_prefix_jsonFence (List.Subset.refl _)]
    rcases cutAt?_closing fence_prefix_jsonFence hq with hcut | ⟨before, after, hcut, hafter⟩
    · rw [hcut]
      rfl
    · rw [hcut]
      simp [Text.cutAt?_eq_none_iff.2 hafter]
  have hfound : fenced? fence true (p ++ (fence ++ (info ++ '\n' :: (block ++ (fence ++ q)))))
      = some block := by
    obtain ⟨before, more, hmore, hcut⟩ :=
      cutAt?_fence hp (info ++ '\n' :: (block ++ (fence ++ q)))
    have hrest : afterLine (more ++ (info ++ '\n' :: (block ++ (fence ++ q))))
        = block ++ (fence ++ q) := by
      have hfree : ¬ ['\n'] <:+: (more ++ info) ++ ['\n'].dropLast := by
        rw [List.dropLast_singleton, List.append_nil, List.singleton_infix_iff, List.mem_append]
        rintro (hmem | hmem)
        · exact absurd (hmore _ hmem) (by decide)
        · exact hline hmem
      have hcut := Text.cutAt?_append (b := block ++ (fence ++ q)) (by decide) hfree
      have hsplit : more ++ (info ++ '\n' :: (block ++ (fence ++ q)))
          = (more ++ info) ++ (['\n'] ++ (block ++ (fence ++ q))) := by simp
      unfold afterLine
      rw [hsplit, hcut]
    rw [fenced?_eq, hcut, Option.bind_some]
    dsimp only
    rw [if_pos rfl, hrest, h.closed q]
    rfl
  show Text.trimChars ((fenced? jsonFence false _ <|> fenced? fence true _ <|> _).getD _) = _
  rw [hnone, hfound]
  exact h.trimChars

/-- **A document without a fence is found** between the outermost braces. -/
theorem documentChars_bare (h : IsBlock block mid) (hp : ¬ fence <:+: p) (hbrace : openBrace ∉ p)
    (hq : ¬ fence <:+: q) (hbrace' : closeBrace ∉ q) :
    documentChars (p ++ (block ++ q)) = braced mid := by
  have hfree : ¬ fence <:+: p ++ (block ++ q) := by
    obtain ⟨first, inner, last, hends, hfirst, hlast⟩ := h.ends
    have hsplit : p ++ (block ++ q) = p ++ first :: (inner ++ last :: q) := by
      rw [hends]
      simp
    rw [hsplit, Text.infix_separated (not_mem_fence hfirst),
      Text.infix_separated (not_mem_fence hlast)]
    rintro (hfence | hfence | hfence)
    · exact hp hfence
    · exact h.free (hends ▸ hfence.trans ⟨[first], [last], by simp⟩)
    · exact hq hfence
  have hnone {part : List Char} (hpart : fence <+: part) (hasInfo : Bool) :
      fenced? part hasInfo (p ++ (block ++ q)) = none := by
    rw [fenced?_eq, Text.cutAt?_eq_none_iff.2 fun hinfix => hfree (hpart.isInfix.trans hinfix)]
    rfl
  have hbetween : betweenBraces? (p ++ (block ++ q)) = some (braced mid) := by
    obtain ⟨a, b, rfl, ha, hb⟩ := h.around
    have hsplit : p ++ (a ++ (braced mid ++ b) ++ q) = (p ++ a) ++ (braced mid ++ (b ++ q)) := by
      simp
    rw [hsplit]
    refine betweenBraces?_braced (fun hc => ?_) fun hc => ?_
    · exact (List.mem_append.1 hc).elim hbrace fun hc => absurd (ha _ hc) (by decide)
    · exact (List.mem_append.1 hc).elim (fun hc => absurd (hb _ hc) (by decide)) hbrace'
  show Text.trimChars ((fenced? jsonFence false _ <|> fenced? fence true _ <|>
    betweenBraces? _).getD _) = _
  rw [hnone fence_prefix_jsonFence, hnone (List.prefix_refl _), hbetween]
  exact trimChars_braced_self mid

end UsageGrid.Proposal
