import UsageGrid.Proofs.Library.Durable
import UsageGrid.Proofs.Proposal.Drafts
import UsageGrid.Proofs.Rules.Written

/-!
# The shapes of a reply

A proposer may reply with a document in many shapes: as it is, in a fenced block, or between braces in
prose, and any of these as the body or as the text of a member of the body. The document that comes
out is the same (`draftOf_document`). If the body has the document as a value of its own, it is written
anew before it is read: its numbers are those that are read back, and a document that is as deep as
the reader goes is lost (`nestedReply_lost`).
-/

namespace UsageGrid.Proposal

open Json (braced openBrace closeBrace isSpace depthLimit)

/-- The text holds no fence. -/
def HasNoFence (text : String) : Prop := ¬ fence <:+: text.toList

instance : DecidablePred HasNoFence := fun _ => inferInstanceAs (Decidable (¬ _))

/-- A text of a document: it is read as what the document is written as, and has no other strings
    (as a member might that is replaced by a later one of its key). -/
def IsTextOf (d : Definition) (text : String) : Prop :=
  ∃ v, Json.read text = .ok v ∧ v.canonical = d.toJson.canonical ∧ v.texts ⊆ d.toJson.texts

/-- The ways a block can stand in a draft. -/
inductive IsDraftOf (block : String) : String → Prop
  | json {before after : String} (free : HasNoFence before) (free' : HasNoFence after) :
      IsDraftOf block (before ++ "```json" ++ block ++ "```" ++ after)
  | fenced {before info after : String} (free : HasNoFence before) (free' : HasNoFence after)
      (line : '\n' ∉ info.toList) (other : ¬ jsonFence <:+: fence ++ info.toList) :
      IsDraftOf block (before ++ "```" ++ info ++ "\n" ++ block ++ "```" ++ after)
  | bare {before after : String} (free : HasNoFence before) (free' : HasNoFence after)
      (brace : openBrace ∉ before.toList) (brace' : closeBrace ∉ after.toList) :
      IsDraftOf block (before ++ block ++ after)

/-- A reply with a document in a draft: the draft is the body, or a text that the body has as its
    member `proposal`. -/
inductive IsReplyOf (d : Definition) (body : String) : Prop
  | raw {block : String} (text : IsTextOf d block) (placed : IsDraftOf block body)
  | member {block draft : String} {members : List (String × Json)} (text : IsTextOf d block)
      (placed : IsDraftOf block draft) (parsed : Json.parse body = .ok (.object members))
      (proposal : Json.lookup members "proposal" = some (.string draft))

/-! ## 1. The text of a document -/

variable {d : Definition} {block body draft : String} {mid : List Char}
  {members : List (String × Json)}

/-- The keys of a written document. -/
def documentKeys : List String :=
  ["parser_name", "data_format", "platforms", "metrics_to_skip", "titles_to_skip",
    "available_metrics", "on_metric_check_failed", "areas", "metric_aliases", "dimension_aliases",
    "heuristics", "kind"]

theorem toJson_eq (d : Definition) : ∃ members, d.toJson = .object members ∧
    members.map (·.1) = documentKeys := ⟨_, rfl, rfl⟩

/-- What is read as a document is an object with its keys. -/
theorem object_of_canonical {v : Json} (h : v.canonical = d.toJson.canonical) :
    ∃ members, v = .object members ∧ ∀ k, k ∈ members.map (·.1) ↔ k ∈ documentKeys := by
  obtain ⟨written, hwritten, hkeys⟩ := toJson_eq d
  rw [hwritten] at h
  cases v with
  | object members =>
    refine ⟨members, rfl, fun k => ?_⟩
    have hsame : Json.sortMembers (Json.canonicalMembers members)
        = Json.sortMembers (Json.canonicalMembers written) := Json.object.inj h
    rw [← Rules.map_fst_canonicalMembers, ← Json.mem_keys_sortMembers, hsame,
      Json.mem_keys_sortMembers, Rules.map_fst_canonicalMembers, hkeys]
  | _ => cases h

/-- No key of a document begins with a mark. -/
theorem hasPlainKeys_of_mem (h : ∀ k ∈ members.map (·.1), k ∈ documentKeys) :
    Json.HasPlainKeys members := by
  have hplain : documentKeys.all (fun k => k.toList.head?.all fun c => !decide (Json.IsMark c))
      = true := by decide +kernel
  intro k hk c hc
  have hkey := List.all_eq_true.1 hplain k (h k hk)
  rw [Option.mem_def.1 hc] at hkey
  simpa using hkey

/-- **What is read as the document is written is the document.** -/
theorem ofText_of_canonical {v : Json} (hread : Json.read block = .ok v)
    (hcanonical : v.canonical = d.toJson.canonical) (hd : d.WellFormed)
    (hconditions : ∀ c ∈ d.conditions, c.IsProper) : Definition.ofText block = .ok d := by
  have hparse : Json.parse block = .ok d.toJson.canonical :=
    Json.parse_eq_ok.2 ⟨v, Json.read_eq_ok.1 hread, hcanonical⟩
  exact bind_eq_ok.2 ⟨_, mapError_eq_ok.2 hparse, Definition.ofJson_canonical hd hconditions⟩

/-- A block with the text of a document, and what the reader finds between its braces. -/
structure IsDocumentBlock (d : Definition) (block mid : List Char) (members : List (String × Json)) :
    Prop extends IsBlock block mid where
  body : Json.Body mid (.object members)
  canonical : (Json.object members).canonical = d.toJson.canonical

/-- **A text of a document without a fence in its strings is a block.** -/
theorem IsTextOf.isDocumentBlock (h : IsTextOf d block)
    (hfree : ∀ text ∈ d.toJson.texts, HasNoFence text) :
    ∃ mid members, IsDocumentBlock d block.toList mid members := by
  obtain ⟨v, hread, hcanonical, htexts⟩ := h
  have hgives := Json.read_eq_ok.1 hread
  have hfence : ¬ fence <:+: block.toList := by
    intro hinfix
    obtain ⟨text, htext, hmem⟩ := Json.Gives.graves (s := {}) (show Json.Mode.IsSpelled _ from trivial)
      hgives hinfix
    exact hfree text (htexts htext) hmem
  obtain ⟨members, rfl, -⟩ := object_of_canonical hcanonical
  obtain ⟨a, mid, b, hblock, ha, hb, hbody⟩ := Json.gives_object.1 hgives
  exact ⟨mid, members, ⟨⟨a, b, hblock, ha, hb⟩, hfence⟩, hbody, hcanonical⟩

namespace IsDocumentBlock

variable {cs : List Char} (h : IsDocumentBlock d cs mid members)

include h

theorem mem_keys {k : String} : k ∈ members.map (·.1) ↔ k ∈ documentKeys := by
  obtain ⟨members', heq, hkeys⟩ := object_of_canonical h.canonical
  cases heq
  exact hkeys k

theorem ne_nil : members ≠ [] := by
  rintro rfl
  exact absurd (h.mem_keys.2 (List.mem_cons_self (a := "parser_name"))) List.not_mem_nil

theorem hasPlainKeys : Json.HasPlainKeys members :=
  hasPlainKeys_of_mem fun _ hk => h.mem_keys.1 hk

/-- **The document is read from brace to brace.** -/
theorem ofText (hd : d.WellFormed) (hconditions : ∀ c ∈ d.conditions, c.IsProper) :
    Definition.ofText (String.ofList (braced mid)) = .ok d := by
  have hgives : Json.Gives {} (String.ofList (braced mid)).toList (.object members) := by
    rw [String.toList_ofList]
    exact Json.gives_object.2 ⟨[], mid, [], by simp, by simp, by simp, h.body⟩
  exact ofText_of_canonical (Json.read_eq_ok.2 hgives) h.canonical hd hconditions

/-- No text is read in which the block is closed by a fence. -/
theorem not_gives_closed (p q : List Char) (v : Json) :
    ¬ Json.Gives {} (p ++ (cs ++ (fence ++ q))) v := by
  obtain ⟨a, b, rfl, -, hb⟩ := h.around
  have hsplit : p ++ ((a ++ (braced mid ++ b)) ++ (fence ++ q))
      = (p ++ a) ++ (braced mid ++ (b ++ '`' :: (['`', '`'] ++ q))) := by simp [fence]
  rw [hsplit]
  exact h.body.not_gives h.ne_nil h.hasPlainKeys hb (by decide) trivial

/-- If a text with the block behind no brace is read as an object, that is the document. -/
theorem gives_bare {p q : List Char} {ms : List (String × Json)} (hbrace : openBrace ∉ p)
    (hgives : Json.Gives {} (p ++ (cs ++ q)) (.object ms)) : ms = members := by
  obtain ⟨a, b, rfl, ha, -⟩ := h.around
  obtain ⟨a', r, hsplit, ha', -⟩ := hgives.start
  -- the first brace is that of the block
  have hfirst {x : List Char} (hx : openBrace ∉ x) (y : List Char) :
      (x ++ openBrace :: y).takeWhile (· ≠ openBrace) = x := by
    have hall : ∀ c ∈ x, decide (c ≠ openBrace) = true := fun c hc =>
      decide_eq_true fun heq => hx (heq ▸ hc)
    rw [List.takeWhile_append_of_pos hall]
    exact List.append_nil x
  have hspace {x : List Char} (hx : ∀ c ∈ x, isSpace c = true) : openBrace ∉ x :=
    fun hc => absurd (hx _ hc) (by decide)
  have hsame : p ++ a = a' := by
    have heq : p ++ ((a ++ (braced mid ++ b)) ++ q)
        = (p ++ a) ++ openBrace :: (mid ++ [closeBrace] ++ (b ++ q)) := by simp [braced]
    have hnot : openBrace ∉ p ++ a := fun hc => (List.mem_append.1 hc).elim hbrace (hspace ha)
    rw [heq] at hsplit
    rw [← hfirst hnot (mid ++ [closeBrace] ++ (b ++ q)), hsplit, hfirst (hspace ha')]
  have hblock : p ++ ((a ++ (braced mid ++ b)) ++ q) = a' ++ (braced mid ++ (b ++ q)) := by
    rw [← hsame]
    simp
  rw [hblock, (Json.isBetween_value [] .anywhere).gives ha'] at hgives
  have hdone : Json.Gives ⟨[], .done (.object members)⟩ (b ++ q) (.object ms) := h.body.gives hgives
  exact Json.object.inj (Json.gives_done hdone).1

/-- **The document in a draft is the block**, wherever it is placed. -/
theorem documentText_eq {block : String} (hcs : block.toList = cs) (placed : IsDraftOf block draft) :
    documentText draft = String.ofList (braced mid) := by
  have hblock := h.toIsBlock
  refine congrArg String.ofList ?_
  cases placed with
  | @json before after free free' =>
    have hsplit : (before ++ "```json" ++ block ++ "```" ++ after).toList
        = before.toList ++ (jsonFence ++ (cs ++ (fence ++ after.toList))) := by
      simp [hcs, jsonFence, fence]
    rw [hsplit]
    exact documentChars_json hblock free _
  | @fenced before info after free free' line other =>
    have hsplit : (before ++ "```" ++ info ++ "\n" ++ block ++ "```" ++ after).toList
        = before.toList ++ (fence ++ (info.toList ++ '\n' :: (cs ++ (fence ++ after.toList)))) := by
      simp [hcs, fence]
    rw [hsplit]
    exact documentChars_fenced hblock free free' line other
  | @bare before after free free' brace brace' =>
    have hsplit : (before ++ block ++ after).toList = before.toList ++ (cs ++ after.toList) := by
      simp [hcs]
    rw [hsplit]
    exact documentChars_bare hblock free brace free' brace'

end IsDocumentBlock

/-- **A document is read from a draft of one of its texts.** -/
theorem IsTextOf.read (h : IsTextOf d block) (placed : IsDraftOf block draft)
    (hfree : ∀ text ∈ d.toJson.texts, HasNoFence text) (hd : d.WellFormed)
    (hconditions : ∀ c ∈ d.conditions, c.IsProper) :
    Definition.ofText (documentText draft) = .ok d := by
  obtain ⟨mid, members, hblock⟩ := h.isDocumentBlock hfree
  rw [hblock.documentText_eq rfl placed]
  exact hblock.ofText hd hconditions

/-! ## 2. The draft in a body -/

theorem not_isBlankText {text : String} (h : openBrace ∈ text.toList) :
    Text.isBlankText text = false :=
  Bool.eq_false_iff.2 fun hblank => absurd (List.all_eq_true.1 hblank _ h) (by decide)

/-- A body that is an object, and what stands there for the draft. -/
theorem draftOf_object (h : Json.parse body = .ok (.object members)) :
    Remote.draftOf body = match Json.lookup members "proposal" with
      | some (.string draft) => if Text.isBlankText draft then .error .emptyAnswer else .ok draft
      | some v => .ok v.compact
      | none => .ok body := by
  obtain ⟨w, hgives, hcanonical⟩ := Json.parse_eq_ok.1 h
  cases w with
  | object ms =>
    obtain ⟨a, r, hbody, -⟩ := hgives.start
    have hmem : openBrace ∈ body.toList :=
      hbody ▸ List.mem_append_right _ List.mem_cons_self
    unfold Remote.draftOf
    rw [not_isBlankText hmem, if_neg Bool.false_ne_true]
    generalize Json.parse body = parsed at h ⊢
    subst h
    rfl
  | _ => cases hcanonical

/-- A body that says nothing of a proposal is the draft. -/
theorem draftOf_body (hbrace : openBrace ∈ body.toList)
    (h : ∀ members, Json.parse body = .ok (.object members) →
      Json.lookup members "proposal" = none) : Remote.draftOf body = .ok body := by
  unfold Remote.draftOf
  rw [not_isBlankText hbrace, if_neg Bool.false_ne_true]
  split
  · rename_i members hparse
    rw [h members hparse]
  · rfl

namespace IsDocumentBlock

variable {cs : List Char} (h : IsDocumentBlock d cs mid members)

include h

theorem mem_brace {block : String} (hcs : block.toList = cs) (placed : IsDraftOf block draft) :
    openBrace ∈ draft.toList := by
  have hmem : openBrace ∈ block.toList := by
    obtain ⟨a, b, hsplit, -⟩ := h.around
    rw [hcs, hsplit]
    exact List.mem_append_right _ List.mem_cons_self
  cases placed <;> simp [hmem]

/-- A draft that is an object is the document. -/
theorem gives_draft {block : String} (hcs : block.toList = cs) (placed : IsDraftOf block draft)
    {ms : List (String × Json)} (hgives : Json.Gives {} draft.toList (.object ms)) : ms = members := by
  cases placed with
  | @json before after free free' =>
    have hsplit : (before ++ "```json" ++ block ++ "```" ++ after).toList
        = (before.toList ++ jsonFence) ++ (cs ++ (fence ++ after.toList)) := by
      simp [hcs, jsonFence, fence]
    rw [hsplit] at hgives
    exact absurd hgives (h.not_gives_closed _ _ _)
  | @fenced before info after free free' line other =>
    have hsplit : (before ++ "```" ++ info ++ "\n" ++ block ++ "```" ++ after).toList
        = (before.toList ++ (fence ++ (info.toList ++ ['\n']))) ++ (cs ++ (fence ++ after.toList)) := by
      simp [hcs, fence]
    rw [hsplit] at hgives
    exact absurd hgives (h.not_gives_closed _ _ _)
  | @bare before after free free' brace brace' =>
    have hsplit : (before ++ block ++ after).toList = before.toList ++ (cs ++ after.toList) := by
      simp [hcs]
    rw [hsplit] at hgives
    exact h.gives_bare brace hgives

/-- **A draft that is the body is not taken for an object with a proposal.** -/
theorem draftOf_draft {block : String} (hcs : block.toList = cs) (placed : IsDraftOf block draft) :
    Remote.draftOf draft = .ok draft := by
  refine draftOf_body (h.mem_brace hcs placed) fun ms hparse => ?_
  obtain ⟨w, hgives, hcanonical⟩ := Json.parse_eq_ok.1 hparse
  cases w with
  | object ms' =>
    obtain rfl := h.gives_draft hcs placed hgives
    have hms : Json.sortMembers (Json.canonicalMembers ms') = ms := Json.object.inj hcanonical
    rw [Json.lookup_eq_none_iff, ← hms, Json.mem_keys_sortMembers, Rules.map_fst_canonicalMembers,
      h.mem_keys]
    decide
  | _ => cases hcanonical

end IsDocumentBlock

/-! ## 3. A document in a body -/

/-- The document with its floating numbers as they are read back. -/
abbrev reread (d : Definition) : Definition := d.mapFloats Json.rereadFloat

/-- What is read of an object is less deep than the reader goes. -/
theorem depth_lookup_lt {key : String} {v : Json} (h : Json.parse body = .ok (.object members))
    (hlookup : Json.lookup members key = some v) : v.depth < depthLimit := by
  obtain ⟨w, hgives, hcanonical⟩ := Json.parse_eq_ok.1 h
  have hdepth : (Json.object members).depth ≤ depthLimit := by
    rw [← hcanonical]
    exact (Json.depth_canonical_le w).trans (Json.depth_read (Json.read_eq_ok.2 hgives))
  obtain ⟨m, hm, rfl⟩ := Option.map_eq_some_iff.1 hlookup
  have hmember := Json.depthMembers_le.1 le_rfl m (List.mem_of_find?_eq_some hm)
  exact Nat.lt_of_le_of_lt hmember hdepth

theorem canonical_reread (d : Definition) :
    d.toJson.canonical.reread.canonical = (reread d).toJson.canonical :=
  calc d.toJson.canonical.reread.canonical
      = d.toJson.canonical.canonical.reread := Json.canonical_mapFloats _ _
    _ = d.toJson.canonical.reread := by rw [Json.canonical_canonical]
    _ = d.toJson.reread.canonical := (Json.canonical_mapFloats _ _).symm
    _ = (reread d).toJson.canonical := by rw [Definition.toJson_mapFloats]

/-- A document that is written anew is the text of what is read back. -/
theorem isTextOf_compact (hwritable : d.toJson.IsWritable)
    (hdepth : d.toJson.canonical.depth ≤ depthLimit) :
    IsTextOf (reread d) d.toJson.canonical.compact := by
  refine ⟨_, Json.read_compact (Json.fits_canonical hwritable.fits) hdepth, canonical_reread d, ?_⟩
  rw [Definition.toJson_mapFloats, Json.texts_mapFloats, Json.texts_mapFloats]
  exact Json.texts_canonical _

/-- **Every shape of a reply leads to the document.** Whichever way a text of a document without a
    fence in its strings is placed in a draft, and whether the draft is the body or a text in it, the
    document is read. A body with the document as a value of its own leads to the document with its
    numbers as they are read back; there is no such body for a document as deep as the reader
    goes. -/
theorem draftOf_document {text : String} (haccepted : Definition.ofText text = .ok d)
    (hfree : ∀ t ∈ d.toJson.texts, HasNoFence t) :
    (∀ body, IsReplyOf d body → ∃ draft, Remote.draftOf body = .ok draft ∧
      Definition.ofText (documentText draft) = .ok d) ∧
    ∀ body members, Json.parse body = .ok (.object members) →
      Json.lookup members "proposal" = some d.toJson.canonical →
      d.toJson.canonical.depth < depthLimit ∧ ∃ draft, Remote.draftOf body = .ok draft ∧
        Definition.ofText (documentText draft) = .ok (reread d) := by
  have hd := Definition.isDecoded_of_ofText haccepted
  constructor
  · rintro body (⟨text, placed⟩ | ⟨text, placed, parsed, proposal⟩)
    · obtain ⟨mid, members, hblock⟩ := text.isDocumentBlock hfree
      exact ⟨body, hblock.draftOf_draft rfl placed,
        text.read placed hfree hd.wellFormed hd.conditions⟩
    · obtain ⟨mid, members, hblock⟩ := text.isDocumentBlock hfree
      refine ⟨_, ?_, text.read placed hfree hd.wellFormed hd.conditions⟩
      rw [draftOf_object parsed, proposal]
      exact if_neg (Bool.eq_false_iff.1 (not_isBlankText (hblock.mem_brace rfl placed)))
  · intro body members parsed proposal
    have hdepth := depth_lookup_lt parsed proposal
    refine ⟨hdepth, d.toJson.canonical.compact, ?_, ?_⟩
    · obtain ⟨members', hobject, -⟩ := toJson_eq d
      rw [draftOf_object parsed, proposal, hobject]
      rfl
    · have hfree' : ∀ t ∈ (reread d).toJson.texts, HasNoFence t := by
        rwa [Definition.toJson_mapFloats, Json.texts_mapFloats]
      have hplaced : IsDraftOf d.toJson.canonical.compact d.toJson.canonical.compact := by
        have hempty : HasNoFence "" := by decide
        have hbare : IsDraftOf d.toJson.canonical.compact ("" ++ d.toJson.canonical.compact ++ "") :=
          .bare hempty hempty (by decide) (by decide)
        rwa [String.empty_append, String.append_empty] at hbare
      exact (isTextOf_compact hd.isWritable hdepth.le).read hplaced hfree' hd.wellFormed.mapFloats
        (List.forall_mem_map.2 fun c hc => (hd.conditions c hc).mapFloats _)

/-- The body with the document as its value. -/
def replyWith (d : Definition) : String := (Json.object [("proposal", d.toJson.canonical)]).compact

theorem parse_replyWith (hwritable : d.toJson.IsWritable)
    (hdepth : d.toJson.canonical.depth < depthLimit) : Json.parse (replyWith d)
      = .ok (.object [("proposal", (reread d).toJson.canonical)]) := by
  have hread := Json.read_compact (v := .object [("proposal", d.toJson.canonical)])
    ⟨Json.fits_canonical hwritable.fits, trivial⟩
    (Nat.succ_le_of_lt (Nat.max_lt.2 ⟨hdepth, by decide⟩))
  refine Json.parse_eq_ok.2 ⟨_, Json.read_eq_ok.1 hread, ?_⟩
  show Json.object [("proposal", d.toJson.canonical.reread.canonical)] = _
  rw [canonical_reread]

/-- The example document in a block that is fenced, and as a value of the body. -/
theorem exampleReply_document : ∃ text d, Definition.ofText text = .ok d ∧
    (∀ t ∈ d.toJson.texts, HasNoFence t) ∧
    (∃ draft, Remote.draftOf ("Here it is: " ++ "```json" ++ text ++ "```" ++ "") = .ok draft ∧
      Definition.ofText (documentText draft) = .ok d) ∧
    d.toJson.canonical.depth < depthLimit ∧ ∃ draft, Remote.draftOf (replyWith d) = .ok draft ∧
      Definition.ofText (documentText draft) = .ok (reread d) := by
  have h : ((Definition.ofJson Rules.exampleDocument).toOption.any fun d =>
      d.toJson.texts.all (HasNoFence ·) && decide (d.toJson.canonical.depth < depthLimit)
        && d.conditions.isEmpty
        && decide (d.areas.map (Rules.Area.mapFloats Json.rereadFloat) = d.areas)) = true := by
    decide +kernel
  obtain ⟨d, hd, h⟩ := exists_ok_of_any h
  simp only [Bool.and_eq_true, List.all_eq_true, decide_eq_true_eq, List.isEmpty_iff] at h
  obtain ⟨⟨⟨hfree, hdepth⟩, hconditions⟩, hareas⟩ := h
  have hdecoded : d.IsDecoded := ⟨_, Definition.isProper_exampleDocument, hd⟩
  have hsame : reread d = d := by
    rw [reread, Definition.mapFloats, hareas, hconditions]
    cases d
    cases hconditions
    rfl
  have htext := isTextOf_compact hdecoded.isWritable hdepth.le
  rw [hsame] at htext
  obtain ⟨v, hread, hcanonical, -⟩ := id htext
  have haccepted := ofText_of_canonical hread hcanonical hdecoded.wellFormed hdecoded.conditions
  have hparse := parse_replyWith hdecoded.isWritable hdepth
  rw [hsame] at hparse
  have hreplies := draftOf_document haccepted hfree
  exact ⟨_, d, haccepted, hfree,
    hreplies.1 _ (.raw htext (.json (by decide) (by decide))), hreplies.2 _ _ hparse rfl⟩

/-! ## 4. A document as deep as the reader goes -/

/-- **A document as deep as the reader goes is lost in a body around it.** -/
theorem replyWith_lost (hwritable : d.toJson.IsWritable)
    (hdeep : depthLimit ≤ d.toJson.canonical.depth) (hfree : HasNoFence (replyWith d)) :
    Remote.draftOf (replyWith d) = .ok (replyWith d) ∧
      ∀ d', Definition.ofText (documentText (replyWith d)) ≠ .ok d' := by
  obtain ⟨mid, hmid⟩ : ∃ mid, (replyWith d).toList = braced mid :=
    ⟨_, String.toList_ofList⟩
  have hfits : (Json.object [("proposal", d.toJson.canonical)]).Fits :=
    ⟨Json.fits_canonical hwritable.fits, trivial⟩
  have hunread (v : Json) : Json.parse (replyWith d) ≠ .ok v := by
    intro hparse
    obtain ⟨w, hgives, -⟩ := Json.parse_eq_ok.1 hparse
    have hdepth : depthLimit < (Json.object [("proposal", d.toJson.canonical)]).depth :=
      Nat.lt_succ_of_le (hdeep.trans (Nat.le_max_left _ _))
    exact Json.read_compact_deep hfits hdepth w (Json.read_eq_ok.2 hgives)
  have hbrace : openBrace ∈ (replyWith d).toList := hmid ▸ List.mem_cons_self
  have htext : documentText (replyWith d) = replyWith d := by
    have hblock : IsBlock (replyWith d).toList mid :=
      ⟨⟨[], [], by simpa using hmid, by simp, by simp⟩, hfree⟩
    have hbare := documentChars_bare (p := []) (q := []) hblock (by decide) (by decide) (by decide)
      (by decide)
    rw [List.nil_append, List.append_nil] at hbare
    rw [documentText, hbare, ← hmid, String.ofList_toList]
  refine ⟨draftOf_body hbrace fun members hparse => absurd hparse (hunread _), fun d' hd' => ?_⟩
  rw [htext] at hd'
  obtain ⟨v, hv, -⟩ := bind_eq_ok.1 hd'
  exact hunread v (mapError_eq_ok.1 hv)

open Library (nestedDocument isProper_nestedDocument)

theorem reread_nestedDocument (n : Nat) : (nestedDocument n).reread = nestedDocument n := by
  have hnested : (Library.nested n).reread = Library.nested n := by
    induction n with
    | zero => rfl
    | succ n ih => exact congrArg (fun v => Json.array [v]) ih
  refine (Json.canonical_mapFloats _ _).symm.trans (congrArg Json.canonical ?_)
  simp only [Json.mapFloats, Json.mapMembers, Json.mapItems, hnested, Rules.exampleArea,
    Rules.exampleRange, Rules.exampleCoord]

/-- The document that is nested so deep is accepted as a text, but not as a value in a body. -/
theorem nestedReply_lost : ∃ text d, Definition.ofText text = .ok d ∧
    (∀ t ∈ d.toJson.texts, HasNoFence t) ∧ ∃ body members,
    body = (Json.object members).compact ∧
    Json.lookup members "proposal" = some d.toJson.canonical ∧
    ∀ draft, Remote.draftOf body = .ok draft → Definition.ofText (documentText draft) ≠ .ok d := by
  have hsame := reread_nestedDocument 123
  have hread := Json.read_compact (isProper_nestedDocument 123).fits (by decide +kernel)
  have hparse : Json.parse (nestedDocument 123).compact = .ok (nestedDocument 123) :=
    Json.parse_eq_ok.2 ⟨_, Json.read_eq_ok.1 hread, by rw [hsame, (isProper_nestedDocument 123).canonical]⟩
  have h : ((Definition.ofJson (nestedDocument 123)).toOption.any fun d =>
      d.toJson.texts.all (HasNoFence ·) && decide (depthLimit ≤ d.toJson.canonical.depth)
        && decide ('`' ∉ (Json.object [("proposal", d.toJson.canonical)]).compactChars)) = true := by
    decide +kernel
  obtain ⟨d, hd, h⟩ := exists_ok_of_any h
  simp only [Bool.and_eq_true, List.all_eq_true, decide_eq_true_eq] at h
  obtain ⟨⟨htexts, hdeep⟩, hgrave⟩ := h
  have haccepted : Definition.ofText (nestedDocument 123).compact = .ok d :=
    bind_eq_ok.2 ⟨_, mapError_eq_ok.2 hparse, hd⟩
  have hfree : HasNoFence (replyWith d) := by
    rw [HasNoFence, replyWith, Json.compact, String.toList_ofList]
    exact fun hfence => hgrave (hfence.subset List.mem_cons_self)
  obtain ⟨hdraft, hlost⟩ :=
    replyWith_lost (Definition.isDecoded_of_ofText haccepted).isWritable hdeep hfree
  refine ⟨_, d, haccepted, htexts, replyWith d, [("proposal", d.toJson.canonical)], rfl, rfl,
    fun draft hbody => ?_⟩
  rw [← Except.ok.inj (hdraft.symm.trans hbody)]
  exact hlost d

end UsageGrid.Proposal
