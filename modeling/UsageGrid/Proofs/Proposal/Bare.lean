import UsageGrid.Proofs.Proposal.Replies
import UsageGrid.Proofs.Rules.Written

/-!
# Bare documents

A draft may be a document and nothing else. But a fenced block is looked for before the braces are
(`HasBlock`), and it is found in the strings of the document as well. So a bare object is taken as
it is where there is no such block, and else something is cut out of it
(`documentText_eq_trim_iff`). What is cut out of the written form of a document is no document
(`not_ofText_toText`).
-/

namespace UsageGrid.Proposal

open Json (braced openBrace closeBrace isSpace)

/-- The text has a fenced block: it is fenced as JSON, or stands on the lines after a fence, or
    behind the fence if that is on the last line. -/
inductive HasBlock : List Char → Prop
  | json (before body after : List Char) :
      HasBlock (before ++ (jsonFence ++ (body ++ (fence ++ after))))
  | lines (before info body after : List Char) :
      HasBlock (before ++ (fence ++ (info ++ '\n' :: (body ++ (fence ++ after)))))
  | line (before body after : List Char) (last : '\n' ∉ body ++ after) :
      HasBlock (before ++ (fence ++ (body ++ (fence ++ after))))

/-! ## 1. The block that is found -/

variable {cs rest mid block a b : List Char} {opening : List Char} {hasInfo : Bool} {d : Definition}

theorem afterLine_suffix (cs : List Char) : afterLine cs <:+ cs := by
  unfold afterLine
  split
  · rename_i line rest hcut
    exact ⟨line ++ ['\n'], (Text.eq_append_of_cutAt? hcut).symm⟩
  · exact List.suffix_refl cs

/-- What is found of a block is what is closed by the first fence behind its opening. -/
theorem fenced?_eq_some : fenced? opening hasInfo cs = some block ↔
    ∃ before rest after, Text.cutAt? opening cs = some (before, rest) ∧
      Text.cutAt? fence (if hasInfo then afterLine rest else rest) = some (block, after) := by
  rw [fenced?_eq]
  constructor
  · intro h
    obtain ⟨⟨before, rest⟩, hopening, h⟩ := Option.bind_eq_some_iff.1 h
    obtain ⟨⟨body, after⟩, hclosing, rfl⟩ := Option.map_eq_some_iff.1 h
    exact ⟨before, rest, after, hopening, hclosing⟩
  · rintro ⟨before, rest, after, hopening, hclosing⟩
    rw [hopening, Option.bind_some, hclosing]
    rfl

/-- A fence in the rest of a text closes a block there. -/
theorem exists_closing (h : fence <:+: rest) :
    ∃ body after, Text.cutAt? fence rest = some (body, after) := by
  obtain ⟨a, b, rfl⟩ := h
  have hfence : fence ≠ [] := by decide
  obtain ⟨body, after, hcut, -⟩ := Text.exists_cutAt? hfence a b
  exact ⟨body, after, by rw [List.append_assoc, hcut]⟩

/-- A fence behind an opening, wherever that is, makes a block. -/
theorem exists_fenced (hne : opening ≠ []) {before behind : List Char}
    (h : ∀ rest, behind <:+ rest → fence <:+: (if hasInfo then afterLine rest else rest)) :
    ∃ block, fenced? opening hasInfo (before ++ (opening ++ behind)) = some block := by
  obtain ⟨before', rest, hopening, hsuffix⟩ := Text.exists_cutAt? hne before behind
  obtain ⟨body, after, hclosing⟩ := exists_closing (h rest hsuffix)
  exact ⟨body, fenced?_eq_some.2 ⟨_, _, _, hopening, hclosing⟩⟩

/-- A block stands before a fence and has none. -/
theorem around_fenced (h : fenced? opening hasInfo cs = some block) :
    (∃ before after, cs = before ++ (block ++ (fence ++ after))) ∧ ¬ fence <:+: block := by
  obtain ⟨before, rest, after, hopening, hclosing⟩ := fenced?_eq_some.1 h
  refine ⟨?_, Text.not_infix_of_cutAt? (by decide) hclosing⟩
  have hsuffix : (if hasInfo then afterLine rest else rest) <:+ cs := by
    have hrest : rest <:+ cs := ⟨before ++ opening, (Text.eq_append_of_cutAt? hopening).symm⟩
    split
    · exact (afterLine_suffix rest).trans hrest
    · exact hrest
  rw [Text.eq_append_of_cutAt? hclosing] at hsuffix
  obtain ⟨front, hfront⟩ := hsuffix
  exact ⟨front, after, by simpa using hfront.symm⟩

theorem fenced_json_iff : (∃ block, fenced? jsonFence false cs = some block) ↔
    ∃ before body after, cs = before ++ (jsonFence ++ (body ++ (fence ++ after))) := by
  constructor
  · rintro ⟨block, h⟩
    obtain ⟨before, rest, after, hopening, hclosing⟩ := fenced?_eq_some.1 h
    have hrest : rest = block ++ fence ++ after := Text.eq_append_of_cutAt? hclosing
    refine ⟨before, block, after, ?_⟩
    rw [Text.eq_append_of_cutAt? hopening, hrest]
    simp
  · rintro ⟨before, body, after, rfl⟩
    refine exists_fenced (by decide) fun rest hrest => ?_
    exact List.IsInfix.trans ⟨body, after, by simp⟩ hrest.isInfix

/-- Behind the first line there is what is on the lines after some line. -/
theorem suffix_afterLine {info lines : List Char} (h : info ++ '\n' :: lines <:+ rest) :
    lines <:+ afterLine rest := by
  obtain ⟨front, rfl⟩ := h
  obtain ⟨line, rest, hcut, hsuffix⟩ :=
    Text.exists_cutAt? (List.cons_ne_nil '\n' []) (front ++ info) lines
  unfold afterLine
  rw [show front ++ (info ++ '\n' :: lines) = front ++ info ++ (['\n'] ++ lines) by simp, hcut]
  exact hsuffix

/-- The last line is not left out. -/
theorem suffix_afterLine_last {last : List Char} (hlast : '\n' ∉ last) (h : last <:+ rest) :
    last <:+ afterLine rest := by
  unfold afterLine
  split
  · rename_i line behind hcut
    have hline : '\n' :: behind <:+ rest :=
      ⟨line, by rw [Text.eq_append_of_cutAt? hcut]; simp⟩
    rcases List.suffix_or_suffix_of_suffix h hline with hshort | hlong
    · rcases List.suffix_cons_iff.1 hshort with rfl | hbehind
      · exact absurd List.mem_cons_self hlast
      · exact hbehind
    · exact absurd (hlong.subset List.mem_cons_self) hlast
  · exact h

theorem fenced_line_iff : (∃ block, fenced? fence true cs = some block) ↔
    (∃ before info body after,
      cs = before ++ (fence ++ (info ++ '\n' :: (body ++ (fence ++ after))))) ∨
    ∃ before body after, '\n' ∉ body ++ after ∧
      cs = before ++ (fence ++ (body ++ (fence ++ after))) := by
  constructor
  · rintro ⟨block, h⟩
    obtain ⟨before, rest, after, hopening, hclosing⟩ := fenced?_eq_some.1 h
    rw [if_pos rfl] at hclosing
    have hcs := Text.eq_append_of_cutAt? hopening
    have hblock := Text.eq_append_of_cutAt? hclosing
    unfold afterLine at hblock
    split at hblock
    · rename_i info behind hline
      refine .inl ⟨before, info, block, after, ?_⟩
      rw [hcs, Text.eq_append_of_cutAt? hline, hblock]
      simp
    · rename_i hline
      have hlast : '\n' ∉ rest :=
        fun hmem => Text.cutAt?_eq_none_iff.1 hline ((List.singleton_infix_iff _ _).2 hmem)
      refine .inr ⟨before, block, after, fun hmem => hlast ?_, ?_⟩
      · rw [hblock]
        rcases List.mem_append.1 hmem with hmem | hmem <;> simp [hmem]
      · rw [hcs, hblock]
        simp
  · have hfence (body after : List Char) : fence <:+: body ++ (fence ++ after) :=
      ⟨body, after, by simp⟩
    rintro (⟨before, info, body, after, rfl⟩ | ⟨before, body, after, hlast, rfl⟩)
    · exact exists_fenced (by decide) fun rest hrest =>
        (hfence body after).trans (suffix_afterLine hrest).isInfix
    · have hlast' : '\n' ∉ body ++ (fence ++ after) := by
        rw [List.mem_append, List.mem_append, or_left_comm, ← List.mem_append]
        exact fun hmem => hmem.elim (by decide) hlast
      exact exists_fenced (by decide) fun rest hrest =>
        (hfence body after).trans (suffix_afterLine_last hlast' hrest).isInfix

/-- **A block is found where there is one.** -/
theorem hasBlock_iff : HasBlock cs ↔
    (fenced? jsonFence false cs <|> fenced? fence true cs).isSome = true := by
  have hsome : (fenced? jsonFence false cs <|> fenced? fence true cs).isSome = true ↔
      (∃ block, fenced? jsonFence false cs = some block) ∨
        ∃ block, fenced? fence true cs = some block := by
    rw [← Option.isSome_iff_exists, ← Option.isSome_iff_exists, ← Bool.or_eq_true]
    cases fenced? jsonFence false cs <;> simp
  rw [hsome, fenced_json_iff, fenced_line_iff]
  constructor
  · rintro (⟨before, body, after⟩ | ⟨before, info, body, after⟩ | ⟨before, body, after, last⟩)
    · exact .inl ⟨before, body, after, rfl⟩
    · exact .inr (.inl ⟨before, info, body, after, rfl⟩)
    · exact .inr (.inr ⟨before, body, after, last, rfl⟩)
  · rintro (⟨before, body, after, rfl⟩ | ⟨before, info, body, after, rfl⟩ |
      ⟨before, body, after, last, rfl⟩)
    · exact .json before body after
    · exact .lines before info body after
    · exact .line before body after last

instance : DecidablePred HasBlock := fun _ => decidable_of_iff _ hasBlock_iff.symm

theorem HasBlock.of_take {n : Nat} {before info body : List Char}
    (h : cs.take n = before ++ (fence ++ (info ++ '\n' :: (body ++ fence)))) : HasBlock cs := by
  have hsplit : cs = before ++ (fence ++ (info ++ '\n' :: (body ++ (fence ++ cs.drop n)))) := by
    conv_lhs => rw [← List.take_append_drop n cs, h]
    simp
  rw [hsplit]
  exact .lines before info body (cs.drop n)

/-- What is taken of a text with a block is the block, without the blanks around it. -/
theorem documentChars_of_hasBlock (h : HasBlock cs) : ∃ block,
    documentChars cs = Text.trimChars block ∧
      (∃ before after, cs = before ++ (block ++ (fence ++ after))) ∧ ¬ fence <:+: block := by
  have hfound := hasBlock_iff.1 h
  cases hjson : fenced? jsonFence false cs with
  | some block =>
    refine ⟨block, ?_, around_fenced hjson⟩
    show Text.trimChars ((fenced? jsonFence false cs <|> _).getD cs) = _
    rw [hjson]
    rfl
  | none =>
    rw [hjson] at hfound
    obtain ⟨block, hblock⟩ : ∃ block, fenced? fence true cs = some block :=
      Option.isSome_iff_exists.1 hfound
    refine ⟨block, ?_, around_fenced hblock⟩
    show Text.trimChars ((fenced? jsonFence false cs <|> fenced? fence true cs <|> _).getD cs) = _
    rw [hjson, hblock]
    rfl

/-- What is taken of a text without a block is what the braces hold. -/
theorem documentChars_of_not_hasBlock (h : ¬ HasBlock cs) :
    documentChars cs = Text.trimChars ((betweenBraces? cs).getD cs) := by
  rw [hasBlock_iff, Bool.not_eq_true, Option.isSome_eq_false_iff, Option.isNone_iff_eq_none] at h
  show Text.trimChars ((fenced? jsonFence false cs <|> fenced? fence true cs <|>
    betweenBraces? cs).getD cs) = _
  cases hjson : fenced? jsonFence false cs with
  | some block =>
    rw [hjson] at h
    cases h
  | none =>
    rw [hjson] at h
    have hnone : fenced? fence true cs = none := h
    rw [hnone]
    rfl

/-! ## 2. Bare objects -/

theorem grave_not_mem (h : ∀ c ∈ a, Text.isBlank c = true) : '`' ∉ a :=
  fun hmem => absurd (h _ hmem) (by decide)

/-- A fence in a text stands between the braces. -/
theorem infix_braced (ha : ∀ c ∈ a, Text.isBlank c = true) (hb : ∀ c ∈ b, Text.isBlank c = true)
    (h : fence <:+: a ++ (braced mid ++ b)) : fence <:+: braced mid := by
  have hnone {x : List Char} (hx : ∀ c ∈ x, Text.isBlank c = true) : ¬ fence <:+: x :=
    fun hfence => grave_not_mem hx (hfence.subset List.mem_cons_self)
  have hsplit : a ++ (braced mid ++ b) = a ++ openBrace :: (mid ++ closeBrace :: b) := by
    simp [braced]
  rw [hsplit, Text.infix_separated (by decide), Text.infix_separated (by decide)] at h
  have hmid := (h.resolve_left (hnone ha)).resolve_right (hnone hb)
  exact hmid.trans ⟨[openBrace], [closeBrace], by simp [braced]⟩

/-- **A bare text between braces is taken as it is if there is no block in it**, and only then. -/
theorem documentChars_braced_iff (ha : ∀ c ∈ a, Text.isBlank c = true)
    (hb : ∀ c ∈ b, Text.isBlank c = true) :
    documentChars (a ++ (braced mid ++ b)) = braced mid ↔ ¬ HasBlock (a ++ (braced mid ++ b)) := by
  constructor
  · intro h hblock
    obtain ⟨block, hfound, ⟨before, after, hsplit⟩, hfree⟩ := documentChars_of_hasBlock hblock
    have hfence : fence <:+: braced mid :=
      infix_braced ha hb ⟨before ++ block, after, by rw [hsplit]; simp⟩
    rw [← h, hfound] at hfence
    obtain ⟨front, back, hblanks, -, -⟩ := Text.trimChars_split block
    exact hfree (hfence.trans ⟨front, back, by rw [List.append_assoc]; exact hblanks.symm⟩)
  · intro h
    have hbrace {x : List Char} (hx : ∀ c ∈ x, Text.isBlank c = true) {c : Char}
        (hc : Text.isBlank c = false) : c ∉ x := fun hmem =>
      Bool.false_ne_true (hc.symm.trans (hx c hmem))
    rw [documentChars_of_not_hasBlock h, betweenBraces?_braced (hbrace ha rfl) (hbrace hb rfl)]
    exact trimChars_braced_self mid

/-- A text that is one object but for the blanks around it goes from brace to brace. -/
theorem trim_eq_braced {text : String} {members : List (String × Json)}
    (h : Json.read (Text.trim text) = .ok (.object members)) :
    ∃ mid, Text.trim text = String.ofList (braced mid) := by
  have hgives := Json.read_eq_ok.1 h
  rw [Text.trim, String.toList_ofList] at hgives
  obtain ⟨a, mid, b, hsplit, ha, hb, -⟩ := Json.gives_object.1 hgives
  refine ⟨mid, congrArg String.ofList ?_⟩
  rw [← Text.trimChars_trimChars, hsplit]
  exact trimChars_braced (fun c hc => isBlank_of_isSpace (ha c hc))
    fun c hc => isBlank_of_isSpace (hb c hc)

theorem documentText_eq_trim_iff {text : String} (h : Text.trim text = String.ofList (braced mid)) :
    documentText text = Text.trim text ↔ ¬ HasBlock text.toList := by
  obtain ⟨a, b, hsplit, ha, hb⟩ := Text.trimChars_split text.toList
  rw [String.ofList_inj.1 h] at hsplit
  rw [documentText, h, hsplit, String.ofList_inj, documentChars_braced_iff ha hb]

/-! ## 3. Written documents -/

/-- What a document is written as, from brace to brace. -/
theorem toList_toText (d : Definition) : ∃ mid, d.toText.toList = braced mid :=
  ⟨_, String.toList_ofList⟩

/-- **The written form of a document is read**, with its floating numbers as they are read back. -/
theorem read_toText (hd : d.IsDecoded) (hdepth : d.toJson.depth ≤ Json.depthLimit) :
    Json.read d.toText = .ok d.toJson.reread := by
  have hread : Json.read (d.toText ++ "") = .ok d.toJson.reread :=
    Json.read_pretty hd.isWritable.fits hdepth (List.forall_mem_nil _)
  rwa [String.append_empty] at hread

theorem ofText_toText (hd : d.IsDecoded) (hdepth : d.toJson.depth ≤ Json.depthLimit) :
    Definition.ofText d.toText = .ok (reread d) := by
  refine ofText_of_canonical (read_toText hd hdepth) ?_ hd.wellFormed.mapFloats
    (List.forall_mem_map.2 fun c hc => (hd.conditions c hc).mapFloats _)
  rw [Definition.toJson_mapFloats]

/-- A text that is accepted is an object with keys of a document. -/
theorem exists_body_of_ofText {text : String} (h : Definition.ofText text = .ok d) :
    ∃ a mid b members, text.toList = a ++ (braced mid ++ b) ∧ (∀ c ∈ a, isSpace c = true) ∧
      (∀ c ∈ b, isSpace c = true) ∧ Json.Body mid (.object members) ∧ members ≠ [] ∧
      Json.HasPlainKeys members := by
  obtain ⟨v, hv, hd⟩ := bind_eq_ok.1 h
  obtain ⟨w, hgives, rfl⟩ := Json.parse_eq_ok.1 (mapError_eq_ok.1 hv)
  obtain ⟨f, hf, -⟩ := bind_eq_ok.1 hd
  obtain ⟨sorted, hsorted, hknown, -⟩ := Rules.Fields.of_eq_ok.1 hf
  cases w with
  | object members =>
    obtain ⟨a, mid, b, hsplit, ha, hb, hbody⟩ := Json.gives_object.1 hgives
    refine ⟨a, mid, b, members, hsplit, ha, hb, hbody, ?_, hasPlainKeys_of_mem fun k hk => ?_⟩
    · rintro rfl
      cases hd
    · have hsame : Json.sortMembers (Json.canonicalMembers members) = sorted :=
        Json.object.inj hsorted
      refine hknown k ?_
      rwa [← hsame, Json.mem_keys_sortMembers, Rules.map_fst_canonicalMembers]
  | _ => cases hsorted

/-- Behind blanks and space a fence is no mark. -/
theorem exists_not_isMark (hb : ∀ c ∈ b, Text.isBlank c = true) (rest : List Char) :
    ∃ space c rest', b ++ (fence ++ rest) = space ++ c :: rest' ∧ (∀ c ∈ space, isSpace c = true) ∧
      ¬ Json.IsMark c := by
  induction b with
  | nil => exact ⟨[], '`', _, rfl, List.forall_mem_nil _, by decide⟩
  | cons c b ih =>
    obtain ⟨hc, hb⟩ := List.forall_mem_cons.1 hb
    by_cases hspace : isSpace c = true
    · obtain ⟨space, e, rest', hsplit, hspaces, hmark⟩ := ih hb
      exact ⟨c :: space, e, rest', congrArg (c :: ·) hsplit,
        List.forall_mem_cons.2 ⟨hspace, hspaces⟩, hmark⟩
    · refine ⟨[], c, b ++ (fence ++ rest), rfl, List.forall_mem_nil _, ?_⟩
      rintro (h | hmem)
      · exact hspace h
      · have hmarks : ∀ c ∈ [':', ',', ']', closeBrace], Text.isBlank c = false := by
          simp [Text.isBlank, closeBrace]
        exact Bool.false_ne_true ((hmarks c hmem).symm.trans hc)

/-- **What is cut out of a text that is read is no document.** -/
theorem not_ofText_of_hasBlock {text : String} {v : Json} (hread : Json.read text = .ok v)
    (hblock : HasBlock text.toList) : Definition.ofText (documentText text) ≠ .ok d := by
  intro h
  obtain ⟨block, hfound, ⟨before, after, hsplit⟩, -⟩ := documentChars_of_hasBlock hblock
  obtain ⟨a, mid, b, members, hdocument, ha, hb, hbody, hne, hkeys⟩ := exists_body_of_ofText h
  rw [documentText, String.toList_ofList, hfound] at hdocument
  -- the document is followed by blanks and a fence
  obtain ⟨front, back, hblanks, -, hback⟩ := Text.trimChars_split block
  have hbehind : ∀ c ∈ b ++ back, Text.isBlank c = true :=
    List.forall_mem_append.2 ⟨fun c hc => isBlank_of_isSpace (hb c hc), hback⟩
  obtain ⟨space, c, rest, hmark, hspace, hc⟩ := exists_not_isMark hbehind after
  have hgives := Json.read_eq_ok.1 hread
  have htext : text.toList = (before ++ front ++ a) ++ (braced mid ++ (space ++ c :: rest)) := by
    rw [hsplit, hblanks, hdocument, ← hmark]
    simp
  rw [htext] at hgives
  exact hbody.not_gives (s := {}) hne hkeys hspace hc trivial hgives

/-- What is cut out of a written document is no document. -/
theorem not_ofText_toText {text : String} (haccepted : Definition.ofText text = .ok d)
    (hblock : HasBlock d.toText.toList) (d' : Definition) :
    Definition.ofText (documentText d.toText) ≠ .ok d' :=
  not_ofText_of_hasBlock (read_toText (Definition.isDecoded_of_ofText haccepted)
    (Definition.depth_toJson_le haccepted)) hblock

/-- A document without a fence in its strings has no block in its written form. -/
theorem not_hasBlock_toText {text : String} (haccepted : Definition.ofText text = .ok d)
    (hfree : ∀ t ∈ d.toJson.texts, HasNoFence t) : ¬ HasBlock d.toText.toList := by
  intro hblock
  obtain ⟨block, -, ⟨before, after, hsplit⟩, -⟩ := documentChars_of_hasBlock hblock
  have hfence : fence <:+: d.toText.toList := ⟨before ++ block, after, by rw [hsplit]; simp⟩
  have hread := read_toText (Definition.isDecoded_of_ofText haccepted)
    (Definition.depth_toJson_le haccepted)
  obtain ⟨t, ht, hinfix⟩ := Json.Gives.graves (s := {}) (show Json.Mode.IsSpelled _ from trivial)
    (Json.read_eq_ok.1 hread) hfence
  rw [Json.texts_mapFloats] at ht
  exact hfree t ht hinfix

/-- **A bare document is taken as it is where there is no block in it.** A text from brace to brace
    is taken without the blanks around it if it has no fenced block, whatever its strings are, and
    only then; a text that is one object is such a text. So the written form of a document is read,
    with its numbers as they are read back, if it has no block; if it has one, what is cut out of it
    is no document at all. -/
theorem documentText_bare (text : String) :
    (∀ mid : List Char, Text.trim text = String.ofList (braced mid) →
      (documentText text = Text.trim text ↔ ¬ HasBlock text.toList)) ∧
    (∀ members : List (String × Json), Json.read (Text.trim text) = .ok (.object members) →
      ∃ mid, Text.trim text = String.ofList (braced mid)) ∧
    ∀ d : Definition, Definition.ofText text = .ok d →
      (¬ HasBlock d.toText.toList → documentText d.toText = d.toText ∧
        Definition.ofText (documentText d.toText) = .ok (reread d)) ∧
      (HasBlock d.toText.toList →
        ∀ d', Definition.ofText (documentText d.toText) ≠ .ok d') := by
  refine ⟨fun mid => documentText_eq_trim_iff, fun members => trim_eq_braced,
    fun d haccepted => ⟨fun hnone => ?_, not_ofText_toText haccepted⟩⟩
  have hsame : documentText d.toText = d.toText := by
    obtain ⟨mid, hmid⟩ := toList_toText d
    have htrim : Text.trim d.toText = d.toText := by
      rw [Text.trim, hmid, trimChars_braced_self, ← hmid, String.ofList_toList]
    have hbraced : Text.trim d.toText = String.ofList (braced mid) := by
      rw [htrim, ← hmid, String.ofList_toList]
    exact ((documentText_eq_trim_iff hbraced).2 hnone).trans htrim
  rw [hsame]
  exact ⟨rfl, ofText_toText (Definition.isDecoded_of_ofText haccepted)
    (Definition.depth_toJson_le haccepted)⟩

/-- An object with a string that looks like a block. -/
def fencedObject : List (String × Json) := [("a", .string "```x```")]

theorem read_fencedObject : Json.read (Json.object fencedObject).compact
    = .ok (.object fencedObject) :=
  Json.read_compact (v := .object fencedObject) ⟨trivial, trivial⟩ (by decide)

/-- The string is no block if a line ends behind it, and neither is anything in the example
    document. -/
theorem exampleDocument_bare :
    (∃ text, Json.read (Text.trim text) = .ok (.object fencedObject) ∧ ¬ HasBlock text.toList ∧
      documentText text = Text.trim text) ∧
    ∃ text d, Definition.ofText text = .ok d ∧ ¬ HasBlock d.toText.toList ∧
      documentText d.toText = d.toText ∧
      Definition.ofText (documentText d.toText) = .ok (reread d) := by
  refine ⟨⟨(Json.object fencedObject).compact ++ "\n", ?_⟩, ?_⟩
  · have htrim : Text.trim ((Json.object fencedObject).compact ++ "\n")
        = (Json.object fencedObject).compact := by decide +kernel
    have hread : Json.read (Text.trim ((Json.object fencedObject).compact ++ "\n"))
        = .ok (.object fencedObject) := by rw [htrim, read_fencedObject]
    have hnone : ¬ HasBlock ((Json.object fencedObject).compact ++ "\n").toList := by
      decide +kernel
    obtain ⟨hbraced, hobject, -⟩ :=
      documentText_bare ((Json.object fencedObject).compact ++ "\n")
    obtain ⟨mid, hmid⟩ := hobject _ hread
    exact ⟨hread, hnone, (hbraced mid hmid).2 hnone⟩
  · have h : ((Definition.ofJson Rules.exampleDocument).toOption.any fun d =>
        (reread d).toJson.texts.all (HasNoFence ·) && decide (d.toJson.depth ≤ Json.depthLimit))
        = true := by decide +kernel
    obtain ⟨d, hd, h⟩ := exists_ok_of_any h
    simp only [Bool.and_eq_true, List.all_eq_true, decide_eq_true_eq] at h
    obtain ⟨hfree, hdepth⟩ := h
    have haccepted := ofText_toText ⟨_, Definition.isProper_exampleDocument, hd⟩ hdepth
    have hnone := not_hasBlock_toText haccepted hfree
    obtain ⟨hsame, hread⟩ := ((documentText_bare _).2.2 _ haccepted).1 hnone
    exact ⟨_, _, haccepted, hnone, hsame, hread⟩

/-- A document with two names that are fences. -/
def fencedDocument : Json :=
  Json.canonical <| .object [("parser_name", .string "```"), ("areas", .array [Rules.exampleArea]),
    ("data_format", .object [("name", .string "```")])]

theorem isProper_fencedDocument : fencedDocument.IsProper := by
  refine ⟨Json.canonical_canonical _, Json.fits_canonical ?_⟩
  simp [Json.Fits, Json.FitsMembers, Json.FitsItems, Rules.exampleArea, Rules.exampleRange,
    Rules.exampleCoord, Json.IsWhole64]

/-- The string is a block where the text ends behind it, and the names of the document are the
    fences of one. -/
theorem fencedNames_cut :
    (∃ text, Json.read text = .ok (.object fencedObject) ∧ Text.trim text = text ∧
      documentText text = "x") ∧
    ∃ text d, Definition.ofText text = .ok d ∧
      ∀ d', Definition.ofText (documentText d.toText) ≠ .ok d' := by
  refine ⟨⟨_, read_fencedObject, by decide +kernel, by decide +kernel⟩, ?_⟩
  have h : ((Definition.ofJson fencedDocument).toOption.any fun d =>
      decide (((reread d).toJson.prettyChars 0).take 61 = "\x7b\n  \"parser_name\": \"".toList
        ++ (fence ++ ("\",".toList ++ '\n' :: ("  \"data_format\": \x7b\n    \"name\": \"".toList
          ++ fence)))) && decide (d.toJson.depth ≤ Json.depthLimit)) = true := by decide +kernel
  obtain ⟨d, hd, h⟩ := exists_ok_of_any h
  simp only [Bool.and_eq_true, decide_eq_true_eq] at h
  obtain ⟨hbegin, hdepth⟩ := h
  have haccepted := ofText_toText ⟨_, isProper_fencedDocument, hd⟩ hdepth
  have hblock : HasBlock (reread d).toText.toList := by
    rw [Definition.toText, Json.pretty, String.toList_ofList]
    exact .of_take hbegin
  exact ⟨_, _, haccepted, not_ofText_toText haccepted hblock⟩

end UsageGrid.Proposal
