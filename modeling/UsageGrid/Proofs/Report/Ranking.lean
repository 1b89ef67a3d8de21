import Mathlib.Data.Prod.Lex
import UsageGrid.Proofs.Decimal.Rounding
import UsageGrid.Proofs.Library.Call
import UsageGrid.Proofs.Library.Stable
import UsageGrid.Report.Workers

/-!
# The candidates of a platform

The definitions that serve a platform are ranked: by their rates, then by their uses, and at last by
their ids (`StoredDefinition.RanksBefore`). The ranking has each definition that lists the platform,
and no other (`Library.IsRanking`). There is only one (`IsRanking.unique`), so it does not matter in
which order the definitions have come into the library, or how the library keeps them
(`servingOf_ranking`).

What the sort goes by leaves no ties because ids have one definition each. That holds of every
library, whatever its folder holds and whatever happens to the files (`Arises.ordered`).
-/

namespace UsageGrid

/-! ## 1. The order of the candidates -/

namespace StoredDefinition

/-- A definition is tried before another: it has the better rate, or the same and more uses, or the
    same of both and the smaller id. -/
def RanksBefore (a b : StoredDefinition) : Prop :=
  b.successRate.toRat < a.successRate.toRat ∨
    b.successRate.toRat = a.successRate.toRat ∧
      (b.useCount < a.useCount ∨ b.useCount = a.useCount ∧ a.id < b.id)

/-- What the candidates are compared by, the smallest first. -/
def rank (d : StoredDefinition) : ℚᵒᵈ ×ₗ ℕᵒᵈ ×ₗ String :=
  toLex (.toDual d.successRate.toRat, toLex (.toDual d.useCount, d.id))

variable {a b : StoredDefinition}

theorem ranksBefore_iff : a.RanksBefore b ↔ a.rank < b.rank := by
  unfold rank RanksBefore
  rw [Prod.Lex.toLex_lt_toLex, Prod.Lex.toLex_lt_toLex]
  simp only [OrderDual.toDual_lt_toDual, OrderDual.toDual_inj, eq_comm]

theorem comesBefore_iff_le : a.comesBefore b = true ↔ a.rank ≤ b.rank := by
  have hid : (!decide (b.id < a.id)) = true ↔ a.id ≤ b.id := by
    rw [Bool.not_eq_true', decide_eq_false_iff_not, not_lt]
  unfold comesBefore rank
  rw [Binary64.cmp_eq, Prod.Lex.toLex_le_toLex, Prod.Lex.toLex_le_toLex]
  simp only [OrderDual.toDual_lt_toDual, OrderDual.toDual_inj]
  cases hcmp : compare b.successRate.toRat a.successRate.toRat with
  | lt => simp [compare_lt_iff_lt.1 hcmp]
  | gt =>
    have hlt := compare_gt_iff_gt.1 hcmp
    simp [hlt.asymm, hlt.ne]
  | eq =>
    simp only [compare_eq_iff_eq.1 hcmp, lt_irrefl, false_or, true_and, Bool.or_eq_true,
      Bool.and_eq_true, decide_eq_true_eq, hid, eq_comm (a := a.useCount)]

theorem comesBefore_trans (a b c : StoredDefinition) (hab : a.comesBefore b = true)
    (hbc : b.comesBefore c = true) : a.comesBefore c = true :=
  comesBefore_iff_le.2 ((comesBefore_iff_le.1 hab).trans (comesBefore_iff_le.1 hbc))

theorem comesBefore_total (a b : StoredDefinition) :
    (a.comesBefore b || b.comesBefore a) = true := by
  rw [Bool.or_eq_true, comesBefore_iff_le, comesBefore_iff_le]
  exact le_total _ _

/-- What comes first has no smaller rate. -/
theorem rate_le_of_rank (h : a.rank ≤ b.rank) : b.successRate.toRat ≤ a.successRate.toRat := by
  rcases Prod.Lex.toLex_le_toLex.1 h with hlt | ⟨heq, -⟩
  · exact (OrderDual.toDual_lt_toDual.1 hlt).le
  · exact (OrderDual.toDual_inj.1 heq).ge

theorem rank_ne (hid : a.id ≠ b.id) : a.rank ≠ b.rank := by
  intro h
  exact hid (congrArg (fun r => (ofLex (ofLex r).2).2) h)

theorem RanksBefore.asymm (h : a.RanksBefore b) : ¬ b.RanksBefore a :=
  fun h' => (ranksBefore_iff.1 h).asymm (ranksBefore_iff.1 h')

/-- A platform is listed, in the definition's own platforms or in those of its document. -/
def Lists (d : StoredDefinition) (platform : String) : Prop :=
  ∃ p, (p ∈ d.platforms ∨ p ∈ d.definition.platforms) ∧
    Text.asciiLower p = Text.asciiLower platform

theorem serves_iff {d : StoredDefinition} {platform : String} :
    d.serves platform = true ↔ d.Lists platform := by
  unfold serves Lists Text.sameIgnoringCase
  simp only [List.any_eq_true, List.mem_append, beq_iff_eq]

end StoredDefinition

namespace Library

/-! ## 2. Rankings -/

variable {l l' : Library} {platform : String} {d : StoredDefinition}
  {ds ds' : List StoredDefinition}

/-- The definitions of a library that list a platform, once each, in the order of the candidates. -/
structure IsRanking (l : Library) (platform : String) (ds : List StoredDefinition) : Prop where
  mem : ∀ d, d ∈ ds ↔ d ∈ l.list ∧ d.Lists platform
  once : (ds.map (·.id)).Nodup
  order : ds.Pairwise StoredDefinition.RanksBefore

/-- **There is one ranking of the same definitions.** -/
theorem IsRanking.unique (h : IsRanking l platform ds) (h' : IsRanking l' platform ds')
    (hsame : ∀ d, d ∈ l.list ↔ d ∈ l'.list) : ds = ds' := by
  have hperm : ds.Perm ds' := (List.perm_ext_iff_of_nodup h.once.of_map h'.once.of_map).2 fun d => by
    rw [h.mem, h'.mem, hsame]
  exact hperm.eq_of_pairwise (fun a b _ _ hab hba => absurd hba hab.asymm) h.order h'.order

/-- The candidates are sorted. -/
theorem servingOf_sorted (l : Library) (platform : String) :
    (l.servingOf platform).Pairwise fun a b => a.rank ≤ b.rank :=
  (List.pairwise_mergeSort StoredDefinition.comesBefore_trans
    StoredDefinition.comesBefore_total _).imp StoredDefinition.comesBefore_iff_le.1

theorem servingOf_isRanking (h : Ordered l.list) (platform : String) :
    IsRanking l platform (l.servingOf platform) where
  mem d := by rw [mem_servingOf, StoredDefinition.serves_iff]
  once := nodup_servingOf h platform
  order := by
    have hids : (l.servingOf platform).Pairwise fun a b => a.id ≠ b.id :=
      List.pairwise_map.1 (nodup_servingOf h platform)
    refine (servingOf_sorted l platform).imp₂ (fun a b hab hid => ?_) hids
    exact StoredDefinition.ranksBefore_iff.2 (lt_of_le_of_ne hab (StoredDefinition.rank_ne hid))

/-! ## 3. Libraries that come about -/

/-- A library comes about by opening a folder and by calls, in whatever surroundings: they may answer
    anything at any time. -/
inductive Arises : Library → Prop where
  | opened {σ : Type} [Host.Files (StateM σ)] [Host.Journal (StateM σ)] (path : String) (s : σ) :
      Arises ((openAt path : StateM σ Library).run s).1
  | called {σ : Type} [Host.Files (StateM σ)] [Host.Clock (StateM σ)] {l : Library} (h : Arises l)
      (c : Call) (s : σ) : Arises ((l.call c : StateM σ _).run s).1.2

section

open Host

variable {σ : Type} [Files (StateM σ)]

theorem ordered_readFiles [Journal (StateM σ)] (h : Ordered l.list) (names : List String) :
    Keeps (fun _ : σ => True) (readFiles l names) fun l' => Ordered l'.list := by
  induction names generalizing l with
  | nil => exact .pure h
  | cons name rest ih =>
    refine (Keeps.any _).bind fun read _ => ?_
    cases read with
    | ok d => exact ih (h.insert d)
    | error e => exact (Keeps.any _).bind fun _ _ => ih h

theorem ordered_openAt [Journal (StateM σ)] (path : String) :
    Keeps (fun _ : σ => True) (openAt path) fun l => Ordered l.list := by
  refine (Keeps.any _).bind fun names _ => ?_
  cases names with
  | error cause => exact .pure ordered_nil
  | ok names => exact ordered_readFiles ordered_nil _

variable [Clock (StateM σ)]

theorem ordered_save (h : Ordered l.list) (definition : Definition) (platforms : List String) :
    Keeps (fun _ : σ => True) (l.save definition platforms) fun out => Ordered out.2.list := by
  refine (save_cases definition platforms).mono fun out hout => ?_
  rcases hout with hout | ⟨id, time, -, hout⟩
  · exact hout ▸ h
  · exact hout ▸ h.insert _

theorem ordered_call (h : Ordered l.list) (c : Call) :
    Keeps (fun _ : σ => True) (l.call c) fun out => Ordered out.2.list := by
  cases c with
  | save definition platforms => exact ordered_save h definition platforms
  | importFile path platforms =>
    refine (Keeps.any _).bind fun text _ => ?_
    cases text with
    | error cause => exact .pure h
    | ok text =>
      dsimp only
      cases Definition.ofText text with
      | error e => exact .pure h
      | ok definition => exact ordered_save h definition platforms
  | use id success =>
    refine (use_cases id success).bind fun out hout => ?_
    rcases hout with hout | ⟨e, -, time, hout⟩
    · exact .pure (hout ▸ h)
    · exact .pure (hout ▸ h.insert _)
  | delete id =>
    refine Keeps.bind (Q := fun out => Ordered out.2.list) ?_ fun out hout => .pure hout
    unfold delete
    cases l.get id with
    | error e => exact .pure h
    | ok d => exact (Keeps.any _).bind fun _ _ => .pure (h.filter _)

end

/-- **Every library lists its definitions in order, each id once.** -/
theorem Arises.ordered (h : Arises l) : Ordered l.list := by
  induction h with
  | opened path s => exact (ordered_openAt path s trivial).1
  | called _ c s ih => exact (ordered_call ih c s trivial).1

/-! ## 4. In any order -/

/-- Putting in one after the other keeps the definitions whose ids are not among the new ones. -/
theorem mem_foldl_put (h : Ordered l.list) (hids : (ds.map (·.id)).Nodup) :
    d ∈ (ds.foldl put l).list ↔ d ∈ ds ∨ (d ∈ l.list ∧ d.id ∉ ds.map (·.id)) := by
  induction ds generalizing l with
  | nil => simp
  | cons e rest ih =>
    obtain ⟨he, hrest⟩ := List.nodup_cons.1 hids
    have hput : d ∈ (l.put e).list ↔ d = e ∨ (d ∈ l.list ∧ d.id ≠ e.id) := mem_insert h
    rw [List.foldl_cons, ih (l := l.put e) (h.insert e) hrest, hput]
    simp only [List.mem_cons, List.map_cons, not_or]
    constructor
    · rintro (hd | ⟨rfl | ⟨hd, hne⟩, hnew⟩)
      · exact .inl (.inr hd)
      · exact .inl (.inl rfl)
      · exact .inr ⟨hd, hne, hnew⟩
    · rintro ((rfl | hd) | ⟨hd, hne, hnew⟩)
      · exact .inr ⟨.inl rfl, he⟩
      · exact .inl hd
      · exact .inr ⟨.inr ⟨hd, hne⟩, hnew⟩

theorem ordered_foldl_put (h : Ordered l.list) (ds : List StoredDefinition) :
    Ordered (ds.foldl put l).list := by
  induction ds generalizing l with
  | nil => exact h
  | cons e rest ih => exact ih (l := l.put e) (h.insert e)

/-- The candidates do not tell in which order definitions have been put in. -/
theorem servingOf_foldl_put (h : Ordered l.list) (hperm : ds.Perm ds')
    (hids : (ds.map (·.id)).Nodup) (platform : String) :
    (ds.foldl put l).servingOf platform = (ds'.foldl put l).servingOf platform := by
  refine (servingOf_isRanking (ordered_foldl_put h ds) platform).unique
    (servingOf_isRanking (ordered_foldl_put h ds') platform) fun d => ?_
  rw [mem_foldl_put h hids, mem_foldl_put h ((hperm.map _).nodup_iff.1 hids), hperm.mem_iff,
    (hperm.map _).mem_iff]

/-! ## 5. What is told of a platform -/

/-- The texts of a list, once each, in the order in which they are first seen. -/
structure AreFirstOf (texts all : List String) : Prop where
  mem : ∀ t, t ∈ texts ↔ t ∈ all
  order : texts.Pairwise fun s t => all.idxOf s < all.idxOf t

/-- Where one text is left out, the others keep their order. -/
theorem idxOf_lt_of_filter {x s t : String} (hs : s ≠ x) (ht : t ≠ x) {all : List String}
    (h : (all.filter fun y => !y == x).idxOf s < (all.filter fun y => !y == x).idxOf t) :
    all.idxOf s < all.idxOf t := by
  induction all with
  | nil => exact h
  | cons y rest ih =>
    by_cases hy : y = x
    · subst hy
      rw [List.filter_cons_of_neg (by simp)] at h
      rw [List.idxOf_cons_ne _ (Ne.symm hs), List.idxOf_cons_ne _ (Ne.symm ht)]
      exact Nat.succ_lt_succ (ih h)
    · rw [List.filter_cons_of_pos (by simpa using hy)] at h
      by_cases hys : y = s
      · subst hys
        rw [List.idxOf_cons_self] at h ⊢
        by_cases hyt : y = t
        · subst hyt
          rw [List.idxOf_cons_self] at h
          exact absurd h (lt_irrefl _)
        · rw [List.idxOf_cons_ne _ hyt]
          exact Nat.succ_pos _
      · by_cases hyt : y = t
        · subst hyt
          rw [List.idxOf_cons_self] at h
          exact absurd h (Nat.not_lt_zero _)
        · rw [List.idxOf_cons_ne _ hys, List.idxOf_cons_ne _ hyt] at h ⊢
          exact Nat.succ_lt_succ (ih (Nat.lt_of_succ_lt_succ h))

theorem eraseDups_areFirstOf (all : List String) : AreFirstOf all.eraseDups all := by
  refine ⟨fun t => List.mem_eraseDups, ?_⟩
  -- the texts after the first one are those of a shorter list, without it
  induction hn : all.length using Nat.strong_induction_on generalizing all with
  | _ n ih =>
    cases all with
    | nil => exact .nil
    | cons x rest =>
      rw [List.eraseDups_cons]
      have hother {t : String} (ht : t ∈ (rest.filter fun y => !y == x).eraseDups) : t ≠ x := by
        simpa using (List.mem_filter.1 (List.mem_eraseDups.1 ht)).2
      refine List.pairwise_cons.2 ⟨fun t ht => ?_, ?_⟩
      · rw [List.idxOf_cons_self, List.idxOf_cons_ne _ (Ne.symm (hother ht))]
        exact Nat.succ_pos _
      · have hshorter : (rest.filter fun y => !y == x).length < n :=
          hn ▸ Nat.lt_succ_of_le (List.length_filter_le _ _)
        refine (ih _ hshorter _ rfl).imp_of_mem fun hs ht hlt => ?_
        rw [List.idxOf_cons_ne _ (Ne.symm (hother hs)), List.idxOf_cons_ne _ (Ne.symm (hother ht))]
        exact Nat.succ_lt_succ (idxOf_lt_of_filter (hother hs) (hother ht) hlt)

open Dataflow Host Report

theorem platformIn_eq (l : Library) (platform : String) : ∃ names,
    AreFirstOf names ((l.servingOf platform).map (·.name)) ∧
      platformIn l platform
        = { name := platform, known := !(l.servingOf platform).isEmpty, definitions := names } := by
  have hfirst := eraseDups_areFirstOf ((l.servingOf platform).map (·.name))
  refine ⟨_, hfirst, ?_⟩
  unfold platformIn
  cases l.servingOf platform with
  | nil => rfl
  | cons d rest =>
    dsimp only
    rw [List.map_cons, List.eraseDups_cons]
    rfl

/-- The worker tells what the library knows that is in the folder when it runs. -/
theorem run_platformWorker {σ : Type} [Files (StateM σ)] [Journal (StateM σ)] (folder : String)
    (p : Platform) (s : σ) :
    (((platformWorker folder).run [⟨.platform, p⟩] : StateM σ _).run s).1
      = .ok [.ofData .platform (platformIn ((openAt folder : StateM σ _).run s).1 p.name)] := rfl

/-- **The candidates of a platform are ranked**, in every library that can come about: they are the
    definitions that list the platform, once each, the better rate first, then the more uses, then
    the smaller id. The ranking depends on nothing but these definitions, so the order in which they
    have been read or saved has no part in it; and the platform worker on a folder tells of the
    library that is opened there whether it has a candidate, and the names of the candidates in the
    order in which they are first seen. -/
theorem servingOf_ranking {l : Library} (h : Arises l) (platform : String) :
    IsRanking l platform (l.servingOf platform) ∧
    (∀ l', Arises l' → (∀ d, d ∈ l'.list ↔ d ∈ l.list) →
      l'.servingOf platform = l.servingOf platform) ∧
    (∀ ds ds' : List StoredDefinition, ds.Perm ds' → (ds.map (·.id)).Nodup →
      (ds.foldl put l).servingOf platform = (ds'.foldl put l).servingOf platform) ∧
    (∀ {σ : Type} [Files (StateM σ)] [Journal (StateM σ)] (folder : String) (p : Platform) (s : σ),
      p.name = platform → ((openAt folder : StateM σ _).run s).1 = l → ∃ names,
        AreFirstOf names ((l.servingOf platform).map (·.name)) ∧
        (((platformWorker folder).run [⟨.platform, p⟩] : StateM σ _).run s).1
          = .ok [.ofData .platform
              { name := platform, known := !(l.servingOf platform).isEmpty, definitions := names }]) := by
  have hranking := servingOf_isRanking h.ordered platform
  refine ⟨hranking, fun l' h' hsame => ?_, fun ds ds' hperm hids => ?_, ?_⟩
  · exact (servingOf_isRanking h'.ordered platform).unique hranking hsame
  · exact servingOf_foldl_put h.ordered hperm hids platform
  · rintro σ _ _ folder p s rfl rfl
    obtain ⟨names, hfirst, hknown⟩ := platformIn_eq ((openAt folder : StateM σ _).run s).1 p.name
    refine ⟨names, hfirst, ?_⟩
    rw [run_platformWorker, hknown]

/-! ## 6. Two rivals -/

/-- A stored definition in a file of its own. -/
def rival (d : Definition) (id platform : String) (uses : Nat) : StoredDefinition where
  id := id
  name := d.name
  platforms := [platform]
  definition := d
  createdAt := ""
  successRate := StoredDefinition.one
  useCount := uses

/-- One that has never been used, and one that has been used twice. -/
def rivalFolder (d : Definition) : Directory :=
  ⟨[(["reg"], .folder), (["reg", "a.json"], fileOf (rival d "a" "JSTOR" 0)),
    (["reg", "b.json"], fileOf (rival d "b" "Jstor" 2))]⟩

theorem foldl_putFrom_pair {directory : Directory} {path name name' : String}
    {a b : StoredDefinition} (ha : definitionIn directory (joinPath path name) = .ok a)
    (hb : definitionIn directory (joinPath path name') = .ok b) (hlt : a.id < b.id) :
    [name, name'].foldl (putFrom directory) { path } = { path, list := [a, b] } := by
  have hinsert : insert b [a] = [a, b] := by
    unfold insert
    rw [if_neg hlt.ne', if_neg hlt.asymm]
    rfl
  have hfirst : putFrom directory { path } name = { path, list := [a] } := putFrom_of_ok ha
  have hsecond : putFrom directory { path, list := [a] } name' = put { path, list := [a] } b :=
    putFrom_of_ok hb
  rw [List.foldl_cons, hfirst, List.foldl_cons, hsecond]
  exact congrArg (Library.mk path) hinsert

theorem openAt_rivalFolder {d : Definition} (h : d.IsStorable) (hshallow : d.IsShallow) :
    ((openAt "reg" : StateM Directory _).run (rivalFolder d)).1
      = { path := "reg", list := [(rival d "a" "JSTOR" 0).reread, (rival d "b" "Jstor" 2).reread] } := by
  have hnames : (rivalFolder d).names "reg" = .ok ["a.json", "b.json"] := by
    have hlocate : (rivalFolder d).locate "reg" = .ok ["reg"] := by with_unfolding_all rfl
    unfold Directory.names
    rw [hlocate, ok_bind]
    show Except.ok (["a.json", "b.json"].mergeSort _) = _
    rw [List.mergeSort_of_pairwise (by decide +kernel)]
  have hstorable (id platform : String) {uses : Nat} (huses : uses < StoredDefinition.countBound) :
      (rival d id platform uses).IsStorable := ⟨h, huses⟩
  have ha : definitionIn (rivalFolder d) (joinPath "reg" "a.json")
      = .ok (rival d "a" "JSTOR" 0).reread :=
    definitionIn_fileOf (p := ["reg", "a.json"]) (by with_unfolding_all rfl) rfl (by decide +kernel)
      (hstorable "a" "JSTOR" (by decide)) hshallow
  have hb : definitionIn (rivalFolder d) (joinPath "reg" "b.json")
      = .ok (rival d "b" "Jstor" 2).reread :=
    definitionIn_fileOf (p := ["reg", "b.json"]) (by with_unfolding_all rfl) rfl (by decide +kernel)
      (hstorable "b" "Jstor" (by decide)) hshallow
  have hnamed : ["a.json", "b.json"].filter holdsDefinition = ["a.json", "b.json"] := by
    decide +kernel
  have hfound : found (rivalFolder d) "reg"
      = ["a.json", "b.json"].foldl (putFrom (rivalFolder d)) { path := "reg" } := by
    unfold found
    rw [hnames]
    dsimp only
    rw [hnamed]
  rw [(leads_openAt isDisk_id (rivalFolder d) "reg" (rivalFolder d) rfl).1, hfound]
  exact foldl_putFrom_pair ha hb (show "a" < "b" by decide)

/-- **The one that has been used ranks before the other**, and their name is told once. -/
theorem rivals_ranking : ∃ d, Definition.ofJson Rules.exampleDocument = .ok d ∧ ∃ l,
    ((openAt "reg" : StateM Directory _).run (rivalFolder d)).1 = l ∧ Arises l ∧
    l.servingOf "jstor" = [(rival d "b" "Jstor" 2).reread, (rival d "a" "JSTOR" 0).reread] ∧
    ∃ names, AreFirstOf names [d.name, d.name] ∧
      (((platformWorker "reg").run [⟨.platform, { name := "jstor" }⟩] :
          StateM Directory _).run (rivalFolder d)).1
        = .ok [.ofData .platform { name := "jstor", known := true, definitions := names }] := by
  obtain ⟨d, hd, hstorable, hshallow⟩ := exampleDefinition
  have harises : Arises ((openAt "reg" : StateM Directory _).run (rivalFolder d)).1 :=
    .opened "reg" (rivalFolder d)
  obtain ⟨hranking, -, -, hworker⟩ := servingOf_ranking harises "jstor"
  have hopened := openAt_rivalFolder hstorable hshallow
  have hlists {id platform : String} {uses : Nat} (h : Text.asciiLower platform = "jstor") :
      (rival d id platform uses).reread.Lists "jstor" :=
    ⟨platform, .inl (List.mem_singleton_self _), h.trans (by decide +kernel)⟩
  have hexpected : IsRanking ((openAt "reg" : StateM Directory _).run (rivalFolder d)).1 "jstor"
      [(rival d "b" "Jstor" 2).reread, (rival d "a" "JSTOR" 0).reread] := by
    rw [hopened]
    refine ⟨fun e => ?_, (by decide : ["b", "a"].Nodup), ?_⟩
    · constructor
      · intro he
        rcases List.mem_pair.1 he with rfl | rfl
        · exact ⟨by simp, hlists (by decide +kernel)⟩
        · exact ⟨by simp, hlists (by decide +kernel)⟩
      · rintro ⟨he, -⟩
        rcases List.mem_pair.1 he with rfl | rfl <;> simp
    · exact List.pairwise_pair.2 (.inr ⟨rfl, .inl (show 0 < 2 by decide)⟩)
  have hserving := hranking.unique hexpected fun _ => Iff.rfl
  obtain ⟨names, hfirst, hrun⟩ := hworker "reg" { name := "jstor" } (rivalFolder d) rfl rfl
  rw [hserving] at hfirst hrun
  exact ⟨d, hd, _, rfl, harises, hserving, names, hfirst, hrun⟩

end Library

end UsageGrid
