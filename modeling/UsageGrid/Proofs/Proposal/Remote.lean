import Mathlib.Data.Nat.Find
import UsageGrid.Host.Held
import UsageGrid.Proposal.Remote

/-!
# How often an endpoint is asked

A request is posted until a try is final, and no more often than there are tries (`proposer_posts`).
Final is a reply whose status is no fault of the server; a try without a reply and a fault of the
server are transient. What the last try has brought is the result, read off the reply (`Means`).

* `behaviour` is what comes of the tries, whatever the endpoint does;
* `IsTryCount` is how many of them there are: up to the first that is final, or all;
* `Means` says what a try amounts to, without the functions that judge it;
* `Posts` is what has been posted and which replies that has used up.

A token that cannot stand in a header keeps a request from being sent. Each try then fails as one does
that gets no reply, and nothing reaches the endpoint.
-/

namespace UsageGrid.Proposal.Remote

open Host

/-! ## 1. What a try amounts to -/

/-- Another try may fare better: there is no reply, or a fault of the server. -/
def IsTransient : Option Reply → Prop
  | none => True
  | some reply => 500 ≤ reply.status ∧ reply.status < 600

/-- The body of a reply as it is received: some replies have none, whatever follows them, and a byte
    order mark in front is no part of it. -/
def received (reply : Reply) : String :=
  if Status.hasNoBody reply.status then "" else withoutMark reply.body

/-- The status tells of success. -/
def Succeeds (reply : Reply) : Prop := 200 ≤ reply.status ∧ reply.status < 300

/-- What is made of a try. -/
inductive Means : Option Reply → Except ProposerError String → Prop where
  | lost (reason : String) : Means none (.error (.requestFailed reason))
  | fault {reply : Reply} (transient : IsTransient (some reply)) :
      Means (some reply) (.error (.requestFailed (Status.label reply.status)))
  | refused {reply : Reply} (final : ¬ IsTransient (some reply)) (failure : ¬ Succeeds reply) :
      Means (some reply) (.error (.refused (Status.label reply.status ++ ": " ++ received reply)))
  | blank {reply : Reply} (success : Succeeds reply)
      (isBlank : Text.isBlankText (received reply) = true) :
      Means (some reply) (.error .emptyAnswer)
  | blankProposal {reply : Reply} {members : List (String × Json)} {draft : String}
      (success : Succeeds reply) (object : Json.parse (received reply) = .ok (.object members))
      (member : Json.lookup members "proposal" = some (.string draft))
      (isBlank : Text.isBlankText draft = true) :
      Means (some reply) (.error .emptyAnswer)
  | proposal {reply : Reply} {members : List (String × Json)} {draft : String}
      (success : Succeeds reply) (object : Json.parse (received reply) = .ok (.object members))
      (member : Json.lookup members "proposal" = some (.string draft))
      (notBlank : Text.isBlankText draft = false) :
      Means (some reply) (.ok draft)
  | document {reply : Reply} {members : List (String × Json)} {v : Json}
      (success : Succeeds reply) (object : Json.parse (received reply) = .ok (.object members))
      (member : Json.lookup members "proposal" = some v) (noText : ∀ draft, v ≠ .string draft) :
      Means (some reply) (.ok v.compact)
  | text {reply : Reply} (success : Succeeds reply)
      (notBlank : Text.isBlankText (received reply) = false)
      (bare : ∀ members, Json.parse (received reply) = .ok (.object members) →
        Json.lookup members "proposal" = none) :
      Means (some reply) (.ok (received reply))

variable {b : Option Reply} {out : Except ProposerError String}

/-- A success is no fault of the server. -/
theorem Succeeds.not_transient {reply : Reply} (h : Succeeds reply) :
    ¬ IsTransient (some reply) := by
  rintro ⟨hfault, -⟩
  have := h.2
  omega

/-- **A request is taken to have failed exactly where another try may fare better.** -/
theorem Means.requestFailed_iff (h : Means b out) :
    (∃ message, out = .error (.requestFailed message)) ↔ IsTransient b := by
  have hfinal {reply : Reply} (hsuccess : Succeeds reply) {out : Except ProposerError String}
      (hout : ∀ message, out ≠ .error (.requestFailed message)) :
      (∃ message, out = .error (.requestFailed message)) ↔ IsTransient (some reply) :=
    iff_of_false (fun ⟨message, he⟩ => hout message he) hsuccess.not_transient
  cases h with
  | lost reason => exact iff_of_true ⟨reason, rfl⟩ trivial
  | fault transient => exact iff_of_true ⟨_, rfl⟩ transient
  | refused final failure => exact iff_of_false (fun ⟨_, he⟩ => nomatch he) final
  | blank success => exact hfinal success fun _ he => nomatch he
  | blankProposal success => exact hfinal success fun _ he => nomatch he
  | proposal success => exact hfinal success fun _ he => nomatch he
  | document success => exact hfinal success fun _ he => nomatch he
  | text success => exact hfinal success fun _ he => nomatch he

/-- The draft in the body of a success. -/
theorem means_draftOf {reply : Reply} (success : Succeeds reply) :
    Means (some reply) (draftOf (received reply)) := by
  unfold draftOf
  cases hblank : Text.isBlankText (received reply) with
  | true => exact .blank success hblank
  | false =>
    rw [if_neg Bool.false_ne_true]
    cases hparse : Json.parse (received reply) with
    | error fault => exact .text success hblank fun _ h => nomatch hparse.symm.trans h
    | ok v =>
      cases v with
      | object members =>
        dsimp only
        cases hlookup : Json.lookup members "proposal" with
        | none =>
          refine .text success hblank fun _ h => ?_
          cases hparse.symm.trans h
          exact hlookup
        | some v =>
          cases v with
          | string draft =>
            dsimp only
            cases hdraft : Text.isBlankText draft with
            | true => exact .blankProposal success hparse hlookup hdraft
            | false => exact .proposal success hparse hlookup hdraft
          | _ => exact .document success hparse hlookup fun _ h => nomatch h
      | _ => exact .text success hblank fun _ h => nomatch hparse.symm.trans h

/-- **A reply is judged by what it means.** -/
theorem means_judgeReply (reply : Reply) : Means (some reply) (judgeReply reply) := by
  have hfault : Status.isServerError reply.status = true ↔ IsTransient (some reply) := by
    simp [Status.isServerError, IsTransient]
  have hsuccess : Status.isSuccess reply.status = true ↔ Succeeds reply := by
    simp [Status.isSuccess, Succeeds]
  show Means _ (if Status.isServerError reply.status then _ else
    if Status.isSuccess reply.status then draftOf (received reply) else _)
  by_cases hfinal : IsTransient (some reply)
  · rw [if_pos (hfault.2 hfinal)]
    exact .fault hfinal
  · rw [if_neg (hfault.not.2 hfinal)]
    by_cases h : Succeeds reply
    · rw [if_pos (hsuccess.2 h)]
      exact means_draftOf h
    · rw [if_neg (hsuccess.not.2 h)]
      exact .refused hfinal h

/-! ## 2. One try -/

/-- The post of a request. -/
def postOf (p : Remote) (r : Request) : Post := ⟨p.url, p.token, body r⟩

/-- What comes of the tries, the first one at zero; where replies are missing, there is none. -/
def behaviour (p : Remote) (replies : List (Option Reply)) (i : Nat) : Option Reply :=
  if p.token.all isSendable then replies[i]?.join else none

/-- The posts that reach the endpoint in some tries. -/
def postCount (p : Remote) (n : Nat) : Nat := if p.token.all isSendable then n else 0

/-- In some tries a request has been posted once each, and the replies to it are used up. -/
structure Posts (p : Remote) (r : Request) (n : Nat) (h h' : Held) : Prop where
  posts : h'.posts = List.replicate (p.postCount n) (p.postOf r) ++ h.posts
  replies : h'.replies = h.replies.drop (p.postCount n)

variable {p : Remote} {r : Request} {m n : Nat} {h h' h'' : Held}

theorem Posts.trans (hm : Posts p r m h h') (hn : Posts p r n h' h'') :
    Posts p r (m + n) h h'' := by
  have hcount : p.postCount (m + n) = p.postCount m + p.postCount n := by
    unfold postCount
    split <;> rfl
  constructor
  · rw [hn.posts, hm.posts, hcount, Nat.add_comm, ← List.replicate_append_replicate,
      List.append_assoc]
  · rw [hn.replies, hm.replies, hcount, List.drop_drop]

/-- The tries that are left are the later ones. -/
theorem Posts.behaviour (hm : Posts p r m h h') (i : Nat) :
    p.behaviour h'.replies i = p.behaviour h.replies (m + i) := by
  unfold Remote.behaviour
  rw [hm.replies]
  unfold postCount
  split
  · rw [List.getElem?_drop]
  · rfl

/-- A post to the endpoint uses up a reply, if there is one. -/
theorem run_post (q : Post) (h : Held) : (Endpoint.post q : StateM Held _).run h =
    (match h.replies with
      | some reply :: _ => .ok reply
      | _ => .error q.unanswered, { h with posts := q :: h.posts, replies := h.replies.drop 1 }) := by
  rcases h with ⟨_, _, _, _, _, _, _, _, _, _ | ⟨_ | reply, rest⟩, _⟩ <;> rfl

theorem run_postOnce (p : Remote) (r : Request) (h : Held) :
    Posts p r 1 h ((p.postOnce r : StateM Held _).run h).2 ∧
      Means (p.behaviour h.replies 0) ((p.postOnce r : StateM Held _).run h).1 := by
  unfold postOnce Remote.behaviour
  cases hsend : p.token.all isSendable with
  | false =>
    have hcount : p.postCount 1 = 0 := by simp [postCount, hsend]
    refine ⟨⟨?_, ?_⟩, .lost _⟩
    · rw [hcount]
      rfl
    · rw [hcount]
      rfl
  | true =>
    have hcount : p.postCount 1 = 1 := by simp [postCount, hsend]
    rw [if_pos rfl]
    show Posts p r 1 h (((Endpoint.post (p.postOf r) : StateM Held _) >>= _).run h).2 ∧
      Means _ (((Endpoint.post (p.postOf r) : StateM Held _) >>= _).run h).1
    rw [StateT.run_bind, run_post]
    rcases hreplies : h.replies with _ | ⟨_ | reply, rest⟩
    · exact ⟨⟨by rw [hcount]; rfl, by rw [hcount, hreplies]; rfl⟩, .lost _⟩
    · exact ⟨⟨by rw [hcount]; rfl, by rw [hcount, hreplies]; rfl⟩, .lost _⟩
    · exact ⟨⟨by rw [hcount]; rfl, by rw [hcount, hreplies]; rfl⟩, means_judgeReply reply⟩

/-- **A try posts the request once**, and amounts to what comes of it. -/
theorem run_tryPost (p : Remote) (r : Request) (i : Nat) (h : Held) :
    Posts p r 1 h ((p.tryPost r i : StateM Held _).run h).2 ∧
      Means (p.behaviour h.replies 0) ((p.tryPost r i : StateM Held _).run h).1 := by
  -- what is told first touches neither posts nor replies
  obtain ⟨hposts, hmeans⟩ := run_postOnce p r ((detail ("POST " ++ p.url ++ " (try " ++ toString i
    ++ "/" ++ toString p.tryLimit ++ ")") : StateM Held _).run h).2
  exact ⟨⟨hposts.posts, hposts.replies⟩, hmeans⟩

theorem posts_waitAfter (p : Remote) (r : Request) (message : String) (h : Held) :
    Posts p r 0 h ((waitAfter message : StateM Held _).run h).2 := by
  have hcount : p.postCount 0 = 0 := ite_self 0
  constructor
  · rw [hcount]
    rfl
  · rw [hcount]
    rfl

/-! ## 3. All tries -/

/-- How many tries are made, if `b` is what comes of them: up to the first that is final, and all that
    there are if that is later or never. -/
inductive IsTryCount (b : Nat → Option Reply) (limit : Nat) : Nat → Prop where
  | final {k : Nat} (transient : ∀ i < k, IsTransient (b i)) (final : ¬ IsTransient (b k)) :
      IsTryCount b limit (min limit (k + 1))
  | never (transient : ∀ i, IsTransient (b i)) : IsTryCount b limit limit

theorem run_postFrom_of_transient {message : String} {left i : Nat}
    (hrun : (p.tryPost r i : StateM Held _).run h = (.error (.requestFailed message), h')) :
    (p.postFrom r (left + 1) i : StateM Held _).run h
      = (p.postFrom r left (i + 1) : StateM Held _).run
          ((waitAfter message : StateM Held _).run h').2 := by
  show ((p.tryPost r i : StateM Held _) >>= _).run h = _
  rw [StateT.run_bind, hrun]
  rfl

theorem run_postFrom_of_final {left i : Nat}
    (hrun : (p.tryPost r i : StateM Held _).run h = (out, h'))
    (hfinal : ∀ message, out ≠ .error (.requestFailed message)) :
    (p.postFrom r (left + 1) i : StateM Held _).run h = (out, h') := by
  show ((p.tryPost r i : StateM Held _) >>= _).run h = _
  rw [StateT.run_bind, hrun]
  cases out with
  | ok draft => rfl
  | error e =>
    cases e with
    | requestFailed message => exact absurd rfl (hfinal message)
    | _ => rfl

/-- The try number `i` and those left after it: after `m` transient ones comes the last, which is
    final unless none is left. -/
theorem run_postFrom (p : Remote) (r : Request) (left i : Nat) (h : Held) :
    ∃ m ≤ left, (∀ j < m, IsTransient (p.behaviour h.replies j)) ∧
      (m = left ∨ ¬ IsTransient (p.behaviour h.replies m)) ∧
      Posts p r (m + 1) h ((p.postFrom r left i : StateM Held _).run h).2 ∧
      Means (p.behaviour h.replies m) ((p.postFrom r left i : StateM Held _).run h).1 := by
  induction left generalizing i h with
  | zero =>
    obtain ⟨hposts, hmeans⟩ := run_tryPost p r i h
    exact ⟨0, le_rfl, fun _ hj => absurd hj (Nat.not_lt_zero _), .inl rfl, hposts, hmeans⟩
  | succ left ih =>
    obtain ⟨hposts, hmeans⟩ := run_tryPost p r i h
    obtain ⟨out, h₁, hrun⟩ : ∃ out h₁, (p.tryPost r i : StateM Held _).run h = (out, h₁) :=
      ⟨_, _, rfl⟩
    rw [hrun] at hposts hmeans
    by_cases htransient : IsTransient (p.behaviour h.replies 0)
    · -- the tries from here on are those of the rest
      obtain ⟨message, rfl⟩ := hmeans.requestFailed_iff.2 htransient
      rw [run_postFrom_of_transient hrun]
      have hwaited := hposts.trans (posts_waitAfter p r message h₁)
      obtain ⟨m, hm, hbefore, hlast, hposts', hmeans'⟩ :=
        ih (i + 1) ((waitAfter message : StateM Held _).run h₁).2
      simp only [hwaited.behaviour, Nat.add_comm 1] at hbefore hlast hmeans'
      refine ⟨m + 1, Nat.succ_le_succ hm, fun j hj => ?_, hlast.imp_left (congrArg _), ?_, hmeans'⟩
      · cases j with
        | zero => exact htransient
        | succ j => exact hbefore j (Nat.lt_of_succ_lt_succ hj)
      · have hall := hwaited.trans hposts'
        rwa [Nat.add_zero, Nat.add_comm 1] at hall
    · have hfinal (message : String) : out ≠ .error (.requestFailed message) :=
        fun hout => htransient (hmeans.requestFailed_iff.1 ⟨message, hout⟩)
      rw [run_postFrom_of_final hrun hfinal]
      exact ⟨0, Nat.zero_le _, fun _ hj => absurd hj (Nat.not_lt_zero _), .inr htransient, hposts,
        hmeans⟩

/-- The last try is the first that is final, or the last there is. -/
theorem isTryCount_succ {b : Nat → Option Reply} {limit m : Nat} (hm : m < limit)
    (hbefore : ∀ j < m, IsTransient (b j)) (hlast : m + 1 = limit ∨ ¬ IsTransient (b m)) :
    IsTryCount b limit (m + 1) := by
  by_cases hfinal : IsTransient (b m)
  · obtain rfl := hlast.resolve_right (not_not_intro hfinal)
    by_cases hever : ∃ k, ¬ IsTransient (b k)
    · classical
      have hfirst : m ≤ Nat.find hever :=
        (Nat.le_find_iff hever m).2 fun j hj => not_not_intro (hbefore j hj)
      have hcount : IsTryCount b (m + 1) (min (m + 1) (Nat.find hever + 1)) :=
        .final (fun i hi => not_not.1 (Nat.find_min hever hi)) (Nat.find_spec hever)
      rwa [Nat.min_eq_left (Nat.succ_le_succ hfirst)] at hcount
    · exact .never fun i => not_not.1 (not_exists.1 hever i)
  · have hcount : IsTryCount b limit (min limit (m + 1)) := .final hbefore hfinal
    rwa [Nat.min_eq_right hm] at hcount

/-- **A request is posted until a try is final, and no more often than there are tries.** Every post
    is the same, all tries but the last are transient, and the result is what the last one amounts
    to. -/
theorem proposer_posts (p : Remote) (r : Request) (h : Held) :
    ∃ n, IsTryCount (p.behaviour h.replies) p.tryLimit n ∧
      (∀ i, i + 1 < n → IsTransient (p.behaviour h.replies i)) ∧
      Posts p r n h ((p.proposer r : StateM Held _).run h).2 ∧
      Means (p.behaviour h.replies (n - 1)) ((p.proposer r : StateM Held _).run h).1 := by
  have hlimit : 1 ≤ p.tryLimit := Nat.le_max_left 1 p.tries
  obtain ⟨m, hm, hbefore, hlast, hposts, hmeans⟩ := run_postFrom p r (p.tryLimit - 1) 1 h
  refine ⟨m + 1, isTryCount_succ (by omega) hbefore (hlast.imp_left fun he => by omega), ?_, hposts,
    hmeans⟩
  exact fun i hi => hbefore i (Nat.lt_of_succ_lt_succ hi)

end UsageGrid.Proposal.Remote
