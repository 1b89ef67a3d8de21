import Mathlib.Data.List.Nodup
import UsageGrid.Host.Held
import UsageGrid.Proofs.Dataflow.Commit

/-!
# Sessions do not interfere

Steps in many sessions come in any order (`Sessions.follow`). What a step does to a session depends
on this session and on nothing else (`run_perform`): so a session answers its own steps, and ends,
as if there were no others (`follow_projects`).

An id is listed from when its session is started until it is removed (`mem_ids_follow`); any other
answers every step by saying so (`perform_of_not_mem`). Both together are `follow_independent`.
-/

namespace UsageGrid.Dataflow

/-! ## 1. Single operations on the live sessions -/

namespace Sessions

variable {t : Sessions} {id other : SessionId}

theorem mem_ids : id ∈ t.ids ↔ (t.find? id).isSome = true := by
  simp [ids, find?]

theorem find?_eq_none : t.find? id = none ↔ id ∉ t.ids := by
  rw [mem_ids, Bool.not_eq_true, Option.isSome_eq_false_iff, Option.isNone_iff_eq_none]

theorem id_of_find? {s : Session} (h : t.find? id = some s) : s.id = id :=
  of_decide_eq_true (p := s.id = id) (List.find?_some (p := fun r : Session => decide (r.id = id)) h)

theorem mem_ids_of_find? {s : Session} (h : t.find? id = some s) : id ∈ t.ids :=
  mem_ids.2 (by rw [h]; rfl)

theorem find?_remove (t : Sessions) (id : SessionId) : (t.remove id).find? id = none := by
  refine List.find?_eq_none.2 fun r hr => ?_
  simpa using (List.mem_filter.1 hr).2

theorem find?_remove_of_ne (t : Sessions) (h : other ≠ id) :
    (t.remove id).find? other = t.find? other := by
  obtain ⟨live⟩ := t
  simp only [find?, remove, List.find?_filter]
  congr 1
  funext r
  by_cases hr : r.id = other <;> simp [hr, h]

theorem find?_start (t : Sessions) (id : SessionId) : (t.start id).find? id = some ⟨id, {}⟩ := by
  show (t.live.filter _ ++ [(⟨id, {}⟩ : Session)]).find? _ = _
  rw [List.find?_append, show (t.live.filter _).find? _ = none from find?_remove t id]
  simp

theorem find?_start_of_ne (t : Sessions) (h : other ≠ id) :
    (t.start id).find? other = t.find? other := by
  show (t.live.filter _ ++ [(⟨id, {}⟩ : Session)]).find? _ = _
  rw [List.find?_append, show (t.live.filter _).find? _ = _ from find?_remove_of_ne t h]
  simp [Ne.symm h]

theorem mem_ids_remove : other ∈ (t.remove id).ids ↔ other ∈ t.ids ∧ other ≠ id := by
  by_cases h : other = id
  · subst h
    exact iff_of_false (find?_eq_none.1 (t.find?_remove other)) fun h => h.2 rfl
  · rw [mem_ids, mem_ids, find?_remove_of_ne t h]
    simp [h]

theorem mem_ids_start : other ∈ (t.start id).ids ↔ other ∈ t.ids ∨ other = id := by
  by_cases h : other = id
  · subst h
    simp [mem_ids, find?_start]
  · rw [mem_ids, mem_ids, find?_start_of_ne t h]
    simp [h]

theorem nodup_remove (id : SessionId) (h : t.ids.Nodup) : (t.remove id).ids.Nodup :=
  h.sublist (List.filter_sublist.map _)

theorem nodup_start (id : SessionId) (h : t.ids.Nodup) : (t.start id).ids.Nodup := by
  have hids : (t.start id).ids = (t.remove id).ids ++ [id] := List.map_append
  rw [hids]
  refine List.nodup_append.2 ⟨nodup_remove id h, List.nodup_singleton id, fun a ha b hb he => ?_⟩
  exact (mem_ids_remove.1 ha).2 (he.trans (List.mem_singleton.1 hb))

theorem find?_update {s : Session} (hid : s.id = id) (h : id ∈ t.ids) :
    (t.update s).find? id = some s := by
  subst hid
  obtain ⟨live⟩ := t
  simp only [find?, update, ids] at h ⊢
  induction live with
  | nil => cases h
  | cons r rest ih =>
    by_cases hr : r.id = s.id
    · simp [hr]
    · have hrest : s.id ∈ rest.map (·.id) := (List.mem_cons.1 h).resolve_left (Ne.symm hr)
      rw [List.map_cons, if_neg hr, List.find?_cons_of_neg (by simpa using hr)]
      exact ih hrest

theorem get_start (t : Sessions) (id : SessionId) : (t.start id).get id = .ok ⟨id, {}⟩ := by
  unfold get
  rw [find?_start]

theorem remove_of_not_mem (h : id ∉ t.ids) : t.remove id = t := by
  unfold remove
  rw [List.filter_eq_self.2 fun r hr => ?_]
  exact decide_eq_true fun hid => h (List.mem_map.2 ⟨r, hr, hid⟩)

theorem remove_start (t : Sessions) (id : SessionId) : (t.start id).remove id = t.remove id := by
  show Sessions.mk ((t.live.filter _ ++ [(⟨id, {}⟩ : Session)]).filter _) = ⟨t.live.filter _⟩
  rw [List.filter_append, List.filter_filter]
  simp

theorem ids_update (t : Sessions) (s : Session) : (t.update s).ids = t.ids := by
  show (t.live.map _).map _ = _
  rw [List.map_map]
  refine List.map_congr_left fun r _ => ?_
  show (if r.id = s.id then s else r).id = r.id
  split
  · rename_i h
    exact h.symm
  · rfl

theorem remove_update (t : Sessions) (s : Session) :
    (t.update s).remove s.id = t.remove s.id := by
  show Sessions.mk ((t.live.map _).filter _) = ⟨t.live.filter _⟩
  rw [List.filter_map, List.filter_congr (q := fun r : Session => decide (r.id ≠ s.id))]
  · refine congrArg Sessions.mk ((List.map_congr_left fun r hr => ?_).trans (List.map_id _))
    exact if_neg (of_decide_eq_true (List.mem_filter.1 hr).2)
  · intro r _
    by_cases hr : r.id = s.id <;> simp [hr]

end Sessions

/-! ## 2. Steps -/

/-- What is done in a session. -/
inductive Job (m : Type → Type) where
  | set (a : Artifact)
  | get (k : Kind) (name : String)
  | run (w : Worker m)

/-- What is done to a session. -/
inductive Move (m : Type → Type) where
  | start
  | remove
  | perform (job : Job m)

/-- What is asked of the live sessions. The id of a new session is not chosen. -/
inductive Step (m : Type → Type) where
  | create
  | remove (id : SessionId)
  | perform (id : SessionId) (job : Job m)

/-- What comes of a step. -/
inductive Answer where
  | started
  | removed (was : Bool)
  | refused (e : DataflowError)
  | stored
  | found (outcome : Except DataflowError Payload)
  | ran (outcome : Except DataflowError (List String))

/-- A step that has been taken. -/
structure Event (m : Type → Type) where
  id : SessionId
  move : Move m
  answer : Answer

section

variable {m : Type → Type} [Monad m] [Host.Journal m]

def Session.perform (s : Session) : Job m → m (Answer × Session)
  | .set a => pure (.stored, { s with store := s.store.set a })
  | .get k name => pure (.found ((s.store.get k name).map fun d => ⟨k, d⟩), s)
  | .run w => do
    let (outcome, s) ← s.run w
    pure (.ran outcome, s)

namespace Sessions

def move (t : Sessions) (id : SessionId) : Move m → m (Answer × Sessions)
  | .start => pure (.started, t.start id)
  | .remove => pure (.removed (t.find? id).isSome, t.remove id)
  | .perform job => do
    match t.get id with
    | .error e => pure (.refused e, t)
    | .ok s => do
      let (answer, s) ← s.perform job
      pure (answer, t.update s)

/-- What is done to one session, move after move. -/
def moveAll (t : Sessions) (id : SessionId) : List (Move m) → m (List Answer × Sessions)
  | [] => pure ([], t)
  | x :: rest => do
    let (answer, t) ← t.move id x
    let (answers, t) ← t.moveAll id rest
    pure (answer :: answers, t)

variable [Host.Clock m]

def take (t : Sessions) : Step m → m (Event m × Sessions)
  | .create => do
    let (id, t) ← t.create
    pure (⟨id, .start, .started⟩, t)
  | .remove id => do
    let (answer, t) ← t.move id .remove
    pure (⟨id, .remove, answer⟩, t)
  | .perform id job => do
    let (answer, t) ← t.move id (.perform job)
    pure (⟨id, .perform job, answer⟩, t)

/-- Takes the steps in turn. -/
def follow (t : Sessions) : List (Step m) → m (List (Event m) × Sessions)
  | [] => pure ([], t)
  | step :: rest => do
    let (event, t) ← t.take step
    let (events, t) ← t.follow rest
    pure (event :: events, t)

end Sessions

end

/-! ## 3. One session -/

section

variable {σ : Type} [Host.Journal (StateM σ)]

/-- The work depends on what the worker is handed and on nothing else. -/
def Worker.IsPure (w : Worker (StateM σ)) : Prop :=
  ∀ inputs u u', ((w.run inputs).run u).1 = ((w.run inputs).run u').1

def Job.IsPure : Job (StateM σ) → Prop
  | .run w => w.IsPure
  | _ => True

def Move.IsPure : Move (StateM σ) → Prop
  | .perform job => job.IsPure
  | _ => True

def Step.IsPure : Step (StateM σ) → Prop
  | .perform _ job => job.IsPure
  | _ => True

namespace Session

/-- **What comes of a job depends on the session alone.** -/
theorem perform_eq {job : Job (StateM σ)} (h : job.IsPure) (s : Session) (u u' : σ) :
    ((s.perform job).run u).1 = ((s.perform job).run u').1 := by
  cases job with
  | set a => rfl
  | get k name => rfl
  | run w =>
    have hwork (inputs : Inputs) : s.work w u inputs = s.work w u' inputs := h inputs _ _
    have hrun : ((s.run w).run u).1 = ((s.run w).run u').1 := by
      rw [run_fst, run_fst, outputs_fst, outputs_fst]
      simp only [hwork]
    unfold perform
    rw [StateT.run_bind, StateT.run_bind]
    exact congrArg (fun out : _ × Session => (Answer.ran out.1, out.2)) hrun

theorem id_perform (s : Session) (job : Job (StateM σ)) (u : σ) :
    ((s.perform job).run u).1.2.id = s.id := by
  cases job with
  | set a => rfl
  | get k name => rfl
  | run w =>
    show ((s.run w).run u).1.2.id = s.id
    rw [run_fst]
    split <;> rfl

end Session

namespace Sessions

variable {t t' : Sessions} {id other : SessionId} {x : Move (StateM σ)}

/-- A session that is not live answers nothing, and nothing changes. -/
theorem move_perform_of_not_mem (h : id ∉ t.ids) (job : Job (StateM σ)) (u : σ) :
    (t.move id (.perform job)).run u = ((.refused (.noSession id), t), u) := by
  unfold move get
  rw [find?_eq_none.2 h]
  rfl

theorem move_remove_of_not_mem (h : id ∉ t.ids) (u : σ) :
    (t.move id (.remove : Move (StateM σ))).run u = ((.removed false, t), u) := by
  show ((Answer.removed (t.find? id).isSome, t.remove id), u) = _
  rw [find?_eq_none.2 h, remove_of_not_mem h]
  rfl

theorem move_perform_of_find? {s : Session} (h : t.find? id = some s) (job : Job (StateM σ))
    (u : σ) : ((t.move id (.perform job)).run u).1
      = (((s.perform job).run u).1.1, t.update ((s.perform job).run u).1.2) := by
  unfold move get
  rw [h]
  rfl

theorem ids_move_perform (t : Sessions) (id : SessionId) (job : Job (StateM σ)) (u : σ) :
    ((t.move id (.perform job)).run u).1.2.ids = t.ids := by
  cases hs : t.find? id with
  | none => rw [move_perform_of_not_mem (find?_eq_none.1 hs)]
  | some s =>
    rw [move_perform_of_find? hs]
    exact t.ids_update _

/-- What comes of a job is no removal. -/
theorem answer_move_perform_ne (t : Sessions) (id : SessionId) (job : Job (StateM σ)) (u : σ)
    (was : Bool) : ((t.move id (.perform job)).run u).1.1 ≠ .removed was := by
  cases hs : t.find? id with
  | none =>
    rw [move_perform_of_not_mem (find?_eq_none.1 hs)]
    exact nofun
  | some s =>
    rw [move_perform_of_find? hs]
    cases job <;> exact nofun

/-- **What a step does to a session depends on this session alone.** -/
theorem move_agrees (hx : x.IsPure) (h : t.find? id = t'.find? id) (u u' : σ) :
    ((t.move id x).run u).1.1 = ((t'.move id x).run u').1.1 ∧
      ((t.move id x).run u).1.2.find? id = ((t'.move id x).run u').1.2.find? id := by
  cases x with
  | start => exact ⟨rfl, (t.find?_start id).trans (t'.find?_start id).symm⟩
  | remove =>
    refine ⟨?_, (t.find?_remove id).trans (t'.find?_remove id).symm⟩
    show Answer.removed (t.find? id).isSome = Answer.removed (t'.find? id).isSome
    rw [h]
  | perform job =>
    cases hs : t.find? id with
    | none =>
      rw [move_perform_of_not_mem (find?_eq_none.1 hs),
        move_perform_of_not_mem (find?_eq_none.1 (h ▸ hs))]
      exact ⟨rfl, h⟩
    | some s =>
      have hs' : t'.find? id = some s := h ▸ hs
      rw [move_perform_of_find? hs, move_perform_of_find? hs', Session.perform_eq hx s u u']
      have hid : ((s.perform job).run u').1.2.id = id :=
        (s.id_perform job u').trans (id_of_find? hs)
      exact ⟨rfl, (find?_update hid (mem_ids_of_find? hs)).trans
        (find?_update hid (mem_ids_of_find? hs')).symm⟩

/-- The other sessions are as before. -/
theorem find?_move_of_ne (h : other ≠ id) (u : σ) :
    ((t.move id x).run u).1.2.find? other = t.find? other := by
  cases x with
  | start => exact t.find?_start_of_ne h
  | remove => exact t.find?_remove_of_ne h
  | perform job =>
    cases hs : t.find? id with
    | none => rw [move_perform_of_not_mem (find?_eq_none.1 hs)]
    | some s =>
      rw [move_perform_of_find? hs]
      have hid : ((s.perform job).run u).1.2.id = id := (s.id_perform job u).trans (id_of_find? hs)
      exact t.find?_update_of_ne _ (hid ▸ h)

/-! ## 4. Events -/

/-- One event after the other leads from some live sessions to others. -/
inductive Follows : Sessions → List (Event (StateM σ)) → Sessions → Prop where
  | nil {t : Sessions} : Follows t [] t
  | cons {t t₁ t' : Sessions} {id : SessionId} {x : Move (StateM σ)} {answer : Answer}
      {events : List (Event (StateM σ))} {u : σ}
      (moved : ((t.move id x).run u).1 = (answer, t₁)) (rest : Follows t₁ events t') :
      Follows t (⟨id, x, answer⟩ :: events) t'

variable {events : List (Event (StateM σ))}

/-- The events of one session. -/
def own (id : SessionId) (events : List (Event (StateM σ))) : List (Event (StateM σ)) :=
  events.filter (·.id = id)

omit [Host.Journal (StateM σ)] in
theorem own_cons_of_ne (h : other ≠ id) (x : Move (StateM σ)) (answer : Answer) :
    own id (⟨other, x, answer⟩ :: events) = own id events :=
  List.filter_cons_of_neg (by simpa using h)

omit [Host.Journal (StateM σ)] in
theorem own_cons (id : SessionId) (x : Move (StateM σ)) (answer : Answer) :
    own id (⟨id, x, answer⟩ :: events) = ⟨id, x, answer⟩ :: own id events :=
  List.filter_cons_of_pos (by simp)

theorem run_moveAll_cons (t : Sessions) (id : SessionId) (x : Move (StateM σ))
    (rest : List (Move (StateM σ))) (u : σ) : ∃ u₁,
    ((t.moveAll id (x :: rest)).run u).1
      = (((t.move id x).run u).1.1 :: ((((t.move id x).run u).1.2.moveAll id rest).run u₁).1.1,
        ((((t.move id x).run u).1.2.moveAll id rest).run u₁).1.2) := by
  refine ⟨((t.move id x).run u).2, ?_⟩
  rw [moveAll, StateT.run_bind]
  rfl

/-- **A session goes the same way alone**: it answers its own steps, and ends, as if there were no
    others. -/
theorem Follows.projects {r : Sessions} (h : Follows t events t')
    (hpure : ∀ e ∈ events, e.move.IsPure) (hsame : t.find? id = r.find? id) (u : σ) :
    ((r.moveAll id ((own id events).map Event.move)).run u).1.1
        = (own id events).map Event.answer ∧
      ((r.moveAll id ((own id events).map Event.move)).run u).1.2.find? id = t'.find? id := by
  induction h generalizing r u with
  | nil => exact ⟨rfl, hsame.symm⟩
  | @cons t t₁ t' eid x answer events u₁ moved rest ih =>
    obtain ⟨hx, hrest⟩ := List.forall_mem_cons.1 hpure
    by_cases hid : eid = id
    · subst hid
      obtain ⟨hanswer, hfind⟩ := move_agrees hx hsame u₁ u
      rw [moved] at hanswer hfind
      obtain ⟨u₂, hall⟩ := run_moveAll_cons r eid x ((own eid events).map Event.move) u
      obtain ⟨hanswers, hlast⟩ := ih hrest hfind u₂
      rw [own_cons, List.map_cons, List.map_cons, hall]
      exact ⟨List.cons_eq_cons.2 ⟨hanswer.symm, hanswers⟩, hlast⟩
    · rw [own_cons_of_ne hid]
      refine ih hrest (Eq.trans ?_ hsame) u
      have hother := find?_move_of_ne (t := t) (x := x) (Ne.symm hid) u₁
      rwa [moved] at hother

/-! ## 5. Which sessions are live -/

/-- The id of the session that has been started, if one has. -/
def Event.started? (e : Event (StateM σ)) : Option SessionId :=
  match e.move with
  | .start => some e.id
  | _ => none

/-- The ids of the sessions that have been started. -/
def started (events : List (Event (StateM σ))) : List SessionId := events.filterMap Event.started?

/-- A session that was live has been removed. -/
def WasRemoved (id : SessionId) (events : List (Event (StateM σ))) : Prop :=
  ∃ e ∈ events, e.id = id ∧ e.answer = .removed true

omit [Host.Journal (StateM σ)] in
theorem wasRemoved_cons {e : Event (StateM σ)} : WasRemoved id (e :: events) ↔
    (e.id = id ∧ e.answer = .removed true) ∨ WasRemoved id events := by
  simp only [WasRemoved, List.mem_cons, or_and_right, exists_or, exists_eq_left]

/-- An id is listed from when its session is started until it is removed. No session is started
    under an id that has been seen before. -/
theorem Follows.mem_ids {seen : List SessionId} (h : Follows t events t')
    (hseen : ∀ id ∈ t.ids, id ∈ seen) (hdistinct : (seen ++ started events).Nodup) :
    id ∈ t'.ids ↔ (id ∈ t.ids ∨ id ∈ started events) ∧ ¬ WasRemoved id events := by
  induction h generalizing seen with
  | nil => simp [started, WasRemoved]
  | @cons t t₁ t' eid x answer events u moved rest ih =>
    rw [wasRemoved_cons]
    cases x with
    | start =>
      obtain ⟨rfl, rfl⟩ := Prod.mk.inj moved
      have hlist : started (⟨eid, .start, .started⟩ :: events) = eid :: started events := rfl
      rw [hlist] at hdistinct ⊢
      have hno : ¬ (eid = id ∧ Answer.started = .removed true) := fun h => nomatch h.2
      have hseen' : ∀ id ∈ (t.start eid).ids, id ∈ eid :: seen := fun id hid =>
        (mem_ids_start.1 hid).elim (fun h => List.mem_cons_of_mem _ (hseen id h))
          fun h => h ▸ List.mem_cons_self
      rw [ih hseen' (List.nodup_middle.1 hdistinct), mem_ids_start, List.mem_cons, or_assoc,
        or_iff_right hno]
    | remove =>
      obtain ⟨rfl, rfl⟩ := Prod.mk.inj moved
      have hseen' : ∀ id ∈ (t.remove eid).ids, id ∈ seen := fun id hid =>
        hseen id (mem_ids_remove.1 hid).1
      rw [ih hseen' hdistinct, mem_ids_remove]
      show _ ↔ (id ∈ t.ids ∨ id ∈ started events) ∧ _
      by_cases hid : eid = id
      · subst hid
        by_cases hlive : eid ∈ t.ids
        · -- what has been seen is not started again
          have hnew : eid ∉ started events := fun hin =>
            (List.nodup_append.1 hdistinct).2.2 _ (hseen _ hlive) _ hin rfl
          simp [hnew, mem_ids.1 hlive]
        · simp [hlive, find?_eq_none.2 hlive]
      · simp [hid, Ne.symm hid]
    | perform job =>
      obtain ⟨hanswer, ht₁⟩ := Prod.mk.inj moved
      have hids : t₁.ids = t.ids := ht₁ ▸ ids_move_perform t eid job u
      have hno : ¬ (eid = id ∧ answer = .removed true) := fun h =>
        answer_move_perform_ne t eid job u true (hanswer.trans h.2)
      rw [ih (hids ▸ hseen) hdistinct, hids, or_iff_right hno]
      rfl

/-- No id is listed twice. -/
theorem Follows.nodup (h : Follows t events t') (hnodup : t.ids.Nodup) : t'.ids.Nodup := by
  induction h with
  | nil => exact hnodup
  | @cons t t₁ t' eid x answer events u moved rest ih =>
    refine ih ?_
    cases x with
    | start =>
      obtain ⟨-, rfl⟩ := Prod.mk.inj moved
      exact nodup_start eid hnodup
    | remove =>
      obtain ⟨-, rfl⟩ := Prod.mk.inj moved
      exact nodup_remove eid hnodup
    | perform job =>
      obtain ⟨-, ht₁⟩ := Prod.mk.inj moved
      rw [← ht₁, ids_move_perform]
      exact hnodup

/-! ## 6. Steps in any order -/

variable [Host.Clock (StateM σ)]

/-- A step is a move in the session that its event names. -/
theorem run_take (t : Sessions) (step : Step (StateM σ)) (u : σ) : ∃ u₁,
    ((t.move ((t.take step).run u).1.1.id ((t.take step).run u).1.1.move).run u₁).1
      = (((t.take step).run u).1.1.answer, ((t.take step).run u).1.2) := by
  cases step with
  | create => exact ⟨u, rfl⟩
  | remove id => exact ⟨u, rfl⟩
  | perform id job => exact ⟨u, rfl⟩

theorem isPure_take {step : Step (StateM σ)} (h : step.IsPure) (t : Sessions) (u : σ) :
    ((t.take step).run u).1.1.move.IsPure := by
  cases step with
  | create => trivial
  | remove id => trivial
  | perform id job => exact h

theorem run_follow_cons (t : Sessions) (step : Step (StateM σ)) (rest : List (Step (StateM σ)))
    (u : σ) : ∃ u₁, ((t.follow (step :: rest)).run u).1
      = (((t.take step).run u).1.1 :: ((((t.take step).run u).1.2.follow rest).run u₁).1.1,
        ((((t.take step).run u).1.2.follow rest).run u₁).1.2) := by
  refine ⟨((t.take step).run u).2, ?_⟩
  rw [follow, StateT.run_bind]
  rfl

/-- Steps that are taken lead to what their events lead to, and what is pure in them is pure. -/
theorem follows_follow {steps : List (Step (StateM σ))} (h : ∀ step ∈ steps, step.IsPure)
    (t : Sessions) (u : σ) :
    Follows t ((t.follow steps).run u).1.1 ((t.follow steps).run u).1.2 ∧
      ∀ e ∈ ((t.follow steps).run u).1.1, e.move.IsPure := by
  induction steps generalizing t u with
  | nil => exact ⟨.nil, fun _ he => absurd he List.not_mem_nil⟩
  | cons step rest ih =>
    obtain ⟨hstep, hrest⟩ := List.forall_mem_cons.1 h
    obtain ⟨u₁, hrun⟩ := run_follow_cons t step rest u
    obtain ⟨u₂, hmoved⟩ := run_take t step u
    obtain ⟨hfollows, hpure⟩ := ih hrest ((t.take step).run u).1.2 u₁
    rw [hrun]
    exact ⟨.cons hmoved hfollows, List.forall_mem_cons.2 ⟨isPure_take hstep t u, hpure⟩⟩

/-- What is so of the events of many sessions, and of the sessions that are live afterwards. -/
structure Independent (events : List (Event (StateM σ))) (t : Sessions) : Prop where
  /-- Every session answers its own steps, and ends, as if there were no others. -/
  alone : ∀ id v, ∃ r, ((moveAll {} id ((own id events).map Event.move)).run v).1
    = ((own id events).map Event.answer, r) ∧ r.find? id = t.find? id
  /-- The ids are those of the sessions that have been started and not removed. -/
  listed : ∀ id, id ∈ t.ids ↔ id ∈ started events ∧ ¬ WasRemoved id events
  distinct : t.ids.Nodup
  /-- A session that has been removed or was never started refuses what is to be done in it, and
      nothing changes. -/
  refused : ∀ id, id ∉ started events ∨ WasRemoved id events → ∀ v : σ,
    (∀ job : Job (StateM σ),
      (t.move id (.perform job)).run v = ((.refused (.noSession id), t), v)) ∧
    (t.move id (.remove : Move (StateM σ))).run v = ((.removed false, t), v)

/-- **Sessions do not interfere**, in whatever order the steps in them are taken. -/
theorem follow_independent {steps : List (Step (StateM σ))} (hpure : ∀ step ∈ steps, step.IsPure)
    {u : σ} {t : Sessions} (hrun : ((follow {} steps).run u).1 = (events, t))
    (hdistinct : (started events).Nodup) : Independent events t := by
  obtain ⟨hfollows, hmoves⟩ := follows_follow hpure {} u
  rw [hrun] at hfollows hmoves
  have hids (id : SessionId) : id ∈ t.ids ↔ id ∈ started events ∧ ¬ WasRemoved id events := by
    have hnone : ∀ id ∈ ({} : Sessions).ids, id ∈ ([] : List SessionId) := fun _ h => h
    rw [hfollows.mem_ids hnone hdistinct]
    exact and_congr_left' (or_iff_right List.not_mem_nil)
  refine ⟨fun id v => ?_, hids, hfollows.nodup .nil, fun id hid v => ?_⟩
  · have hsame : ({} : Sessions).find? id = ({} : Sessions).find? id := rfl
    obtain ⟨hanswers, hlast⟩ := hfollows.projects hmoves hsame v
    exact ⟨_, Prod.ext hanswers rfl, hlast⟩
  · have hnot : id ∉ t.ids := fun hin =>
      hid.elim (fun h => h ((hids id).1 hin).1) ((hids id).1 hin).2
    exact ⟨fun job => move_perform_of_not_mem hnot job v, move_remove_of_not_mem hnot v⟩

end Sessions

end

/-- A worker that names a platform after a note. -/
def noteReader : Worker (StateM Host.Held) where
  name := "note_reader"
  needs := [.note]
  produces := [.platform]
  run inputs := pure ((inputs.get .note).map fun note => [.ofData .platform { name := note.text }])

/-- Two sessions; one has a note read and is removed. -/
def exampleSteps : List (Step (StateM Host.Held)) :=
  [.create, .create, .perform ⟨1⟩ (.set (.ofData .note ⟨"first"⟩)), .perform ⟨2⟩ (.run noteReader),
    .perform ⟨1⟩ (.run noteReader), .remove ⟨1⟩, .perform ⟨1⟩ (.run noteReader)]

/-- What has been started and not removed is the second session. -/
theorem exampleSteps_independent : ∃ events t,
    ((Sessions.follow {} exampleSteps).run {}).1 = (events, t) ∧
      Sessions.started events = [⟨1⟩, ⟨2⟩] ∧ t.ids = [⟨2⟩] ∧ Sessions.Independent events t := by
  have hpure : ∀ step ∈ exampleSteps, step.IsPure := by
    simp only [exampleSteps, List.forall_mem_cons, List.not_mem_nil, false_imp_iff, implies_true,
      and_true]
    exact ⟨trivial, trivial, trivial, fun _ _ _ => rfl, fun _ _ _ => rfl, trivial, fun _ _ _ => rfl⟩
  refine ⟨_, _, rfl, rfl, rfl, ?_⟩
  exact Sessions.follow_independent hpure (u := {}) rfl
    (show [(⟨1⟩ : SessionId), ⟨2⟩].Nodup by decide)

end UsageGrid.Dataflow
