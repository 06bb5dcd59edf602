import SpaceCaptain.Queue.Buffer
import SpaceCaptain.Queue.Locks

/-!
# What the threads did to the items

`Ledger` is the invariant of the shared data: the buffer is well formed, and the items that
critical sections inserted are, in order, the items removed and then the queue's contents.
`Honest` is the invariant of a call: until its buffer update it has done nothing, and after
it the call can only return success, with the item of the update. Together they give the
safety of the queue under any interleaving.
-/
namespace SpaceCaptain.GenericQueue

open SpaceCaptain.Library

variable {T α : Type*}

/-- The item an effect inserted. -/
def Effect.inserted : Effect α → Option α
  | .put item => some item
  | .got _ | .drained _ _ => none

/-- The item an effect removed. -/
def Effect.removed : Effect α → Option α
  | .put _ => none
  | .got item | .drained item _ => some item

/-- The item an effect handed to the caller of a pop. -/
def Effect.handed : Effect α → Option α
  | .got item => some item
  | .put _ | .drained _ _ => none

namespace State

/-- The items inserted so far, in the order of their critical sections. -/
def inserted (s : State T α) : List α := s.history.filterMap fun e => e.2.inserted

/-- The items removed so far, by a pop or by the drain loop. -/
def removed (s : State T α) : List α := s.history.filterMap fun e => e.2.removed

/-- The items handed out by pops so far, in the order of their critical sections. -/
def handed (s : State T α) : List α := s.history.filterMap fun e => e.2.handed

end State

/-- The shared data: a well-formed buffer, and every inserted item accounted for in order. -/
structure Ledger (n : Nat) (s : State T α) : Prop where
  /-- The buffer invariant. -/
  wellFormed : s.queue.WellFormed
  /-- The capacity never changes. -/
  capacity : s.queue.capacity = n
  /-- What came in is what went out followed by what is there. -/
  balance : s.inserted = s.removed ++ s.queue.contents

/-- The effect and the output cell of an operation whose buffer update is done. -/
def OpCall.Did (c : OpCall α) (effect : Option (Effect α)) (out : Option α) : Prop :=
  match c with
  | .add item | .tryAdd item => effect = some (.put item)
  | .pop | .tryPop => ∃ item, effect = some (.got item) ∧ out = some item

/-- The statements after the buffer update. -/
def Stage.done : Stage → Bool
  | .unlockDone | .lockSignal | .signal | .unlockSignal => true
  | _ => false

/-- The answer a status call holds carries no code. -/
def StatusStage.Plain : StatusStage α → Prop
  | .unlock answer => answer.ret = none
  | .rdlock | .read => True

/-- A thread inside a call has done what its place says: nothing before the buffer update, the
update of its operation after it. -/
def Thread.Honest (th : Thread α) : Prop :=
  match th.phase with
  | .op c stage => if stage.done then c.Did th.effect th.out else th.effect = none
  | .status _ stage => th.effect = none ∧ stage.Plain
  | .idle | .nuke _ _ => True

/-- A call that came back with success had done its operation, and any other had done
nothing. -/
def Return.Honest (r : Return T α) : Prop :=
  match r.reply with
  | .code .success => ∃ item, r.effect = some (.put item)
  | .popped .success out => ∃ item, r.effect = some (.got item) ∧ out = some (some item)
  | _ => r.effect = none

/-- A buffer update of an operation that was let through keeps the buffer invariant and the
capacity, does what the operation is for, and moves items between the history and the list. -/
theorem enact_ledger {q q' : Queue α} {c : OpCall α} {before out : Option α}
    {effect : Option (Effect α)} (wf : q.WellFormed) (accepted : c.refused q = false)
    (enacted : c.enact q before = (q', out, effect)) :
    q'.WellFormed ∧ q'.capacity = q.capacity ∧
      ∃ e, effect = some e ∧ c.Did (some e) out ∧
        q.contents ++ e.inserted.toList = e.removed.toList ++ q'.contents := by
  cases c with
  | add item | tryAdd item =>
    simp only [OpCall.enact, Prod.mk.injEq] at enacted
    obtain ⟨rfl, rfl, rfl⟩ := enacted
    have room := room_of_not_full wf accepted
    refine ⟨Queue.enqueue_wellFormed wf room item, rfl, .put item, rfl, rfl, ?_⟩
    simp [Effect.inserted, Effect.removed, Queue.enqueue_contents wf room]
  | pop | tryPop =>
    simp only [OpCall.enact, Prod.mk.injEq] at enacted
    obtain ⟨rfl, rfl, rfl⟩ := enacted
    have left := left_of_not_empty accepted
    obtain ⟨item, front, split⟩ := Queue.dequeue_contents wf left
    refine ⟨Queue.dequeue_wellFormed wf left, rfl, .got item, by rw [front]; rfl,
      ⟨item, rfl, front⟩, ?_⟩
    simp [Effect.inserted, Effect.removed, split]

/-- Before its buffer update a call has done nothing. -/
theorem honest_before {th : Thread α} {c : OpCall α} {stage : Stage}
    (at_phase : th.phase = .op c stage) (early : stage.done = false) :
    th.Honest ↔ th.effect = none := by
  simp [Thread.Honest, at_phase, early]

/-- After its buffer update a call has done its operation. -/
theorem honest_after {th : Thread α} {c : OpCall α} {stage : Stage}
    (at_phase : th.phase = .op c stage) (late : stage.done = true) :
    th.Honest ↔ c.Did th.effect th.out := by
  simp [Thread.Honest, at_phase, late]

/-- A status call does nothing, and its answer carries no code. -/
theorem honest_status {th : Thread α} {c : StatusCall} {stage : StatusStage α}
    (at_phase : th.phase = .status c stage) : th.Honest ↔ th.effect = none ∧ stage.Plain := by
  simp only [Thread.Honest, at_phase]

/-- What a status call reads carries no code. -/
theorem read_plain (c : StatusCall) (q : Queue α) : (StatusStage.unlock (c.read q)).Plain := by
  cases c <;> rfl

/-- The thread is inside `sc_generic_queue_nuke_with_cleanup`. -/
def Phase.nuking : Phase α → Bool
  | .nuke _ _ => true
  | _ => false

/-- What the current call of a thread has done. -/
def Thread.inFlight (th : Thread α) : Option (Effect α) :=
  match th.phase with
  | .idle => none
  | _ => th.effect

/-- A call other than `nuke_with_cleanup` enters no destruction. -/
theorem enter_outside {valid : Bool} {c : Call α} {p : Phase α} (entered : enter valid c = .inl p)
    (kind : c.isNuke = false) : p.nuking = false := by
  rcases enter_phase entered with ⟨o, rfl⟩ | ⟨q, -, rfl⟩ | ⟨cleanup, rfl, -⟩
  · rfl
  · rfl
  · contradiction

/-- The answer of a status call to NULL tells no success. -/
theorem onNull_honest (c : StatusCall) (t : T) :
    (⟨t, c.onNull, none⟩ : Return T α).Honest := by
  cases c <;> rfl

/-- A refused call never tells success. -/
theorem enter_refused {valid : Bool} {c : Call α} {reply : Reply α}
    (refused : enter valid c = .inr reply) (t : T) :
    (⟨t, reply, none⟩ : Return T α).Honest := by
  unfold enter at refused
  repeat' split at refused
  all_goals first
    | contradiction
    | obtain rfl := Sum.inr.inj refused
      first
      | rfl
      | exact onNull_honest _ t

/-- A reply with a code other than success is honest when nothing was done. -/
theorem failed_honest {c : OpCall α} {code : RetVal} (failed : code ≠ .success) (t : T)
    (out : Option α) : (⟨t, c.reply code out, none⟩ : Return T α).Honest := by
  cases c <;> cases code <;> first | exact absurd rfl failed | rfl

/-- A reply of success is honest when the operation was done. -/
theorem success_honest {c : OpCall α} {effect : Option (Effect α)} {out : Option α} (t : T)
    (did : c.Did effect out) : (⟨t, c.reply .success out, effect⟩ : Return T α).Honest := by
  cases c with
  | add item | tryAdd item => exact ⟨item, did⟩
  | pop | tryPop =>
    obtain ⟨item, effect, out⟩ := did
    exact ⟨item, effect, by rw [out]⟩

/-- A reply without a code is honest when nothing was done. -/
theorem plain_honest {r : Return T α} (nothing : r.effect = none) (plain : r.reply.ret = none) :
    r.Honest := by
  obtain ⟨t, reply, effect⟩ := r
  cases reply with
  | code | popped => contradiction
  | flag | count => exact nothing

/-- A call that told another code than success has done nothing. -/
theorem failed_nothing {r : Return T α} (honest : r.Honest)
    (failed : r.reply.ret ≠ some .success) : r.effect = none := by
  obtain ⟨t, reply, effect⟩ := r
  cases reply with
  | code ret | popped ret out =>
    cases ret with
    | success => exact absurd rfl failed
    | _ => exact honest
  | flag value | count value => exact honest

/-- The code of a refused operation that returns is not success. -/
theorem refusal_failed (c : OpCall α) : c.refusal ≠ .success := by
  cases c <;> simp [OpCall.refusal]

/-- What one action adds to the records: nothing, the effect of a critical section, or a reply
that tells what the call had done. -/
inductive Records (s : State T α) (t : T) (s' : State T α) : Prop
  | quiet (history : s'.history = s.history) (returned : s'.returned = s.returned)
      (inFlight : (s'.threads t).inFlight = (s.threads t).inFlight)
  | did (e : Effect α) (history : s'.history = s.history ++ [(t, e)])
      (returned : s'.returned = s.returned) (before : (s.threads t).inFlight = none)
      (after : (s'.threads t).inFlight = some e) (kind : e.removed = e.handed)
  | gave (r : Return T α) (history : s'.history = s.history)
      (returned : s'.returned = s.returned ++ [r]) (thread : r.thread = t)
      (effect : r.effect = (s.threads t).inFlight) (after : (s'.threads t).inFlight = none)
      (honest : r.Honest)

/-- Inside a call, what it has done is its effect. -/
theorem inFlight_busy {s : State T α} {t : T} (busy : s.phase t ≠ .idle) :
    (s.threads t).inFlight = (s.threads t).effect := by
  unfold Thread.inFlight
  split
  · contradiction
  · rfl

/-- Outside a call nothing is in flight. -/
theorem inFlight_idle {th : Thread α} (idle : th.phase = .idle) : th.inFlight = none := by
  simp only [Thread.inFlight, idle]

/-- A call with an effect is an operation past its buffer update. -/
theorem inFlight_did {s : State T α} {t : T} {e : Effect α} (honest : (s.threads t).Honest)
    (outside : (s.phase t).nuking = false) (flying : (s.threads t).inFlight = some e) :
    ∃ c stage, s.phase t = .op c stage ∧ stage.done = true ∧
      c.Did (some e) (s.threads t).out := by
  cases at_phase : s.phase t with
  | idle => simp [inFlight_idle at_phase] at flying
  | op c stage =>
    rw [inFlight_busy (by simp [at_phase])] at flying
    cases done : stage.done with
    | true =>
      refine ⟨c, stage, rfl, done, ?_⟩
      rw [← flying]
      exact (honest_after at_phase done).mp honest
    | false => simp [(honest_before at_phase done).mp honest] at flying
  | status c stage =>
    rw [inFlight_busy (by simp [at_phase])] at flying
    simp [((honest_status at_phase).mp honest).1] at flying
  | nuke cleanup stage => simp [at_phase, Phase.nuking] at outside

/-- Moving on within a call records nothing. -/
theorem Records.along {s s' : State T α} {t : T} (busy : s.phase t ≠ .idle)
    (history : s'.history = s.history) (returned : s'.returned = s.returned)
    (later : s'.phase t ≠ .idle) (effect : (s'.threads t).effect = (s.threads t).effect) :
    Records s t s' :=
  .quiet history returned (by rw [inFlight_busy busy, inFlight_busy later, effect])

/-- An operation hands out what it removes. -/
theorem removed_handed {c : OpCall α} {e : Effect α} {out : Option α} (did : c.Did (some e) out) :
    e.removed = e.handed := by
  cases c with
  | add item | tryAdd item => obtain rfl := Option.some.inj did; rfl
  | pop | tryPop =>
    obtain ⟨item, effect, -⟩ := did
    obtain rfl := Option.some.inj effect
    rfl

variable [DecidableEq T] {s s' : State T α} {t : T} {a : Act T α}

/-- Every action keeps the ledger. -/
theorem move_ledger {n : Nat} (moved : Move s t a s') (ledger : Ledger n s) : Ledger n s' := by
  cases moved
  case bodyDone c again queue out effect at_phase accepted enacted =>
    obtain ⟨kept, same, e, rfl, -, balance⟩ := enact_ledger ledger.wellFormed accepted enacted
    refine ⟨kept, same.trans ledger.capacity, ?_⟩
    change (s.history ++ [(t, e)]).filterMap _ =
      (s.history ++ [(t, e)]).filterMap _ ++ queue.contents
    have before : s.history.filterMap (fun e => e.2.inserted) =
      s.history.filterMap (fun e => e.2.removed) ++ s.queue.contents := ledger.balance
    rw [List.filterMap_append, List.filterMap_append, before]
    cases added : e.inserted <;> cases taken : e.removed <;> simp_all
  case nukeTake cleanup at_phase left =>
    have some_left := left_of_not_empty left
    obtain ⟨item, front, split⟩ := Queue.dequeue_contents ledger.wellFormed some_left
    refine ⟨Queue.dequeue_wellFormed ledger.wellFormed some_left, ledger.capacity, ?_⟩
    have before : s.history.filterMap (fun e => e.2.inserted) =
      s.history.filterMap (fun e => e.2.removed) ++ s.queue.contents := ledger.balance
    rw [front]
    change (s.history ++ [(t, Effect.drained item cleanup)]).filterMap _ =
      (s.history ++ [(t, Effect.drained item cleanup)]).filterMap _ ++ s.queue.dequeue.contents
    rw [List.filterMap_append, List.filterMap_append, before, split]
    simp [Effect.inserted, Effect.removed]
  all_goals exact ⟨ledger.wellFormed, ledger.capacity, ledger.balance⟩

/-- Moving within the statements before the update, or within those after it, stays honest. -/
theorem honest_along {th : Thread α} {c : OpCall α} {stage stage' : Stage}
    {deadlines : List Nat} (at_phase : th.phase = .op c stage)
    (same : stage'.done = stage.done) (honest : th.Honest) :
    { th with phase := .op c stage', deadlines }.Honest := by
  cases done : stage.done with
  | true => exact (honest_after rfl (same.trans done)).mpr ((honest_after at_phase done).mp honest)
  | false =>
    exact (honest_before rfl (same.trans done)).mpr ((honest_before at_phase done).mp honest)

/-- Every action keeps every call honest. -/
theorem move_honest {n : Nat} (moved : Move s t a s') (ledger : Ledger n s)
    (honest : ∀ u, (s.threads u).Honest) (u : T) : (s'.threads u).Honest := by
  by_cases other : u = t
  case neg =>
    -- A signal changes the place of its sleeper, but not whether its update is done.
    rcases move_frame moved other with same | ⟨o, asleep, marked⟩
    · rw [same]
      exact honest u
    · rw [marked]
      exact honest_along asleep rfl (honest u)
  subst other
  have own := honest u
  cases moved
  case enter valid c p at_phase entered =>
    rw [State.threads_set, if_pos rfl]
    rcases enter_phase entered with ⟨o, rfl⟩ | ⟨q, -, rfl⟩ | ⟨cleanup, -, rfl⟩ <;>
      simp [Thread.Honest, Stage.done, StatusStage.Plain]
  case bodyDone c again queue out effect at_phase accepted enacted =>
    obtain ⟨-, -, e, rfl, did, -⟩ := enact_ledger ledger.wellFormed accepted enacted
    change ((s.set u _).threads u).Honest
    rw [State.threads_set, if_pos rfl]
    exact (honest_after rfl rfl).mpr did
  case bodyRefused c again at_phase refused =>
    change ((s.set u _).threads u).Honest
    rw [State.threads_set, if_pos rfl]
    refine honest_along at_phase ?_ own
    cases blocking : c.blocking <;> simp [OpCall.refusedStage, blocking, Stage.done]
  case signalSome c o v at_phase target cond =>
    have apart : u ≠ v := by
      rintro rfl
      rw [target] at at_phase
      cases at_phase
    have untouched : (s.goto v (.op o (.asleep true))).threads u = s.threads u := by
      simp only [State.goto, State.threads_set, if_neg apart]
    change (((s.goto v _).set u _).threads u).Honest
    rw [State.threads_set, if_pos rfl, untouched]
    exact honest_along at_phase rfl own
  case lockRead c at_phase free =>
    have before := (honest_status at_phase).mp own
    change ((s.set u _).threads u).Honest
    rw [State.threads_set, if_pos rfl]
    exact (honest_status rfl).mpr ⟨before.1, by trivial⟩
  case read c at_phase =>
    have before := (honest_status at_phase).mp own
    change ((s.set u _).threads u).Honest
    rw [State.threads_set, if_pos rfl]
    exact (honest_status rfl).mpr ⟨before.1, read_plain c s.queue⟩
  case nukeTake cleanup at_phase left => exact own
  case refuseNuke valid c at_phase nuke =>
    simp [Thread.Honest, State.set, show (s.threads u).phase = .idle from at_phase]
  case refuse | giveUp | unlockRefused | unlockSignal | unlockRead =>
    simp [Thread.Honest, State.finish, State.set]
  case nukeLock | nukeDrained | nukeUnlock | freeBuffer | destroy | freeQueue =>
    simp [Thread.Honest, State.goto, State.set]
  case lockWrite c _ at_phase _ | unlockBlocked c at_phase | lockCond c at_phase _ |
      deadline c _ at_phase | wait c at_phase | wake c _ _ at_phase | relock c _ at_phase _ |
      unlockCond c _ at_phase | retry c at_phase | unlockDone c at_phase |
      lockSignal c at_phase _ | signalNone c at_phase _ =>
    change ((s.set u _).threads u).Honest
    rw [State.threads_set, if_pos rfl]
    exact honest_along at_phase rfl own

/-- What an action outside `nuke_with_cleanup` records. -/
theorem move_records {n : Nat} (moved : Move s t a s') (ledger : Ledger n s)
    (honest : (s.threads t).Honest) (outside : (s.phase t).nuking = false) :
    Records s t s' := by
  cases moved
  case enter valid c p at_phase entered =>
    refine .quiet rfl rfl ?_
    rw [inFlight_idle at_phase, State.threads_set, if_pos rfl]
    unfold Thread.inFlight
    split <;> rfl
  case refuseNuke valid c at_phase nuke =>
    refine .quiet rfl rfl ?_
    rw [inFlight_idle at_phase, State.threads_set, if_pos rfl]
    exact inFlight_idle at_phase
  case refuse valid c reply at_phase refused =>
    refine .gave ⟨t, reply, none⟩ rfl ?_ rfl (inFlight_idle at_phase).symm
      (inFlight_idle ?_) (enter_refused refused t) <;>
      simp [State.finish, State.set]
  case bodyDone c again queue out effect at_phase accepted enacted =>
    obtain ⟨-, -, e, rfl, did, -⟩ := enact_ledger ledger.wellFormed accepted enacted
    refine .did e rfl rfl ?_ ?_ (removed_handed did)
    · rw [inFlight_busy (by simp [at_phase])]
      exact (honest_before at_phase rfl).mp honest
    · change ((s.set t _).threads t).inFlight = _
      rw [State.threads_set, if_pos rfl]
      rfl
  case unlockRefused c at_phase =>
    have busy : s.phase t ≠ .idle := by simp [at_phase]
    refine .gave ⟨t, _, (s.threads t).effect⟩ rfl rfl rfl (inFlight_busy busy).symm ?_ ?_
    · exact inFlight_idle (by simp [State.finish, State.set])
    · have nothing : (s.threads t).effect = none := (honest_before at_phase rfl).mp honest
      simpa only [nothing] using failed_honest (refusal_failed c) t _
  case giveUp c result code at_phase failed =>
    have busy : s.phase t ≠ .idle := by simp [at_phase]
    refine .gave ⟨t, _, (s.threads t).effect⟩ rfl rfl rfl (inFlight_busy busy).symm ?_ ?_
    · exact inFlight_idle (by simp [State.finish, State.set])
    · have nothing : (s.threads t).effect = none := (honest_before at_phase rfl).mp honest
      have code_failed : code ≠ .success := by
        rcases failed with ⟨-, rfl⟩ | ⟨e, -, rfl⟩ <;> exact RetVal.noConfusion
      simpa only [nothing] using failed_honest code_failed t _
  case unlockSignal c at_phase =>
    have busy : s.phase t ≠ .idle := by simp [at_phase]
    refine .gave ⟨t, _, (s.threads t).effect⟩ rfl rfl rfl (inFlight_busy busy).symm ?_ ?_
    · exact inFlight_idle (by simp [State.finish, State.set])
    · exact success_honest t ((honest_after at_phase rfl).mp honest)
  case unlockRead c answer at_phase =>
    have busy : s.phase t ≠ .idle := by simp [at_phase]
    refine .gave ⟨t, _, (s.threads t).effect⟩ rfl rfl rfl (inFlight_busy busy).symm ?_ ?_
    · exact inFlight_idle (by simp [State.finish, State.set])
    · obtain ⟨nothing, plain⟩ := (honest_status at_phase).mp honest
      exact plain_honest nothing plain
  case nukeLock | nukeDrained | nukeTake | nukeUnlock | freeBuffer | destroy | freeQueue =>
    simp_all [Phase.nuking]
  case signalSome c o v at_phase target cond =>
    have apart : v ≠ t := by
      rintro rfl
      rw [target] at at_phase
      cases at_phase
    refine .along (by simp [at_phase]) rfl rfl (by simp) ?_
    simp [State.goto, State.set, apart.symm]
  case bodyRefused c _ at_phase _ =>
    exact .along (by simp [at_phase]) rfl rfl (by simp)
      (by simp [State.goto, State.set])
  case deadline c _ at_phase =>
    exact .along (by simp [at_phase]) rfl rfl (by simp) (by simp [State.set])
  case lockWrite c _ at_phase _ | unlockBlocked c at_phase | lockCond c at_phase _ |
      wait c at_phase | wake c _ _ at_phase | relock c _ at_phase _ | unlockCond c _ at_phase |
      retry c at_phase | unlockDone c at_phase | lockSignal c at_phase _ |
      signalNone c at_phase _ | lockRead c at_phase _ | read c at_phase =>
    exact .along (by simp [at_phase]) rfl rfl (by simp)
      (by simp [State.goto, State.set])

/-- A step that enters no `sc_generic_queue_nuke_with_cleanup`. -/
def withoutNuke : Label T α → Bool
  | (_, .call _ c) => !c.isNuke
  | _ => true

/-- The effects of the critical sections of one thread, oldest first. -/
def State.effectsOf (s : State T α) (u : T) : List (Effect α) :=
  s.history.filterMap fun e => if e.1 = u then some e.2 else none

/-- The effects that the returned calls of one thread had, oldest first. -/
def State.reportedBy (s : State T α) (u : T) : List (Effect α) :=
  s.returned.filterMap fun r => if r.thread = u then r.effect else none

/-- The invariant of a run without destruction: shared data, calls and records agree. -/
structure Account (n : Nat) (s : State T α) : Prop where
  /-- The buffer holds what was inserted and not removed. -/
  ledger : Ledger n s
  /-- Every call has done what its place says. -/
  honest : ∀ u, (s.threads u).Honest
  /-- Nobody destroys the queue. -/
  outside : ∀ u, (s.phase u).nuking = false
  /-- Only pops remove items. -/
  handed : s.removed = s.handed
  /-- Every reply told what its call had done. -/
  returned : ∀ r ∈ s.returned, r.Honest
  /-- The critical sections of a thread are those of its returned calls and of its current
  one. -/
  reported : ∀ u, s.effectsOf u = s.reportedBy u ++ (s.threads u).inFlight.toList

/-- Before any call the account of the empty queue is settled. -/
theorem start_account {n : Nat} (positive : 0 < n) : Account n (start T (fresh n : Queue α)) where
  ledger := ⟨Queue.fresh_wellFormed positive, rfl, by rw [start, Queue.fresh_contents]; rfl⟩
  honest _ := trivial
  outside _ := rfl
  handed := rfl
  returned _ member := nomatch member
  reported _ := rfl

/-- An action that enters no destruction leaves every thread outside of it. -/
theorem move_outside (moved : Move s t a s') (admitted : withoutNuke (t, a) = true)
    (outside : ∀ u, (s.phase u).nuking = false) (u : T) : (s'.phase u).nuking = false := by
  by_cases acting : u = t
  case neg =>
    rcases move_frame moved acting with same | ⟨o, -, marked⟩
    · rw [State.phase, same]
      exact outside u
    · rw [State.phase, marked]
      rfl
  subst acting
  have own := outside u
  cases moved
  case enter valid c p at_phase entered =>
    rw [State.phase_set_self]
    have kind : c.isNuke = false := by simpa [withoutNuke] using admitted
    exact enter_outside entered kind
  case refuseNuke valid c at_phase nuke => simp [withoutNuke, nuke] at admitted
  case bodyDone c again queue out effect at_phase accepted enacted =>
    change ((s.set u _).phase u).nuking = false
    rw [State.phase_set_self]
    rfl
  case nukeLock cleanup at_phase _ | nukeDrained cleanup at_phase _ | nukeTake cleanup at_phase _ |
      nukeUnlock cleanup at_phase | freeBuffer cleanup at_phase | destroy cleanup at_phase |
      freeQueue cleanup at_phase =>
    rw [at_phase] at own
    contradiction
  all_goals simp [Phase.nuking]

/-- What a thread has in flight is its own business. -/
theorem inFlight_frame {u : T} (moved : Move s t a s') (other : u ≠ t) :
    (s'.threads u).inFlight = (s.threads u).inFlight := by
  rcases move_frame moved other with same | ⟨o, asleep, marked⟩
  · rw [same]
  · have before : (s.threads u).inFlight = (s.threads u).effect :=
      inFlight_busy (by simp [asleep])
    have after : (s'.threads u).inFlight = (s'.threads u).effect :=
      inFlight_busy (by simp [State.phase, marked])
    rw [before, after, marked]

/-- An admitted action keeps the account. -/
theorem move_account {n : Nat} (moved : Move s t a s') (admitted : withoutNuke (t, a) = true)
    (account : Account n s) : Account n s' := by
  have honest := move_honest moved account.ledger account.honest
  have outside := move_outside moved admitted account.outside
  have ledger := move_ledger moved account.ledger
  have handed : s.history.filterMap (fun e => e.2.removed) =
    s.history.filterMap (fun e => e.2.handed) := account.handed
  have reported (u : T) : s.effectsOf u = s.reportedBy u ++ (s.threads u).inFlight.toList :=
    account.reported u
  simp only [State.effectsOf, State.reportedBy] at reported
  cases move_records moved account.ledger (account.honest t) (account.outside t) with
  | quiet history returned inFlight =>
    refine ⟨ledger, honest, outside, ?_, ?_, fun u => ?_⟩
    · rw [State.removed, State.handed, history]
      exact handed
    · rw [returned]
      exact account.returned
    · rw [State.effectsOf, State.reportedBy, history, returned]
      by_cases acting : u = t
      · subst acting
        rw [inFlight]
        exact reported u
      · rw [inFlight_frame moved acting]
        exact reported u
  | did e history returned before after kind =>
    refine ⟨ledger, honest, outside, ?_, ?_, fun u => ?_⟩
    · rw [State.removed, State.handed, history, List.filterMap_append, List.filterMap_append,
        handed]
      simp only [List.filterMap_cons, List.filterMap_nil, kind]
    · rw [returned]
      exact account.returned
    · rw [State.effectsOf, State.reportedBy, history, returned, List.filterMap_append]
      by_cases acting : u = t
      · subst acting
        rw [reported u, before, after]
        simp
      · rw [inFlight_frame moved acting, reported u]
        simp [Ne.symm acting]
  | gave r history returned thread effect after told =>
    refine ⟨ledger, honest, outside, ?_, ?_, fun u => ?_⟩
    · rw [State.removed, State.handed, history]
      exact handed
    · intro r' member
      rw [returned, List.mem_append, List.mem_singleton] at member
      rcases member with earlier | rfl
      · exact account.returned r' earlier
      · exact told
    · rw [State.effectsOf, State.reportedBy, history, returned, List.filterMap_append, reported u]
      by_cases acting : u = t
      · subst acting
        rw [after, ← effect]
        cases done : r.effect <;> simp [thread, done]
      · rw [inFlight_frame moved acting]
        simp [thread, Ne.symm acting]

/-- The account is settled in every reachable state. -/
theorem reached_account [Fintype T] {n : Nat} (positive : 0 < n)
    (reached : Reachable (fresh n) (fun _ label => withoutNuke label = true) s) : Account n s := by
  refine reached.invariant (fun s₀ initial => ?_) fun s₀ label s₁ account admitted taken => ?_
  · rw [initial]
    exact start_account positive
  · exact move_account (step_move taken) admitted account

/-- What holds of the queue in every reachable state, whatever the interleaving. -/
structure Safe (n : Nat) (s : State T α) : Prop where
  /-- The items handed out are a prefix of the items inserted, and the rest is the contents. -/
  order : s.inserted = s.handed ++ s.queue.contents
  /-- The size counts the contents. -/
  length : s.queue.contents.length = s.queue.size
  /-- The queue never holds more than its capacity. -/
  bound : s.queue.size ≤ n
  /-- A call that returned a code other than success has inserted and removed nothing. -/
  failed : ∀ r ∈ s.returned, r.reply.ret ≠ some .success → r.effect = none
  /-- The critical sections of a thread are those of its returned calls and of its current
  one. -/
  reported : ∀ u, s.effectsOf u = s.reportedBy u ++ (s.threads u).inFlight.toList
  /-- A current call whose critical section is over did its operation and is on its way to
  return success. -/
  inFlight : ∀ u e, (s.threads u).inFlight = some e →
    ∃ c stage, s.phase u = .op c stage ∧ stage.done = true ∧ c.Did (some e) (s.threads u).out

/-- In every reachable state of every run of adds, pops and status calls on a queue of an
accepted capacity, by any threads in any interleaving and with any outcomes of the waits. -/
theorem queue_safety [Fintype T] {p : Platform} {n : Nat} {env : InitEnv} {q : Queue α}
    (created : init p n env = .ok q)
    (reached : Reachable q (fun _ label => withoutNuke label = true) s) : Safe n s := by
  obtain ⟨positive, rfl⟩ := init_ok created
  have account : Account n s := reached_account positive reached
  have wf := account.ledger.wellFormed
  exact {
    order := by rw [← account.handed]; exact account.ledger.balance
    length := Queue.contents_length wf
    bound := by rw [← account.ledger.capacity]; exact wf.bounded
    failed := fun r member failed => failed_nothing (account.returned r member) failed
    reported := account.reported
    inFlight := fun u e flying => inFlight_did (account.honest u) (account.outside u) flying }

/-- Two threads on a queue of capacity one: a producer puts an item in, a second add finds the
queue full and is refused, and a consumer takes the item out. -/
def fillAndTake : List (Label Bool Nat) :=
  [(true, .call true (.add (some 7)))] ++ List.replicate 4 (true, .next) ++
    [(true, .signal none), (true, .next), (true, .call true (.tryAdd (some 8)))] ++
    List.replicate 3 (true, .next) ++ [(false, .call true (.pop (some none)))] ++
    List.replicate 4 (false, .next) ++ [(false, .signal none), (false, .next)]

/-- After the run the item was handed out, the refused add did nothing, and the queue is
empty. -/
theorem queue_safety_fillAndTake :
    ∃ s, runGuarded next (fun _ label => withoutNuke label) (start Bool (fresh 1)) fillAndTake =
        some s ∧
      s.inserted = [7] ∧ s.handed = [7] ∧ s.queue.size = 0 ∧ s.returned.length = 3 ∧ Safe 1 s := by
  have created : init (α := Nat) ⟨64, 8⟩ 1 ⟨true, true, true, true, true, true⟩ =
      .ok (fresh 1) := rfl
  have ran : (runGuarded next (fun _ label => withoutNuke label) (start Bool (fresh 1))
      fillAndTake).map (fun s => (s.inserted, s.handed, s.queue.size, s.returned.length)) =
        some ([7], [7], 0, 3) := by
    decide +kernel
  obtain ⟨s, executed, facts⟩ := Option.map_eq_some_iff.mp ran
  simp only [Prod.mk.injEq] at facts
  obtain ⟨inserted, handed, size, returned⟩ := facts
  refine ⟨s, executed, inserted, handed, size, returned, ?_⟩
  exact queue_safety created (reach_of_runGuarded fillAndTake (.start rfl) executed)

end SpaceCaptain.GenericQueue
