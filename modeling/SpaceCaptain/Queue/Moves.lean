import SpaceCaptain.Queue.Threads

/-!
# What one action of a thread can do

`Move` lists the actions of `step` with the guard and the new state of each, and `step_move`
is the inversion of the step function. Every invariant of the interleaved queue is a case
analysis of `Move`; none unfolds `step`. `phase` reads the place of a thread, and its lemmas
say which threads a state change moves.
-/
namespace SpaceCaptain.GenericQueue

variable {T α : Type*}

namespace State

/-- The place of a thread. -/
def phase (s : State T α) (u : T) : Phase α := (s.threads u).phase

end State

variable [DecidableEq T]

namespace State

/-- Replacing a thread leaves the others where they are. -/
theorem threads_set (s : State T α) (t u : T) (th : Thread α) :
    (s.set t th).threads u = if u = t then th else s.threads u := by
  simp [set, Function.update_apply]

/-- The place of a thread after a thread was replaced. -/
theorem phase_set (s : State T α) (t u : T) (th : Thread α) :
    (s.set t th).phase u = if u = t then th.phase else s.phase u := by
  simp only [phase, threads_set]
  split <;> rfl

/-- The places of the threads after a thread was replaced. -/
theorem places_set (s : State T α) (t : T) (th : Thread α) :
    (s.set t th).phase = Function.update s.phase t th.phase := by
  funext u
  rw [phase_set, Function.update_apply]

/-- The place of a thread after a thread moved. -/
theorem phase_goto (s : State T α) (t u : T) (p : Phase α) :
    (s.goto t p).phase u = if u = t then p else s.phase u := by
  simp only [goto, phase_set]

/-- The place of a thread after a thread returned. -/
theorem phase_finish (s : State T α) (t u : T) (errno : RetVal) (reply : Reply α) :
    (s.finish t errno reply).phase u = if u = t then .idle else s.phase u := by
  change (s.set t _).phase u = _
  rw [phase_set]

/-- The place of the thread that was replaced. -/
@[simp] theorem phase_set_self (s : State T α) (t : T) (th : Thread α) :
    (s.set t th).phase t = th.phase := by
  rw [phase_set, if_pos rfl]

/-- The place of the thread that moved. -/
@[simp] theorem phase_goto_self (s : State T α) (t : T) (p : Phase α) :
    (s.goto t p).phase t = p := by
  rw [phase_goto, if_pos rfl]

/-- The place of the thread that returned. -/
@[simp] theorem phase_finish_self (s : State T α) (t : T) (errno : RetVal) (reply : Reply α) :
    (s.finish t errno reply).phase t = .idle := by
  rw [phase_finish, if_pos rfl]

end State

/-- The actions of a thread, each with its guard and the state it leads to. -/
inductive Move (s : State T α) (t : T) : Act T α → State T α → Prop
  /-- A call with valid arguments is entered. -/
  | enter (valid : Bool) (c : Call α) (p : Phase α) (at_phase : s.phase t = .idle)
      (entered : GenericQueue.enter valid c = .inl p) :
      Move s t (.call valid c)
        (s.set t ⟨p, if c.isNuke then (s.threads t).errno else .success, none, none, []⟩)
  /-- A call with a NULL argument returns at once. -/
  | refuse (valid : Bool) (c : Call α) (reply : Reply α) (at_phase : s.phase t = .idle)
      (refused : GenericQueue.enter valid c = .inr reply) :
      Move s t (.call valid c)
        ((s.set t { s.threads t with effect := none, deadlines := [] }).finish t .errNull reply)
  /-- `nuke_with_cleanup` of NULL returns at once. -/
  | refuseNuke (valid : Bool) (c : Call α) (at_phase : s.phase t = .idle)
      (nuke : c.isNuke = true) :
      Move s t (.call valid c)
        (s.set t { s.threads t with effect := none, deadlines := [], errno := .errNull })
  | lockWrite (c : OpCall α) (again : Bool) (at_phase : s.phase t = .op c (.wrlock again))
      (free : s.unlocked = true) :
      Move s t .next ({ s with writer := some t }.goto t (.op c (.body again)))
  | bodyRefused (c : OpCall α) (again : Bool) (at_phase : s.phase t = .op c (.body again))
      (refused : c.refused s.queue = true) :
      Move s t .next
        ({ s with stale := s.stale || s.queueFreed }.goto t (.op c c.refusedStage))
  | bodyDone (c : OpCall α) (again : Bool) (queue : Queue α) (out : Option α)
      (effect : Option (Effect α)) (at_phase : s.phase t = .op c (.body again))
      (accepted : c.refused s.queue = false)
      (enacted : c.enact s.queue (s.threads t).out = (queue, out, effect)) :
      Move s t .next
        { s.set t { s.threads t with phase := .op c .unlockDone, out, effect } with
          queue
          history := s.history ++ effect.toList.map fun e => (t, e)
          stale := s.stale || s.queueFreed || s.bufferFreed }
  | unlockRefused (c : OpCall α) (at_phase : s.phase t = .op c .unlockRefused) :
      Move s t .next
        ({ s with writer := none }.finish t c.refusal (c.reply c.refusal (s.threads t).out))
  | unlockBlocked (c : OpCall α) (at_phase : s.phase t = .op c .unlockBlocked) :
      Move s t .next ({ s with writer := none }.goto t (.op c .lockCond))
  | lockCond (c : OpCall α) (at_phase : s.phase t = .op c .lockCond)
      (free : s.condMutex = none) :
      Move s t .next ({ s with condMutex := some t }.goto t (.op c .deadline))
  | deadline (c : OpCall α) (now : Nat) (at_phase : s.phase t = .op c .deadline) :
      Move s t (.clock now)
        (s.set t { s.threads t with
          phase := .op c .wait
          deadlines := (s.threads t).deadlines ++ [getAbsoluteTimeout now c.timeout] })
  | wait (c : OpCall α) (at_phase : s.phase t = .op c .wait) :
      Move s t .next ({ s with condMutex := none }.goto t (.op c (.asleep false)))
  | wake (c : OpCall α) (notified : Bool) (result : WaitResult)
      (at_phase : s.phase t = .op c (.asleep notified)) :
      Move s t (.wake result) (s.goto t (.op c (.relock result)))
  | relock (c : OpCall α) (result : WaitResult) (at_phase : s.phase t = .op c (.relock result))
      (free : s.condMutex = none) :
      Move s t .next ({ s with condMutex := some t }.goto t (.op c (.unlockCond result)))
  | unlockCond (c : OpCall α) (result : WaitResult)
      (at_phase : s.phase t = .op c (.unlockCond result)) :
      Move s t .next ({ s with condMutex := none }.goto t (.op c (.resume result)))
  | giveUp (c : OpCall α) (result : WaitResult) (code : RetVal)
      (at_phase : s.phase t = .op c (.resume result))
      (failed : result = .timedOut ∧ code = .errTimeout ∨
        ∃ e, result = .failed e ∧ code = .errThread) :
      Move s t .next (s.finish t code (c.reply code (s.threads t).out))
  | retry (c : OpCall α) (at_phase : s.phase t = .op c (.resume .woken)) :
      Move s t .next (s.goto t (.op c (.wrlock true)))
  | unlockDone (c : OpCall α) (at_phase : s.phase t = .op c .unlockDone) :
      Move s t .next ({ s with writer := none }.goto t (.op c .lockSignal))
  | lockSignal (c : OpCall α) (at_phase : s.phase t = .op c .lockSignal)
      (free : s.condMutex = none) :
      Move s t .next ({ s with condMutex := some t }.goto t (.op c .signal))
  | signalNone (c : OpCall α) (at_phase : s.phase t = .op c .signal)
      (nobody : ∀ u, (s.phase u).sleepsOn c.announces = false) :
      Move s t (.signal none) (s.goto t (.op c .unlockSignal))
  | signalSome (c o : OpCall α) (u : T) (at_phase : s.phase t = .op c .signal)
      (target : s.phase u = .op o (.asleep false)) (cond : o.waitsFor = c.announces) :
      Move s t (.signal (some u))
        ((s.goto u (.op o (.asleep true))).goto t (.op c .unlockSignal))
  | unlockSignal (c : OpCall α) (at_phase : s.phase t = .op c .unlockSignal) :
      Move s t .next
        ({ s with condMutex := none }.finish t (s.threads t).errno
          (c.reply .success (s.threads t).out))
  | lockRead (c : StatusCall) (at_phase : s.phase t = .status c .rdlock)
      (free : s.writer = none) :
      Move s t .next ({ s with readers := insert t s.readers }.goto t (.status c .read))
  | read (c : StatusCall) (at_phase : s.phase t = .status c .read) :
      Move s t .next
        ({ s with stale := s.stale || s.queueFreed }.goto t (.status c (.unlock (c.read s.queue))))
  | unlockRead (c : StatusCall) (answer : Reply α)
      (at_phase : s.phase t = .status c (.unlock answer)) :
      Move s t .next
        ({ s with readers := s.readers.erase t }.finish t (s.threads t).errno answer)
  | nukeLock (cleanup : Bool) (at_phase : s.phase t = .nuke cleanup .wrlock)
      (free : s.unlocked = true) :
      Move s t .next ({ s with writer := some t }.goto t (.nuke cleanup .drain))
  | nukeDrained (cleanup : Bool) (at_phase : s.phase t = .nuke cleanup .drain)
      (empty : s.queue.empty = true) : Move s t .next (s.goto t (.nuke cleanup .unlock))
  | nukeTake (cleanup : Bool) (at_phase : s.phase t = .nuke cleanup .drain)
      (left : s.queue.empty = false) :
      Move s t .next { s with
        queue := s.queue.dequeue
        history := s.history ++
          (s.queue.front.map fun item => Effect.drained item cleanup).toList.map fun e => (t, e) }
  | nukeUnlock (cleanup : Bool) (at_phase : s.phase t = .nuke cleanup .unlock) :
      Move s t .next ({ s with writer := none }.goto t (.nuke cleanup .freeBuffer))
  | freeBuffer (cleanup : Bool) (at_phase : s.phase t = .nuke cleanup .freeBuffer) :
      Move s t .next ({ s with bufferFreed := true }.goto t (.nuke cleanup .destroy))
  | destroy (cleanup : Bool) (at_phase : s.phase t = .nuke cleanup .destroy) :
      Move s t .next (s.goto t (.nuke cleanup .freeQueue))
  | freeQueue (cleanup : Bool) (at_phase : s.phase t = .nuke cleanup .freeQueue) :
      Move s t .next ({ s with queueFreed := true }.goto t .idle)

/-- Inversion for the entry of a call. -/
theorem stepCall_move {s : State T α} {t : T} (idle : s.phase t = .idle) (valid : Bool)
    (c : Call α) : Move s t (.call valid c) (stepCall s t valid c) := by
  unfold stepCall
  cases entered : enter valid c with
  | inl p => exact .enter valid c p idle entered
  | inr reply =>
    cases nuke : c.isNuke with
    | true => exact .refuseNuke valid c idle nuke
    | false => exact .refuse valid c reply idle entered

/-- Inversion for the statements under the write lock. -/
theorem body_move {s : State T α} {t : T} {c : OpCall α} {again : Bool}
    (at_phase : s.phase t = .op c (.body again)) : Move s t .next (body s t c) := by
  unfold body
  cases refused : c.refused s.queue with
  | true => exact .bodyRefused c again at_phase refused
  | false => exact .bodyDone c again _ _ _ at_phase refused rfl

/-- Inversion for the statements of an add or a pop. -/
theorem stepOp_move [Fintype T] {s s' : State T α} {t : T} {c : OpCall α} {stage : Stage}
    {a : Act T α} (at_phase : s.phase t = .op c stage) (taken : stepOp s t c stage a = some s') :
    Move s t a s' := by
  unfold stepOp at taken
  split at taken
  · split at taken
    · obtain rfl := Option.some.inj taken
      exact .lockWrite c _ at_phase ‹_›
    · contradiction
  · obtain rfl := Option.some.inj taken
    exact body_move at_phase
  · obtain rfl := Option.some.inj taken
    exact .unlockRefused c at_phase
  · obtain rfl := Option.some.inj taken
    exact .unlockBlocked c at_phase
  · split at taken
    · rename_i free
      obtain rfl := Option.some.inj taken
      exact .lockCond c at_phase (Option.isNone_iff_eq_none.mp free)
    · contradiction
  · obtain rfl := Option.some.inj taken
    exact .deadline c _ at_phase
  · obtain rfl := Option.some.inj taken
    exact .wait c at_phase
  · obtain rfl := Option.some.inj taken
    exact .wake c _ _ at_phase
  · split at taken
    · rename_i free
      obtain rfl := Option.some.inj taken
      exact .relock c _ at_phase (Option.isNone_iff_eq_none.mp free)
    · contradiction
  · obtain rfl := Option.some.inj taken
    exact .unlockCond c _ at_phase
  · obtain rfl := Option.some.inj taken
    exact .giveUp c _ _ at_phase (.inl ⟨rfl, rfl⟩)
  · obtain rfl := Option.some.inj taken
    exact .giveUp c _ _ at_phase (.inr ⟨_, rfl, rfl⟩)
  · obtain rfl := Option.some.inj taken
    exact .retry c at_phase
  · obtain rfl := Option.some.inj taken
    exact .unlockDone c at_phase
  · split at taken
    · rename_i free
      obtain rfl := Option.some.inj taken
      exact .lockSignal c at_phase (Option.isNone_iff_eq_none.mp free)
    · contradiction
  · split at taken
    · obtain rfl := Option.some.inj taken
      exact .signalNone c at_phase ‹_›
    · contradiction
  · split at taken
    · split at taken
      · rename_i target cond
        obtain rfl := Option.some.inj taken
        exact .signalSome c _ _ at_phase target cond
      · contradiction
    · contradiction
  · obtain rfl := Option.some.inj taken
    exact .unlockSignal c at_phase
  · contradiction

/-- Inversion for the statements of a status call. -/
theorem stepStatus_move {s s' : State T α} {t : T} {c : StatusCall} {stage : StatusStage α}
    (at_phase : s.phase t = .status c stage) (taken : stepStatus s t c stage = some s') :
    Move s t .next s' := by
  cases stage with
  | rdlock =>
    simp only [stepStatus] at taken
    split at taken
    · rename_i free
      obtain rfl := Option.some.inj taken
      exact .lockRead c at_phase (Option.isNone_iff_eq_none.mp free)
    · contradiction
  | read =>
    obtain rfl := Option.some.inj taken
    exact .read c at_phase
  | unlock answer =>
    obtain rfl := Option.some.inj taken
    exact .unlockRead c answer at_phase

/-- Inversion for the statements of `nuke_with_cleanup`. -/
theorem stepNuke_move {s s' : State T α} {t : T} {cleanup : Bool} {stage : NukeStage}
    (at_phase : s.phase t = .nuke cleanup stage) (taken : stepNuke s t cleanup stage = some s') :
    Move s t .next s' := by
  cases stage with
  | wrlock =>
    simp only [stepNuke] at taken
    split at taken
    · obtain rfl := Option.some.inj taken
      exact .nukeLock cleanup at_phase ‹_›
    · contradiction
  | drain =>
    simp only [stepNuke] at taken
    cases empty : s.queue.empty with
    | true =>
      simp only [empty, ↓reduceIte] at taken
      obtain rfl := Option.some.inj taken
      exact .nukeDrained cleanup at_phase empty
    | false =>
      simp only [empty, Bool.false_eq_true, ↓reduceIte] at taken
      obtain rfl := Option.some.inj taken
      exact .nukeTake cleanup at_phase empty
  | unlock =>
    obtain rfl := Option.some.inj taken
    exact .nukeUnlock cleanup at_phase
  | freeBuffer =>
    obtain rfl := Option.some.inj taken
    exact .freeBuffer cleanup at_phase
  | destroy =>
    obtain rfl := Option.some.inj taken
    exact .destroy cleanup at_phase
  | freeQueue =>
    obtain rfl := Option.some.inj taken
    exact .freeQueue cleanup at_phase

/-- Inversion of the step function. -/
theorem step_move [Fintype T] {s s' : State T α} {t : T} {a : Act T α}
    (taken : step s t a = some s') :
    Move s t a s' := by
  unfold step at taken
  split at taken
  · rename_i idle
    obtain rfl := Option.some.inj taken
    exact stepCall_move idle _ _
  · rename_i at_phase
    exact stepOp_move at_phase taken
  · rename_i at_phase
    exact stepStatus_move at_phase taken
  · rename_i at_phase
    exact stepNuke_move at_phase taken
  · contradiction

/-- An action leaves every other thread alone, except that a signal marks the sleeper it
reaches. -/
theorem move_frame {s s' : State T α} {t u : T} {a : Act T α} (moved : Move s t a s')
    (other : u ≠ t) :
    s'.threads u = s.threads u ∨
      ∃ o, s.phase u = .op o (.asleep false) ∧
        s'.threads u = { s.threads u with phase := .op o (.asleep true) } := by
  cases moved
  case signalSome c o v at_phase target cond =>
    by_cases reached : u = v
    · subst reached
      exact .inr ⟨o, target, by simp [State.goto, State.set, Function.update_apply, other]⟩
    · exact .inl (by simp [State.goto, State.set, Function.update_apply, other, reached])
  all_goals
    exact .inl (by simp [State.goto, State.finish, State.set, other])

end SpaceCaptain.GenericQueue
