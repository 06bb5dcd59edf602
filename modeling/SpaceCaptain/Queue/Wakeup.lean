import SpaceCaptain.Library.Census
import SpaceCaptain.Queue.History

/-!
# Lost wake-ups

A blocked call tests the queue under the rwlock and goes to sleep under `cond_mutex`. Between
the two it holds neither, so another thread can change the queue and signal a condition on
which nobody sleeps yet. `NoLostWakeup` is what the sleepers need; a run of a producer and a
consumer breaks it. `Covered` is the invariant behind it: the signals still to be sent are
enough for the sleepers, or these signals and the waiters already awake are enough for what
there is in the queue. Only two actions can break it, the entry of a wait and a signalled wait
that does not end with success, and `timely` says when they do not.
-/
namespace SpaceCaptain.GenericQueue

open SpaceCaptain.Library

variable {T α : Type*}

/-- What a sleeper on a condition waits for: items for a consumer, free cells for a producer. -/
def Queue.available (q : Queue α) : Cond → Nat
  | .notEmpty => q.size
  | .notFull => q.capacity - q.size

/-- A thread that has updated the buffer and not yet sent its signal. -/
def Phase.announcing (c : Cond) : Phase α → Bool
  | .op o .unlockDone | .op o .lockSignal | .op o .signal => o.announces == c
  | _ => false

/-- A waiter that is awake, or that a signal has reached, and has yet to test the queue
again. -/
def Phase.roused (c : Cond) : Phase α → Bool
  | .op o (.asleep true) | .op o (.relock .woken) | .op o (.unlockCond .woken)
  | .op o (.resume .woken) | .op o (.wrlock true) | .op o (.body true) => o.waitsFor == c
  | _ => false

/-- No thread sleeps un-notified on a condition that holds, unless a signal of that condition
is still to be sent or a waiter of it is awake and has yet to test the queue again. -/
def NoLostWakeup (s : State T α) : Prop :=
  ∀ c, (∃ u, (s.phase u).sleepsOn c = true) → 0 < s.queue.available c →
    (∃ u, (s.phase u).announcing c = true) ∨ ∃ u, (s.phase u).roused c = true

section Counting

variable [Fintype T]

namespace State

/-- The threads asleep on a condition that no signal has reached. -/
def sleepers (s : State T α) (c : Cond) : Nat := census (Phase.sleepsOn c) s.phase

/-- The threads that have yet to signal a condition. -/
def announcers (s : State T α) (c : Cond) : Nat := census (Phase.announcing c) s.phase

/-- The waiters of a condition that are awake and have yet to test the queue. -/
def rousedWaiters (s : State T α) (c : Cond) : Nat := census (Phase.roused c) s.phase

end State

/-- The signals to come are enough for the sleepers, or together with the waiters already awake
they are enough for what there is. -/
def Covered (c : Cond) (s : State T α) : Prop :=
  s.sleepers c ≤ s.announcers c ∨ s.queue.available c ≤ s.announcers c + s.rousedWaiters c

/-- The entry of a wait leaves its condition covered, and so does a wait that a signal has
reached and that does not end with success. -/
def timely (s : State T α) (label : Label T α) : Bool :=
  withoutNuke label &&
    match s.phase label.1, label.2 with
    | .op o .wait, .next =>
      s.sleepers o.waitsFor + 1 ≤ s.announcers o.waitsFor ||
        s.queue.available o.waitsFor ≤ s.announcers o.waitsFor + s.rousedWaiters o.waitsFor
    | .op o (.asleep true), .wake result =>
      result == .woken || s.sleepers o.waitsFor ≤ s.announcers o.waitsFor ||
        s.queue.available o.waitsFor + 1 ≤ s.announcers o.waitsFor + s.rousedWaiters o.waitsFor
    | _, _ => true

/-- A covered condition loses no wake-up. -/
theorem noLostWakeup_of_covered {s : State T α} (covered : ∀ c, Covered c s) :
    NoLostWakeup s := by
  intro c sleeping holds
  have sleepers : 0 < s.sleepers c := census_pos.mpr sleeping
  rcases covered c with enough | enough
  · exact .inl (census_pos.mp (Nat.lt_of_lt_of_le sleepers enough))
  · by_cases announced : 0 < s.announcers c
    · exact .inl (census_pos.mp announced)
    · exact .inr (census_pos.mp (show 0 < s.rousedWaiters c by omega))

variable [DecidableEq T] {s s' : State T α} {t : T} {a : Act T α} {c : Cond}

/-- One thread moves: the three counts change by what its two places are worth. -/
theorem counts_move {p : Phase α} (moved : s'.phase = Function.update s.phase t p) :
    s'.sleepers c + ((s.phase t).sleepsOn c).toNat = s.sleepers c + (p.sleepsOn c).toNat ∧
    s'.announcers c + ((s.phase t).announcing c).toNat =
      s.announcers c + (p.announcing c).toNat ∧
    s'.rousedWaiters c + ((s.phase t).roused c).toNat =
      s.rousedWaiters c + (p.roused c).toNat := by
  simp only [State.sleepers, State.announcers, State.rousedWaiters, moved]
  exact ⟨census_update _ _ _ _, census_update _ _ _ _, census_update _ _ _ _⟩

/-- A thread that neither falls asleep nor drops a signal or a test keeps every condition
covered. -/
theorem Covered.keep {p : Phase α} (covered : Covered c s)
    (moved : s'.phase = Function.update s.phase t p) (queue : s'.queue = s.queue)
    (sleeps : p.sleepsOn c = true → (s.phase t).sleepsOn c = true)
    (announces : (s.phase t).announcing c = true → p.announcing c = true)
    (rouses : (s.phase t).roused c = true → p.roused c = true) : Covered c s' := by
  obtain ⟨sleepers, announcers, roused⟩ := counts_move (c := c) moved
  have fewer := Bool.toNat_le_toNat sleeps
  have signals := Bool.toNat_le_toNat announces
  have awake := Bool.toNat_le_toNat rouses
  unfold Covered at *
  rw [queue]
  omega

/-- An action that moves a thread between places of no account keeps every condition covered. -/
theorem Covered.aside {p : Phase α} (covered : Covered c s)
    (moved : s'.phase = Function.update s.phase t p) (queue : s'.queue = s.queue)
    (sleeps : p.sleepsOn c = false) (announces : (s.phase t).announcing c = false)
    (rouses : (s.phase t).roused c = false) : Covered c s' :=
  covered.keep moved queue (by simp [sleeps]) (by simp [announces]) (by simp [rouses])

/-- A signal that reaches a sleeper turns a signal to come into a roused waiter. -/
theorem Covered.signal {o w : OpCall α} {v : T} {m : State T α} (covered : Covered c s)
    (at_phase : s.phase t = .op o .signal) (target : s.phase v = .op w (.asleep false))
    (cond : w.waitsFor = o.announces)
    (marked : m.phase = Function.update s.phase v (.op w (.asleep true)))
    (moved : s'.phase = Function.update m.phase t (.op o .unlockSignal))
    (queue : s'.queue = s.queue) : Covered c s' := by
  have apart : t ≠ v := by
    rintro rfl
    rw [target] at at_phase
    cases at_phase
  have still : m.phase t = .op o .signal := by
    rw [marked, Function.update_of_ne apart, at_phase]
  have first := counts_move (c := c) marked
  have second := counts_move (c := c) moved
  simp only [target, Phase.sleepsOn, Phase.announcing, Phase.roused, cond, Bool.toNat_false]
    at first
  simp only [still, Phase.sleepsOn, Phase.announcing, Phase.roused, Bool.toNat_false] at second
  unfold Covered at *
  rw [queue]
  omega

/-- What an operation that is let through does to the two conditions. -/
theorem enact_available {q q' : Queue α} {o : OpCall α} {before out : Option α}
    {effect : Option (Effect α)} (wf : q.WellFormed) (accepted : o.refused q = false)
    (enacted : o.enact q before = (q', out, effect)) :
    q'.available o.announces = q.available o.announces + 1 ∧
      q'.available o.waitsFor + 1 = q.available o.waitsFor := by
  have bounded := wf.bounded
  cases o with
  | add item | tryAdd item =>
    simp only [OpCall.enact, Prod.mk.injEq] at enacted
    obtain ⟨rfl, -, -⟩ := enacted
    have room := room_of_not_full wf accepted
    simp [OpCall.announces, OpCall.waitsFor, Queue.available, Queue.enqueue]
    omega
  | pop | tryPop =>
    simp only [OpCall.enact, Prod.mk.injEq] at enacted
    obtain ⟨rfl, -, -⟩ := enacted
    have left := left_of_not_empty accepted
    simp [OpCall.announces, OpCall.waitsFor, Queue.available, Queue.dequeue]
    omega

/-- An operation announces another condition than the one it waits for. -/
theorem announces_ne (o : OpCall α) : o.announces ≠ o.waitsFor := by
  cases o <;> exact Cond.noConfusion

/-- Every condition is announced or awaited by an operation. -/
theorem announces_or_waitsFor (o : OpCall α) (c : Cond) : c = o.announces ∨ c = o.waitsFor := by
  cases o <;> cases c <;> simp [OpCall.announces, OpCall.waitsFor]

/-- A buffer update makes one more signal to come for what it adds, and uses up at most one
roused waiter for what it takes. -/
theorem Covered.body {o : OpCall α} {again : Bool} {out : Option α} {effect : Option (Effect α)}
    (covered : Covered c s) (wf : s.queue.WellFormed) (accepted : o.refused s.queue = false)
    (enacted : o.enact s.queue (s.threads t).out = (s'.queue, out, effect))
    (at_phase : s.phase t = .op o (.body again))
    (moved : s'.phase = Function.update s.phase t (.op o .unlockDone)) : Covered c s' := by
  obtain ⟨more, less⟩ := enact_available wf accepted enacted
  obtain ⟨sleepers, announcers, roused⟩ := counts_move (c := c) moved
  simp only [at_phase, Phase.sleepsOn, Phase.announcing, Phase.roused, Bool.toNat_false]
    at sleepers announcers roused
  unfold Covered at *
  rcases announces_or_waitsFor o c with rfl | rfl
  · have other : (o.waitsFor == o.announces) = false := by simpa using (announces_ne o).symm
    cases again <;> simp [other] at announcers roused <;> omega
  · have other : (o.announces == o.waitsFor) = false := by simpa using announces_ne o
    cases again <;> simp [other] at announcers roused <;> omega

/-- A refused test uses up a roused waiter of a condition that does not hold. -/
theorem Covered.refused {o : OpCall α} {again : Bool} (covered : Covered c s)
    (refused : o.refused s.queue = true) (at_phase : s.phase t = .op o (.body again))
    (moved : s'.phase = Function.update s.phase t (.op o o.refusedStage))
    (queue : s'.queue = s.queue) : Covered c s' := by
  have none_available : s.queue.available o.waitsFor = 0 := by
    cases o <;>
      simp_all [OpCall.refused, OpCall.waitsFor, Queue.available, Queue.full, Queue.empty]
  by_cases own : c = o.waitsFor
  · subst own
    refine .inr ?_
    rw [queue, none_available]
    exact Nat.zero_le _
  · have other : (o.waitsFor == c) = false := by simpa using Ne.symm own
    refine covered.aside moved queue ?_ ?_ ?_
    · cases blocking : o.blocking <;> simp [OpCall.refusedStage, blocking, Phase.sleepsOn]
    · simp [at_phase, Phase.announcing]
    · cases again <;> simp [at_phase, Phase.roused, other]

/-- The entry of a wait that the guard admits. -/
theorem Covered.wait {o : OpCall α} (covered : Covered c s) (at_phase : s.phase t = .op o .wait)
    (admitted : timely s (t, .next) = true)
    (moved : s'.phase = Function.update s.phase t (.op o (.asleep false)))
    (queue : s'.queue = s.queue) : Covered c s' := by
  by_cases own : c = o.waitsFor
  · subst own
    obtain ⟨sleepers, announcers, roused⟩ := counts_move (c := o.waitsFor) moved
    simp only [at_phase, Phase.sleepsOn, Phase.announcing, Phase.roused, Bool.toNat_false,
      BEq.rfl, Bool.toNat_true] at sleepers announcers roused
    simp only [timely, at_phase, Bool.and_eq_true, Bool.or_eq_true, decide_eq_true_eq] at admitted
    unfold Covered
    rw [queue]
    omega
  · have other : (o.waitsFor == c) = false := by simpa using Ne.symm own
    refine covered.aside moved queue ?_ ?_ ?_ <;>
      simp [at_phase, Phase.sleepsOn, Phase.announcing, Phase.roused, other]

/-- The end of a wait that the guard admits. -/
theorem Covered.wake {o : OpCall α} {notified : Bool} {result : WaitResult}
    (covered : Covered c s) (at_phase : s.phase t = .op o (.asleep notified))
    (admitted : timely s (t, .wake result) = true)
    (moved : s'.phase = Function.update s.phase t (.op o (.relock result)))
    (queue : s'.queue = s.queue) : Covered c s' := by
  cases notified with
  | false =>
    refine covered.aside moved queue ?_ ?_ ?_ <;>
      simp [at_phase, Phase.sleepsOn, Phase.announcing, Phase.roused]
  | true =>
    by_cases woken : result = .woken
    · subst woken
      refine covered.keep moved queue ?_ ?_ ?_ <;>
        simp [at_phase, Phase.sleepsOn, Phase.announcing, Phase.roused]
    · have lost : (Phase.op o (.relock result)).roused c = false := by
        cases result <;> first | exact absurd rfl woken | rfl
      by_cases own : c = o.waitsFor
      · subst own
        obtain ⟨sleepers, announcers, roused⟩ := counts_move (c := o.waitsFor) moved
        rw [lost] at roused
        simp only [at_phase, Phase.sleepsOn, Phase.announcing, Phase.roused, Bool.toNat_false,
          BEq.rfl, Bool.toNat_true] at sleepers announcers roused
        simp only [timely, at_phase, Bool.and_eq_true, Bool.or_eq_true, decide_eq_true_eq,
          beq_iff_eq, woken, false_or] at admitted
        unfold Covered
        rw [queue]
        omega
      · have other : (o.waitsFor == c) = false := by simpa using Ne.symm own
        refine covered.aside moved queue ?_ ?_ ?_ <;>
          simp [at_phase, Phase.sleepsOn, Phase.announcing, Phase.roused, other]

/-- A signal when nobody sleeps on its condition. -/
theorem Covered.unheard {o : OpCall α} (covered : Covered c s)
    (at_phase : s.phase t = .op o .signal)
    (nobody : ∀ u, (s.phase u).sleepsOn o.announces = false)
    (moved : s'.phase = Function.update s.phase t (.op o .unlockSignal))
    (queue : s'.queue = s.queue) : Covered c s' := by
  by_cases own : c = o.announces
  · subst own
    have asleep : s.sleepers o.announces = 0 := census_eq_zero.mpr nobody
    obtain ⟨sleepers, -, -⟩ := counts_move (c := o.announces) moved
    simp only [at_phase, Phase.sleepsOn, Bool.toNat_false] at sleepers
    exact .inl (by omega)
  · have other : (o.announces == c) = false := by simpa using Ne.symm own
    refine covered.aside moved queue ?_ ?_ ?_ <;>
      simp [at_phase, Phase.sleepsOn, Phase.announcing, Phase.roused, other]

/-- A call that is entered is not asleep. -/
theorem enter_awake {valid : Bool} {call : Call α} {p : Phase α}
    (entered : enter valid call = .inl p) : p.sleepsOn c = false := by
  rcases enter_phase entered with ⟨o, rfl⟩ | ⟨q, -, rfl⟩ | ⟨cleanup, -, rfl⟩ <;> rfl

/-- An admitted action outside `nuke_with_cleanup` keeps every condition covered. -/
theorem move_covered {n : Nat} (moved : Move s t a s') (admitted : timely s (t, a) = true)
    (account : Account n s) (covered : Covered c s) : Covered c s' := by
  have outside := account.outside t
  cases moved
  case enter valid call p at_phase entered =>
    refine covered.aside (State.places_set s t _) rfl (enter_awake entered) ?_ ?_ <;>
      simp [at_phase, Phase.announcing, Phase.roused]
  case signalSome o w v at_phase target cond =>
    exact covered.signal at_phase target cond (State.places_set s v _)
      (State.places_set _ t _) rfl
  case signalNone o at_phase nobody =>
    exact covered.unheard at_phase nobody (State.places_set s t _) rfl
  case bodyDone o again queue out effect at_phase accepted enacted =>
    exact covered.body account.ledger.wellFormed accepted enacted at_phase
      (State.places_set s t _)
  case bodyRefused o again at_phase refused =>
    exact covered.refused refused at_phase (State.places_set _ t _) rfl
  case wait o at_phase => exact covered.wait at_phase admitted (State.places_set _ t _) rfl
  case wake o notified result at_phase =>
    exact covered.wake at_phase admitted (State.places_set s t _) rfl
  case lockWrite o again at_phase free =>
    refine covered.keep (State.places_set _ t _) rfl ?_ ?_ ?_ <;> cases again <;>
      simp [at_phase, Phase.sleepsOn, Phase.announcing, Phase.roused]
  case relock o result at_phase free =>
    refine covered.keep (State.places_set _ t _) rfl ?_ ?_ ?_ <;> cases result <;>
      simp [at_phase, Phase.sleepsOn, Phase.announcing, Phase.roused]
  case unlockCond o result at_phase =>
    refine covered.keep (State.places_set _ t _) rfl ?_ ?_ ?_ <;> cases result <;>
      simp [at_phase, Phase.sleepsOn, Phase.announcing, Phase.roused]
  case giveUp o result code at_phase failed =>
    refine covered.aside (State.places_set s t _) rfl rfl ?_ ?_ <;>
      rcases failed with ⟨rfl, -⟩ | ⟨e, rfl, -⟩ <;>
      simp [at_phase, Phase.announcing, Phase.roused]
  case refuse valid call reply at_phase refused =>
    refine covered.aside (t := t) (p := .idle) ?_ rfl rfl ?_ ?_
    · funext u
      rw [State.phase_finish, State.phase_set, Function.update_apply]
      split <;> rfl
    · simp [at_phase, Phase.announcing]
    · simp [at_phase, Phase.roused]
  case refuseNuke valid call at_phase nuke =>
    refine covered.aside (State.places_set s t _) rfl ?_ ?_ ?_
    · change (s.phase t).sleepsOn c = false
      simp [at_phase, Phase.sleepsOn]
    · simp [at_phase, Phase.announcing]
    · simp [at_phase, Phase.roused]
  case nukeLock cleanup at_phase _ | nukeDrained cleanup at_phase _ | nukeTake cleanup at_phase _ |
      nukeUnlock cleanup at_phase | freeBuffer cleanup at_phase | destroy cleanup at_phase |
      freeQueue cleanup at_phase =>
    rw [at_phase] at outside
    contradiction
  case unlockRefused o at_phase | unlockSignal o at_phase | unlockRead o _ at_phase |
      unlockBlocked o at_phase | lockCond o at_phase _ | deadline o _ at_phase |
      lockRead o at_phase _ | read o at_phase =>
    refine covered.aside (State.places_set _ t _) rfl rfl ?_ ?_ <;>
      simp [at_phase, Phase.announcing, Phase.roused]
  case retry o at_phase | unlockDone o at_phase | lockSignal o at_phase _ =>
    refine covered.keep (State.places_set _ t _) rfl ?_ ?_ ?_ <;>
      simp [at_phase, Phase.sleepsOn, Phase.announcing, Phase.roused]

/-- In every run whose steps are timely, every condition is covered. -/
theorem reached_covered {n : Nat} (positive : 0 < n)
    (reached : Reachable (fresh n) (fun s label => timely s label = true) s) (c : Cond) :
    Covered c s := by
  refine reached.invariant_under (K := Account n) (fun s₁ reached₁ => ?_)
    (fun s₀ initial => ?_) fun s₁ label s₂ account covered admitted taken => ?_
  · refine reached_account positive (reached₁.weaken fun s₂ label admitted => ?_)
    simp only [timely, Bool.and_eq_true] at admitted
    exact admitted.1
  · have asleep : s₀.sleepers c = 0 := census_eq_zero.mpr fun u => by
      rw [initial]
      rfl
    exact .inl (by omega)
  · exact move_covered (step_move taken) admitted account covered

/-- No wake-up is lost in a run whose waits are entered, and whose signalled waits end, only
while their condition stays covered. -/
theorem no_lost_wakeup {p : Platform} {n : Nat} {env : InitEnv} {q : Queue α}
    (created : init p n env = .ok q)
    (reached : Reachable q (fun s label => timely s label = true) s) : NoLostWakeup s := by
  obtain ⟨positive, rfl⟩ := init_ok created
  exact noLostWakeup_of_covered (reached_covered positive reached)

end Counting

/-- A consumer goes to sleep before the producer comes, which adds an item and has yet to
signal. -/
def sleepThenAdd : List (Label Bool Nat) :=
  [(false, .call true (.pop (some none)))] ++ List.replicate 4 (false, .next) ++
    [(false, .clock 0), (false, .next), (true, .call true (.add (some 7))), (true, .next),
      (true, .next)]

/-- The sleeper is about to be signalled. -/
theorem no_lost_wakeup_sleepThenAdd :
    ∃ s, runGuarded next timely (start Bool (fresh 1)) sleepThenAdd = some s ∧
      (s.phase false).sleepsOn .notEmpty = true ∧ s.queue.size = 1 ∧ NoLostWakeup s := by
  have created : init (α := Nat) ⟨64, 8⟩ 1 ⟨true, true, true, true, true, true⟩ =
      .ok (fresh 1) := rfl
  have ran : (runGuarded next timely (start Bool (fresh 1)) sleepThenAdd).map
      (fun s => ((s.phase false).sleepsOn .notEmpty, s.queue.size)) = some (true, 1) := by
    decide +kernel
  obtain ⟨s, executed, facts⟩ := Option.map_eq_some_iff.mp ran
  obtain ⟨asleep, size⟩ := Prod.mk.inj facts
  refine ⟨s, executed, asleep, size, ?_⟩
  exact no_lost_wakeup created (reach_of_runGuarded sleepThenAdd (.start rfl) executed)

/-- A consumer finds the queue empty and gives the rwlock back; before it takes `cond_mutex` a
producer adds an item and signals nobody; then the consumer goes to sleep. -/
def addBeforeSleep : List (Label Bool Nat) :=
  [(false, .call true (.pop (some none)))] ++ List.replicate 3 (false, .next) ++
    [(true, .call true (.add (some 7)))] ++ List.replicate 4 (true, .next) ++
    [(true, .signal none), (true, .next), (false, .next), (false, .clock 0), (false, .next)]

/-- Where the run leaves the two threads and the queue. -/
theorem addBeforeSleep_ends :
    ∃ s, runGuarded next (fun _ label => withoutNuke label) (start Bool (fresh 1))
        addBeforeSleep = some s ∧
      s.phase false = .op .pop (.asleep false) ∧ s.phase true = .idle ∧ s.queue.size = 1 := by
  have ran : (runGuarded next (fun _ label => withoutNuke label) (start Bool (fresh 1))
      addBeforeSleep).map (fun s => (s.phase false, s.phase true, s.queue.size)) =
        some (.op .pop (.asleep false), .idle, 1) := by
    decide +kernel
  obtain ⟨s, executed, facts⟩ := Option.map_eq_some_iff.mp ran
  simp only [Prod.mk.injEq] at facts
  exact ⟨s, executed, facts⟩

/-- The consumer sleeps next to the item, and no thread is going to wake it. -/
theorem lost_wakeup :
    ∃ q : Queue Nat, init ⟨64, 8⟩ 1 ⟨true, true, true, true, true, true⟩ = .ok q ∧
      ¬ ∀ s : State Bool Nat, Reachable q (fun _ label => withoutNuke label = true) s →
        NoLostWakeup s := by
  refine ⟨fresh 1, rfl, fun kept => ?_⟩
  obtain ⟨s, ran, consumer, producer, one⟩ := addBeforeSleep_ends
  have reached : Reachable (fresh 1) (fun _ label => withoutNuke label = true) s :=
    reach_of_runGuarded addBeforeSleep (.start rfl) ran
  have item : 0 < s.queue.available .notEmpty := by simp [Queue.available, one]
  have asleep : (s.phase false).sleepsOn .notEmpty = true := by rw [consumer]; rfl
  rcases kept s reached .notEmpty ⟨false, asleep⟩ item with ⟨u, announcing⟩ | ⟨u, roused⟩
  · cases u <;> simp [consumer, producer, Phase.announcing] at announcing
  · cases u <;> simp [consumer, producer, Phase.roused] at roused

end SpaceCaptain.GenericQueue
