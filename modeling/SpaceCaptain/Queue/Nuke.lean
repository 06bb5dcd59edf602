import SpaceCaptain.Queue.History

/-!
# Destroying a queue that is in use

`sc_generic_queue_nuke_with_cleanup` drains the queue under the write lock "to prevent any new
operations", and gives the lock back before it frees the buffer. An operation that was blocked
on the lock then runs: it may add an item that nobody takes out any more, or use the freed
buffer. `CleanedUp` is what the destruction promises; a run of one blocked add breaks it. It
holds in every run in which the freed queue is empty and no operation takes, or still has to
use, the lock once the buffer is gone.
-/
namespace SpaceCaptain.GenericQueue

open SpaceCaptain.Library

variable {T α : Type*}

/-- Nothing freed is used, and once the buffer is gone every item that was ever inserted was
removed exactly once and in order, by a pop or by the drain loop, which gave its items to the
cleanup function. -/
structure CleanedUp (s : State T α) : Prop where
  /-- No operation read or wrote a freed part of the queue. -/
  live : s.stale = false
  /-- Nothing that was inserted is left over. -/
  accounted : s.bufferFreed = true → s.inserted = s.removed
  /-- The cleanup function saw every drained item. -/
  cleaned : ∀ t item called, (t, Effect.drained item called) ∈ s.history → called = true

/-- The calls of the scenario: the four operations, and the destruction with a cleanup
function. -/
def Call.ofScenario : Call α → Bool
  | .add _ | .pop _ | .tryAdd _ | .tryPop _ => true
  | .status _ => false
  | .nukeWithCleanup cleanup => cleanup

/-- An operation holds the lock and has not yet made its test. -/
def Phase.testing : Phase α → Bool
  | .op _ (.body _) => true
  | _ => false

section Guards

variable [Fintype T]

/-- The destruction has begun. -/
def State.destroying (s : State T α) : Bool :=
  s.bufferFreed || decide (∃ u, (s.phase u).nuking = true)

/-- One destruction at most, and no call is entered once it has begun: the operations that meet
it were already in progress. -/
def oneNuke (s : State T α) (label : Label T α) : Bool :=
  match label.2 with
  | .call _ c => c.ofScenario && !s.destroying
  | _ => true

/-- The buffer is freed while the queue is empty and no operation is about to make its test, and
no operation takes the lock after that. -/
def orderly (s : State T α) (label : Label T α) : Bool :=
  oneNuke s label &&
    match s.phase label.1, label.2 with
    | .op _ (.wrlock _), .next => !s.bufferFreed
    | .nuke _ .freeBuffer, .next =>
      s.queue.empty && decide (∀ u, (s.phase u).testing = false)
    | _, _ => true

end Guards

/-- A place that fits the progress of the destruction: no test is open on a freed buffer, and
the lock is destroyed and the queue freed after the buffer. -/
def Phase.settled (freed : Bool) : Phase α → Bool
  | .op _ (.body _) => !freed
  | .op _ _ | .idle => true
  | .status _ _ => false
  | .nuke cleanup .destroy | .nuke cleanup .freeQueue => cleanup && freed
  | .nuke cleanup _ => cleanup

/-- The invariant of an orderly run. -/
structure Settled (s : State T α) : Prop where
  /-- Every thread is at a place that fits. -/
  places : ∀ u, (s.phase u).settled s.bufferFreed = true
  /-- A freed queue was empty. -/
  empty : s.bufferFreed = true → s.queue.size = 0
  /-- The buffer is freed first. -/
  first : s.queueFreed = true → s.bufferFreed = true
  /-- Nothing freed was used. -/
  live : s.stale = false
  /-- Every drained item was cleaned up. -/
  cleaned : ∀ t item called, (t, Effect.drained item called) ∈ s.history → called = true

/-- A call of the scenario starts at a settled place. -/
theorem enter_settled {valid freed : Bool} {c : Call α} {p : Phase α}
    (entered : enter valid c = .inl p) (allowed : c.ofScenario = true) :
    p.settled freed = true := by
  rcases enter_phase entered with ⟨o, rfl⟩ | ⟨q, rfl, -⟩ | ⟨cleanup, rfl, rfl⟩
  · rfl
  · contradiction
  · exact allowed

/-- A buffer update of an operation drains nothing. -/
theorem enact_not_drained {q q' : Queue α} {c : OpCall α} {before out : Option α}
    {effect : Option (Effect α)} (enacted : c.enact q before = (q', out, effect)) (item : α)
    (called : Bool) : effect ≠ some (.drained item called) := by
  cases c with
  | add x | tryAdd x | pop | tryPop =>
    simp only [OpCall.enact, Prod.mk.injEq] at enacted
    obtain ⟨-, -, rfl⟩ := enacted
    simp

/-- Freeing the buffer leaves a thread settled that is not about to make its test. -/
theorem settled_freed {p : Phase α} {freed : Bool} (settled : p.settled freed = true)
    (idle : p.testing = false) : p.settled true = true := by
  unfold Phase.settled at *
  split at settled
  · simp [Phase.testing] at idle
  all_goals simp_all

variable [DecidableEq T] {s s' : State T α} {t : T} {a : Act T α}

/-- Every action but the free leaves the threads settled if it leaves the acting one so. -/
theorem places_settled (moved : Move s t a s')
    (places : ∀ u, (s.phase u).settled s.bufferFreed = true)
    (same : s'.bufferFreed = s.bufferFreed) (own : (s'.phase t).settled s.bufferFreed = true)
    (u : T) : (s'.phase u).settled s'.bufferFreed = true := by
  rw [same]
  by_cases acting : u = t
  · rw [acting]
    exact own
  · rcases move_frame moved acting with same | ⟨o, -, marked⟩
    · rw [State.phase, same]
      exact places u
    · rw [State.phase, marked]
      rfl

variable [Fintype T]

/-- An orderly action keeps every thread at a settled place. -/
theorem move_places (moved : Move s t a s') (admitted : orderly s (t, a) = true)
    (places : ∀ u, (s.phase u).settled s.bufferFreed = true) (u : T) :
    (s'.phase u).settled s'.bufferFreed = true := by
  have own := places t
  have whole := moved
  simp only [orderly, Bool.and_eq_true] at admitted
  obtain ⟨scenario, admitted⟩ := admitted
  cases moved
  case freeBuffer cleanup at_phase =>
    simp only [at_phase, Bool.and_eq_true, decide_eq_true_eq] at admitted
    change ((s.set t _).phase u).settled true = true
    rw [State.phase_set]
    split
    · have cleaning : cleanup = true := by simpa [at_phase, Phase.settled] using own
      simp [Phase.settled, cleaning]
    · exact settled_freed (places u) (admitted.2 u)
  case enter valid c p at_phase entered =>
    refine places_settled whole places rfl ?_ u
    simp only [oneNuke, Bool.and_eq_true] at scenario
    rw [State.phase_set_self]
    exact enter_settled entered scenario.1
  case lockWrite c again at_phase free =>
    refine places_settled whole places rfl ?_ u
    simp only [at_phase] at admitted
    rw [State.phase_goto_self]
    exact admitted
  case refuseNuke valid c at_phase nuke =>
    refine places_settled whole places rfl ?_ u
    change (s.phase t).settled _ = true at own
    rw [State.phase_set_self]
    exact own
  case bodyDone c again queue out effect at_phase accepted enacted =>
    refine places_settled whole places rfl ?_ u
    change ((s.set t _).phase t).settled _ = true
    rw [State.phase_set_self]
    rfl
  case nukeTake cleanup at_phase left => exact places_settled whole places rfl own u
  case bodyRefused c again at_phase refused =>
    refine places_settled whole places rfl ?_ u
    rw [State.phase_goto_self]
    cases blocking : c.blocking <;> simp [OpCall.refusedStage, blocking, Phase.settled]
  all_goals
    refine places_settled whole places rfl ?_ u
    simp_all [Phase.settled]

/-- An orderly action keeps the destruction settled. -/
theorem move_settled (moved : Move s t a s') (admitted : orderly s (t, a) = true)
    (settled : Settled s) : Settled s' := by
  have places := move_places moved admitted settled.places
  have own := settled.places t
  have present (early : s.bufferFreed = false) : s.queueFreed = false := by
    by_contra freed
    simp [settled.first (by simpa using freed)] at early
  cases moved
  case bodyRefused c again at_phase refused =>
    have early : s.bufferFreed = false := by simpa [at_phase, Phase.settled] using own
    refine ⟨places, settled.empty, settled.first, ?_, settled.cleaned⟩
    change (s.stale || s.queueFreed) = false
    rw [settled.live, present early]
    rfl
  case bodyDone c again queue out effect at_phase accepted enacted =>
    have early : s.bufferFreed = false := by simpa [at_phase, Phase.settled] using own
    refine ⟨places, ?_, settled.first, ?_, ?_⟩
    · intro freed
      exact absurd freed (by simp [State.set, early])
    · change (s.stale || s.queueFreed || s.bufferFreed) = false
      rw [settled.live, present early, early]
      rfl
    · intro u item called member
      rcases List.mem_append.mp member with earlier | new
      · exact settled.cleaned u item called earlier
      · obtain ⟨e, new, same⟩ := List.mem_map.mp new
        have drained : effect = some (.drained item called) := by
          rw [Option.mem_toList.mp new, (Prod.mk.inj same).2]
        exact absurd drained (enact_not_drained enacted item called)
  case read c at_phase => simp [at_phase, Phase.settled] at own
  case nukeTake cleanup at_phase left =>
    have early : s.bufferFreed = false := by
      by_contra freed
      have none_left := settled.empty (by simpa using freed)
      simp [Queue.empty, none_left] at left
    refine ⟨places, ?_, settled.first, settled.live, ?_⟩
    · intro freed
      exact absurd freed (by simp [early])
    · intro u item called member
      rcases List.mem_append.mp member with earlier | new
      · exact settled.cleaned u item called earlier
      · have cleaning : cleanup = true := by simpa [at_phase, Phase.settled] using own
        obtain ⟨e, new, same⟩ := List.mem_map.mp new
        obtain ⟨taken, -, rfl⟩ := Option.map_eq_some_iff.mp (Option.mem_toList.mp new)
        have flag := (Effect.drained.inj (Prod.mk.inj same).2).2
        rw [← flag, cleaning]
  case freeBuffer cleanup at_phase =>
    simp only [orderly, at_phase, Bool.and_eq_true, decide_eq_true_eq] at admitted
    have none_left : s.queue.size = 0 := by simpa [Queue.empty] using admitted.2.1
    exact ⟨places, fun _ => none_left, fun _ => rfl, settled.live, settled.cleaned⟩
  case freeQueue cleanup at_phase =>
    have freed : s.bufferFreed = true := by
      simp [at_phase, Phase.settled] at own
      exact own.2
    exact ⟨places, settled.empty, fun _ => freed, settled.live, settled.cleaned⟩
  all_goals exact ⟨places, settled.empty, settled.first, settled.live, settled.cleaned⟩

/-- Every orderly run keeps the ledger and the destruction settled. -/
theorem reached_settled {n : Nat} (positive : 0 < n)
    (reached : Reachable (fresh n) (fun s label => orderly s label = true) s) :
    Ledger n s ∧ Settled s := by
  refine reached.invariant (I := fun s => Ledger n s ∧ Settled s) (fun s₀ initial => ?_)
    fun s₁ label s₂ before admitted taken => ?_
  · rw [initial]
    exact ⟨(start_account positive).ledger,
      fun _ => rfl, nofun, nofun, rfl, fun _ _ _ member => nomatch member⟩
  · exact ⟨move_ledger (step_move taken) before.1,
      move_settled (step_move taken) admitted before.2⟩

/-- The destruction of a queue in use cleans up in every orderly run. -/
theorem nuke_cleans_up {p : Platform} {n : Nat} {env : InitEnv} {q : Queue α}
    (created : init p n env = .ok q)
    (reached : Reachable q (fun s label => orderly s label = true) s) : CleanedUp s := by
  obtain ⟨positive, rfl⟩ := init_ok created
  obtain ⟨ledger, settled⟩ := reached_settled positive reached
  refine ⟨settled.live, fun freed => ?_, settled.cleaned⟩
  have nothing : s.queue.contents = [] := by
    rw [← List.length_eq_zero_iff, Queue.contents_length ledger.wellFormed]
    exact settled.empty freed
  rw [ledger.balance, nothing, List.append_nil]

/-- An add comes back. Then a pop that does not wait is blocked on the lock while the queue is
drained, and comes back with nothing before the buffer is freed. -/
def tryPopWhileNuke : List (Label Bool Nat) :=
  [(true, .call true (.add (some 7)))] ++ List.replicate 4 (true, .next) ++
    [(true, .signal none), (true, .next), (true, .call true (.tryPop (some none))),
      (false, .call true (.nukeWithCleanup true))] ++
    List.replicate 4 (false, .next) ++ List.replicate 3 (true, .next) ++
    List.replicate 3 (false, .next)

/-- The cleanup function gets the item, and the pop does not. -/
theorem nuke_cleans_up_tryPopWhileNuke :
    ∃ s, runGuarded next orderly (start Bool (fresh 1)) tryPopWhileNuke = some s ∧
      s.queueFreed = true ∧ s.history = [(true, .put 7), (false, .drained 7 true)] ∧
      s.returned.map (fun r => (r.thread, r.reply)) =
        [(true, .code .success), (true, .popped .errEmpty (some none))] ∧
      CleanedUp s := by
  have created : init (α := Nat) ⟨64, 8⟩ 1 ⟨true, true, true, true, true, true⟩ =
      .ok (fresh 1) := rfl
  have ran : (runGuarded next orderly (start Bool (fresh 1)) tryPopWhileNuke).map
      (fun s => (s.queueFreed, s.history, s.returned.map fun r => (r.thread, r.reply))) =
        some (true, [(true, .put 7), (false, .drained 7 true)],
          [(true, .code .success), (true, .popped .errEmpty (some none))]) := by
    decide +kernel
  obtain ⟨s, executed, facts⟩ := Option.map_eq_some_iff.mp ran
  simp only [Prod.mk.injEq] at facts
  obtain ⟨freed, history, returned⟩ := facts
  refine ⟨s, executed, freed, history, returned, ?_⟩
  exact nuke_cleans_up created (reach_of_runGuarded tryPopWhileNuke (.start rfl) executed)

/-- An add is blocked on the lock while the queue is drained, and runs to its end before the
buffer is freed. -/
def addWhileNuke : List (Label Bool Nat) :=
  [(true, .call true (.add (some 7))), (false, .call true (.nukeWithCleanup true))] ++
    List.replicate 3 (false, .next) ++ List.replicate 4 (true, .next) ++
    [(true, .signal none), (true, .next)] ++ List.replicate 3 (false, .next)

/-- Where the run leaves the item: added with success, never removed. -/
theorem addWhileNuke_ends :
    ∃ s, runGuarded next oneNuke (start Bool (fresh 1)) addWhileNuke = some s ∧
      s.bufferFreed = true ∧ s.inserted = [7] ∧ s.removed = [] := by
  have ran : (runGuarded next oneNuke (start Bool (fresh 1)) addWhileNuke).map
      (fun s => (s.bufferFreed, s.inserted, s.removed)) = some (true, [7], []) := by
    decide +kernel
  obtain ⟨s, executed, facts⟩ := Option.map_eq_some_iff.mp ran
  simp only [Prod.mk.injEq] at facts
  exact ⟨s, executed, facts⟩

/-- The destruction of a queue in use can lose an item whose add succeeded. -/
theorem nuke_loses_item :
    ∃ q : Queue Nat, init ⟨64, 8⟩ 1 ⟨true, true, true, true, true, true⟩ = .ok q ∧
      ¬ ∀ s : State Bool Nat, Reachable q (fun s label => oneNuke s label = true) s →
        CleanedUp s := by
  refine ⟨fresh 1, rfl, fun clean => ?_⟩
  obtain ⟨s, ran, freed, inserted, removed⟩ := addWhileNuke_ends
  have accounted := (clean s (reach_of_runGuarded addWhileNuke (.start rfl) ran)).accounted freed
  simp [inserted, removed] at accounted

end SpaceCaptain.GenericQueue
