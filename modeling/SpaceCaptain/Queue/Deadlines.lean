import SpaceCaptain.Library.Observer
import SpaceCaptain.Queue.Locks

/-!
# The deadlines of one call

A blocked call computes its deadline anew each time it goes to sleep, from the clock at that
moment. `Timer` keeps the time of a run beside it: when a call read the clock, and when its waits
ended. `OneDeadline` is what a call that times out after a fixed time promises, that all its waits
have the deadline of the first and so none of them ends later. The call keeps the promise exactly
when each of its clock readings shows the time of the first, which is what `sameReading` asks.

A clock reading is a number of seconds. Its fraction `tv_nsec` is left out: `get_absolute_timeout`
adds to `tv_sec` only and hands the fraction on as it read it, so two deadlines are equal, or one
is earlier, exactly when that holds of the two readings, with the fractions or without.
-/
namespace SpaceCaptain.GenericQueue

open SpaceCaptain.Library

variable {T α : Type*}

/-- The time of a run, and for each thread the times of its current call. -/
structure Timer (T : Type*) where
  /-- The time of the latest step. -/
  now : Nat
  /-- The clock readings of the call, oldest first. -/
  readings : T → List Nat
  /-- The times at which the waits of the call ended, oldest first. -/
  ends : T → List Nat

/-- A step of a thread with the time at which it happens. -/
abbrev TimedLabel (T α : Type*) := Nat × Label T α

/-- Before the first step no clock was read. -/
def Timer.zero (T : Type*) : Timer T := ⟨0, fun _ => [], fun _ => []⟩

/-- What a step writes down: a call starts with no times, and adds the clock readings and the ends
of its waits. -/
def Timer.note [DecidableEq T] (_ : State T α) (label : TimedLabel T α) (x : Timer T) : Timer T :=
  let (time, t, a) := label
  match a with
  | .call _ _ => ⟨time, Function.update x.readings t [], Function.update x.ends t []⟩
  | .clock now => ⟨time, Function.update x.readings t (x.readings t ++ [now]), x.ends⟩
  | .wake _ => ⟨time, x.readings, Function.update x.ends t (x.ends t ++ [time])⟩
  | .next | .signal _ => ⟨time, x.readings, x.ends⟩

/-- Time does not run backwards, and the clock shows the time. -/
def punctual (x : State T α × Timer T) (label : TimedLabel T α) : Bool :=
  x.2.now ≤ label.1 &&
    match label.2.2 with
    | .clock now => now == label.1
    | _ => true

/-- Each clock reading of a call shows the time of its first one. -/
def sameReading (x : State T α × Timer T) (label : TimedLabel T α) : Bool :=
  match x.1.phase label.2.1, label.2.2 with
  | .op _ .deadline, .clock now => (x.2.readings label.2.1).head?.all (· == now)
  | _, _ => true

/-- A step at a time. -/
def timedNext [Fintype T] [DecidableEq T] (x : State T α × Timer T) (label : TimedLabel T α) :
    Option (State T α × Timer T) :=
  if punctual x label then observe (fun s label => next s label.2) Timer.note x label else none

/-- The waits of a call all have the deadline of the first, which is the clock reading before it
plus the timeout; and if each of them ends no later than its deadline, none ends later than
that. -/
def Thread.OneDeadline (th : Thread α) (readings ends : List Nat) : Prop :=
  match th.phase with
  | .op c _ =>
    (∀ d ∈ th.deadlines, readings.head?.map (getAbsoluteTimeout · c.timeout) = some d) ∧
    ((∀ wait ∈ ends.zip th.deadlines, wait.1 ≤ wait.2) →
      ∀ e ∈ ends, ∃ d, readings.head?.map (getAbsoluteTimeout · c.timeout) = some d ∧ e ≤ d)
  | _ => True

/-- Every call in progress has one deadline. -/
def OneDeadline (x : State T α × Timer T) : Prop :=
  ∀ u, (x.1.threads u).OneDeadline (x.2.readings u) (x.2.ends u)

/-- A wait of the call has a deadline and has not ended. -/
def Stage.waiting : Stage → Bool
  | .wait | .asleep _ => true
  | _ => false

/-- The deadlines of a call come from its clock readings, and every wait but the present one has
ended. -/
def Thread.Kept (th : Thread α) (readings ends : List Nat) : Prop :=
  match th.phase with
  | .op c stage =>
    th.deadlines = readings.map (getAbsoluteTimeout · c.timeout) ∧
      readings.length = ends.length + stage.waiting.toNat
  | _ => True

/-- The readings of the call all show the time of the first. -/
def Thread.Steady (th : Thread α) (readings : List Nat) : Prop :=
  match th.phase with
  | .op _ _ => ∀ r ∈ readings, readings.head? = some r
  | _ => True

/-- A call has one deadline exactly when its readings show one time. -/
theorem oneDeadline_iff {th : Thread α} {readings ends : List Nat} (kept : th.Kept readings ends) :
    th.OneDeadline readings ends ↔ th.Steady readings := by
  unfold Thread.OneDeadline Thread.Steady
  unfold Thread.Kept at kept
  split
  · rename_i c stage at_phase
    rw [at_phase] at kept
    obtain ⟨deadlines, count⟩ := kept
    constructor
    · rintro ⟨same, -⟩ r member
      have own := same (getAbsoluteTimeout r c.timeout) (by
        rw [deadlines]
        exact List.mem_map_of_mem member)
      obtain ⟨r', first, equal⟩ := Option.map_eq_some_iff.mp own
      have agree : r' = r := by
        unfold getAbsoluteTimeout at equal
        omega
      exact agree ▸ first
    · intro steady
      have same : ∀ d ∈ th.deadlines,
          readings.head?.map (getAbsoluteTimeout · c.timeout) = some d := by
        intro d member
        rw [deadlines] at member
        obtain ⟨r, read, rfl⟩ := List.mem_map.mp member
        rw [steady r read]
        rfl
      refine ⟨same, fun punctual e member => ?_⟩
      obtain ⟨i, inside, ended⟩ := List.mem_iff_getElem.mp member
      have counted : i < th.deadlines.length := by
        rw [deadlines, List.length_map]
        omega
      have both : i < (ends.zip th.deadlines).length := by
        rw [List.length_zip]
        omega
      have wait := punctual _ (List.getElem_mem both)
      rw [List.getElem_zip] at wait
      refine ⟨th.deadlines[i], same _ (List.getElem_mem counted), ?_⟩
      exact ended ▸ wait
  · exact Iff.rfl

/-- Moving on within a call keeps what its timer knows. -/
theorem Thread.Kept.along {th th' : Thread α} {readings ends : List Nat} {c : OpCall α}
    {stage stage' : Stage} (at_phase : th.phase = .op c stage) (later : th'.phase = .op c stage')
    (deadlines : th'.deadlines = th.deadlines) (waiting : stage'.waiting = stage.waiting)
    (kept : th.Kept readings ends) : th'.Kept readings ends := by
  simp only [Thread.Kept, at_phase] at kept
  simpa only [Thread.Kept, later, deadlines, waiting] using kept

/-- Outside an add or a pop there is nothing to know. -/
theorem Thread.Kept.outside {th : Thread α} {readings ends : List Nat}
    (elsewhere : ∀ c stage, th.phase ≠ .op c stage) : th.Kept readings ends := by
  unfold Thread.Kept
  split
  · rename_i c stage at_phase
    exact absurd at_phase (elsewhere c stage)
  · trivial

/-- A call keeps its readings steady wherever it is. -/
theorem Thread.Steady.along {th th' : Thread α} {readings : List Nat} {c : OpCall α}
    {stage : Stage} (at_phase : th.phase = .op c stage) (steady : th.Steady readings) :
    th'.Steady readings := by
  simp only [Thread.Steady, at_phase] at steady
  unfold Thread.Steady
  split
  · exact steady
  · trivial

/-- Outside an add or a pop the readings are of no account. -/
theorem Thread.Steady.outside {th : Thread α} {readings : List Nat}
    (elsewhere : ∀ c stage, th.phase ≠ .op c stage) : th.Steady readings := by
  unfold Thread.Steady
  split
  · rename_i c stage at_phase
    exact absurd at_phase (elsewhere c stage)
  · trivial

/-- No readings are steady readings. -/
theorem Thread.Steady.nil (th : Thread α) : th.Steady [] := by
  unfold Thread.Steady
  split
  · simp
  · trivial

/-- One more reading leaves the readings steady when it shows the time of the first. -/
theorem steady_append {readings : List Nat} (now : Nat)
    (steady : ∀ r ∈ readings, readings.head? = some r) :
    (∀ r ∈ readings ++ [now], (readings ++ [now]).head? = some r) ↔
      readings.head?.all (· == now) = true := by
  cases readings with
  | nil => simp
  | cons first rest =>
    have all_first : ∀ r ∈ first :: rest, first = r := by simpa using steady
    constructor
    · intro same
      have last := same now (by simp)
      simpa using last
    · intro equal r member
      have agrees : first = now := by simpa using equal
      rcases List.mem_append.mp member with earlier | latest
      · simpa using all_first r earlier
      · simpa [List.mem_singleton.mp latest] using agrees

section Steps

variable [DecidableEq T] {s s' : State T α} {t : T} {a : Act T α} {x : Timer T} {time : Nat}

/-- A step writes down times of the acting thread alone. -/
theorem note_others (time : Nat) {u : T} (other : u ≠ t) :
    (Timer.note s (time, t, a) x).readings u = x.readings u ∧
      (Timer.note s (time, t, a) x).ends u = x.ends u := by
  cases a <;> simp [Timer.note, other]

/-- Every step keeps what the timer knows of the calls. -/
theorem move_kept (moved : Move s t a s') (kept : ∀ u, (s.threads u).Kept (x.readings u) (x.ends u))
    (u : T) :
    (s'.threads u).Kept ((Timer.note s (time, t, a) x).readings u)
      ((Timer.note s (time, t, a) x).ends u) := by
  by_cases acting : u = t
  case neg =>
    obtain ⟨readings, ends⟩ := note_others (s := s) (a := a) (x := x) time acting
    rw [readings, ends]
    rcases move_frame moved acting with same | ⟨o, asleep, marked⟩
    · rw [same]
      exact kept u
    · rw [marked]
      exact (kept u).along asleep rfl rfl rfl
  subst acting
  have own := kept u
  cases moved
  case enter valid c p at_phase entered =>
    simp only [Timer.note, Function.update_self, State.threads_set, if_pos]
    rcases enter_phase entered with ⟨o, rfl⟩ | ⟨q, -, rfl⟩ | ⟨cleanup, -, rfl⟩ <;>
      simp [Thread.Kept, Stage.waiting]
  case deadline c now at_phase =>
    simp only [Timer.note, Function.update_self, State.threads_set, if_pos]
    simp only [Thread.Kept, show (s.threads u).phase = _ from at_phase, Stage.waiting] at own
    simp [Thread.Kept, own, Stage.waiting]
  case wake c notified result at_phase =>
    simp only [Timer.note, Function.update_self, State.goto, State.threads_set, if_pos]
    simp only [Thread.Kept, show (s.threads u).phase = _ from at_phase, Stage.waiting] at own
    simp [Thread.Kept, own, Stage.waiting]
  case signalSome c o v at_phase target cond =>
    have apart : u ≠ v := by
      rintro rfl
      rw [target] at at_phase
      cases at_phase
    exact own.along at_phase (State.phase_goto_self _ u _)
      (by simp [State.goto, State.set, apart]) rfl
  case bodyRefused c again at_phase refused =>
    refine own.along at_phase (State.phase_goto_self _ u _)
      (by simp [State.goto, State.set]) ?_
    unfold OpCall.refusedStage
    split <;> rfl
  case bodyDone c again queue out effect at_phase accepted enacted =>
    exact own.along at_phase (State.phase_set_self s u _) (by simp [State.set]) rfl
  case lockWrite c _ at_phase _ | unlockBlocked c at_phase | lockCond c at_phase _ |
      wait c at_phase | relock c _ at_phase _ | unlockCond c _ at_phase | retry c at_phase |
      unlockDone c at_phase | lockSignal c at_phase _ | signalNone c at_phase _ =>
    exact own.along at_phase (State.phase_goto_self _ u _) (by simp [State.goto, State.set]) rfl
  case nukeTake cleanup at_phase left => exact own
  case refuseNuke valid c at_phase nuke =>
    refine .outside fun o stage busy => ?_
    have idle : (s.threads u).phase = .idle := at_phase
    simp [State.set, idle] at busy
  all_goals
    exact .outside fun o stage busy => by simp [State.finish, State.goto, State.set] at busy

/-- From a state where the readings of every call are steady, the steps that lead to another such
state are those whose clock readings show the time of the first. -/
theorem move_steady_iff (time : Nat) (moved : Move s t a s')
    (steady : ∀ u, (s.threads u).Steady (x.readings u)) :
    (∀ u, (s'.threads u).Steady ((Timer.note s (time, t, a) x).readings u)) ↔
      sameReading (s, x) (time, t, a) = true := by
  have others (u : T) (other : u ≠ t) :
      (s'.threads u).Steady ((Timer.note s (time, t, a) x).readings u) := by
    rw [(note_others time other).1]
    rcases move_frame moved other with same | ⟨o, asleep, marked⟩
    · rw [same]
      exact steady u
    · exact (steady u).along asleep
  have quiet (own : (s'.threads t).Steady ((Timer.note s (time, t, a) x).readings t))
      (admitted : sameReading (s, x) (time, t, a) = true) :
      (∀ u, (s'.threads u).Steady ((Timer.note s (time, t, a) x).readings u)) ↔
        sameReading (s, x) (time, t, a) = true := by
    refine iff_of_true (fun u => ?_) admitted
    by_cases acting : u = t
    · exact acting ▸ own
    · exact others u acting
  have own := steady t
  cases moved
  case enter valid c p at_phase entered =>
    refine quiet ?_ (by simp [sameReading, at_phase])
    simpa only [Timer.note, Function.update_self] using Thread.Steady.nil _
  case deadline c now at_phase =>
    have guarded : sameReading (s, x) (time, t, .clock now) =
        (x.readings t).head?.all (· == now) := by
      simp [sameReading, at_phase]
    have before : ∀ r ∈ x.readings t, (x.readings t).head? = some r := by
      simpa only [Thread.Steady, show (s.threads t).phase = _ from at_phase] using own
    rw [guarded, ← steady_append now before]
    constructor
    · intro after
      have here := after t
      simpa only [Timer.note, Function.update_self, State.threads_set, if_pos, Thread.Steady]
        using here
    · intro same u
      by_cases acting : u = t
      · subst acting
        simpa only [Timer.note, Function.update_self, State.threads_set, if_pos, Thread.Steady]
          using same
      · exact others u acting
  case nukeTake cleanup at_phase left => exact quiet own (by simp [sameReading, at_phase])
  case refuse valid c reply at_phase refused | refuseNuke valid c at_phase nuke =>
    refine quiet ?_ (by simp [sameReading, at_phase])
    simpa only [Timer.note, Function.update_self] using Thread.Steady.nil _
  case lockRead | read | unlockRead | nukeLock | nukeDrained | nukeUnlock | freeBuffer | destroy |
      freeQueue =>
    refine quiet (.outside fun o stage busy => ?_) (by simp [sameReading, *])
    simp [State.finish, State.goto, State.set] at busy
  all_goals exact quiet (own.along (by assumption)) (by simp [sameReading, *])

/-- A step at a time is a step, and its time is noted. -/
theorem timedNext_eq_some [Fintype T] {y y' : State T α × Timer T} {label : TimedLabel T α}
    (taken : timedNext y label = some y') :
    next y.1 label.2 = some y'.1 ∧ Timer.note y.1 label y.2 = y'.2 := by
  unfold timedNext at taken
  split at taken
  · exact observe_eq_some.mp taken
  · contradiction

end Steps

section Runs

variable [Fintype T] [DecidableEq T]

/-- The states of the timed runs on a queue whose steps all meet the guard. -/
abbrev TimedReachable (q : Queue α) (guard : State T α × Timer T → TimedLabel T α → Prop) :
    State T α × Timer T → Prop :=
  Reach (· = (start T q, Timer.zero T)) (fun x label y => timedNext x label = some y) guard

/-- In every timed run the timer knows the calls. -/
theorem reached_kept {q : Queue α} {guard : State T α × Timer T → TimedLabel T α → Prop}
    {x : State T α × Timer T} (reached : TimedReachable q guard x) (u : T) :
    (x.1.threads u).Kept (x.2.readings u) (x.2.ends u) := by
  refine reached.invariant
    (I := fun x => ∀ u, (x.1.threads u).Kept (x.2.readings u) (x.2.ends u))
    (fun x₀ initial u => ?_) (fun x₁ label x₂ kept _ taken => ?_) u
  · rw [initial]
    trivial
  · obtain ⟨moved, noted⟩ := timedNext_eq_some taken
    rw [← noted]
    exact move_kept (step_move moved) kept

/-- Every call of a timed run has one deadline while the clock readings of a call all show the time
of its first, and the runs in which every call has one deadline are those. -/
theorem one_deadline (q : Queue α) (x : State T α × Timer T) :
    (TimedReachable q (fun x label => sameReading x label = true) x → OneDeadline x) ∧
    (TimedReachable q (fun x label => sameReading x label = true) x ↔
      Within (· = (start T q, Timer.zero T)) (fun x label y => timedNext x label = some y)
        OneDeadline x) := by
  have exact : TimedReachable q (fun x label => sameReading x label = true) x ↔
      Within (· = (start T q, Timer.zero T)) (fun x label y => timedNext x label = some y)
        OneDeadline x := by
    refine Reach.within_iff (fun x₀ initial => ?_) fun x₁ label x₂ reached single taken => ?_
    · rw [initial]
      exact fun u => trivial
    · have kept := reached_kept reached
      obtain ⟨moved, noted⟩ := timedNext_eq_some taken
      have later : ∀ u, (x₂.1.threads u).Kept (x₂.2.readings u) (x₂.2.ends u) := by
        rw [← noted]
        exact move_kept (step_move moved) kept
      have steady : ∀ u, (x₁.1.threads u).Steady (x₁.2.readings u) :=
        fun u => (oneDeadline_iff (kept u)).mp (single u)
      rw [← move_steady_iff label.1 (step_move moved) steady, noted]
      exact forall_congr' fun u => oneDeadline_iff (later u)
  exact ⟨fun reached => (exact.mp reached).holds, exact⟩

end Runs

/-- A consumer on an empty queue reads the clock and waits; the wait ends without an item, at the
given time, and the consumer reads the clock again. -/
def wokenAt (time : Nat) : List (TimedLabel Unit Nat) :=
  [(0, (), .call true (.pop (some none))), (0, (), .next), (0, (), .next), (0, (), .next),
    (0, (), .next), (0, (), .clock 0), (0, (), .next), (time, (), .wake .woken), (time, (), .next),
    (time, (), .next), (time, (), .next), (time, (), .next), (time, (), .next), (time, (), .next),
    (time, (), .next), (time, (), .clock time)]

/-- While the clock stands still both waits have the same deadline. -/
theorem one_deadline_wokenAt :
    ∃ x, runGuarded timedNext sameReading (start Unit (fresh 1), Timer.zero Unit) (wokenAt 0) =
        some x ∧
      (x.1.threads ()).deadlines = [2, 2] ∧ OneDeadline x := by
  have ran : (runGuarded timedNext sameReading (start Unit (fresh 1), Timer.zero Unit)
      (wokenAt 0)).map (fun x => (x.1.threads ()).deadlines) = some [2, 2] := by
    decide +kernel
  obtain ⟨x, executed, deadlines⟩ := Option.map_eq_some_iff.mp ran
  refine ⟨x, executed, deadlines, ?_⟩
  exact (one_deadline (fresh 1) x).1 (reach_of_runGuarded _ (.start rfl) executed)

/-- After a wake-up one second later the call waits for the third second, though the first wait
would have ended with the second. -/
theorem second_deadline :
    ∃ q : Queue Nat, init ⟨64, 8⟩ 1 ⟨true, true, true, true, true, true⟩ = .ok q ∧
      ¬ ∀ x : State Unit Nat × Timer Unit, TimedReachable q (fun _ _ => True) x →
        OneDeadline x := by
  refine ⟨fresh 1, rfl, fun single => ?_⟩
  have ran : (runGuarded timedNext (fun _ _ => true) (start Unit (fresh 1), Timer.zero Unit)
      (wokenAt 1)).map (fun x => (x.1.phase (), (x.1.threads ()).deadlines, x.2.readings ())) =
        some (.op .pop .wait, [2, 3], [0, 1]) := by
    decide +kernel
  obtain ⟨x, executed, facts⟩ := Option.map_eq_some_iff.mp ran
  obtain ⟨at_phase, deadlines, readings⟩ : x.1.phase () = .op .pop .wait ∧
      (x.1.threads ()).deadlines = [2, 3] ∧ x.2.readings () = [0, 1] := by
    simpa only [Prod.mk.injEq] using facts
  have free : TimedReachable (fresh 1) (fun _ _ => true = true) x :=
    reach_of_runGuarded _ (.start rfl) executed
  have reached : TimedReachable (fresh 1) (fun _ _ => True) x := free.weaken fun _ _ _ => trivial
  have own := single x reached ()
  simp only [Thread.OneDeadline, show (x.1.threads ()).phase = _ from at_phase, deadlines,
    readings] at own
  have later := own.1 3 (by decide)
  simp [OpCall.timeout, popTimeout, getAbsoluteTimeout] at later

end SpaceCaptain.GenericQueue
