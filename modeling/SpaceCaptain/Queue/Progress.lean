import Mathlib.Algebra.BigOperators.Ring.Finset
import Mathlib.Algebra.Order.BigOperators.Group.Finset
import Mathlib.Tactic.Ring
import SpaceCaptain.Library.Simulation
import SpaceCaptain.Queue.Discipline

/-!
# Every call comes to its end

A call of the queue has no loop but the one that tests again after a wake-up. `Phase.rank` counts
the statements that a thread has before it, if no wait ends in a wake-up; every action lowers the
rank of its thread, a wake-up pays for the way back to the test, and no thread touches the rank of
another. So the actions of a thread are bounded by the calls it entered and the wake-ups it had,
whatever the others do. A run that can only go on by new calls has left no call unfinished,
because the locks are used with discipline.
-/
namespace SpaceCaptain.GenericQueue

open SpaceCaptain.Library

variable {T α : Type*}

/-- The statements that remain after a wait with this result. -/
def WaitResult.rank : WaitResult → Nat
  | .timedOut | .failed _ => 1
  | .woken => 11

/-- The statements of an operation that remain, if no wait ends in a wake-up. -/
def Stage.rank : Stage → Nat
  | .unlockSignal => 1
  | .signal => 2
  | .lockSignal => 3
  | .unlockDone => 4
  | .unlockRefused => 1
  | .resume result => result.rank
  | .unlockCond result => result.rank + 1
  | .relock result => result.rank + 2
  | .asleep _ => 4
  | .wait => 5
  | .deadline => 6
  | .lockCond => 7
  | .unlockBlocked => 8
  | .body _ => 9
  | .wrlock _ => 10

/-- The statements of a status call that remain. -/
def StatusStage.rank : StatusStage α → Nat
  | .rdlock => 3
  | .read => 2
  | .unlock _ => 1

/-- The statements that a thread has before it, if no wait ends in a wake-up. -/
def Phase.rank : Phase α → Nat
  | .op _ stage => stage.rank
  | .status _ stage => stage.rank
  | .idle | .nuke _ _ => 0

/-- What an action brings to its own thread: the statements of a new call, or the way from a
wake-up back to the test. -/
def Act.credit : Act T α → Nat
  | .call _ _ => 11
  | .wake .woken => 10
  | _ => 0

/-- The action enters a call. -/
def Act.isCall : Act T α → Bool
  | .call _ _ => true
  | _ => false

/-- The action ends a wait by a wake-up. -/
def Act.isWakeUp : Act T α → Bool
  | .wake .woken => true
  | _ => false

/-- An action brings something when it enters a call or ends a wait by a wake-up. -/
theorem Act.credit_eq (a : Act T α) :
    a.credit = 11 * a.isCall.toNat + 10 * a.isWakeUp.toNat := by
  cases a with
  | wake result => cases result <;> rfl
  | _ => rfl

/-- The runs without destruction, with their labels. -/
abbrev LabelledRun [Fintype T] [DecidableEq T] :
    State T α → List (Label T α) → State T α → Prop :=
  Path (fun s label s' => withoutNuke label = true ∧ next s label = some s')
    fun _ label _ => [label]

/-- A call that is entered has at most ten statements before it. -/
theorem enter_rank {valid : Bool} {c : Call α} {p : Phase α} (entered : enter valid c = .inl p) :
    p.rank ≤ 10 := by
  rcases enter_phase entered with ⟨o, rfl⟩ | ⟨q, -, rfl⟩ | ⟨cleanup, -, rfl⟩ <;>
    simp [Phase.rank, Stage.rank, StatusStage.rank]

/-- A refused test leaves at most eight statements. -/
theorem refusedStage_rank (c : OpCall α) : c.refusedStage.rank ≤ 8 := by
  unfold OpCall.refusedStage
  split <;> decide

section Rank

variable [DecidableEq T] {s s' : State T α} {t : T} {a : Act T α}

/-- An action leaves the rank of every other thread. -/
theorem move_rank_other (moved : Move s t a s') {u : T} (other : u ≠ t) :
    (s'.phase u).rank = (s.phase u).rank := by
  rcases move_frame moved other with same | ⟨o, asleep, marked⟩
  · rw [State.phase, same]
    rfl
  · rw [State.phase, marked, asleep]
    rfl

/-- An action lowers the rank of its thread by one, up to what it brings. -/
theorem move_rank_own (moved : Move s t a s') (admitted : withoutNuke (t, a) = true)
    (outside : (s.phase t).nuking = false) :
    1 + (s'.phase t).rank ≤ (s.phase t).rank + a.credit := by
  cases moved
  case enter valid c p at_phase entered =>
    have bound := enter_rank entered
    rw [State.phase_set_self]
    change 1 + p.rank ≤ _ + 11
    omega
  case refuseNuke valid c at_phase nuke => simp [withoutNuke, nuke] at admitted
  case bodyRefused c again at_phase refused =>
    have bound := refusedStage_rank c
    rw [State.phase_goto_self, at_phase]
    change 1 + c.refusedStage.rank ≤ 9
    omega
  case bodyDone c again queue out effect at_phase accepted enacted =>
    change 1 + ((s.set t _).phase t).rank ≤ _
    rw [State.phase_set_self, at_phase]
    change 1 + 4 ≤ 9
    omega
  case giveUp c result code at_phase failed =>
    have last : result.rank = 1 := by rcases failed with ⟨rfl, -⟩ | ⟨e, rfl, -⟩ <;> rfl
    rw [State.phase_finish_self, at_phase]
    change 1 + 0 ≤ result.rank
    omega
  case wake c notified result at_phase =>
    rw [State.phase_goto_self, at_phase]
    change 1 + (result.rank + 2) ≤ 4 + _
    cases result <;> simp [WaitResult.rank, Act.credit]
  case relock c result at_phase free | unlockCond c result at_phase =>
    rw [State.phase_goto_self, at_phase]
    simp only [Phase.rank, Stage.rank]
    omega
  all_goals
    simp_all [Phase.rank, Stage.rank, StatusStage.rank, WaitResult.rank, Act.credit, Phase.nuking]

/-- Only a thread outside of every call enters one. -/
theorem move_isCall {t : T} {a : Act T α} (moved : Move s t a s') (call : a.isCall = true) :
    s.phase t = .idle := by
  cases moved
  case enter at_phase _ | refuse at_phase _ | refuseNuke at_phase _ => exact at_phase
  all_goals contradiction

end Rank

/-- No place has more than thirteen statements before it. -/
theorem rank_le (p : Phase α) : p.rank ≤ 13 := by
  cases p with
  | idle | nuke cleanup stage => simp [Phase.rank]
  | status c stage => cases stage <;> simp [Phase.rank, StatusStage.rank]
  | op c stage =>
    cases stage with
    | resume result | unlockCond result | relock result =>
      cases result <;> simp [Phase.rank, Stage.rank, WaitResult.rank]
    | _ => simp [Phase.rank, Stage.rank]

section Count

variable [DecidableEq T]

/-- How many actions of a kind a thread takes in a labelled run. -/
def countOf (kind : Act T α → Bool) (t : T) (labels : List (Label T α)) : Nat :=
  labels.countP fun label => label.1 = t && kind label.2

/-- All actions of a thread. -/
abbrev stepsOf : T → List (Label T α) → Nat := countOf fun _ => true

/-- The calls that a thread enters. -/
abbrev callsOf : T → List (Label T α) → Nat := countOf Act.isCall

/-- The waits of a thread that end by a wake-up. -/
abbrev wakeUpsOf : T → List (Label T α) → Nat := countOf Act.isWakeUp

/-- One more action. -/
theorem countOf_cons (kind : Act T α → Bool) (t : T) (label : Label T α)
    (rest : List (Label T α)) :
    countOf kind t (label :: rest) =
      countOf kind t rest + if label.1 = t then (kind label.2).toNat else 0 := by
  rw [countOf, List.countP_cons, countOf]
  by_cases own : label.1 = t <;> cases kind label.2 <;> simp [own]

/-- What the actions of a thread bring it. -/
theorem sum_credit (t : T) (labels : List (Label T α)) :
    (labels.map fun label => if label.1 = t then label.2.credit else 0).sum =
      11 * callsOf t labels + 10 * wakeUpsOf t labels := by
  induction labels with
  | nil => rfl
  | cons label rest ih =>
    rw [List.map_cons, List.sum_cons, ih, Act.credit_eq]
    simp only [callsOf, wakeUpsOf, countOf_cons]
    split <;> ring

/-- The actions of a thread, counted one by one. -/
theorem sum_steps (t : T) (labels : List (Label T α)) :
    (labels.map fun label => if label.1 = t then 1 else 0).sum = stepsOf t labels := by
  induction labels with
  | nil => rfl
  | cons label rest ih =>
    rw [List.map_cons, List.sum_cons, ih]
    simp only [stepsOf, countOf_cons, Bool.toNat_true]
    exact Nat.add_comm ..

/-- Every action is some thread's. -/
theorem sum_countOf [Fintype T] (kind : Act T α → Bool) (labels : List (Label T α)) :
    ∑ t, countOf kind t labels = labels.countP fun label => kind label.2 := by
  induction labels with
  | nil => simp [countOf]
  | cons label rest ih =>
    simp only [countOf_cons, Finset.sum_add_distrib, ih, List.countP_cons, Finset.sum_ite_eq,
      Finset.mem_univ, if_true]
    cases kind label.2 <;> rfl

end Count

section Run

variable [Fintype T] [DecidableEq T] {s s' : State T α} {labels : List (Label T α)}

/-- The actions of a thread are covered by what it has before it, the calls it enters and the
wake-ups it has. -/
theorem steps_covered (outside : ∀ u, (s.phase u).nuking = false)
    (run : LabelledRun s labels s') (t : T) :
    stepsOf t labels + (s'.phase t).rank ≤
      (s.phase t).rank + (11 * callsOf t labels + 10 * wakeUpsOf t labels) := by
  rw [← sum_credit, ← sum_steps]
  refine run.amortize (I := fun s => ∀ u, (s.phase u).nuking = false) ?_
    (fun s => (s.phase t).rank) _ _ ?_ outside
  · intro s label s' known taken
    exact move_outside (step_move taken.2) taken.1 known
  · intro s label s' known taken
    have moved := step_move taken.2
    simp only [List.map_cons, List.map_nil, List.sum_singleton]
    by_cases own : label.1 = t
    · have lowered := move_rank_own moved taken.1 (known label.1)
      rw [own] at lowered
      simpa only [own, if_true] using lowered
    · have same := move_rank_other moved (Ne.symm own)
      simp only [own, if_false]
      omega

/-- When no thread can do anything but enter a new call, no thread is inside one. -/
theorem all_returned (locked : Locked s)
    (stuck : ∀ t a, a.isCall = false → step s t a = none) (t : T) : s.phase t = .idle := by
  by_contra busy
  obtain ⟨v, inside, a, s', taken⟩ := some_enabled locked busy
  cases call : a.isCall with
  | true => exact inside (move_isCall (step_move taken) call)
  | false => simp [stuck v a call] at taken

/-- A run is no longer than what its threads have before them allows. -/
theorem length_bounded (labels : List (Label T α))
    (bounded : ∀ t, stepsOf t labels ≤ 13 + 11 * callsOf t labels + 10 * wakeUpsOf t labels) :
    labels.length ≤ 13 * Fintype.card T + 11 * labels.countP (fun label => label.2.isCall) +
      10 * labels.countP (fun label => label.2.isWakeUp) := by
  have all : ∑ t, stepsOf t labels = labels.length := by
    rw [sum_countOf, List.countP_true]
  calc
    labels.length = ∑ t, stepsOf t labels := all.symm
    _ ≤ ∑ t, (13 + 11 * callsOf t labels + 10 * wakeUpsOf t labels) :=
      Finset.sum_le_sum fun t _ => bounded t
    _ = _ := by
      rw [Finset.sum_add_distrib, Finset.sum_add_distrib, ← Finset.mul_sum, ← Finset.mul_sum,
        sum_countOf, sum_countOf, Finset.sum_const, Finset.card_univ, nsmul_eq_mul, Nat.cast_id,
        Nat.mul_comm 13]

/-- In every run the actions of a thread are bounded by its calls and its wake-ups, so the run is no
longer than these allow; and when only new calls are left to do, every call has returned. -/
theorem calls_return {q : Queue α}
    (reached : Reachable q (fun _ label => withoutNuke label = true) s)
    (run : LabelledRun s labels s') :
    (∀ t, stepsOf t labels ≤ 13 + 11 * callsOf t labels + 10 * wakeUpsOf t labels) ∧
      labels.length ≤ 13 * Fintype.card T + 11 * labels.countP (fun label => label.2.isCall) +
        10 * labels.countP (fun label => label.2.isWakeUp) ∧
      ((∀ t a, a.isCall = false → step s' t a = none) →
        ∀ t, s'.phase t = .idle ∧ ¬s'.HoldsRwlock t ∧ ¬s'.HoldsCondMutex t) := by
  have outside : ∀ u, (s.phase u).nuking = false := by
    refine reached.invariant (I := fun s => ∀ u, (s.phase u).nuking = false) ?_ ?_
    · rintro s₀ rfl u
      rfl
    · intro s₀ label s₁ known admitted taken
      exact move_outside (step_move taken) admitted known
  have bounded (t : T) :
      stepsOf t labels ≤ 13 + 11 * callsOf t labels + 10 * wakeUpsOf t labels := by
    have covered := steps_covered outside run t
    have before := rank_le (s.phase t)
    omega
  have locked : Locked s' :=
    run.invariant (fun _ _ _ known taken => move_locked (step_move taken.2) known)
      (reachable_locked reached)
  refine ⟨bounded, length_bounded labels bounded, fun stuck t => ?_⟩
  have idle := all_returned locked stuck t
  exact ⟨idle, locked.disciplined.returned t idle⟩

/-- A pop that is woken once and finds the item, and the add that wakes it. -/
def popWokenByAdd : List (Label Bool Nat) :=
  [(true, .call true (.pop (some none)))] ++ List.replicate 4 (true, .next) ++
    [(true, .clock 0), (true, .next), (false, .call true (.add (some 7)))] ++
    List.replicate 4 (false, .next) ++ [(false, .signal (some true)), (false, .next)] ++
    [(true, .wake .woken)] ++ List.replicate 7 (true, .next) ++
    [(true, .signal none), (true, .next)]

/-- The pop takes 17 actions, of the 34 that one call and one wake-up allow. -/
theorem calls_return_popWokenByAdd :
    ∃ s, LabelledRun (start Bool (fresh 1)) popWokenByAdd s ∧
      stepsOf true popWokenByAdd = 17 ∧
      13 + 11 * callsOf true popWokenByAdd + 10 * wakeUpsOf true popWokenByAdd = 34 ∧
      popWokenByAdd.length ≤ 13 * Fintype.card Bool + 11 * 2 + 10 * 1 := by
  have ran : (execute next (fun _ label _ => [label]) (start Bool (fresh 1)) popWokenByAdd).map
      Prod.snd = some popWokenByAdd := by
    decide +kernel
  obtain ⟨⟨s, labels⟩, executed, result⟩ := Option.map_eq_some_iff.mp ran
  obtain rfl : labels = popWokenByAdd := result
  have plain : ∀ label ∈ popWokenByAdd, withoutNuke label = true := by decide
  have run : LabelledRun (start Bool (fresh 1)) popWokenByAdd s := path_of_execute popWokenByAdd
    (fun _ label _ member taken => ⟨plain label member, taken⟩) executed
  obtain ⟨-, length, -⟩ := calls_return (q := fresh 1) (.start rfl) run
  exact ⟨s, run, by decide, by decide, length⟩

end Run

end SpaceCaptain.GenericQueue
