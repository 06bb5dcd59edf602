import SpaceCaptain.Library.Ownership
import SpaceCaptain.Queue.Moves

/-!
# Who holds the locks

At every statement it is fixed which locks a thread holds. `Locked` says that the two lock
variables agree with the places of the threads and that a writer excludes readers; every
action keeps it. So at most one thread is between the lock and the unlock of a critical
section, and the statements there see a queue that no other operation changes.
-/
namespace SpaceCaptain.GenericQueue

open SpaceCaptain.Library

variable {T α : Type*}

namespace Phase

/-- The thread holds the rwlock for writing. -/
def holdsWrite : Phase α → Bool
  | .op _ (.body _) | .op _ .unlockRefused | .op _ .unlockBlocked | .op _ .unlockDone => true
  | .nuke _ .drain | .nuke _ .unlock => true
  | _ => false

/-- The thread holds the rwlock for reading. -/
def holdsRead : Phase α → Bool
  | .status _ .read | .status _ (.unlock _) => true
  | _ => false

/-- The thread holds `cond_mutex`. -/
def holdsCond : Phase α → Bool
  | .op _ .deadline | .op _ .wait | .op _ (.unlockCond _) => true
  | .op _ .signal | .op _ .unlockSignal => true
  | _ => false

end Phase

/-- The lock variables agree with the places of the threads. -/
structure Locked (s : State T α) : Prop where
  /-- The writer is the thread inside a critical section. -/
  writer : Tracks s.writer fun u => (s.phase u).holdsWrite
  /-- The readers are the threads inside a status call's section. -/
  readers : ∀ u, u ∈ s.readers ↔ (s.phase u).holdsRead = true
  /-- The holder of the mutex is the thread that is about to sleep or to signal. -/
  condMutex : Tracks s.condMutex fun u => (s.phase u).holdsCond
  /-- A writer excludes readers. -/
  exclusive : s.writer.isSome = true → s.readers = ∅

/-- A free rwlock has neither a writer nor a reader. -/
theorem unlocked_iff [DecidableEq T] (s : State T α) :
    s.unlocked = true ↔ s.writer = none ∧ s.readers = ∅ := by
  simp [State.unlocked]

/-- Nobody holds a lock before the first call. -/
theorem start_locked (q : Queue α) : Locked (start T q) where
  writer := Tracks.free fun _ => rfl
  readers u := by simp [start, State.phase, Phase.holdsRead]
  condMutex := Tracks.free fun _ => rfl
  exclusive _ := rfl

/-- A call that is entered starts at its first lock. -/
theorem enter_phase {valid : Bool} {c : Call α} {p : Phase α} (entered : enter valid c = .inl p) :
    (∃ o, p = .op o (.wrlock false)) ∨ (∃ q, c = .status q ∧ p = .status q .rdlock) ∨
      ∃ cleanup, c = .nukeWithCleanup cleanup ∧ p = .nuke cleanup .wrlock := by
  cases c with
  | add argument | tryAdd argument | pop argument | tryPop argument =>
    cases argument with
    | none => contradiction
    | some given =>
      cases valid with
      | false => contradiction
      | true => exact .inl ⟨_, (Sum.inl.inj entered).symm⟩
  | status q =>
    cases valid with
    | false => contradiction
    | true => exact .inr (.inl ⟨q, rfl, (Sum.inl.inj entered).symm⟩)
  | nukeWithCleanup cleanup =>
    cases valid with
    | false => contradiction
    | true => exact .inr (.inr ⟨cleanup, rfl, (Sum.inl.inj entered).symm⟩)

/-- A call that is entered holds no lock. -/
theorem enter_holds {valid : Bool} {c : Call α} {p : Phase α} (entered : enter valid c = .inl p) :
    p.holdsWrite = false ∧ p.holdsRead = false ∧ p.holdsCond = false := by
  rcases enter_phase entered with ⟨o, rfl⟩ | ⟨q, -, rfl⟩ | ⟨cleanup, -, rfl⟩ <;>
    exact ⟨rfl, rfl, rfl⟩

/-- A refused operation still holds the rwlock, and nothing else. -/
theorem refusedStage_holds (c : OpCall α) :
    (Phase.op c c.refusedStage).holdsWrite = true ∧ (Phase.op c c.refusedStage).holdsRead = false ∧
      (Phase.op c c.refusedStage).holdsCond = false := by
  unfold OpCall.refusedStage
  split <;> exact ⟨rfl, rfl, rfl⟩

variable [DecidableEq T] {s s' : State T α} {t : T} {a : Act T α}

/-- What a place says of a lock stays the same for every thread but the acting one, when it is the
same for a sleeper and for a signalled one. -/
theorem move_others (holds : Phase α → Bool)
    (asleep : ∀ o, holds (.op o (.asleep true)) = holds (.op o (.asleep false)))
    (moved : Move s t a s') (u : T) (other : u ≠ t) : holds (s'.phase u) = holds (s.phase u) := by
  rcases move_frame moved other with same | ⟨o, sleeping, woken⟩
  · rw [State.phase, same]
    rfl
  · rw [State.phase, woken, sleeping]
    exact asleep o

/-- An action keeps the rwlock's writer and the critical sections in step. -/
theorem move_writer (moved : Move s t a s')
    (before : Tracks s.writer fun u => (s.phase u).holdsWrite) :
    Tracks s'.writer fun u => (s'.phase u).holdsWrite := by
  have others := move_others Phase.holdsWrite (fun _ => rfl) moved
  cases moved
  case enter valid c p at_phase entered =>
    refine before.still ?_ others
    rw [State.phase_set_self, at_phase]
    exact (enter_holds entered).1
  case lockWrite c again at_phase free =>
    rw [((unlocked_iff s).mp free).1] at before
    exact before.acquire (by rw [State.phase_goto_self]; rfl) others
  case nukeLock cleanup at_phase free =>
    rw [((unlocked_iff s).mp free).1] at before
    exact before.acquire (by rw [State.phase_goto_self]; rfl) others
  case unlockRefused c at_phase =>
    have held : (s.phase t).holdsWrite = true := by rw [at_phase]; rfl
    exact before.release held (by rw [State.phase_finish_self]; rfl) others
  case unlockBlocked c at_phase | unlockDone c at_phase | nukeUnlock cleanup at_phase =>
    have held : (s.phase t).holdsWrite = true := by rw [at_phase]; rfl
    exact before.release held (by rw [State.phase_goto_self]; rfl) others
  case bodyRefused c again at_phase refused =>
    refine before.still ?_ others
    rw [State.phase_goto_self, at_phase]
    exact (refusedStage_holds c).1
  case bodyDone c again queue out effect at_phase accepted enacted =>
    refine before.still ?_ others
    rw [at_phase]
    change ((s.set t _).phase t).holdsWrite = true
    rw [State.phase_set_self]
    rfl
  case refuseNuke valid c at_phase nuke =>
    refine before.still ?_ others
    rw [State.phase_set_self]
    rfl
  case nukeTake cleanup at_phase left => exact before
  all_goals
    refine before.still ?_ others
    simp [Phase.holdsWrite, *]

/-- An action keeps `cond_mutex` and its critical sections in step. -/
theorem move_condMutex (moved : Move s t a s')
    (before : Tracks s.condMutex fun u => (s.phase u).holdsCond) :
    Tracks s'.condMutex fun u => (s'.phase u).holdsCond := by
  have others := move_others Phase.holdsCond (fun _ => rfl) moved
  cases moved
  case enter valid c p at_phase entered =>
    refine before.still ?_ others
    rw [State.phase_set_self, at_phase]
    exact (enter_holds entered).2.2
  case lockCond c at_phase free | relock c result at_phase free | lockSignal c at_phase free =>
    rw [free] at before
    exact before.acquire (by rw [State.phase_goto_self]; rfl) others
  case wait c at_phase | unlockCond c result at_phase =>
    have held : (s.phase t).holdsCond = true := by rw [at_phase]; rfl
    exact before.release held (by rw [State.phase_goto_self]; rfl) others
  case unlockSignal c at_phase =>
    have held : (s.phase t).holdsCond = true := by rw [at_phase]; rfl
    exact before.release held (by rw [State.phase_finish_self]; rfl) others
  case bodyRefused c again at_phase refused =>
    refine before.still ?_ others
    rw [State.phase_goto_self, at_phase]
    exact (refusedStage_holds c).2.2
  case bodyDone c again queue out effect at_phase accepted enacted =>
    refine before.still ?_ others
    rw [at_phase]
    change ((s.set t _).phase t).holdsCond = false
    rw [State.phase_set_self]
    rfl
  case refuseNuke valid c at_phase nuke =>
    refine before.still ?_ others
    rw [State.phase_set_self]
    rfl
  case nukeTake cleanup at_phase left => exact before
  all_goals
    refine before.still ?_ others
    simp [Phase.holdsCond, *]

/-- An action keeps the set of readers and the status calls in step. -/
theorem move_readers (moved : Move s t a s')
    (before : ∀ u, u ∈ s.readers ↔ (s.phase u).holdsRead = true) (u : T) :
    u ∈ s'.readers ↔ (s'.phase u).holdsRead = true := by
  have others := move_others Phase.holdsRead (fun _ => rfl) moved
  have still (same : s'.readers = s.readers)
      (own : (s'.phase t).holdsRead = (s.phase t).holdsRead) :
      u ∈ s'.readers ↔ (s'.phase u).holdsRead = true := by
    rw [same, before u]
    by_cases here : u = t
    · rw [here, own]
    · rw [others u here]
  cases moved
  case enter valid c p at_phase entered =>
    refine still rfl ?_
    rw [State.phase_set_self, at_phase]
    exact (enter_holds entered).2.1
  case lockRead c at_phase free =>
    by_cases here : u = t
    · simp [here, State.goto, State.set, State.phase, Phase.holdsRead]
    · rw [others u here, ← before u]
      simp [State.goto, State.set, here]
  case unlockRead c answer at_phase =>
    by_cases here : u = t
    · simp [here, State.finish, State.set, State.phase, Phase.holdsRead]
    · rw [others u here, ← before u]
      simp [State.finish, State.set, here]
  case bodyRefused c again at_phase refused =>
    refine still rfl ?_
    rw [State.phase_goto_self, at_phase]
    exact (refusedStage_holds c).2.1
  case bodyDone c again queue out effect at_phase accepted enacted =>
    refine still rfl ?_
    rw [at_phase]
    change ((s.set t _).phase t).holdsRead = false
    rw [State.phase_set_self]
    rfl
  case refuseNuke valid c at_phase nuke =>
    refine still rfl ?_
    rw [State.phase_set_self]
    rfl
  case nukeTake cleanup at_phase left => exact before u
  all_goals exact still rfl (by simp [Phase.holdsRead, *])

/-- An action keeps writer and readers apart. -/
theorem move_exclusive (moved : Move s t a s')
    (before : s.writer.isSome = true → s.readers = ∅) :
    s'.writer.isSome = true → s'.readers = ∅ := by
  cases moved
  case lockWrite c again at_phase free => exact fun _ => ((unlocked_iff s).mp free).2
  case nukeLock cleanup at_phase free => exact fun _ => ((unlocked_iff s).mp free).2
  case lockRead c at_phase free => simp [State.goto, State.set, free]
  case unlockRead c answer at_phase =>
    intro held
    change s.readers.erase t = ∅
    rw [before held]
    rfl
  case unlockRefused | unlockBlocked | unlockDone | nukeUnlock => exact fun held => by cases held
  all_goals exact before

/-- Every action keeps the locks and the places of the threads in step. -/
theorem move_locked (moved : Move s t a s') (locked : Locked s) : Locked s' where
  writer := move_writer moved locked.writer
  readers := move_readers moved locked.readers
  condMutex := move_condMutex moved locked.condMutex
  exclusive := move_exclusive moved locked.exclusive

/-- In every reachable state the locks agree with the places of the threads. -/
theorem reachable_locked [Fintype T] {q : Queue α} {guard : State T α → Label T α → Prop}
    (reached : Reachable q guard s) : Locked s :=
  reached.invariant (fun _ initial => initial ▸ start_locked q)
    fun _ _ _ locked _ taken => move_locked (step_move taken) locked

end SpaceCaptain.GenericQueue
