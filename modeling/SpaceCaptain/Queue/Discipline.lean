import SpaceCaptain.Queue.History
import SpaceCaptain.Queue.Locks

/-!
# The discipline of the two locks

An operation takes `rwlock` for the data and `cond_mutex` for its waits and signals. From the
places of the threads follows that no thread has both, that the data is only touched under
`rwlock` and only changed by its writer, and that whoever holds a lock can go on. So the
threads never wait for one another in a circle: while a call is running, some running call
has a step.
-/
namespace SpaceCaptain.GenericQueue

open SpaceCaptain.Library

variable {T α : Type*}

namespace State

/-- The thread holds `rwlock`, for writing or for reading. -/
def HoldsRwlock (s : State T α) (u : T) : Prop := s.writer = some u ∨ u ∈ s.readers

/-- The thread holds `cond_mutex`. -/
def HoldsCondMutex (s : State T α) (u : T) : Prop := s.condMutex = some u

end State

namespace Phase

/-- The thread holds one of the two locks. -/
def holds (p : Phase α) : Bool := p.holdsWrite || p.holdsRead || p.holdsCond

/-- A place under `rwlock` is not a place under `cond_mutex`. -/
theorem apart (p : Phase α) (rwlock : p.holdsWrite = true ∨ p.holdsRead = true) :
    p.holdsCond = false := by
  cases p with
  | idle => rfl
  | op c stage => cases stage <;> simp_all [holdsWrite, holdsRead, holdsCond]
  | status c stage | nuke cleanup stage => rfl

/-- Between two calls a thread holds no lock. -/
@[simp] theorem holds_idle : (idle : Phase α).holds = false := rfl

end Phase

section Locked

variable {s : State T α}

/-- The places under `rwlock` are those of its holders. -/
theorem Locked.rwlock (locked : Locked s) (u : T) :
    s.HoldsRwlock u ↔ (s.phase u).holdsWrite = true ∨ (s.phase u).holdsRead = true := by
  rw [State.HoldsRwlock, locked.writer u, locked.readers u]

/-- The places under a lock are those of the holders. -/
theorem Locked.holds (locked : Locked s) (u : T) :
    (s.phase u).holds = true ↔ s.HoldsRwlock u ∨ s.HoldsCondMutex u := by
  rw [locked.rwlock u, State.HoldsCondMutex, locked.condMutex u]
  simp [Phase.holds]

end Locked

variable [DecidableEq T] {s s' : State T α} {t : T} {a : Act T α}

/-- The data of the queue changes only in the write section of the acting thread. -/
theorem move_writes (moved : Move s t a s') :
    s'.queue = s.queue ∨ (s.phase t).holdsWrite = true := by
  cases moved
  case bodyDone c again queue out effect at_phase accepted enacted =>
    exact .inr (by simp [at_phase, Phase.holdsWrite])
  case nukeTake cleanup at_phase left => exact .inr (by simp [at_phase, Phase.holdsWrite])
  all_goals exact .inl rfl

variable [Fintype T]

/-- The thread has a step. -/
def Enabled (s : State T α) (t : T) : Prop := ∃ a s', step s t a = some s'

/-- A thread in a call has a step when it holds a lock, and when no lock is taken. -/
theorem enabled_of_free (busy : s.phase t ≠ .idle)
    (free : (s.phase t).holds = false → s.unlocked = true ∧ s.condMutex = none) :
    Enabled s t := by
  unfold State.phase at busy free
  unfold Enabled step
  generalize place : (s.threads t).phase = p at busy free
  cases p with
  | idle => contradiction
  | op c stage =>
    cases stage with
    | wrlock again =>
      have ⟨unlocked, _⟩ := free rfl
      exact ⟨.next, _, by simp only [stepOp, unlocked]; rfl⟩
    | lockCond | relock result | lockSignal =>
      have ⟨_, unlocked⟩ := free rfl
      exact ⟨.next, _, by simp only [stepOp, unlocked]; rfl⟩
    | deadline => exact ⟨.clock 0, _, rfl⟩
    | asleep notified => exact ⟨.wake .timedOut, _, rfl⟩
    | resume result => cases result <;> exact ⟨.next, _, rfl⟩
    | signal =>
      by_cases nobody : ∀ u, (s.threads u).phase.sleepsOn c.announces = false
      · exact ⟨.signal none, _, if_pos nobody⟩
      · simp only [not_forall, Bool.not_eq_false] at nobody
        obtain ⟨u, sleeps⟩ := nobody
        refine ⟨.signal (some u), ?_⟩
        unfold Phase.sleepsOn at sleeps
        split at sleeps
        · rename_i o asleep
          have cond : o.waitsFor = c.announces := by simpa using sleeps
          simp only [stepOp, asleep, cond, ↓reduceIte]
          exact ⟨_, rfl⟩
        · contradiction
    | body | unlockRefused | unlockBlocked | wait | unlockCond | unlockDone | unlockSignal =>
      exact ⟨.next, _, rfl⟩
  | status c stage =>
    cases stage with
    | rdlock =>
      have ⟨unlocked, _⟩ := free rfl
      have writer : s.writer = none := ((unlocked_iff s).mp unlocked).1
      exact ⟨.next, _, by simp only [stepStatus, writer]; rfl⟩
    | read | unlock => exact ⟨.next, _, rfl⟩
  | nuke cleanup stage =>
    cases stage with
    | wrlock =>
      have ⟨unlocked, _⟩ := free rfl
      exact ⟨.next, _, by simp only [stepNuke, unlocked]; rfl⟩
    | drain =>
      refine ⟨.next, ?_⟩
      simp only [stepNuke]
      split <;> exact ⟨_, rfl⟩
    | unlock | freeBuffer | destroy | freeQueue => exact ⟨.next, _, rfl⟩

/-- While a call is running, some running call has a step: a holder of a lock if there is one,
and every call otherwise. -/
theorem some_enabled (locked : Locked s) {u : T} (busy : s.phase u ≠ .idle) :
    ∃ v, s.phase v ≠ .idle ∧ Enabled s v := by
  by_cases held : ∃ v, (s.phase v).holds = true
  · obtain ⟨v, holds⟩ := held
    have inside : s.phase v ≠ .idle := fun idle => by simp [idle] at holds
    exact ⟨v, inside, enabled_of_free inside fun free => by simp [holds] at free⟩
  · have nobody (v : T) : ¬(s.HoldsRwlock v ∨ s.HoldsCondMutex v) := fun holds =>
      held ⟨v, (locked.holds v).mpr holds⟩
    have writer : s.writer = none :=
      Option.eq_none_iff_forall_ne_some.mpr fun v holder => nobody v (.inl (.inl holder))
    have readers : s.readers = ∅ :=
      Finset.eq_empty_iff_forall_notMem.mpr fun v reads => nobody v (.inl (.inr reads))
    have condMutex : s.condMutex = none :=
      Option.eq_none_iff_forall_ne_some.mpr fun v holder => nobody v (.inr holder)
    have unlocked : s.unlocked = true := (unlocked_iff s).mpr ⟨writer, readers⟩
    exact ⟨u, busy, enabled_of_free busy fun _ => ⟨unlocked, condMutex⟩⟩

/-- An add or a pop that does not hold `rwlock` neither reads nor changes the queue's data. -/
theorem stepOp_blind {c : OpCall α} {stage : Stage}
    (outside : (Phase.op c stage).holdsWrite = false) (a : Act T α) (other : Queue α) :
    stepOp { s with queue := other } t c stage a =
      (stepOp s t c stage a).map fun s' => { s' with queue := other } := by
  cases stage with
  | body | unlockRefused | unlockBlocked | unlockDone => simp [Phase.holdsWrite] at outside
  | wrlock | lockCond | relock | lockSignal =>
    cases a with
    | next =>
      simp only [stepOp, Option.map_if]
      rfl
    | _ => rfl
  | signal =>
    cases a with
    | signal target =>
      cases target with
      | none =>
        simp only [stepOp, Option.map_if]
        rfl
      | some u =>
        simp only [stepOp]
        split
        · rw [Option.map_if]
          rfl
        · rfl
    | _ => rfl
  | resume result => cases result <;> cases a <;> rfl
  | _ => cases a <;> rfl

/-- The step of a thread that does not hold `rwlock` is the same whatever the queue's data is,
and leaves the data alone. -/
theorem step_blind (outside : (s.phase t).holdsWrite = false ∧ (s.phase t).holdsRead = false)
    (a : Act T α) (other : Queue α) :
    step { s with queue := other } t a =
      (step s t a).map fun s' => { s' with queue := other } := by
  obtain ⟨write, read⟩ := outside
  unfold State.phase at write read
  unfold step
  generalize place : (s.threads t).phase = p at write read
  cases p with
  | idle =>
    cases a with
    | call valid c =>
      simp only [Option.map_some, stepCall]
      split
      · rfl
      · split <;> rfl
    | _ => rfl
  | op c stage => exact stepOp_blind write a other
  | status c stage =>
    cases stage with
    | rdlock =>
      cases a with
      | next =>
        simp only [stepStatus, Option.map_if]
        rfl
      | _ => rfl
    | read | unlock => simp [Phase.holdsRead] at read
  | nuke cleanup stage =>
    cases stage with
    | drain | unlock => simp [Phase.holdsWrite] at write
    | wrlock =>
      cases a with
      | next =>
        simp only [stepNuke, Option.map_if]
        rfl
      | _ => rfl
    | freeBuffer | destroy | freeQueue => cases a <;> rfl

/-- The discipline of the locks in one state. -/
structure Disciplined (s : State T α) : Prop where
  /-- No thread holds both locks. -/
  apart : ∀ u, s.HoldsRwlock u → ¬s.HoldsCondMutex u
  /-- What a thread does without `rwlock` does not depend on the data of the queue, and leaves
  it alone. -/
  reads : ∀ u, ¬s.HoldsRwlock u → ∀ a other,
    step { s with queue := other } u a =
      (step s u a).map fun s' => { s' with queue := other }
  /-- A thread that changes the data of the queue holds `rwlock` exclusively. -/
  writes : ∀ u a s', step s u a = some s' → s'.queue ≠ s.queue →
    s.writer = some u ∧ s.readers = ∅
  /-- A thread whose calls have all returned holds neither lock. -/
  returned : ∀ u, s.phase u = .idle → ¬s.HoldsRwlock u ∧ ¬s.HoldsCondMutex u
  /-- While a call has not returned, a thread whose call has not returned has a step. -/
  progress : ∀ u, s.phase u ≠ .idle → ∃ v, s.phase v ≠ .idle ∧ Enabled s v

/-- The discipline follows from the agreement of the locks with the places of the threads. -/
theorem Locked.disciplined (locked : Locked s) : Disciplined s where
  apart u rwlock condMutex := by
    have outside := Phase.apart _ ((locked.rwlock u).mp rwlock)
    have inside := (locked.condMutex u).mp condMutex
    simp [outside] at inside
  reads u outside a other := by
    have place := mt (locked.rwlock u).mpr outside
    exact step_blind (by simpa using place) a other
  writes u a s' taken changed := by
    have inside := (move_writes (step_move taken)).resolve_left changed
    have writer : s.writer = some u := (locked.writer u).mpr inside
    exact ⟨writer, locked.exclusive (by simp [writer])⟩
  returned u idle := by
    have nothing : ¬(s.phase u).holds = true := by simp [idle]
    exact not_or.mp (mt (locked.holds u).mpr nothing)
  progress _ busy := some_enabled locked busy

/-- In every reachable state of every run of adds, pops and status calls, by any threads in any
interleaving and with any outcomes of the waits, the locks are used with discipline. -/
theorem lock_discipline {q : Queue α}
    (reached : Reachable q (fun _ label => withoutNuke label = true) s) : Disciplined s :=
  (reachable_locked reached).disciplined

/-- One thread has taken the write lock of an add, and another is about to read the size. -/
def addAndSize : List (Label Bool Nat) :=
  [(true, .call true (.add (some 7))), (false, .call true (.status .getSize)), (true, .next)]

/-- After the run the first thread is the writer, the second one cannot go on, and the
discipline holds. -/
theorem lock_discipline_addAndSize :
    ∃ s, runGuarded next (fun _ label => withoutNuke label) (start Bool (fresh 1)) addAndSize =
        some s ∧
      s.writer = some true ∧ step s false .next = none ∧ Disciplined s := by
  refine ⟨_, rfl, rfl, rfl, ?_⟩
  exact lock_discipline (q := fresh 1) (reach_of_runGuarded addAndSize (.start rfl) rfl)

end SpaceCaptain.GenericQueue
