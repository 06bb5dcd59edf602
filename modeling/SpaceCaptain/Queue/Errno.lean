import Mathlib.Logic.Function.Basic
import SpaceCaptain.Library.Heap
import SpaceCaptain.Library.Trace
import SpaceCaptain.Queue.Threads

/-!
# The error code of a thread

`queue_errno` is thread-local and shared by all queues, so this module runs every public
operation of `generic_queue.c`, on any number of queues, with what it does to the variable. A
call is entered, makes its test and update under the write lock or its read under the read
lock, and may sleep in between; the steps of different threads interleave. An operation on a
freed queue is undefined and has no step.

`Reports` says that an operation leaves its own outcome in the variable of its thread. Every
operation but `sc_generic_queue_nuke_with_cleanup` resets the variable first; that one leaves
what an earlier operation stored, and the runs in which all operations report are those in which
it finds its own outcome there.
-/
namespace SpaceCaptain.GenericQueue

open SpaceCaptain.Library

variable {T α : Type*}

/-- A public operation with its arguments other than the queue, and with the outcomes of the
allocator and of `pthread_rwlock_destroy`. -/
inductive Request (α : Type*) where
  | init (capacity : Nat) (env : InitEnv)
  | nuke (destroyed : Bool)
  | nukeWithCleanup (cleanup destroyed : Bool)
  | add (item : Option α)
  | pop (out : Option (Option α))
  | tryAdd (item : Option α)
  | tryPop (out : Option (Option α))
  | status (c : StatusCall)
  deriving DecidableEq, Repr

/-- What an operation hands back. -/
inductive Answer (α : Type*) where
  /-- The queue returned by `sc_generic_queue_init`; `none` is NULL. -/
  | queue (handle : Option Nat)
  /-- The reply of a call; `sc_generic_queue_nuke` returns a code too. -/
  | reply (r : Reply α)
  /-- Nothing; the items were handed to `cleanup_fn` in this order. -/
  | cleaned (items : List (Option α))
  deriving DecidableEq, Repr

/-- The drain loop of `nuke_with_cleanup` on a queue of the given size: the items in the order in
which the loop takes them. -/
def Queue.drain (q : Queue α) : Nat → List (Option α)
  | 0 => []
  | left + 1 => q.front :: q.dequeue.drain left

namespace Request

/-- The add or pop of a request with no NULL argument. -/
def opCall : Request α → Option (OpCall α)
  | .add (some item) => some (.add item)
  | .tryAdd (some item) => some (.tryAdd item)
  | .pop (some _) => some .pop
  | .tryPop (some _) => some .tryPop
  | _ => none

/-- The NULL checks of an operation on a queue, apart from the one of the queue. -/
def valid : Request α → Bool
  | .add item | .tryAdd item => item.isSome
  | .pop out | .tryPop out => out.isSome
  | _ => true

/-- What a call with a NULL argument hands back. -/
def onNull : Request α → Answer α
  | .init _ _ => .queue none
  | .nuke _ | .add _ | .tryAdd _ => .reply (.code .errNull)
  | .nukeWithCleanup _ _ => .cleaned []
  | .pop out | .tryPop out => .reply (.popped .errNull out)
  | .status c => .reply c.onNull

/-- The operation begins with `queue_errno = SC_GENERIC_QUEUE_SUCCESS`. -/
def resets : Request α → Bool
  | .nukeWithCleanup _ _ => false
  | _ => true

end Request

/-- A thread inside an operation on a queue. -/
structure Running (α : Type*) where
  /-- The queue. -/
  handle : Nat
  /-- The operation. -/
  request : Request α
  /-- The thread is in a timed wait. -/
  waiting : Bool
  deriving DecidableEq, Repr

/-- All queues and all threads. -/
structure Process (T α : Type*) where
  /-- The queues created so far. -/
  queues : Heap (Queue α)
  /-- The thread-local `queue_errno`. -/
  errno : T → RetVal
  /-- What each thread is doing. -/
  running : T → Option (Running α)

/-- An operation that came back. -/
structure Completion (α : Type*) where
  /-- Whether the queue argument was not NULL. -/
  onQueue : Bool
  /-- The operation. -/
  request : Request α
  /-- What it handed back. -/
  answer : Answer α

/-- The steps of a thread. -/
inductive ErrnoAct (α : Type*) where
  /-- Enter an operation; the queue is `none` for NULL. -/
  | enter (handle : Option Nat) (request : Request α)
  /-- The section under the lock, or the destruction. -/
  | run
  /-- The timed wait ends. -/
  | wake (result : WaitResult)
  /-- `sc_generic_queue_clear_error`. -/
  | clearError
  deriving DecidableEq, Repr

/-- `sc_generic_queue_get_error` in a thread. -/
def Process.getError (s : Process T α) (t : T) : RetVal := s.errno t

section Step

variable [DecidableEq T]

namespace Process

/-- Store an error code in the variable of a thread. -/
def setErrno (s : Process T α) (t : T) (e : RetVal) : Process T α :=
  { s with errno := Function.update s.errno t e }

/-- Change what a thread is doing. -/
def goto (s : Process T α) (t : T) (r : Option (Running α)) : Process T α :=
  { s with running := Function.update s.running t r }

end Process

/-- Enter an operation. `init` touches no shared data and is one step. -/
def enterRequest (p : Platform) (s : Process T α) (t : T) (handle : Option Nat)
    (request : Request α) : Process T α × Option (Completion α) :=
  let s := if request.resets then s.setErrno t .success else s
  match request, handle with
  | .init capacity env, _ =>
    match init p capacity env with
    | .error e => (s.setErrno t e, some ⟨handle.isSome, request, .queue none⟩)
    | .ok q =>
      let (queues, fresh) := s.queues.alloc q
      ({ s with queues }, some ⟨handle.isSome, request, .queue (some fresh)⟩)
  | _, some h =>
    if request.valid then (s.goto t (some ⟨h, request, false⟩), none)
    else (s.setErrno t .errNull, some ⟨true, request, request.onNull⟩)
  | _, none => (s.setErrno t .errNull, some ⟨false, request, request.onNull⟩)

/-- Leave an operation on a queue. -/
def leave (s : Process T α) (t : T) (request : Request α) (answer : Answer α) :
    Process T α × Option (Completion α) :=
  (s.goto t none, some ⟨true, request, answer⟩)

/-- The section of an operation under the lock, on the data of its queue. -/
def runRequest (s : Process T α) (t : T) (h : Nat) (q : Queue α) (request : Request α) :
    Option (Process T α × Option (Completion α)) :=
  match request.opCall, request with
  | some c, _ =>
    if c.refused q then
      if c.blocking then some (s.goto t (some ⟨h, request, true⟩), none)
      else some (leave (s.setErrno t c.refusal) t request (.reply (c.reply c.refusal none)))
    else
      let (q', out, _) := c.enact q none
      match s.queues.store h q' with
      | .ok queues => some (leave { s with queues } t request (.reply (c.reply .success out)))
      | .error _ => none
  | none, .status c => some (leave s t request (.reply (c.read q)))
  | none, .nuke destroyed =>
    let s := if destroyed then s else s.setErrno t .errThread
    match s.queues.free h with
    | .ok queues => some (leave { s with queues } t request (.reply (.code (s.errno t))))
    | .error _ => none
  | none, .nukeWithCleanup cleanup _ =>
    match s.queues.free h with
    | .ok queues =>
      some (leave { s with queues } t request
        (.cleaned (if cleanup then q.drain q.size else [])))
    | .error _ => none
  | none, _ => none

/-- The end of the timed wait of an add or a pop. -/
def wakeRequest (s : Process T α) (t : T) (h : Nat) (request : Request α) (c : OpCall α) :
    WaitResult → Process T α × Option (Completion α)
  | .woken => (s.goto t (some ⟨h, request, false⟩), none)
  | .timedOut => leave (s.setErrno t .errTimeout) t request (.reply (c.reply .errTimeout none))
  | .failed _ => leave (s.setErrno t .errThread) t request (.reply (c.reply .errThread none))

/-- One step of one thread, with the operation that came back in it. -/
def errnoStep (p : Platform) (s : Process T α) :
    T × ErrnoAct α → Option (Process T α × Option (Completion α))
  | (t, .enter handle request) =>
    if (s.running t).isNone then some (enterRequest p s t handle request) else none
  | (t, .clearError) =>
    if (s.running t).isNone then some (s.setErrno t .success, none) else none
  | (t, .run) =>
    match s.running t with
    | some ⟨h, request, false⟩ => (s.queues.get? h).bind fun q => runRequest s t h q request
    | _ => none
  | (t, .wake result) =>
    match s.running t with
    | some ⟨h, request, true⟩ =>
      (s.queues.get? h).bind fun _ =>
        request.opCall.map fun c => wakeRequest s t h request c result
    | _ => none

end Step

/-- The state before any operation: no queues, and the initial value of `queue_errno`. -/
def process (T α : Type*) : Process T α := ⟨Heap.empty, fun _ => .success, fun _ => none⟩

/-- The obstacles in the way of `sc_generic_queue_init`, in the order in which it meets them,
each with the error it stands for. -/
def obstacles (p : Platform) (capacity : Nat) (env : InitEnv) : List (Bool × RetVal) :=
  [(capacity == 0, .errInvalid), (p.maxCapacity < capacity, .errOverflow),
    (!env.queueAllocated, .errMemory), (p.mulOverflow capacity p.pointerSize, .errOverflow),
    (!env.bufferAllocated, .errMemory), (!env.rwlockInit, .errThread),
    (!env.condMutexInit, .errThread), (!env.condNotEmptyInit, .errThread),
    (!env.condNotFullInit, .errThread)]

/-- The error of an operation that returns no code, or success. -/
def Request.hit (p : Platform) (onQueue : Bool) : Request α → RetVal
  | .init capacity env =>
    match (obstacles p capacity env).find? (·.1) with
    | some (_, e) => e
    | none => .success
  | .nukeWithCleanup _ destroyed =>
    if !onQueue then .errNull else if destroyed then .success else .errThread
  | _ => if onQueue then .success else .errNull

/-- The code an answer carries. -/
def Answer.code : Answer α → Option RetVal
  | .reply r => r.ret
  | .queue _ | .cleaned _ => none

/-- The outcome of an operation: the code it returned, or else the error it hit. -/
def Completion.outcome (p : Platform) (c : Completion α) : RetVal :=
  c.answer.code.getD (c.request.hit p c.onQueue)

/-- The events of the runs. -/
abbrev ErrnoEvent (T α : Type*) := Event (Process T α) (T × ErrnoAct α) (Option (Completion α))

/-- An operation that came back left its outcome in the variable of its thread, and no step
touched the variable of another thread. -/
structure Reports (p : Platform) (e : ErrnoEvent T α) : Prop where
  /-- The calling thread reads the outcome. -/
  own : ∀ c, e.output = some c → e.after.getError e.label.1 = c.outcome p
  /-- The other threads read what they read before. -/
  others : ∀ u, u ≠ e.label.1 → e.after.getError u = e.before.getError u

/-- A thread that destroys a queue by `nuke_with_cleanup` has the outcome of the destruction
stored already. -/
def Prepared (e : ErrnoEvent T α) : Prop :=
  ∀ h cleanup destroyed, e.label.2 = .run →
    e.before.running e.label.1 = some ⟨h, .nukeWithCleanup cleanup destroyed, false⟩ →
    e.before.getError e.label.1 = if destroyed then .success else .errThread

/-- The error code left by `sc_generic_queue_init` is the one of the first obstacle. -/
theorem init_hit (p : Platform) (capacity : Nat) (env : InitEnv) (onQueue : Bool) :
    (Request.init capacity env : Request α).hit p onQueue =
      match (init p capacity env : Except RetVal (Queue α)) with
      | .error e => e
      | .ok _ => .success := by
  unfold Request.hit init
  by_cases zero : capacity = 0
  · simp [obstacles, zero]
  by_cases large : p.maxCapacity < capacity
  · simp [obstacles, zero, large]
  cases queue : env.queueAllocated
  · simp [obstacles, zero, large, queue]
  cases overflow : p.mulOverflow capacity p.pointerSize
  case true => simp [obstacles, zero, large, queue, overflow]
  cases buffer : env.bufferAllocated
  · simp [obstacles, zero, large, queue, overflow, buffer]
  -- the four initialisers fail with the same code, whichever comes first
  cases rwlock : env.rwlockInit <;> cases mutex : env.condMutexInit <;>
    cases notEmpty : env.condNotEmptyInit <;> cases notFull : env.condNotFullInit <;>
    simp [obstacles, zero, large, queue, overflow, buffer, rwlock, mutex, notEmpty, notFull]

/-- Nothing of another thread has changed. -/
def Process.Frame (s s' : Process T α) (t : T) : Prop :=
  ∀ u, u ≠ t → s'.errno u = s.errno u ∧ s'.running u = s.running u

/-- A thread inside an operation that resets the variable has success in it. -/
def Process.Reset (s : Process T α) (t : T) : Prop :=
  ∀ r, s.running t = some r → r.request.resets = true → s.errno t = .success

/-- What two changes in a row leave alone. -/
theorem Process.Frame.trans {s₁ s₂ s₃ : Process T α} {t : T} (first : s₁.Frame s₂ t)
    (second : s₂.Frame s₃ t) : s₁.Frame s₃ t := by
  intro u other
  have ⟨errno₁, running₁⟩ := first u other
  have ⟨errno₂, running₂⟩ := second u other
  exact ⟨errno₂.trans errno₁, running₂.trans running₁⟩

/-- What a step of a thread has done when it is no destruction by `nuke_with_cleanup`: it left the
other threads alone, and the thread has success or its outcome stored. -/
structure Sound (p : Platform) (s : Process T α) (t : T)
    (result : Process T α × Option (Completion α)) : Prop where
  /-- The other threads are as before. -/
  frame : s.Frame result.1 t
  /-- Inside an operation that resets the variable the thread has success in it. -/
  reset : result.1.Reset t
  /-- An operation that came back left its outcome. -/
  own : ∀ c, result.2 = some c → result.1.errno t = c.outcome p

/-- An operation that was refused at its entry, or needed no lock, left its outcome. -/
theorem refused_sound {p : Platform} {s s₁ : Process T α} {t : T} {c : Completion α}
    (frame : s.Frame s₁ t) (outside : s₁.running t = none) (own : s₁.errno t = c.outcome p) :
    Sound p s t (s₁, some c) where
  frame := frame
  reset r inside := by
    have nowhere : s₁.running t = some r := inside
    simp [outside] at nowhere
  own c' back := by
    obtain rfl := Option.some.inj back
    exact own

/-- The outcome of a refused operation is `ERR_NULL`. -/
theorem onNull_outcome (p : Platform) (request : Request α) (onQueue : Bool)
    (onThis : ∀ capacity env, request ≠ .init capacity env)
    (refused : onQueue = true → request.valid = false) :
    (⟨onQueue, request, request.onNull⟩ : Completion α).outcome p = .errNull := by
  cases request with
  | init capacity env => exact absurd rfl (onThis capacity env)
  | nuke | add | pop | tryAdd | tryPop => rfl
  | nukeWithCleanup =>
    have null : onQueue = false := by simpa [Request.valid] using refused
    simp [Completion.outcome, Request.onNull, Answer.code, Request.hit, null]
  | status c =>
    have null : onQueue = false := by simpa [Request.valid] using refused
    cases c <;> simp [Completion.outcome, Request.onNull, Answer.code, Request.hit, null,
      StatusCall.onNull, Reply.ret]

section Steps

variable [DecidableEq T] {p : Platform} {s : Process T α} {t : T}

namespace Process

@[simp] theorem setErrno_self (s : Process T α) (t : T) (e : RetVal) :
    (s.setErrno t e).errno t = e := by
  simp [setErrno]

@[simp] theorem goto_self (s : Process T α) (t : T) (r : Option (Running α)) :
    (s.goto t r).running t = r := by
  simp [goto]

/-- Storing an error code is the thread's own business. -/
theorem setErrno_frame (s : Process T α) (t : T) (e : RetVal) : s.Frame (s.setErrno t e) t :=
  fun _ other => ⟨Function.update_of_ne other .., rfl⟩

/-- Moving on is the thread's own business. -/
theorem goto_frame (s : Process T α) (t : T) (r : Option (Running α)) : s.Frame (s.goto t r) t :=
  fun _ other => ⟨rfl, Function.update_of_ne other ..⟩

end Process

/-- An operation on a queue is left with its outcome stored. -/
theorem leave_sound {m : Process T α} {request : Request α} {answer : Answer α}
    (frame : s.Frame m t)
    (own : m.errno t = (⟨true, request, answer⟩ : Completion α).outcome p) :
    Sound p s t (leave m t request answer) where
  frame := frame.trans (m.goto_frame t none)
  reset r inside := by simp [leave] at inside
  own c back := by
    obtain rfl := Option.some.inj back
    exact own

/-- A thread goes on inside its operation. -/
theorem goto_sound {s₁ : Process T α} {r : Running α} (frame : s.Frame s₁ t)
    (reset : r.request.resets = true → s₁.errno t = .success) :
    Sound p s t (s₁.goto t (some r), none) where
  frame := frame.trans (s₁.goto_frame t _)
  reset r' inside := by
    obtain rfl : r = r' := by simpa using inside
    exact reset
  own c back := by contradiction

/-- The first statement of an operation. -/
theorem first_frame (s : Process T α) (t : T) (request : Request α) :
    s.Frame (if request.resets then s.setErrno t .success else s) t := by
  split
  · exact s.setErrno_frame t .success
  · exact fun _ _ => ⟨rfl, rfl⟩

/-- Entering an operation is sound, whatever its arguments. -/
theorem enter_sound (outside : s.running t = none) (handle : Option Nat) (request : Request α) :
    Sound p s t (enterRequest p s t handle request) := by
  unfold enterRequest
  have frame := first_frame s t request
  generalize first : (if request.resets then s.setErrno t .success else s) = s₁ at frame
  have outside₁ : s₁.running t = none := by
    rw [← first]
    split <;> exact outside
  have reset : request.resets = true → s₁.errno t = .success := by
    rintro resets
    simp [← first, resets]
  split
  · rename_i capacity env
    have hit := init_hit (α := α) p capacity env handle.isSome
    split
    · rename_i e failed
      refine refused_sound (frame.trans (s₁.setErrno_frame t e)) outside₁ ?_
      simp [Completion.outcome, Answer.code, hit, failed]
    · rename_i q created
      refine refused_sound frame outside₁ ?_
      rw [reset rfl]
      simp [Completion.outcome, Answer.code, hit, created]
  · rename_i h _ onThis
    split
    · exact goto_sound frame reset
    · rename_i invalid
      refine refused_sound (frame.trans (s₁.setErrno_frame t .errNull)) outside₁ ?_
      rw [onNull_outcome p request true onThis fun _ => by simpa using invalid]
      simp
  · rename_i onThis
    refine refused_sound (frame.trans (s₁.setErrno_frame t .errNull)) outside₁ ?_
    rw [onNull_outcome p request false onThis fun null => by contradiction]
    simp

/-- The code given to a reply is the code it carries. -/
theorem OpCall.reply_ret (c : OpCall α) (code : RetVal) (out : Option α) :
    (c.reply code out).ret = some code := by
  cases c <;> rfl

/-- The outcome of an add or a pop is its code. -/
theorem reply_outcome (p : Platform) (request : Request α) (c : OpCall α) (code : RetVal)
    (out : Option α) :
    (⟨true, request, .reply (c.reply code out)⟩ : Completion α).outcome p = code := by
  simp [Completion.outcome, Answer.code, OpCall.reply_ret]

/-- The end of a wait is sound. -/
theorem wake_sound {h : Nat} {request : Request α} {c : OpCall α} {waiting : Bool}
    (reset : s.Reset t) (inside : s.running t = some ⟨h, request, waiting⟩)
    (result : WaitResult) : Sound p s t (wakeRequest s t h request c result) := by
  cases result with
  | woken =>
    have same : s.Frame s t := fun _ _ => ⟨rfl, rfl⟩
    exact goto_sound same fun resets => reset ⟨h, request, waiting⟩ inside resets
  | timedOut | failed =>
    refine leave_sound (s.setErrno_frame t _) ?_
    rw [reply_outcome]
    exact s.setErrno_self t _

/-- The section of an operation under the lock is sound, unless it is a destruction by
`nuke_with_cleanup`. -/
theorem run_sound {h : Nat} {q : Queue α} {request : Request α} {waiting : Bool}
    {result : Process T α × Option (Completion α)} (reset : s.Reset t)
    (inside : s.running t = some ⟨h, request, waiting⟩) (resets : request.resets = true)
    (taken : runRequest s t h q request = some result) : Sound p s t result := by
  have success : s.errno t = .success := reset _ inside resets
  have same : s.Frame s t := fun _ _ => ⟨rfl, rfl⟩
  unfold runRequest at taken
  split at taken
  · rename_i c _ op
    split at taken
    · split at taken
      · obtain rfl := Option.some.inj taken
        exact goto_sound same fun _ => success
      · obtain rfl := Option.some.inj taken
        refine leave_sound (s.setErrno_frame t _) ?_
        rw [reply_outcome]
        exact s.setErrno_self t _
    · split at taken
      split at taken
      · rename_i queues _
        obtain rfl := Option.some.inj taken
        refine leave_sound (m := { s with queues }) same ?_
        rw [reply_outcome]
        exact success
      · contradiction
  · rename_i c _
    obtain rfl := Option.some.inj taken
    refine leave_sound same ?_
    cases c <;> exact success
  · rename_i destroyed _
    have frame : s.Frame (if destroyed then s else s.setErrno t .errThread) t := by
      split
      · exact same
      · exact s.setErrno_frame t _
    generalize (if destroyed then s else s.setErrno t .errThread) = s₁ at taken frame
    simp only at taken
    split at taken
    · rename_i queues _
      obtain rfl := Option.some.inj taken
      exact leave_sound (m := { s₁ with queues }) frame rfl
    · contradiction
  · contradiction
  · contradiction

/-- A destruction by `nuke_with_cleanup` comes back and leaves the variable alone. -/
theorem run_nukeWithCleanup {h : Nat} {q : Queue α} {cleanup destroyed : Bool}
    {result : Process T α × Option (Completion α)}
    (taken : runRequest s t h q (.nukeWithCleanup cleanup destroyed) = some result) :
    s.Frame result.1 t ∧ result.1.Reset t ∧ result.1.errno t = s.errno t ∧
      ∃ items, result.2 = some ⟨true, .nukeWithCleanup cleanup destroyed, .cleaned items⟩ := by
  simp only [runRequest, Request.opCall] at taken
  split at taken
  · obtain rfl := Option.some.inj taken
    refine ⟨s.goto_frame t none, fun r inside => ?_, rfl, _, rfl⟩
    simp [leave] at inside
  · contradiction

/-- A step that leaves the other threads alone keeps what is known of the variables. -/
theorem Process.Frame.resets {s' : Process T α} (frame : s.Frame s' t) (own : s'.Reset t)
    (before : ∀ u, s.Reset u) (u : T) : s'.Reset u := by
  by_cases same : u = t
  · subst same
    exact own
  · have ⟨errno, running⟩ := frame u same
    intro r inside resets
    rw [errno]
    exact before u r (running ▸ inside) resets

/-- The property of one step, and when it holds. -/
def Exact (p : Platform) (e : ErrnoEvent T α) : Prop :=
  (∀ u, e.after.Reset u) ∧ (Reports p e ↔ Prepared e)

/-- A sound step that destroys no queue by `nuke_with_cleanup` reports. -/
theorem Sound.exact {e : ErrnoEvent T α} (before : ∀ u, e.before.Reset u)
    (sound : Sound p e.before e.label.1 (e.after, e.output))
    (elsewhere : ∀ h cleanup destroyed, e.label.2 = .run →
      e.before.running e.label.1 ≠ some ⟨h, .nukeWithCleanup cleanup destroyed, false⟩) :
    Exact p e := by
  have reports : Reports p e := ⟨sound.own, fun u other => (sound.frame u other).1⟩
  have prepared : Prepared e := fun h cleanup destroyed acts inside =>
    absurd inside (elsewhere h cleanup destroyed acts)
  exact ⟨sound.frame.resets sound.reset before, iff_of_true reports prepared⟩

/-- A destruction by `nuke_with_cleanup` reports when its outcome was stored before. -/
theorem exact_nukeWithCleanup {e : ErrnoEvent T α} {h : Nat} {q : Queue α}
    {cleanup destroyed : Bool} (before : ∀ u, e.before.Reset u) (acts : e.label.2 = .run)
    (inside : e.before.running e.label.1 = some ⟨h, .nukeWithCleanup cleanup destroyed, false⟩)
    (taken : runRequest e.before e.label.1 h q (.nukeWithCleanup cleanup destroyed) =
      some (e.after, e.output)) : Exact p e := by
  obtain ⟨frame, reset, same, items, back⟩ := run_nukeWithCleanup taken
  have outcome : (⟨true, .nukeWithCleanup cleanup destroyed, .cleaned items⟩ :
      Completion α).outcome p = if destroyed then .success else .errThread := rfl
  refine ⟨frame.resets reset before, fun reports h' cleanup' destroyed' _ inside' => ?_,
    fun prepared => ⟨fun c came => ?_, fun u other => (frame u other).1⟩⟩
  · obtain ⟨-, -, rfl⟩ : h = h' ∧ cleanup = cleanup' ∧ destroyed = destroyed' := by
      simpa [inside] using inside'
    rw [← outcome, ← reports.own _ back]
    exact same.symm
  · obtain rfl : _ = c := Option.some.inj (back.symm.trans came)
    rw [outcome, ← prepared h cleanup destroyed acts inside]
    exact same

/-- Every step reports exactly when a destruction by `nuke_with_cleanup` is prepared. -/
theorem step_exact (e : ErrnoEvent T α) (before : ∀ u, e.before.Reset u)
    (taken : errnoStep p e.before e.label = some (e.after, e.output)) : Exact p e := by
  obtain ⟨s, ⟨t, act⟩, s', output⟩ := e
  cases act with
  | enter handle request =>
    simp only [errnoStep] at taken
    split at taken
    · rename_i outside
      have sound := enter_sound (p := p) (Option.isNone_iff_eq_none.mp outside) handle request
      rw [Option.some.inj taken] at sound
      exact sound.exact before fun _ _ _ acts => by contradiction
    · contradiction
  | clearError =>
    simp only [errnoStep] at taken
    split at taken
    · rename_i outside
      have sound : Sound p s t (s.setErrno t .success, none) :=
        ⟨s.setErrno_frame t _, fun _ _ _ => s.setErrno_self t _, fun c back => by contradiction⟩
      rw [Option.some.inj taken] at sound
      exact sound.exact before fun _ _ _ acts => by contradiction
    · contradiction
  | run =>
    simp only [errnoStep] at taken
    split at taken
    · rename_i h request inside
      obtain ⟨q, -, ran⟩ := Option.bind_eq_some_iff.mp taken
      by_cases nuke : ∃ cleanup destroyed, request = .nukeWithCleanup cleanup destroyed
      · obtain ⟨cleanup, destroyed, rfl⟩ := nuke
        exact exact_nukeWithCleanup before rfl inside ran
      · have resets : request.resets = true := by
          cases request <;> first | rfl | exact absurd ⟨_, _, rfl⟩ nuke
        refine (run_sound (before t) inside resets ran).exact before fun h' c d _ again => ?_
        exact nuke ⟨c, d, by simpa using congrArg (·.map (·.request)) (inside.symm.trans again)⟩
    · contradiction
  | wake result =>
    simp only [errnoStep] at taken
    split at taken
    · rename_i h request inside
      obtain ⟨q, -, woke⟩ := Option.bind_eq_some_iff.mp taken
      obtain ⟨c, op, ended⟩ := Option.map_eq_some_iff.mp woke
      have sound := wake_sound (p := p) (c := c) (before t) inside result
      rw [ended] at sound
      exact sound.exact before fun _ _ _ acts => by contradiction
    · contradiction

/-- In a sequence of operations by any threads on any queues, every operation leaves its own
outcome in the variable of its thread, and in no other, exactly when every thread that destroys
a queue by `nuke_with_cleanup` has the outcome of that operation stored already. -/
theorem errno_reports {labels : List (T × ErrnoAct α)} {events : List (ErrnoEvent T α)}
    (executed : trace (errnoStep p) (process T α) labels = some events) :
    (∀ e ∈ events, Reports p e) ↔ ∀ e ∈ events, Prepared e := by
  have base : ∀ u, (process T α).Reset u := fun _ _ _ _ => rfl
  exact trace_iff (I := fun s => ∀ u, s.Reset u) step_exact base executed

end Steps

/-- Every allocation and initialiser succeeds. -/
def plentiful : InitEnv := ⟨true, true, true, true, true, true⟩

/-- A queue is created, and destroyed by `nuke_with_cleanup`. -/
def createAndNuke : List (Unit × ErrnoAct Nat) :=
  [((), .enter none (.init 1 plentiful)), ((), .enter (some 0) (.nukeWithCleanup true true)),
    ((), .run)]

/-- Nothing failed before the destruction, and every operation reports. -/
theorem errno_reports_createAndNuke :
    ∃ events, trace (errnoStep ⟨64, 8⟩) (process Unit Nat) createAndNuke = some events ∧
      events.length = 3 ∧ ∀ e ∈ events, Reports ⟨64, 8⟩ e := by
  have executed : trace (errnoStep ⟨64, 8⟩) (process Unit Nat) createAndNuke = some _ := rfl
  refine ⟨_, executed, rfl, (errno_reports executed).mpr ?_⟩
  simp only [List.forall_mem_cons, List.not_mem_nil, false_implies, implies_true, and_true]
  refine ⟨fun _ _ _ acts => ?_, fun _ _ _ acts => ?_, fun h cleanup destroyed _ inside => ?_⟩
  · contradiction
  · contradiction
  · obtain ⟨-, -, rfl⟩ : 0 = h ∧ true = cleanup ∧ true = destroyed := by
      simpa using Option.some.inj inside
    rfl

/-- The same with an add of NULL before the destruction. -/
def failThenNuke : List (Unit × ErrnoAct Nat) :=
  [((), .enter none (.init 1 plentiful)), ((), .enter (some 0) (.add none)),
    ((), .enter (some 0) (.nukeWithCleanup true true)), ((), .run)]

/-- The destruction succeeds, but its thread still reads the error of the add. -/
theorem stale_error :
    ∃ events, trace (errnoStep ⟨64, 8⟩) (process Unit Nat) failThenNuke = some events ∧
      ¬∀ e ∈ events, Reports ⟨64, 8⟩ e := by
  refine ⟨_, rfl, fun all => ?_⟩
  have last := (all _ (.tail _ (.tail _ (.tail _ (.head _))))).own _ rfl
  exact absurd last (by decide)

end SpaceCaptain.GenericQueue
