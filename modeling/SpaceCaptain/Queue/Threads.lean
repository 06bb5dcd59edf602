import Mathlib.Data.Fintype.Basic
import Mathlib.Data.Finset.Basic
import Mathlib.Logic.Function.Basic
import SpaceCaptain.Library.Reach
import SpaceCaptain.Queue.Generic

/-!
# The generic queue under threads

Any finite number of threads execute calls of the public interface on one queue. A step is
one atomic action of one thread: the entry of a call, a lock or unlock of `rwlock` or of
`cond_mutex`, the statements between two of those, one signal, the entry of a timed wait
(which releases `cond_mutex`), or its end. The statements under the write lock of an add or
a pop, which are the test and the buffer update, are one step, because no other operation
gets the lock between them. Only a destruction, which has given the lock back, can free the
buffer there; that is counted as a free before the step, after which the step uses a freed
buffer all the same. A timed wait may end at any moment with any result, whether it was
signalled or not: a wait that times out may consume a concurrent signal.

`history` and the `effect` of a thread record what the critical sections did, `returned` what
the calls gave back, `deadlines` the absolute time passed to each wait of a call, and `stale`
that a freed part of the queue was accessed; no step reads them.
-/
namespace SpaceCaptain.GenericQueue

variable {T α : Type*}

/-- `SC_GENERIC_QUEUE_ADD_TIMEOUT`, in seconds. -/
def addTimeout : Nat := 2

/-- `SC_GENERIC_QUEUE_POP_TIMEOUT`, in seconds. -/
def popTimeout : Nat := 2

/-- `get_absolute_timeout` — the clock reading plus a relative timeout. -/
def getAbsoluteTimeout (now timeoutSeconds : Nat) : Nat := now + timeoutSeconds

/-- The two condition variables. -/
inductive Cond where
  | notEmpty
  | notFull
  deriving DecidableEq, Repr

/-- An operation whose arguments passed the NULL checks. -/
inductive OpCall (α : Type*) where
  | add (item : α)
  | pop
  | tryAdd (item : α)
  | tryPop
  deriving DecidableEq, Repr

/-- The next statement of an add or a pop. The flag of `wrlock` and `body` is true when the
lock is taken again after a wait. -/
inductive Stage where
  /-- `pthread_rwlock_wrlock`. -/
  | wrlock (again : Bool)
  /-- The test and, when it lets the operation through, the buffer update. -/
  | body (again : Bool)
  /-- The unlock of a refused call that returns. -/
  | unlockRefused
  /-- The unlock of a refused call that will wait. -/
  | unlockBlocked
  /-- `pthread_mutex_lock(&q->cond_mutex)` before the wait. -/
  | lockCond
  /-- `get_absolute_timeout`. -/
  | deadline
  /-- The entry of `pthread_cond_timedwait`. -/
  | wait
  /-- Asleep in `pthread_cond_timedwait`. -/
  | asleep (notified : Bool)
  /-- The wait is over and has to take `cond_mutex` again. -/
  | relock (result : WaitResult)
  /-- `pthread_mutex_unlock(&q->cond_mutex)` after the wait. -/
  | unlockCond (result : WaitResult)
  /-- The two tests of the wait's result. -/
  | resume (result : WaitResult)
  /-- The unlock after the buffer update. -/
  | unlockDone
  /-- `pthread_mutex_lock(&q->cond_mutex)` before the signal. -/
  | lockSignal
  /-- `pthread_cond_signal`. -/
  | signal
  /-- `pthread_mutex_unlock(&q->cond_mutex)` after the signal. -/
  | unlockSignal
  deriving DecidableEq, Repr

/-- What a critical section did to the items. -/
inductive Effect (α : Type*) where
  /-- An add stored the item. -/
  | put (item : α)
  /-- A pop took the item. -/
  | got (item : α)
  /-- The drain loop took the item; the flag says whether `cleanup_fn` was called with it. -/
  | drained (item : α) (cleaned : Bool)
  deriving DecidableEq, Repr

namespace OpCall

/-- The test under the write lock: the queue is full for an add, empty for a pop. -/
def refused (c : OpCall α) (q : Queue α) : Bool :=
  match c with
  | .add _ | .tryAdd _ => q.full
  | .pop | .tryPop => q.empty

/-- Whether a refused operation waits instead of returning. -/
def blocking : OpCall α → Bool
  | .add _ | .pop => true
  | .tryAdd _ | .tryPop => false

/-- The condition variable a refused operation sleeps on. -/
def waitsFor : OpCall α → Cond
  | .add _ | .tryAdd _ => .notFull
  | .pop | .tryPop => .notEmpty

/-- The condition variable a successful operation signals. -/
def announces : OpCall α → Cond
  | .add _ | .tryAdd _ => .notEmpty
  | .pop | .tryPop => .notFull

/-- The code of a refused operation that does not wait. -/
def refusal : OpCall α → RetVal
  | .add _ | .tryAdd _ => .errFull
  | .pop | .tryPop => .errEmpty

/-- The relative timeout of a blocked operation. -/
def timeout : OpCall α → Nat
  | .add _ | .tryAdd _ => addTimeout
  | .pop | .tryPop => popTimeout

/-- Where a refused operation goes on: to its wait, or back to its caller. -/
def refusedStage (c : OpCall α) : Stage := if c.blocking then .unlockBlocked else .unlockRefused

/-- What the caller is given: a code, and for a pop the cell behind its output pointer. -/
def reply (c : OpCall α) (ret : RetVal) (out : Option α) : Reply α :=
  match c with
  | .add _ | .tryAdd _ => .code ret
  | .pop | .tryPop => .popped ret (some out)

/-- The buffer update of an operation that was let through: the queue after it, the cell behind
the output pointer, and what happened to which item. -/
def enact (c : OpCall α) (q : Queue α) (out : Option α) : Queue α × Option α × Option (Effect α) :=
  match c with
  | .add item | .tryAdd item => (q.enqueue item, out, some (.put item))
  | .pop | .tryPop => (q.dequeue, q.front, q.front.map .got)

end OpCall

/-- The status calls. -/
inductive StatusCall where
  | isEmpty
  | isFull
  | getSize
  deriving DecidableEq, Repr

/-- What a status call reads under the read lock. -/
def StatusCall.read (c : StatusCall) (q : Queue α) : Reply α :=
  match c with
  | .isEmpty => .flag q.empty
  | .isFull => .flag q.full
  | .getSize => .count q.size

/-- What a status call answers to a NULL queue. -/
def StatusCall.onNull : StatusCall → Reply α
  | .isEmpty | .isFull => .flag false
  | .getSize => .count 0

/-- The next statement of a status call. -/
inductive StatusStage (α : Type*) where
  | rdlock
  | read
  | unlock (answer : Reply α)
  deriving DecidableEq, Repr

/-- The next statement of `sc_generic_queue_nuke_with_cleanup`. -/
inductive NukeStage where
  /-- `pthread_rwlock_wrlock`. -/
  | wrlock
  /-- One test of the drain loop and, while items remain, one turn of it. -/
  | drain
  /-- `pthread_rwlock_unlock`. -/
  | unlock
  /-- `free(q->buffer)`. -/
  | freeBuffer
  /-- The destruction of the lock, the mutex and the two conditions. -/
  | destroy
  /-- `free(q)`. -/
  | freeQueue
  deriving DecidableEq, Repr

/-- Where a thread is. -/
inductive Phase (α : Type*) where
  /-- Between two calls. -/
  | idle
  | op (c : OpCall α) (stage : Stage)
  | status (c : StatusCall) (stage : StatusStage α)
  | nuke (cleanup : Bool) (stage : NukeStage)
  deriving DecidableEq, Repr

/-- The state of one thread. -/
structure Thread (α : Type*) where
  /-- The statement to execute next. -/
  phase : Phase α
  /-- The thread-local `queue_errno`. -/
  errno : RetVal
  /-- The cell behind the output pointer of the current pop. -/
  out : Option α
  /-- What the critical section of the current call did. -/
  effect : Option (Effect α)
  /-- The deadlines the current call has passed to its waits. -/
  deadlines : List Nat
  deriving DecidableEq, Repr

/-- A call that came back: who made it, what it gave, and what it had done. -/
structure Return (T α : Type*) where
  /-- The calling thread. -/
  thread : T
  /-- What the call returned. -/
  reply : Reply α
  /-- What its critical section did. -/
  effect : Option (Effect α)

/-- One queue and all threads. -/
structure State (T α : Type*) where
  /-- The data of the queue. -/
  queue : Queue α
  /-- The thread that holds the rwlock for writing. -/
  writer : Option T
  /-- The threads that hold the rwlock for reading. -/
  readers : Finset T
  /-- The thread that holds `cond_mutex`. -/
  condMutex : Option T
  /-- The threads. -/
  threads : T → Thread α
  /-- The effects of the critical sections, oldest first. -/
  history : List (T × Effect α)
  /-- The calls that returned, oldest first. -/
  returned : List (Return T α)
  /-- `free(q->buffer)` was executed. -/
  bufferFreed : Bool
  /-- `free(q)` was executed. -/
  queueFreed : Bool
  /-- A freed part of the queue was read or written. -/
  stale : Bool

/-- A call of the public interface with its arguments other than the queue pointer. -/
inductive Call (α : Type*) where
  | add (item : Option α)
  | pop (out : Option (Option α))
  | tryAdd (item : Option α)
  | tryPop (out : Option (Option α))
  | status (c : StatusCall)
  | nukeWithCleanup (cleanup : Bool)
  deriving DecidableEq, Repr

/-- The call is `sc_generic_queue_nuke_with_cleanup`. -/
def Call.isNuke : Call α → Bool
  | .nukeWithCleanup _ => true
  | _ => false

/-- The atomic actions of a thread. -/
inductive Act (T α : Type*) where
  /-- Enter a call; the flag is false when the queue pointer is NULL. -/
  | call (valid : Bool) (c : Call α)
  /-- Execute the next statement. -/
  | next
  /-- Read the clock and compute a deadline. -/
  | clock (now : Nat)
  /-- Signal; the target is a thread asleep on the condition, if there is one. -/
  | signal (target : Option T)
  /-- End the timed wait. -/
  | wake (result : WaitResult)
  deriving DecidableEq, Repr

/-- The first statements of a call, up to its first lock: the NULL checks and the reset of
`*item`. The result is the first phase, or the reply of a call refused for a NULL argument. -/
def enter (valid : Bool) : Call α → Phase α ⊕ Reply α
  | .add (some item) =>
    if valid then .inl (.op (.add item) (.wrlock false)) else .inr (.code .errNull)
  | .tryAdd (some item) =>
    if valid then .inl (.op (.tryAdd item) (.wrlock false)) else .inr (.code .errNull)
  | .pop (some out) =>
    if valid then .inl (.op .pop (.wrlock false)) else .inr (.popped .errNull (some out))
  | .tryPop (some out) =>
    if valid then .inl (.op .tryPop (.wrlock false)) else .inr (.popped .errNull (some out))
  | .add none | .tryAdd none => .inr (.code .errNull)
  | .pop none | .tryPop none => .inr (.popped .errNull none)
  | .status c => if valid then .inl (.status c .rdlock) else .inr c.onNull
  | .nukeWithCleanup cleanup =>
    if valid then .inl (.nuke cleanup .wrlock) else .inr (.code .errNull)

section Step

variable [DecidableEq T]

namespace State

/-- Replace the state of one thread. -/
def set (s : State T α) (t : T) (th : Thread α) : State T α :=
  { s with threads := Function.update s.threads t th }

/-- Move one thread to another statement. -/
def goto (s : State T α) (t : T) (phase : Phase α) : State T α :=
  s.set t { s.threads t with phase }

/-- Return from a call, with a new `queue_errno`. -/
def finish (s : State T α) (t : T) (errno : RetVal) (reply : Reply α) : State T α :=
  { s.set t { s.threads t with phase := .idle, errno } with
    returned := s.returned ++ [⟨t, reply, (s.threads t).effect⟩] }

/-- The rwlock is free. -/
def unlocked (s : State T α) : Bool := s.writer.isNone && decide (s.readers = ∅)

end State

/-- A thread asleep on a condition that no signal has reached. -/
def Phase.sleepsOn (c : Cond) : Phase α → Bool
  | .op o (.asleep false) => o.waitsFor == c
  | _ => false

/-- The statements of an operation under the write lock: the test, which sends a refused
operation to its unlock, and the buffer update. -/
def body (s : State T α) (t : T) (c : OpCall α) : State T α :=
  if c.refused s.queue then
    { s with stale := s.stale || s.queueFreed }.goto t (.op c c.refusedStage)
  else
    let th := s.threads t
    let (queue, out, effect) := c.enact s.queue th.out
    { s.set t { th with phase := .op c .unlockDone, out, effect } with
      queue
      history := s.history ++ effect.toList.map fun e => (t, e)
      stale := s.stale || s.queueFreed || s.bufferFreed }

/-- One statement of an add or a pop. -/
def stepOp [Fintype T] (s : State T α) (t : T) (c : OpCall α) :
    Stage → Act T α → Option (State T α)
  | .wrlock again, .next =>
    if s.unlocked then some ({ s with writer := some t }.goto t (.op c (.body again))) else none
  | .body _, .next => some (body s t c)
  | .unlockRefused, .next =>
    some ({ s with writer := none }.finish t c.refusal (c.reply c.refusal (s.threads t).out))
  | .unlockBlocked, .next => some ({ s with writer := none }.goto t (.op c .lockCond))
  | .lockCond, .next =>
    if s.condMutex.isNone then some ({ s with condMutex := some t }.goto t (.op c .deadline))
    else none
  | .deadline, .clock now =>
    let th := s.threads t
    some (s.set t { th with
      phase := .op c .wait
      deadlines := th.deadlines ++ [getAbsoluteTimeout now c.timeout] })
  | .wait, .next => some ({ s with condMutex := none }.goto t (.op c (.asleep false)))
  | .asleep _, .wake result => some (s.goto t (.op c (.relock result)))
  | .relock result, .next =>
    if s.condMutex.isNone then
      some ({ s with condMutex := some t }.goto t (.op c (.unlockCond result)))
    else none
  | .unlockCond result, .next =>
    some ({ s with condMutex := none }.goto t (.op c (.resume result)))
  | .resume .timedOut, .next =>
    some (s.finish t .errTimeout (c.reply .errTimeout (s.threads t).out))
  | .resume (.failed _), .next =>
    some (s.finish t .errThread (c.reply .errThread (s.threads t).out))
  | .resume .woken, .next => some (s.goto t (.op c (.wrlock true)))
  | .unlockDone, .next => some ({ s with writer := none }.goto t (.op c .lockSignal))
  | .lockSignal, .next =>
    if s.condMutex.isNone then some ({ s with condMutex := some t }.goto t (.op c .signal))
    else none
  | .signal, .signal none =>
    if ∀ u, (s.threads u).phase.sleepsOn c.announces = false then
      some (s.goto t (.op c .unlockSignal))
    else none
  | .signal, .signal (some u) =>
    match (s.threads u).phase with
    | .op o (.asleep false) =>
      if o.waitsFor = c.announces then
        some ((s.goto u (.op o (.asleep true))).goto t (.op c .unlockSignal))
      else none
    | _ => none
  | .unlockSignal, .next =>
    some ({ s with condMutex := none }.finish t (s.threads t).errno
      (c.reply .success (s.threads t).out))
  | _, _ => none

/-- One statement of a status call. -/
def stepStatus (s : State T α) (t : T) (c : StatusCall) : StatusStage α → Option (State T α)
  | .rdlock =>
    if s.writer.isNone then
      some ({ s with readers := insert t s.readers }.goto t (.status c .read))
    else none
  | .read =>
    some ({ s with stale := s.stale || s.queueFreed }.goto t
      (.status c (.unlock (c.read s.queue))))
  | .unlock answer =>
    some ({ s with readers := s.readers.erase t }.finish t (s.threads t).errno answer)

/-- One statement of `sc_generic_queue_nuke_with_cleanup`. It returns nothing, and so leaves no
entry among the returned calls. -/
def stepNuke (s : State T α) (t : T) (cleanup : Bool) : NukeStage → Option (State T α)
  | .wrlock =>
    if s.unlocked then some ({ s with writer := some t }.goto t (.nuke cleanup .drain)) else none
  | .drain =>
    if s.queue.empty then some (s.goto t (.nuke cleanup .unlock))
    else
      let effect := s.queue.front.map fun item => Effect.drained item cleanup
      some { s with
        queue := s.queue.dequeue
        history := s.history ++ effect.toList.map fun e => (t, e) }
  | .unlock => some ({ s with writer := none }.goto t (.nuke cleanup .freeBuffer))
  | .freeBuffer => some ({ s with bufferFreed := true }.goto t (.nuke cleanup .destroy))
  | .destroy => some (s.goto t (.nuke cleanup .freeQueue))
  | .freeQueue => some ({ s with queueFreed := true }.goto t .idle)

/-- Enter a call: `queue_errno` becomes `SUCCESS`, except in `nuke_with_cleanup`, which only
ever stores an error and returns nothing. -/
def stepCall (s : State T α) (t : T) (valid : Bool) (c : Call α) : State T α :=
  let th := s.threads t
  match enter valid c with
  | .inl phase =>
    let errno := if c.isNuke then th.errno else .success
    s.set t { phase, errno, out := none, effect := none, deadlines := [] }
  | .inr reply =>
    let th := { th with effect := none, deadlines := [] }
    if c.isNuke then s.set t { th with errno := .errNull }
    else (s.set t th).finish t .errNull reply

/-- One atomic action of one thread; `none` when the action is not possible now. -/
def step [Fintype T] (s : State T α) (t : T) (a : Act T α) : Option (State T α) :=
  match (s.threads t).phase, a with
  | .idle, .call valid c => some (stepCall s t valid c)
  | .op c stage, a => stepOp s t c stage a
  | .status c stage, .next => stepStatus s t c stage
  | .nuke cleanup stage, .next => stepNuke s t cleanup stage
  | _, _ => none

end Step

/-- The state before any call on a queue: free locks and idle threads. -/
def start (T : Type*) (q : Queue α) : State T α where
  queue := q
  writer := none
  readers := ∅
  condMutex := none
  threads _ := ⟨.idle, .success, none, none, []⟩
  history := []
  returned := []
  bufferFreed := false
  queueFreed := false
  stale := false

/-- A label names the acting thread and its action. -/
abbrev Label (T α : Type*) := T × Act T α

/-- The step function on labels. -/
def next [Fintype T] [DecidableEq T] (s : State T α) (label : Label T α) : Option (State T α) :=
  step s label.1 label.2

/-- The states of the runs on a queue whose steps all meet the guard. -/
abbrev Reachable [Fintype T] [DecidableEq T] (q : Queue α)
    (guard : State T α → Label T α → Prop) : State T α → Prop :=
  Library.Reach (· = start T q) (fun s label s' => next s label = some s') guard

end SpaceCaptain.GenericQueue
