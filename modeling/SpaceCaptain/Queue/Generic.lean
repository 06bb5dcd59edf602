import Mathlib.Algebra.Group.Nat.Defs
import Mathlib.Data.List.Basic

/-!
# The generic queue: data and sequential calls

`generic_queue.c` keeps a circular buffer of `void *` and guards it with a rwlock; two
condition variables, used with a mutex of their own, put blocked callers to sleep. This
module owns the data of the queue, its creation, and every operation as one thread sees it
when no other thread runs: the outcome of each `pthread_cond_timedwait` is an input. The
interleaved execution of the same statements lives in `SpaceCaptain.Queue.Threads`.

An item is a non-NULL pointer and has an arbitrary type; NULL is `none`.
-/
namespace SpaceCaptain.GenericQueue

/-- `sc_generic_queue_ret_val_t` — the codes an operation returns and stores in the
thread-local `queue_errno`. -/
inductive RetVal where
  | success
  | errTimeout
  | errThread
  | errNull
  | errMemory
  | errFull
  | errEmpty
  | errInvalid
  | errOverflow
  deriving DecidableEq, Repr

/-- The two sizes of the C platform that the capacity check reads. -/
structure Platform where
  /-- Bits of `size_t`. -/
  width : Nat
  /-- `sizeof(void *)`. -/
  pointerSize : Nat
  deriving DecidableEq, Repr

/-- `SIZE_MAX`. -/
def Platform.sizeMax (p : Platform) : Nat := 2 ^ p.width - 1

/-- `SC_GENERIC_QUEUE_MAX_CAPACITY` — `SIZE_MAX / sizeof(void *) / 2`. -/
def Platform.maxCapacity (p : Platform) : Nat := p.sizeMax / p.pointerSize / 2

/-- `SC_MUL_OVERFLOW` as the compiler's built-in computes it: whether the exact product
leaves the range of `size_t`. -/
def Platform.mulOverflow (p : Platform) (a b : Nat) : Bool := p.sizeMax < a * b

/-- `sc_generic_queue_t` — the data that the rwlock protects. -/
structure Queue (α : Type*) where
  /-- Circular buffer; a cell that was never written holds the NULL of `calloc`. -/
  buffer : List (Option α)
  /-- Maximum number of items. -/
  capacity : Nat
  /-- Current number of items. -/
  size : Nat
  /-- Index of next item to remove. -/
  head : Nat
  /-- Index where next item will be added. -/
  tail : Nat
  deriving DecidableEq, Repr

variable {α : Type*}

namespace Queue

/-- `q->size == q->capacity`. -/
def full (q : Queue α) : Bool := q.size == q.capacity

/-- `q->size == 0`. -/
def empty (q : Queue α) : Bool := q.size == 0

/-- The insertion under the write lock: store at `tail`, advance `tail`, count the item. -/
def enqueue (q : Queue α) (item : α) : Queue α :=
  { q with
    buffer := q.buffer.set q.tail (some item)
    tail := (q.tail + 1) % q.capacity
    size := q.size + 1 }

/-- `q->buffer[q->head]`. -/
def front (q : Queue α) : Option α := q.buffer.getD q.head none

/-- The removal under the write lock, after the front was read: advance `head`, count down. -/
def dequeue (q : Queue α) : Queue α :=
  { q with
    head := (q.head + 1) % q.capacity
    size := q.size - 1 }

end Queue

/-- What the allocator and the pthread initialisers do for one `sc_generic_queue_init`. -/
structure InitEnv where
  /-- `calloc(1, sizeof(sc_generic_queue_t))` succeeds. -/
  queueAllocated : Bool
  /-- `calloc(capacity, sizeof(void *))` succeeds. -/
  bufferAllocated : Bool
  /-- `pthread_rwlock_init` returns 0. -/
  rwlockInit : Bool
  /-- `pthread_mutex_init` returns 0. -/
  condMutexInit : Bool
  /-- `pthread_cond_init` of `cond_not_empty` returns 0. -/
  condNotEmptyInit : Bool
  /-- `pthread_cond_init` of `cond_not_full` returns 0. -/
  condNotFullInit : Bool
  deriving DecidableEq, Repr

/-- `sc_generic_queue_init` — the new queue, or the code left in `queue_errno` when the call
returns NULL. -/
def init (p : Platform) (capacity : Nat) (env : InitEnv) : Except RetVal (Queue α) :=
  if capacity = 0 ∨ p.maxCapacity < capacity then
    .error (if capacity = 0 then .errInvalid else .errOverflow)
  else if !env.queueAllocated then .error .errMemory
  else if p.mulOverflow capacity p.pointerSize then .error .errOverflow
  else if !env.bufferAllocated then .error .errMemory
  else if !env.rwlockInit then .error .errThread
  else if !env.condMutexInit then .error .errThread
  else if !env.condNotEmptyInit then .error .errThread
  else if !env.condNotFullInit then .error .errThread
  else .ok
    { buffer := List.replicate capacity none
      capacity := capacity
      size := 0
      head := 0
      tail := 0 }

/-- The empty queue of a capacity, as `sc_generic_queue_init` leaves it. -/
def fresh (capacity : Nat) : Queue α := ⟨List.replicate capacity none, capacity, 0, 0, 0⟩

/-- An accepted capacity is positive, and the queue returned is the empty one. -/
theorem init_ok {p : Platform} {capacity : Nat} {env : InitEnv} {q : Queue α}
    (accepted : init p capacity env = .ok q) : 0 < capacity ∧ q = fresh capacity := by
  simp only [init, ite_eq_iff, reduceCtorEq, and_false, false_or] at accepted
  obtain ⟨legal, -, -, -, -, -, -, -, built⟩ := accepted
  have positive : 0 < capacity := by omega
  exact ⟨positive, (Except.ok.inj built).symm⟩

/-- The result of `pthread_cond_timedwait`: 0, `ETIMEDOUT`, or another error number. -/
inductive WaitResult where
  | woken
  | timedOut
  | failed (errno : Nat)
  deriving DecidableEq, Repr

/-- What a call hands back to its caller. -/
inductive Reply (α : Type*) where
  /-- The code returned by an add. -/
  | code (ret : RetVal)
  /-- The code returned by a pop and the value left in `*item`; `none` when `item` is NULL. -/
  | popped (ret : RetVal) (out : Option (Option α))
  /-- The truth value of a status call. -/
  | flag (value : Bool)
  /-- The number returned by `sc_generic_queue_get_size`. -/
  | count (value : Nat)
  deriving DecidableEq, Repr

/-- The code a reply carries; a status call carries none. -/
def Reply.ret : Reply α → Option RetVal
  | .code r | .popped r _ => some r
  | .flag _ | .count _ => none

/-- The state after a call: the queue behind the caller's pointer, the caller's
`queue_errno`, and the call's reply. -/
structure Outcome (α : Type*) where
  /-- `none` when the pointer is NULL. -/
  queue : Option (Queue α)
  /-- The thread-local error code. -/
  errno : RetVal
  /-- What the call returned. -/
  reply : Reply α
  deriving DecidableEq, Repr

/-- The wait loop of the blocking calls while no other thread touches the queue, so that each
test of the loop sees the same value. `none` means that the caller is still asleep when the
given wait results are used up. -/
def waitWhile (blocked : Bool) : List WaitResult → Option (Except RetVal Unit)
  | [] => if blocked then none else some (.ok ())
  | result :: rest =>
    if blocked then
      match result with
      | .timedOut => some (.error .errTimeout)
      | .failed _ => some (.error .errThread)
      | .woken => waitWhile blocked rest
    else some (.ok ())

/-- `sc_generic_queue_add`. -/
def add (q : Option (Queue α)) (item : Option α) (waits : List WaitResult) :
    Option (Outcome α) :=
  match q, item with
  | some q, some item =>
    match waitWhile q.full waits with
    | none => none
    | some (.error e) => some ⟨some q, e, .code e⟩
    | some (.ok ()) => some ⟨some (q.enqueue item), .success, .code .success⟩
  | q, _ => some ⟨q, .errNull, .code .errNull⟩

/-- `sc_generic_queue_pop` — `out` is the output pointer with the value it points to. -/
def pop (q : Option (Queue α)) (out : Option (Option α)) (waits : List WaitResult) :
    Option (Outcome α) :=
  match q, out with
  | some q, some _ =>
    match waitWhile q.empty waits with
    | none => none
    | some (.error e) => some ⟨some q, e, .popped e (some none)⟩
    | some (.ok ()) => some ⟨some q.dequeue, .success, .popped .success (some q.front)⟩
  | q, out => some ⟨q, .errNull, .popped .errNull out⟩

/-- `sc_generic_queue_try_add`. -/
def tryAdd (q : Option (Queue α)) (item : Option α) : Outcome α :=
  match q, item with
  | some q, some item =>
    if q.full then ⟨some q, .errFull, .code .errFull⟩
    else ⟨some (q.enqueue item), .success, .code .success⟩
  | q, _ => ⟨q, .errNull, .code .errNull⟩

/-- `sc_generic_queue_try_pop`. -/
def tryPop (q : Option (Queue α)) (out : Option (Option α)) : Outcome α :=
  match q, out with
  | some q, some _ =>
    if q.empty then ⟨some q, .errEmpty, .popped .errEmpty (some none)⟩
    else ⟨some q.dequeue, .success, .popped .success (some q.front)⟩
  | q, out => ⟨q, .errNull, .popped .errNull out⟩

/-- The status calls share one body: NULL gives a fixed answer and `ERR_NULL`, otherwise the
answer is read under the read lock. -/
def status (onNull : Reply α) (read : Queue α → Reply α) (q : Option (Queue α)) : Outcome α :=
  match q with
  | none => ⟨none, .errNull, onNull⟩
  | some q => ⟨some q, .success, read q⟩

/-- `sc_generic_queue_is_empty`. -/
def isEmpty : Option (Queue α) → Outcome α := status (.flag false) fun q => .flag q.empty

/-- `sc_generic_queue_is_full`. -/
def isFull : Option (Queue α) → Outcome α := status (.flag false) fun q => .flag q.full

/-- `sc_generic_queue_get_size`. -/
def getSize : Option (Queue α) → Outcome α := status (.count 0) fun q => .count q.size

/-- One call of the public interface with its arguments other than the queue pointer. -/
inductive Op (α : Type*) where
  | add (item : Option α) (waits : List WaitResult)
  | pop (out : Option (Option α)) (waits : List WaitResult)
  | tryAdd (item : Option α)
  | tryPop (out : Option (Option α))
  | isEmpty
  | isFull
  | getSize
  deriving DecidableEq, Repr

/-- Run one call on a queue pointer; `none` when a blocking call has not returned. -/
def call (q : Option (Queue α)) : Op α → Option (Outcome α)
  | .add item waits => GenericQueue.add q item waits
  | .pop out waits => GenericQueue.pop q out waits
  | .tryAdd item => some (GenericQueue.tryAdd q item)
  | .tryPop out => some (GenericQueue.tryPop q out)
  | .isEmpty => some (GenericQueue.isEmpty q)
  | .isFull => some (GenericQueue.isFull q)
  | .getSize => some (GenericQueue.getSize q)

/-- Run a sequence of calls on one queue. A call marked `false` passes NULL for the queue
and so leaves the queue as it is. The replies come in call order. -/
def runCalls (q : Queue α) : List (Bool × Op α) → Option (Queue α × List (Reply α))
  | [] => some (q, [])
  | (valid, op) :: rest =>
    match call (if valid then some q else none) op with
    | none => none
    | some outcome =>
      (runCalls (outcome.queue.getD q) rest).map fun (q, replies) => (q, outcome.reply :: replies)

end SpaceCaptain.GenericQueue
