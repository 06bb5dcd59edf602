import SpaceCaptain.Library.Word
import SpaceCaptain.Queue.Expiry
import SpaceCaptain.Queue.Fifo

/-!
# The queue in machine words

The fields of the queue are `size_t`, and so are the sums and remainders that move its indices.
`WordQueue` is the queue with words of an arbitrary width, and its operations are those of
`SpaceCaptain.Queue.Generic` with the machine's arithmetic in the place of that of numbers.
`value` forgets the width. From an accepted capacity on nothing wraps, so a run of the one is a
run of the other, with the same replies.
-/
namespace SpaceCaptain.GenericQueue

open SpaceCaptain.Library SpaceCaptain.Library.Word

variable {α : Type*} {w : Nat}

/-- `sc_generic_queue_t` with `size_t` of `w` bits. -/
structure WordQueue (w : Nat) (α : Type*) where
  /-- Circular buffer; a cell that was never written holds the NULL of `calloc`. -/
  buffer : List (Option α)
  /-- Maximum number of items. -/
  capacity : BitVec w
  /-- Current number of items. -/
  size : BitVec w
  /-- Index of next item to remove. -/
  head : BitVec w
  /-- Index where next item will be added. -/
  tail : BitVec w
  deriving DecidableEq, Repr

/-- The queue after a call, the caller's `queue_errno`, and the call's reply. -/
structure WordOutcome (w : Nat) (α : Type*) where
  /-- `none` when the pointer is NULL. -/
  queue : Option (WordQueue w α)
  /-- The thread-local error code. -/
  errno : RetVal
  /-- What the call returned. -/
  reply : Reply α
  deriving DecidableEq, Repr

namespace WordQueue

/-- `SC_GENERIC_QUEUE_MAX_CAPACITY` for a pointer of the given size. -/
def maxCapacity (pointerSize : BitVec w) : BitVec w := sizeMax w / pointerSize / 2

/-- `sc_generic_queue_init`. -/
def init (pointerSize capacity : BitVec w) (env : InitEnv) : Except RetVal (WordQueue w α) :=
  if capacity = 0 ∨ capacity > maxCapacity pointerSize then
    .error (if capacity = 0 then .errInvalid else .errOverflow)
  else if !env.queueAllocated then .error .errMemory
  else if capacity.umulOverflow pointerSize then .error .errOverflow
  else if !env.bufferAllocated then .error .errMemory
  else if !env.rwlockInit then .error .errThread
  else if !env.condMutexInit then .error .errThread
  else if !env.condNotEmptyInit then .error .errThread
  else if !env.condNotFullInit then .error .errThread
  else .ok
    { buffer := List.replicate capacity.toNat none
      capacity := capacity
      size := 0
      head := 0
      tail := 0 }

/-- `q->size == q->capacity`. -/
def full (q : WordQueue w α) : Bool := q.size == q.capacity

/-- `q->size == 0`. -/
def empty (q : WordQueue w α) : Bool := q.size == 0

/-- The insertion under the write lock. -/
def enqueue (q : WordQueue w α) (item : α) : WordQueue w α :=
  { q with
    buffer := q.buffer.set q.tail.toNat (some item)
    tail := (q.tail + 1) % q.capacity
    size := q.size + 1 }

/-- `q->buffer[q->head]`. -/
def front (q : WordQueue w α) : Option α := q.buffer.getD q.head.toNat none

/-- The removal under the write lock, after the front was read. -/
def dequeue (q : WordQueue w α) : WordQueue w α :=
  { q with
    head := (q.head + 1) % q.capacity
    size := q.size - 1 }

/-- `sc_generic_queue_add`. -/
def add (q : Option (WordQueue w α)) (item : Option α) (waits : List WaitResult) :
    Option (WordOutcome w α) :=
  match q, item with
  | some q, some item =>
    match waitWhile q.full waits with
    | none => none
    | some (.error e) => some ⟨some q, e, .code e⟩
    | some (.ok ()) => some ⟨some (q.enqueue item), .success, .code .success⟩
  | q, _ => some ⟨q, .errNull, .code .errNull⟩

/-- `sc_generic_queue_pop`. -/
def pop (q : Option (WordQueue w α)) (out : Option (Option α)) (waits : List WaitResult) :
    Option (WordOutcome w α) :=
  match q, out with
  | some q, some _ =>
    match waitWhile q.empty waits with
    | none => none
    | some (.error e) => some ⟨some q, e, .popped e (some none)⟩
    | some (.ok ()) => some ⟨some q.dequeue, .success, .popped .success (some q.front)⟩
  | q, out => some ⟨q, .errNull, .popped .errNull out⟩

/-- `sc_generic_queue_try_add`. -/
def tryAdd (q : Option (WordQueue w α)) (item : Option α) : WordOutcome w α :=
  match q, item with
  | some q, some item =>
    if q.full then ⟨some q, .errFull, .code .errFull⟩
    else ⟨some (q.enqueue item), .success, .code .success⟩
  | q, _ => ⟨q, .errNull, .code .errNull⟩

/-- `sc_generic_queue_try_pop`. -/
def tryPop (q : Option (WordQueue w α)) (out : Option (Option α)) : WordOutcome w α :=
  match q, out with
  | some q, some _ =>
    if q.empty then ⟨some q, .errEmpty, .popped .errEmpty (some none)⟩
    else ⟨some q.dequeue, .success, .popped .success (some q.front)⟩
  | q, out => ⟨q, .errNull, .popped .errNull out⟩

/-- The body that the status calls share. -/
def status (onNull : Reply α) (read : WordQueue w α → Reply α) (q : Option (WordQueue w α)) :
    WordOutcome w α :=
  match q with
  | none => ⟨none, .errNull, onNull⟩
  | some q => ⟨some q, .success, read q⟩

/-- Run one call on a queue pointer; `none` when a blocking call has not returned. -/
def call (q : Option (WordQueue w α)) : Op α → Option (WordOutcome w α)
  | .add item waits => add q item waits
  | .pop out waits => pop q out waits
  | .tryAdd item => some (tryAdd q item)
  | .tryPop out => some (tryPop q out)
  | .isEmpty => some (status (.flag false) (fun q => .flag q.empty) q)
  | .isFull => some (status (.flag false) (fun q => .flag q.full) q)
  | .getSize => some (status (.count 0) (fun q => .count q.size.toNat) q)

/-- Run a sequence of calls on one queue. -/
def runCalls (q : WordQueue w α) :
    List (Bool × Op α) → Option (WordQueue w α × List (Reply α))
  | [] => some (q, [])
  | (valid, op) :: rest =>
    match call (if valid then some q else none) op with
    | none => none
    | some outcome =>
      (runCalls (outcome.queue.getD q) rest).map fun (q, replies) => (q, outcome.reply :: replies)

/-- The queue with its words read as numbers. -/
def value (q : WordQueue w α) : Queue α :=
  ⟨q.buffer, q.capacity.toNat, q.size.toNat, q.head.toNat, q.tail.toNat⟩

/-- No computation of an operation on the queue wraps or divides by zero, and both indices are
cells of the buffer. A size is only counted up on a queue that is not full, and only counted down
on one that is not empty. -/
structure Unwrapped (q : WordQueue w α) : Prop where
  /-- The divisor of both remainders is not zero. -/
  divisor : q.capacity ≠ 0
  /-- The buffer has `capacity` cells. -/
  allocated : q.buffer.length = q.capacity.toNat
  /-- The cell read by a removal. -/
  head_inside : q.head.toNat < q.capacity.toNat
  /-- The cell written by an insertion. -/
  tail_inside : q.tail.toNat < q.capacity.toNat
  /-- `q->head + 1`. -/
  head_succ : (q.head + 1).toNat = q.head.toNat + 1
  /-- `q->tail + 1`. -/
  tail_succ : (q.tail + 1).toNat = q.tail.toNat + 1
  /-- `q->size++`. -/
  size_succ : q.full = false → (q.size + 1).toNat = q.size.toNat + 1
  /-- `q->size--`. -/
  size_pred : q.empty = false → 1 ≤ q.size.toNat ∧ (q.size - 1).toNat = q.size.toNat - 1

/-- The tests compare the same in words and in numbers. -/
@[simp] theorem value_full (q : WordQueue w α) : q.value.full = q.full := by
  simp [Queue.full, full, value, BitVec.toNat_eq, Bool.beq_eq_decide_eq]

/-- The empty test compares the same in words and in numbers. -/
@[simp] theorem value_empty (q : WordQueue w α) : q.value.empty = q.empty := by
  simp [Queue.empty, empty, value, BitVec.toNat_eq, Bool.beq_eq_decide_eq]

/-- The front is the same cell. -/
@[simp] theorem value_front (q : WordQueue w α) : q.value.front = q.front := rfl

/-- A well-formed queue keeps every computation within the words. -/
theorem unwrapped {q : WordQueue w α} (wf : q.value.WellFormed) : q.Unwrapped where
  divisor zero := by
    have positive := wf.positive
    simp [value, zero] at positive
  allocated := wf.allocated
  head_inside := wf.head_lt
  tail_inside := wf.tail_lt
  head_succ := succ_toNat wf.head_lt
  tail_succ := succ_toNat wf.tail_lt
  size_succ room := succ_toNat (room_of_not_full wf (by rw [value_full, room]))
  size_pred left := by
    have positive : 0 < q.value.size := left_of_not_empty (by rw [value_empty, left])
    exact ⟨positive, pred_toNat positive⟩

/-- An insertion that does not wrap is the insertion on numbers. -/
theorem value_enqueue {q : WordQueue w α} (unwrapped : q.Unwrapped) (room : q.full = false)
    (item : α) : (q.enqueue item).value = q.value.enqueue item := by
  simp only [value, enqueue, Queue.enqueue, BitVec.toNat_umod, unwrapped.tail_succ,
    unwrapped.size_succ room]

/-- A removal that does not wrap is the removal on numbers. -/
theorem value_dequeue {q : WordQueue w α} (unwrapped : q.Unwrapped) (left : q.empty = false) :
    q.dequeue.value = q.value.dequeue := by
  simp only [value, dequeue, Queue.dequeue, BitVec.toNat_umod, unwrapped.head_succ,
    (unwrapped.size_pred left).2]

end WordQueue

/-- The outcome with its words read as numbers. -/
def WordOutcome.value (outcome : WordOutcome w α) : Outcome α :=
  ⟨outcome.queue.map WordQueue.value, outcome.errno, outcome.reply⟩

namespace WordQueue

/-- A call on a well-formed queue does the same in words and in numbers. -/
theorem call_value {q : WordQueue w α} (wf : q.value.WellFormed) (valid : Bool) (op : Op α) :
    (call (if valid then some q else none) op).map WordOutcome.value =
      GenericQueue.call (if valid then some q.value else none) op := by
  have grown := value_enqueue (unwrapped wf)
  have shrunk := value_dequeue (unwrapped wf)
  cases valid with
  | false => cases op <;> rfl
  | true =>
    cases op with
    | add item waits =>
      cases item with
      | none => rfl
      | some item =>
        cases full : q.full with
        | false => simp [call, GenericQueue.call, add, GenericQueue.add, full, WordOutcome.value,
            grown full]
        | true =>
          cases code : Fifo.blockedCode waits <;>
            simp [call, GenericQueue.call, add, GenericQueue.add, full, WordOutcome.value,
              waitWhile_true, code]
    | tryAdd item =>
      cases item with
      | none => rfl
      | some item =>
        cases full : q.full <;>
          simp [call, GenericQueue.call, tryAdd, GenericQueue.tryAdd, full, WordOutcome.value,
            grown]
    | pop out waits =>
      cases out with
      | none => rfl
      | some value =>
        cases empty : q.empty with
        | false => simp [call, GenericQueue.call, pop, GenericQueue.pop, empty, WordOutcome.value,
            shrunk empty]
        | true =>
          cases code : Fifo.blockedCode waits <;>
            simp [call, GenericQueue.call, pop, GenericQueue.pop, empty, WordOutcome.value,
              waitWhile_true, code]
    | tryPop out =>
      cases out with
      | none => rfl
      | some value =>
        cases empty : q.empty <;>
          simp [call, GenericQueue.call, tryPop, GenericQueue.tryPop, empty, WordOutcome.value,
            shrunk]
    | isEmpty | isFull =>
      simp [call, GenericQueue.call, status, isEmpty, isFull, GenericQueue.status,
        WordOutcome.value]
    | getSize => rfl

/-- A run of calls on a well-formed queue does the same in words and in numbers, and every queue it
leads to keeps its computations within the words. -/
theorem runCalls_value (calls : List (Bool × Op α)) {q : WordQueue w α}
    (wf : q.value.WellFormed) :
    (runCalls q calls).map (fun (q, replies) => (q.value, replies)) =
      GenericQueue.runCalls q.value calls := by
  induction calls generalizing q with
  | nil => rfl
  | cons first rest ih =>
    obtain ⟨valid, op⟩ := first
    have same := call_value wf valid op
    simp only [runCalls, GenericQueue.runCalls]
    rw [← same]
    cases returned : call (if valid then some q else none) op with
    | none => rfl
    | some outcome =>
      rw [returned] at same
      have after : (outcome.queue.getD q).value = outcome.value.queue.getD q.value := by
        cases left : outcome.queue <;> simp [WordOutcome.value, left]
      have kept := (call_wellFormed wf same.symm).1
      rw [← after] at kept
      have later := ih kept
      rw [after] at later
      simp only [Option.map_some]
      rw [← later, Option.map_map, Option.map_map]
      rfl

/-- The bound on the capacity is computed without wrapping. -/
theorem maxCapacity_toNat (wide : 16 ≤ w) (pointerSize : BitVec w) :
    (maxCapacity pointerSize).toNat = (2 ^ w - 1) / pointerSize.toNat / 2 := by
  have large : 2 ^ 16 ≤ 2 ^ w := Nat.pow_le_pow_right (by decide) wide
  have two : (2 : BitVec w).toNat = 2 := Nat.mod_eq_of_lt (show 2 < 2 ^ w by omega)
  rw [maxCapacity, BitVec.toNat_udiv, BitVec.toNat_udiv, two, sizeMax_toNat]

/-- The byte count of an accepted capacity is a word. -/
theorem product_fits {c s : Nat} (accepted : c ≤ (2 ^ w - 1) / s / 2) : c * s < 2 ^ w := by
  have positive : 0 < 2 ^ w := Nat.two_pow_pos w
  have half : c ≤ (2 ^ w - 1) / s := Nat.le_trans accepted (Nat.div_le_self _ _)
  have bytes : c * s ≤ 2 ^ w - 1 :=
    Nat.le_trans (Nat.mul_le_mul_right s half) (Nat.div_mul_le_self _ _)
  omega

/-- Creation does the same in words and in numbers. -/
theorem init_value (wide : 16 ≤ w) (s c : BitVec w) (env : InitEnv) :
    (init s c env : Except RetVal (WordQueue w α)).map value =
      GenericQueue.init ⟨w, s.toNat⟩ c.toNat env := by
  have zero : c = 0 ↔ c.toNat = 0 := by simp [BitVec.toNat_eq]
  have above : c > maxCapacity s ↔ (⟨w, s.toNat⟩ : Platform).maxCapacity < c.toNat := by
    rw [gt_iff_lt, BitVec.lt_def, maxCapacity_toNat wide]
    rfl
  have bytes : c.umulOverflow s = (⟨w, s.toNat⟩ : Platform).mulOverflow c.toNat s.toNat := by
    simp only [BitVec.umulOverflow, Platform.mulOverflow, Platform.sizeMax, above_max_iff, ge_iff_le]
  simp only [init, GenericQueue.init, zero, above, bytes]
  repeat' split
  all_goals rfl

/-- A well-formed queue whose capacity is a word is the value of a queue of words. -/
theorem exists_value {q : Queue α} (wf : q.WellFormed) {c : BitVec w}
    (capacity : q.capacity = c.toNat) :
    ∃ v : WordQueue w α, v.value = q ∧ v.capacity = c ∧ v.Unwrapped := by
  have bounded := c.isLt
  have size_le := wf.bounded
  have head_lt := wf.head_lt
  have tail_lt := wf.tail_lt
  have same : (⟨q.buffer, c, BitVec.ofNat w q.size, BitVec.ofNat w q.head,
      BitVec.ofNat w q.tail⟩ : WordQueue w α).value = q := by
    simp only [value, BitVec.toNat_ofNat]
    rw [Nat.mod_eq_of_lt (by omega), Nat.mod_eq_of_lt (by omega), Nat.mod_eq_of_lt (by omega),
      ← capacity]
  exact ⟨_, same, rfl, unwrapped (same.symm ▸ wf)⟩

end WordQueue

/-- What the arithmetic of a created queue does in all its runs. -/
structure NeverWraps (w : Nat) (T : Type*) [Fintype T] [DecidableEq T] (q : WordQueue w α) :
    Prop where
  /-- A run of calls does the same in words and in numbers. -/
  runs : ∀ calls, (WordQueue.runCalls q calls).map (fun (q, replies) => (q.value, replies)) =
    runCalls q.value calls
  /-- Every queue such a run leads to keeps its computations within the words. -/
  reached : ∀ calls q' replies, WordQueue.runCalls q calls = some (q', replies) →
    q'.capacity.toNat = q.capacity.toNat ∧ q'.Unwrapped
  /-- In every state of every interleaved run the queue is a queue of words that does too. -/
  interleaved : ∀ s : State T α, Reachable q.value (fun _ _ => True) s →
    ∃ v : WordQueue w α, v.value = s.queue ∧ v.capacity = q.capacity ∧ v.Unwrapped ∧
      (∀ item, v.full = false → (v.enqueue item).value = s.queue.enqueue item) ∧
      (v.empty = false → v.dequeue.value = s.queue.dequeue)

/-- For every width, pointer size and capacity: zero and every capacity above the bound are
refused, the byte count of any other is a word, creation does the same in words and in numbers, and
so does every run on the queue it returns. -/
theorem queue_arithmetic {T : Type*} [Fintype T] [DecidableEq T] {w : Nat} (wide : 16 ≤ w)
    {s : BitVec w} (sized : s ≠ 0) (c : BitVec w) (env : InitEnv) :
    (c = 0 → (WordQueue.init s c env : Except RetVal (WordQueue w α)) = .error .errInvalid) ∧
    ((2 ^ w - 1) / s.toNat / 2 < c.toNat →
      (WordQueue.init s c env : Except RetVal (WordQueue w α)) = .error .errOverflow) ∧
    (c ≠ 0 → c.toNat ≤ (2 ^ w - 1) / s.toNat / 2 →
      c.umulOverflow s = false ∧ (c * s).toNat = c.toNat * s.toNat) ∧
    (divExact (sizeMax w) s).isSome = true ∧
    (WordQueue.maxCapacity s).toNat = (2 ^ w - 1) / s.toNat / 2 ∧
    (WordQueue.init s c env : Except RetVal (WordQueue w α)).map WordQueue.value =
      init ⟨w, s.toNat⟩ c.toNat env ∧
    ∀ q : WordQueue w α, WordQueue.init s c env = .ok q → NeverWraps w T q := by
  have bound : (WordQueue.maxCapacity s).toNat = (2 ^ w - 1) / s.toNat / 2 :=
    WordQueue.maxCapacity_toNat wide s
  refine ⟨fun zero => by simp [WordQueue.init, zero], fun above => ?_, fun _ accepted => ?_, ?_,
    bound, WordQueue.init_value wide s c env, fun q created => ?_⟩
  · have greater : c > WordQueue.maxCapacity s := by
      rw [gt_iff_lt, BitVec.lt_def, bound]
      exact above
    have nonzero : c ≠ 0 := by
      rintro rfl
      simp at above
    rw [WordQueue.init, if_pos (.inr greater), if_neg nonzero]
  · have fits := WordQueue.product_fits accepted
    exact ⟨decide_eq_false (Nat.not_le_of_lt fits), mul_toNat fits⟩
  · rw [divExact, if_neg sized]
    rfl
  · have numbers : init ⟨w, s.toNat⟩ c.toNat env = .ok q.value := by
      rw [← WordQueue.init_value wide, created]
      rfl
    obtain ⟨positive, made⟩ := init_ok numbers
    have capacity : q.capacity.toNat = c.toNat := congrArg Queue.capacity made
    have wf : q.value.WellFormed := made ▸ Queue.fresh_wellFormed positive
    refine ⟨fun calls => WordQueue.runCalls_value calls wf, fun calls q' replies ran => ?_,
      fun state reached => ?_⟩
    · have same := WordQueue.runCalls_value calls wf
      rw [ran] at same
      obtain ⟨kept, still⟩ := runCalls_wellFormed wf same.symm
      exact ⟨still, WordQueue.unwrapped kept⟩
    · rw [made] at reached
      obtain ⟨ledger, -⟩ := reached_ledger_honest positive reached
      obtain ⟨v, value, held, unwrapped⟩ :=
        WordQueue.exists_value ledger.wellFormed (ledger.capacity.trans capacity.symm)
      refine ⟨v, value, held, unwrapped, fun item room => ?_, fun left => ?_⟩
      · rw [← value]
        exact WordQueue.value_enqueue unwrapped room item
      · rw [← value]
        exact WordQueue.value_dequeue unwrapped left

/-- At 16 bits and pointers of two bytes the largest accepted capacity is 16383. -/
theorem queue_arithmetic_limit :
    (WordQueue.init 2#16 16384#16 ⟨true, true, true, true, true, true⟩ :
        Except RetVal (WordQueue 16 Nat)) = .error .errOverflow ∧
      (16383#16 * 2#16).toNat = 32766 := by
  have refused := (queue_arithmetic (α := Nat) (T := Unit) (s := 2#16) (by decide) (by decide)
    16384#16 ⟨true, true, true, true, true, true⟩).2.1
  have accepted := (queue_arithmetic (α := Nat) (T := Unit) (s := 2#16) (by decide) (by decide)
    16383#16 ⟨true, true, true, true, true, true⟩).2.2.1
  exact ⟨refused (by decide), (accepted (by decide) (by decide)).2⟩

end SpaceCaptain.GenericQueue
