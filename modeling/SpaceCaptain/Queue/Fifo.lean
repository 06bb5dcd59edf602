import SpaceCaptain.Queue.Buffer

/-!
# The ring buffer refines a bounded FIFO

The purpose of the queue is a list of at most `capacity` items: an add appends, a pop takes
the oldest. `Fifo` states that purpose call by call, without a buffer. `call_refines` is the
simulation of one call, `runCalls_refines` that of any sequence of calls, and `CallContract`
what a caller may rely on.
-/
namespace SpaceCaptain.GenericQueue

variable {α : Type*}

namespace Fifo

/-- Append an item to a list that may hold `n`; a full list refuses it. -/
def push (n : Nat) (xs : List α) (item : α) : Option (List α) :=
  if xs.length = n then none else some (xs ++ [item])

/-- Split a list into its oldest item and the rest; an empty list refuses. -/
def pull : List α → Option (α × List α)
  | [] => none
  | item :: rest => some (item, rest)

/-- The code of a blocked call: its first wait that did not end in a wake-up decides it, and
a call that was only ever woken has not returned. -/
def blockedCode : List WaitResult → Option RetVal
  | [] => none
  | .woken :: rest => blockedCode rest
  | .timedOut :: _ => some .errTimeout
  | .failed _ :: _ => some .errThread

/-- One call on the abstract queue: the items after it and what the caller is told. The flag
is false when the caller passed NULL for the queue. -/
def call (n : Nat) (xs : List α) : Bool × Op α → Option (List α × Reply α)
  | (true, .add (some item) waits) =>
    match push n xs item with
    | some grown => some (grown, .code .success)
    | none => (blockedCode waits).map fun e => (xs, .code e)
  | (true, .tryAdd (some item)) =>
    match push n xs item with
    | some grown => some (grown, .code .success)
    | none => some (xs, .code .errFull)
  | (true, .pop (some _) waits) =>
    match pull xs with
    | some (item, rest) => some (rest, .popped .success (some (some item)))
    | none => (blockedCode waits).map fun e => (xs, .popped e (some none))
  | (true, .tryPop (some _)) =>
    match pull xs with
    | some (item, rest) => some (rest, .popped .success (some (some item)))
    | none => some (xs, .popped .errEmpty (some none))
  | (true, .isEmpty) => some (xs, .flag xs.isEmpty)
  | (true, .isFull) => some (xs, .flag (decide (xs.length = n)))
  | (true, .getSize) => some (xs, .count xs.length)
  | (_, .add _ _) | (_, .tryAdd _) => some (xs, .code .errNull)
  | (_, .pop out _) | (_, .tryPop out) => some (xs, .popped .errNull out)
  | (false, .isEmpty) | (false, .isFull) => some (xs, .flag false)
  | (false, .getSize) => some (xs, .count 0)

/-- A sequence of calls on the abstract queue. -/
def runCalls (n : Nat) (xs : List α) : List (Bool × Op α) → Option (List α × List (Reply α))
  | [] => some (xs, [])
  | op :: rest =>
    match call n xs op with
    | none => none
    | some (ys, reply) => (runCalls n ys rest).map fun (zs, replies) => (zs, reply :: replies)

end Fifo

/-- The wait loop with a false test leaves at once. -/
@[simp] theorem waitWhile_false (waits : List WaitResult) :
    waitWhile false waits = some (.ok ()) := by
  cases waits <;> rfl

/-- The wait loop with a true test returns the code of its first failed wait. -/
theorem waitWhile_true (waits : List WaitResult) :
    waitWhile true waits = (Fifo.blockedCode waits).map .error := by
  induction waits with
  | nil => rfl
  | cons result rest ih =>
    cases result with
    | woken => simpa [waitWhile, Fifo.blockedCode] using ih
    | timedOut => rfl
    | failed errno => rfl

/-- A full well-formed queue refuses an item, as the abstract one does. -/
theorem push_full {q : Queue α} (wf : q.WellFormed) (item : α) (full : q.full = true) :
    Fifo.push q.capacity q.contents item = none := by
  rw [Queue.full_contents wf, decide_eq_true_eq] at full
  simp [Fifo.push, full]

/-- A well-formed queue with room takes an item, as the abstract one does. -/
theorem push_room {q : Queue α} (wf : q.WellFormed) (item : α) (room : q.full = false) :
    Fifo.push q.capacity q.contents item = some (q.enqueue item).contents := by
  have free := room_of_not_full wf room
  rw [Queue.full_contents wf, decide_eq_false_iff_not] at room
  simp [Fifo.push, room, Queue.enqueue_contents wf free]

/-- An empty well-formed queue refuses a removal, as the abstract one does. -/
theorem pull_empty {q : Queue α} (wf : q.WellFormed) (empty : q.empty = true) :
    Fifo.pull q.contents = none := by
  rw [Queue.empty_contents wf, List.isEmpty_iff] at empty
  simp [Fifo.pull, empty]

/-- A non-empty well-formed queue gives its front, as the abstract one does. -/
theorem pull_nonempty {q : Queue α} (wf : q.WellFormed) (left : q.empty = false) :
    ∃ item, q.front = some item ∧ Fifo.pull q.contents = some (item, q.dequeue.contents) := by
  obtain ⟨item, holds, split⟩ := Queue.dequeue_contents wf (left_of_not_empty left)
  exact ⟨item, holds, by rw [split]; rfl⟩

/-- One call on a well-formed queue does to its list, and tells its caller, what the abstract
call does; a blocked call is blocked in both. -/
theorem call_refines {q : Queue α} (wf : q.WellFormed) (valid : Bool) (op : Op α) :
    Fifo.call q.capacity q.contents (valid, op) =
      (call (if valid then some q else none) op).map fun outcome =>
        ((outcome.queue.getD q).contents, outcome.reply) := by
  cases valid with
  | false => cases op <;> rfl
  | true =>
    cases op with
    | add item waits =>
      cases item with
      | none => rfl
      | some item =>
        cases full : q.full with
        | false => simp [Fifo.call, call, add, full, push_room wf item full]
        | true =>
          cases code : Fifo.blockedCode waits <;>
            simp [Fifo.call, call, add, full, push_full wf item full, waitWhile_true, code]
    | tryAdd item =>
      cases item with
      | none => rfl
      | some item =>
        cases full : q.full with
        | false => simp [Fifo.call, call, tryAdd, full, push_room wf item full]
        | true => simp [Fifo.call, call, tryAdd, full, push_full wf item full]
    | pop out waits =>
      cases out with
      | none => rfl
      | some value =>
        cases empty : q.empty with
        | false =>
          obtain ⟨item, holds, pulled⟩ := pull_nonempty wf empty
          simp [Fifo.call, call, pop, empty, holds, pulled]
        | true =>
          cases code : Fifo.blockedCode waits <;>
            simp [Fifo.call, call, pop, empty, pull_empty wf empty, waitWhile_true, code]
    | tryPop out =>
      cases out with
      | none => rfl
      | some value =>
        cases empty : q.empty with
        | false =>
          obtain ⟨item, holds, pulled⟩ := pull_nonempty wf empty
          simp [Fifo.call, call, tryPop, empty, holds, pulled]
        | true => simp [Fifo.call, call, tryPop, empty, pull_empty wf empty]
    | isEmpty => simp [Fifo.call, call, isEmpty, status, Queue.empty_contents wf]
    | isFull => simp [Fifo.call, call, isFull, status, Queue.full_contents wf]
    | getSize => simp [Fifo.call, call, getSize, status, Queue.contents_length wf]

/-- The reply of a blocked call is never success. -/
theorem blockedCode_ne_success {waits : List WaitResult} {r : RetVal}
    (blocked : Fifo.blockedCode waits = some r) : r ≠ .success := by
  induction waits with
  | nil => contradiction
  | cons result rest ih =>
    cases result with
    | woken => exact ih blocked
    | timedOut => obtain rfl := Option.some.inj blocked; decide
    | failed errno => obtain rfl := Option.some.inj blocked; decide

/-- Adding to a queue with room does not wait. -/
theorem add_eq_tryAdd {q : Queue α} (room : q.full = false) (item : Option α)
    (waits : List WaitResult) : add (some q) item waits = some (tryAdd (some q) item) := by
  cases item <;> simp [add, tryAdd, room]

/-- Removing from a queue with an item does not wait. -/
theorem pop_eq_tryPop {q : Queue α} (left : q.empty = false) (out : Option (Option α))
    (waits : List WaitResult) : pop (some q) out waits = some (tryPop (some q) out) := by
  cases out <;> simp [pop, tryPop, left]

/-- A blocked add fails and keeps its queue. -/
theorem add_blocked {q : Queue α} (full : q.full = true) {item : Option α}
    {waits : List WaitResult} {outcome : Outcome α}
    (returned : add (some q) item waits = some outcome) :
    outcome.queue = some q ∧ ∃ r, r ≠ .success ∧ outcome.reply = .code r := by
  cases item with
  | none =>
    obtain rfl := Option.some.inj returned
    exact ⟨rfl, .errNull, by decide, rfl⟩
  | some item =>
    cases code : Fifo.blockedCode waits with
    | none => simp [add, full, waitWhile_true, code] at returned
    | some e =>
      simp only [add, full, waitWhile_true, code, Option.map_some, Option.some.injEq] at returned
      subst returned
      exact ⟨rfl, e, blockedCode_ne_success code, rfl⟩

/-- A blocked pop fails, keeps its queue and, given an output pointer, clears it. -/
theorem pop_blocked {q : Queue α} (empty : q.empty = true) {out : Option (Option α)}
    {waits : List WaitResult} {outcome : Outcome α}
    (returned : pop (some q) out waits = some outcome) :
    outcome.queue = some q ∧ ∃ r, r ≠ .success ∧
      outcome.reply = .popped r (out.map fun _ => none) := by
  cases out with
  | none =>
    obtain rfl := Option.some.inj returned
    exact ⟨rfl, .errNull, by decide, rfl⟩
  | some value =>
    cases code : Fifo.blockedCode waits with
    | none => simp [pop, empty, waitWhile_true, code] at returned
    | some e =>
      simp only [pop, empty, waitWhile_true, code, Option.map_some, Option.some.injEq] at returned
      subst returned
      exact ⟨rfl, e, blockedCode_ne_success code, rfl⟩

/-- try_add on a queue with room stores its item. -/
theorem tryAdd_room {q : Queue α} (room : q.full = false) (item : α) :
    tryAdd (some q) (some item) = ⟨some (q.enqueue item), .success, .code .success⟩ := by
  simp [tryAdd, room]

/-- try_add on a full queue refuses. -/
theorem tryAdd_refused {q : Queue α} (full : q.full = true) (item : α) :
    tryAdd (some q) (some item) = ⟨some q, .errFull, .code .errFull⟩ := by
  simp [tryAdd, full]

/-- try_pop on a queue with an item takes its front. -/
theorem tryPop_left {q : Queue α} (left : q.empty = false) (value : Option α) :
    tryPop (some q) (some value) =
      ⟨some q.dequeue, .success, .popped .success (some q.front)⟩ := by
  simp [tryPop, left]

/-- try_pop on an empty queue refuses and clears the output. -/
theorem tryPop_refused {q : Queue α} (empty : q.empty = true) (value : Option α) :
    tryPop (some q) (some value) = ⟨some q, .errEmpty, .popped .errEmpty (some none)⟩ := by
  simp [tryPop, empty]

/-- What a call does to its queue: it leaves it as it is, adds to one that is not full, or removes
from one that is not empty, and only then reports success. -/
inductive Performed (q : Queue α) (outcome : Outcome α) : Prop
  | kept (queue : outcome.queue.getD q = q) (unsuccessful : outcome.reply.ret ≠ some .success)
  | added (item : α) (room : q.full = false) (queue : outcome.queue.getD q = q.enqueue item)
      (reply : outcome.reply = .code .success)
  | removed (left : q.empty = false) (queue : outcome.queue.getD q = q.dequeue)
      (reply : outcome.reply = .popped .success (some q.front))

/-- A call that fails leaves its queue as it is. -/
theorem Performed.refused {q : Queue α} {outcome : Outcome α} {r : RetVal}
    (queue : outcome.queue = some q) (code : outcome.reply.ret = some r) (failed : r ≠ .success) :
    Performed q outcome :=
  .kept (by rw [queue]; rfl) fun success => failed (Option.some.inj (code.symm.trans success))

/-- What try_add does. -/
theorem tryAdd_performed (q : Queue α) (item : Option α) :
    Performed q (tryAdd (some q) item) := by
  cases item with
  | none => exact .refused rfl rfl (by decide)
  | some item =>
    cases full : q.full with
    | true =>
      rw [tryAdd_refused full]
      exact .refused rfl rfl (by decide)
    | false =>
      rw [tryAdd_room full]
      exact .added item full rfl rfl

/-- What try_pop does. -/
theorem tryPop_performed (q : Queue α) (out : Option (Option α)) :
    Performed q (tryPop (some q) out) := by
  cases out with
  | none => exact .refused rfl rfl (by decide)
  | some value =>
    cases empty : q.empty with
    | true =>
      rw [tryPop_refused empty]
      exact .refused rfl rfl (by decide)
    | false =>
      rw [tryPop_left empty]
      exact .removed empty rfl rfl

/-- What any call does. -/
theorem call_performed {q : Queue α} {valid : Bool} {op : Op α} {outcome : Outcome α}
    (returned : call (if valid then some q else none) op = some outcome) :
    Performed q outcome := by
  cases valid with
  | false => cases op <;> (obtain rfl := Option.some.inj returned; exact .kept rfl nofun)
  | true =>
    cases op with
    | add item waits =>
      cases full : q.full with
      | true =>
        obtain ⟨queue, r, failed, reply⟩ := add_blocked full returned
        exact .refused queue (congrArg Reply.ret reply) failed
      | false =>
        obtain rfl := Option.some.inj ((add_eq_tryAdd full item waits).symm.trans returned)
        exact tryAdd_performed q item
    | pop out waits =>
      cases empty : q.empty with
      | true =>
        obtain ⟨queue, r, failed, reply⟩ := pop_blocked empty returned
        exact .refused queue (congrArg Reply.ret reply) failed
      | false =>
        obtain rfl := Option.some.inj ((pop_eq_tryPop empty out waits).symm.trans returned)
        exact tryPop_performed q out
    | tryAdd item => exact Option.some.inj returned ▸ tryAdd_performed q item
    | tryPop out => exact Option.some.inj returned ▸ tryPop_performed q out
    | isEmpty | isFull | getSize => exact Option.some.inj returned ▸ .kept rfl nofun

/-- Every call keeps the invariant and the capacity. -/
theorem call_wellFormed {q : Queue α} (wf : q.WellFormed) {valid : Bool} {op : Op α}
    {outcome : Outcome α}
    (returned : call (if valid then some q else none) op = some outcome) :
    (outcome.queue.getD q).WellFormed ∧ (outcome.queue.getD q).capacity = q.capacity := by
  cases call_performed returned with
  | kept same =>
    rw [same]
    exact ⟨wf, rfl⟩
  | added item room grown =>
    rw [grown]
    exact ⟨Queue.enqueue_wellFormed wf (room_of_not_full wf room) item, rfl⟩
  | removed left shrunk =>
    rw [shrunk]
    exact ⟨Queue.dequeue_wellFormed wf (left_of_not_empty left), rfl⟩

/-- A sequence of calls keeps the invariant and the capacity. -/
theorem runCalls_wellFormed {calls : List (Bool × Op α)} {q q' : Queue α}
    {replies : List (Reply α)} (wf : q.WellFormed)
    (ran : runCalls q calls = some (q', replies)) :
    q'.WellFormed ∧ q'.capacity = q.capacity := by
  induction calls generalizing q replies with
  | nil =>
    obtain ⟨rfl, rfl⟩ := Prod.mk.inj (Option.some.inj ran)
    exact ⟨wf, rfl⟩
  | cons first rest ih =>
    obtain ⟨valid, op⟩ := first
    simp only [runCalls] at ran
    split at ran
    · contradiction
    · rename_i outcome returned
      obtain ⟨kept, capacity⟩ := call_wellFormed wf returned
      obtain ⟨⟨last, later⟩, ranRest, same⟩ := Option.map_eq_some_iff.mp ran
      obtain ⟨rfl, rfl⟩ := Prod.mk.inj same
      obtain ⟨final, unchanged⟩ := ih kept ranRest
      exact ⟨final, unchanged.trans capacity⟩

/-- A sequence of calls on a well-formed queue is simulated by the abstract queue. -/
theorem runCalls_refines (calls : List (Bool × Op α)) {q : Queue α} (wf : q.WellFormed) :
    Fifo.runCalls q.capacity q.contents calls =
      (runCalls q calls).map fun (q', replies) => (q'.contents, replies) := by
  induction calls generalizing q with
  | nil => rfl
  | cons first rest ih =>
    obtain ⟨valid, op⟩ := first
    simp only [Fifo.runCalls, runCalls, call_refines wf valid op]
    cases returned : call (if valid then some q else none) op with
    | none => rfl
    | some outcome =>
      obtain ⟨kept, capacity⟩ := call_wellFormed wf returned
      have later := ih kept
      rw [capacity] at later
      simp only [Option.map_some, later, Option.map_map]
      rfl

/-- What the next call on a queue of capacity `n` does, in terms of the list the queue holds. -/
structure CallContract (n : Nat) (q : Queue α) : Prop where
  /-- A successful add appends its item. -/
  add_appends : ∀ item waits outcome, add (some q) item waits = some outcome →
    outcome.reply = .code .success →
      ∃ x q', item = some x ∧ outcome.queue = some q' ∧ q'.contents = q.contents ++ [x]
  /-- A successful try_add appends its item. -/
  tryAdd_appends : ∀ item, (tryAdd (some q) item).reply = .code .success →
    ∃ x q', item = some x ∧ (tryAdd (some q) item).queue = some q' ∧
      q'.contents = q.contents ++ [x]
  /-- A successful pop returns and removes the oldest item. -/
  pop_oldest : ∀ out waits outcome, pop (some q) out waits = some outcome →
    outcome.reply.ret = some .success →
      ∃ x q', outcome.reply = .popped .success (some (some x)) ∧ outcome.queue = some q' ∧
        q.contents = x :: q'.contents
  /-- A successful try_pop returns and removes the oldest item. -/
  tryPop_oldest : ∀ out, (tryPop (some q) out).reply.ret = some .success →
    ∃ x q', (tryPop (some q) out).reply = .popped .success (some (some x)) ∧
      (tryPop (some q) out).queue = some q' ∧ q.contents = x :: q'.contents
  /-- The two ways to add agree whenever there is room. -/
  add_agrees : q.contents.length ≠ n → ∀ item waits,
    add (some q) item waits = some (tryAdd (some q) item)
  /-- The two ways to remove agree whenever there is an item. -/
  pop_agrees : q.contents ≠ [] → ∀ out waits,
    pop (some q) out waits = some (tryPop (some q) out)
  /-- try_add reports a full queue exactly when the list has length `n`. -/
  tryAdd_full : ∀ item, (tryAdd (some q) (some item)).reply = .code .errFull ↔
    q.contents.length = n
  /-- try_pop reports an empty queue exactly when the list is empty. -/
  tryPop_empty : ∀ value, (tryPop (some q) (some value)).reply.ret = some .errEmpty ↔
    q.contents = []
  /-- A call that returns any code but success leaves the list alone. -/
  failure_keeps : ∀ (valid : Bool) op outcome r,
    call (if valid then some q else none) op = some outcome →
    outcome.reply.ret = some r → r ≠ .success → (outcome.queue.getD q).contents = q.contents
  /-- A failing pop with non-NULL arguments stores NULL through its output pointer. -/
  pop_stores_null : ∀ value waits outcome r, pop (some q) (some value) waits = some outcome →
    outcome.reply.ret = some r → r ≠ .success → outcome.reply = .popped r (some none)
  /-- A failing try_pop with non-NULL arguments stores NULL through its output pointer. -/
  tryPop_stores_null : ∀ value r, (tryPop (some q) (some value)).reply.ret = some r →
    r ≠ .success → (tryPop (some q) (some value)).reply = .popped r (some none)
  /-- The status calls report the list and leave the queue as it is. -/
  status_reports :
    isEmpty (some q) = ⟨some q, .success, .flag q.contents.isEmpty⟩ ∧
    isFull (some q) = ⟨some q, .success, .flag (decide (q.contents.length = n))⟩ ∧
    getSize (some q) = ⟨some q, .success, .count q.contents.length⟩

/-- A successful try_add on a well-formed queue appends its item. -/
theorem tryAdd_success {q : Queue α} (wf : q.WellFormed) {item : Option α}
    (success : (tryAdd (some q) item).reply = .code .success) :
    ∃ x q', item = some x ∧ (tryAdd (some q) item).queue = some q' ∧
      q'.contents = q.contents ++ [x] := by
  cases item with
  | none => simp [tryAdd] at success
  | some x =>
    cases full : q.full with
    | true => simp [tryAdd_refused full] at success
    | false =>
      refine ⟨x, q.enqueue x, rfl, by rw [tryAdd_room full], ?_⟩
      exact Queue.enqueue_contents wf (room_of_not_full wf full) x

/-- A successful try_pop on a well-formed queue returns and removes the oldest item. -/
theorem tryPop_success {q : Queue α} (wf : q.WellFormed) {out : Option (Option α)}
    (success : (tryPop (some q) out).reply.ret = some .success) :
    ∃ x q', (tryPop (some q) out).reply = .popped .success (some (some x)) ∧
      (tryPop (some q) out).queue = some q' ∧ q.contents = x :: q'.contents := by
  cases out with
  | none => simp [tryPop, Reply.ret] at success
  | some value =>
    cases empty : q.empty with
    | true => simp [tryPop_refused empty, Reply.ret] at success
    | false =>
      obtain ⟨x, holds, split⟩ := Queue.dequeue_contents wf (left_of_not_empty empty)
      refine ⟨x, q.dequeue, ?_, by rw [tryPop_left empty], split⟩
      rw [tryPop_left empty, holds]

/-- A failing call leaves the list alone. -/
theorem failure_keeps_contents {q : Queue α} {valid : Bool} {op : Op α}
    {outcome : Outcome α} {r : RetVal}
    (returned : call (if valid then some q else none) op = some outcome)
    (code : outcome.reply.ret = some r) (failed : r ≠ .success) :
    (outcome.queue.getD q).contents = q.contents := by
  cases call_performed returned with
  | kept queue => rw [queue]
  | added item room queue reply =>
    rw [reply] at code
    exact absurd (Option.some.inj code).symm failed
  | removed left queue reply =>
    rw [reply] at code
    exact absurd (Option.some.inj code).symm failed

/-- The next call on a well-formed queue meets its contract. -/
theorem callContract {q : Queue α} (wf : q.WellFormed) : CallContract q.capacity q where
  add_appends item waits outcome returned success := by
    cases full : q.full with
    | true =>
      obtain ⟨-, r, failed, reply⟩ := add_blocked full returned
      exact absurd (Reply.code.inj (reply.symm.trans success)) failed
    | false =>
      rw [add_eq_tryAdd full] at returned
      obtain rfl := Option.some.inj returned
      exact tryAdd_success wf success
  tryAdd_appends _ success := tryAdd_success wf success
  pop_oldest out waits outcome returned success := by
    cases empty : q.empty with
    | true =>
      obtain ⟨-, r, failed, reply⟩ := pop_blocked empty returned
      rw [reply] at success
      exact absurd (Option.some.inj success) failed
    | false =>
      rw [pop_eq_tryPop empty] at returned
      obtain rfl := Option.some.inj returned
      exact tryPop_success wf success
  tryPop_oldest _ success := tryPop_success wf success
  add_agrees room item waits := by
    apply add_eq_tryAdd
    simpa [Queue.full_contents wf] using room
  pop_agrees left out waits := by
    apply pop_eq_tryPop
    simpa [Queue.empty_contents wf] using left
  tryAdd_full item := by
    have measured := Queue.full_contents wf
    cases full : q.full with
    | true => simpa [tryAdd_refused full, full] using measured
    | false => simpa [tryAdd_room full, full] using measured
  tryPop_empty value := by
    have measured := Queue.empty_contents wf
    cases empty : q.empty with
    | true => simpa [tryPop_refused empty, Reply.ret, empty] using measured
    | false => simpa [tryPop_left empty, Reply.ret, empty] using measured
  failure_keeps _ _ _ _ returned code failed := failure_keeps_contents returned code failed
  pop_stores_null value waits outcome r returned code failed := by
    cases empty : q.empty with
    | true =>
      obtain ⟨-, r', -, reply⟩ := pop_blocked empty returned
      rw [reply] at code ⊢
      obtain rfl := Option.some.inj code
      rfl
    | false =>
      rw [pop_eq_tryPop empty, tryPop_left empty] at returned
      obtain rfl := Option.some.inj returned
      exact absurd (Option.some.inj code).symm failed
  tryPop_stores_null value r code failed := by
    cases empty : q.empty with
    | true =>
      rw [tryPop_refused empty] at code ⊢
      obtain rfl := Option.some.inj code
      rfl
    | false =>
      rw [tryPop_left empty] at code
      exact absurd (Option.some.inj code).symm failed
  status_reports := by
    simp [isEmpty, isFull, getSize, status, Queue.empty_contents wf, Queue.full_contents wf,
      Queue.contents_length wf]

/-- From an accepted capacity on, every sequence of calls is simulated by the abstract queue,
and every state it ends in satisfies the buffer invariant, reads its list off the buffer from
the head on, and meets the contract of the next call. -/
theorem ring_refines_fifo {p : Platform} {n : Nat} {env : InitEnv} {q₀ : Queue α}
    (created : init p n env = .ok q₀) (calls : List (Bool × Op α)) :
    Fifo.runCalls n [] calls =
        (runCalls q₀ calls).map (fun (q, replies) => (q.contents, replies)) ∧
      ∀ q replies, runCalls q₀ calls = some (q, replies) →
        q.WellFormed ∧ q.capacity = n ∧ q.contents.length = q.size ∧
          (∀ i < q.size, q.contents[i]? = q.cell ((q.head + i) % n)) ∧ CallContract n q := by
  obtain ⟨positive, rfl⟩ := init_ok created
  have wf : (fresh n : Queue α).WellFormed := Queue.fresh_wellFormed positive
  constructor
  · have simulated := runCalls_refines calls wf
    rwa [Queue.fresh_contents] at simulated
  · intro q replies ran
    obtain ⟨kept, capacity⟩ := runCalls_wellFormed wf ran
    have same : q.capacity = n := capacity
    subst same
    exact ⟨kept, rfl, Queue.contents_length kept,
      fun i inside => Queue.contents_getElem? kept inside, callContract kept⟩

/-- A queue of capacity one on a 64-bit platform: an item goes in, a second is refused, the
first comes out, and the buffer has wrapped. -/
theorem ring_refines_fifo_wrap :
    runCalls (fresh 1) [(true, .tryAdd (some 7)), (true, .tryAdd (some 8)),
        (true, .pop (some none) []), (true, .add (some 9) [])] =
      some (⟨[some 9], 1, 1, 0, 0⟩,
        [.code .success, .code .errFull, .popped .success (some (some 7)), .code .success]) ∧
    CallContract 1 (⟨[some 9], 1, 1, 0, 0⟩ : Queue Nat) := by
  have ran : runCalls (fresh 1) [(true, .tryAdd (some 7)), (true, .tryAdd (some 8)),
      (true, .pop (some none) []), (true, .add (some 9) [])] =
      some (⟨[some 9], 1, 1, 0, 0⟩,
        [.code .success, .code .errFull, .popped .success (some (some 7)), .code .success]) :=
    rfl
  have created : init (α := Nat) ⟨64, 8⟩ 1 ⟨true, true, true, true, true, true⟩ =
      .ok (fresh 1) := rfl
  exact ⟨ran, ((ring_refines_fifo created _).2 _ _ ran).2.2.2.2⟩

end SpaceCaptain.GenericQueue
