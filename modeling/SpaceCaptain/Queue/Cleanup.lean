import SpaceCaptain.Queue.Fifo

/-!
# What the cleanup callback is given

`sc_generic_queue_nuke_with_cleanup` empties the queue before it frees it, and passes each item
with the caller's user data to `cleanup_fn`. With no other thread in the queue its effect on the
user data is a fold of the callback over the items still queued. Which items these are is
accounted for over any sequence of calls: what was put in is what was popped followed by what the
callback is given.
-/
namespace SpaceCaptain.GenericQueue

variable {α σ : Type*}

/-- `sc_generic_queue_cleanup_fn` — what the callback does to its user data, given an item. -/
abbrev CleanupFn (α σ : Type*) := Option α → σ → σ

/-- The drain loop of `sc_generic_queue_nuke_with_cleanup`: the queue and the user data after it. -/
def drainLoop (cleanupFn : Option (CleanupFn α σ)) (q : Queue α) (userData : σ) : Queue α × σ :=
  if 0 < q.size then
    let item := q.front
    drainLoop cleanupFn q.dequeue
      (match cleanupFn with
        | some f => f item userData
        | none => userData)
  else (q, userData)
termination_by q.size
decreasing_by
  simp only [Queue.dequeue]
  omega

/-- What `sc_generic_queue_nuke_with_cleanup` leaves behind. -/
structure Nuked (σ : Type*) where
  /-- The caller's `queue_errno`. -/
  errno : RetVal
  /-- The user data. -/
  userData : σ
  /-- The buffer and the queue were freed. -/
  freed : Bool
  deriving DecidableEq, Repr

/-- `sc_generic_queue_nuke_with_cleanup`; it does not reset `queue_errno`. -/
def nukeWithCleanup (q : Option (Queue α)) (cleanupFn : Option (CleanupFn α σ)) (userData : σ)
    (errno : RetVal) : Nuked σ :=
  match q with
  | none => ⟨.errNull, userData, false⟩
  | some q => ⟨errno, (drainLoop cleanupFn q userData).2, true⟩

/-- The item a call puts in when it succeeds. -/
def Op.putItem : Op α → Option α
  | .add item _ | .tryAdd item => item
  | _ => none

/-- The item a call put in. -/
def acceptedItem (op : Op α) (reply : Reply α) : Option α :=
  match reply with
  | .code .success => op.putItem
  | _ => none

/-- The item a call handed out. -/
def Reply.poppedItem : Reply α → Option α
  | .popped .success (some item) => item
  | _ => none

/-- The items put in by a sequence of calls with these replies, oldest first. -/
def acceptedItems (calls : List (Bool × Op α)) (replies : List (Reply α)) : List α :=
  (calls.zip replies).filterMap fun (call, reply) => acceptedItem call.2 reply

/-- The items handed out with these replies, oldest first. -/
def poppedItems (replies : List (Reply α)) : List α := replies.filterMap Reply.poppedItem

/-- A reply that is not success moves no item. -/
theorem failed_balance {op : Op α} {e : RetVal} {reply : Reply α} (xs : List α)
    (failed : e ≠ .success) (code : reply.ret = some e) :
    xs ++ (acceptedItem op reply).toList = reply.poppedItem.toList ++ xs := by
  have accepted : acceptedItem op reply = none := by
    unfold acceptedItem
    split
    · exact absurd (Option.some.inj code).symm failed
    · rfl
  have popped : reply.poppedItem = none := by
    unfold Reply.poppedItem
    split
    · exact absurd (Option.some.inj code).symm failed
    · rfl
  simp [accepted, popped]

/-- A reply without a code moves no item. -/
theorem status_balance {op : Op α} {reply : Reply α} (xs : List α) (plain : reply.ret = none) :
    xs ++ (acceptedItem op reply).toList = reply.poppedItem.toList ++ xs := by
  cases reply with
  | code | popped => contradiction
  | flag | count => simp [acceptedItem, Reply.poppedItem]

/-- A list grown by a push is the list and the item. -/
theorem push_some {n : Nat} {xs ys : List α} {item : α}
    (pushed : Fifo.push n xs item = some ys) : ys = xs ++ [item] := by
  unfold Fifo.push at pushed
  split at pushed
  · contradiction
  · exact (Option.some.inj pushed).symm

/-- A list split by a pull is the item and the rest. -/
theorem pull_some {xs rest : List α} {item : α} (pulled : Fifo.pull xs = some (item, rest)) :
    xs = item :: rest := by
  cases xs with
  | nil => contradiction
  | cons x xs =>
    obtain ⟨rfl, rfl⟩ := Prod.mk.inj (Option.some.inj pulled)
    rfl

/-- A call on the abstract queue appends what it puts in and takes what it hands out from the
front. -/
theorem call_balance {n : Nat} {xs ys : List α} {valid : Bool} {op : Op α} {reply : Reply α}
    (called : Fifo.call n xs (valid, op) = some (ys, reply)) :
    xs ++ (acceptedItem op reply).toList = reply.poppedItem.toList ++ ys := by
  unfold Fifo.call at called
  split at called
  · rename_i same
    obtain ⟨rfl, rfl⟩ := Prod.mk.inj same
    split at called
    · rename_i pushed
      obtain ⟨rfl, rfl⟩ := Prod.mk.inj (Option.some.inj called)
      simp [acceptedItem, Op.putItem, Reply.poppedItem, push_some pushed]
    · obtain ⟨e, code, given⟩ := Option.map_eq_some_iff.mp called
      obtain ⟨rfl, rfl⟩ := Prod.mk.inj given
      exact failed_balance xs (blockedCode_ne_success code) rfl
  · rename_i same
    obtain ⟨rfl, rfl⟩ := Prod.mk.inj same
    split at called
    · rename_i pushed
      obtain ⟨rfl, rfl⟩ := Prod.mk.inj (Option.some.inj called)
      simp [acceptedItem, Op.putItem, Reply.poppedItem, push_some pushed]
    · obtain ⟨rfl, rfl⟩ := Prod.mk.inj (Option.some.inj called)
      exact failed_balance xs (by decide) rfl
  · split at called
    · rename_i pulled
      obtain ⟨rfl, rfl⟩ := Prod.mk.inj (Option.some.inj called)
      simp [acceptedItem, Reply.poppedItem, pull_some pulled]
    · obtain ⟨e, code, given⟩ := Option.map_eq_some_iff.mp called
      obtain ⟨rfl, rfl⟩ := Prod.mk.inj given
      exact failed_balance xs (blockedCode_ne_success code) rfl
  · split at called
    · rename_i pulled
      obtain ⟨rfl, rfl⟩ := Prod.mk.inj (Option.some.inj called)
      simp [acceptedItem, Reply.poppedItem, pull_some pulled]
    · obtain ⟨rfl, rfl⟩ := Prod.mk.inj (Option.some.inj called)
      exact failed_balance xs (by decide) rfl
  all_goals
    obtain ⟨rfl, rfl⟩ := Prod.mk.inj (Option.some.inj called)
    first
    | exact status_balance xs rfl
    | exact failed_balance xs (by decide) rfl

/-- Over a sequence of calls, what is there at first and what is put in is what is handed out and
what is there at last. -/
theorem runCalls_balance (calls : List (Bool × Op α)) {n : Nat} {xs ys : List α}
    {replies : List (Reply α)} (ran : Fifo.runCalls n xs calls = some (ys, replies)) :
    xs ++ acceptedItems calls replies = poppedItems replies ++ ys := by
  induction calls generalizing xs replies with
  | nil =>
    obtain ⟨rfl, rfl⟩ := Prod.mk.inj (Option.some.inj ran)
    simp [acceptedItems, poppedItems]
  | cons first rest ih =>
    obtain ⟨valid, op⟩ := first
    simp only [Fifo.runCalls] at ran
    split at ran
    · contradiction
    · rename_i zs reply called
      obtain ⟨⟨last, later⟩, ranRest, same⟩ := Option.map_eq_some_iff.mp ran
      obtain ⟨rfl, rfl⟩ := Prod.mk.inj same
      have one := call_balance called
      have more := ih ranRest
      have accepted : acceptedItems ((valid, op) :: rest) (reply :: later) =
          (acceptedItem op reply).toList ++ acceptedItems rest later := by
        cases item : acceptedItem op reply <;> simp [acceptedItems, item]
      have popped : poppedItems (reply :: later) = reply.poppedItem.toList ++ poppedItems later := by
        cases item : reply.poppedItem <;> simp [poppedItems, item]
      rw [accepted, popped, ← List.append_assoc, one, List.append_assoc, more,
        List.append_assoc]

/-- The drain loop passes the items of a well-formed queue to the callback, oldest first, and leaves
the queue empty. -/
theorem drainLoop_fold {q : Queue α} (wf : q.WellFormed) (f : CleanupFn α σ) (userData : σ) :
    (drainLoop (some f) q userData).1.size = 0 ∧
      (drainLoop (some f) q userData).2 =
        q.contents.foldl (fun data item => f (some item) data) userData := by
  induction size : q.size generalizing q userData with
  | zero =>
    have none_left : q.contents = [] := by
      rw [← List.length_eq_zero_iff, Queue.contents_length wf, size]
    rw [drainLoop, if_neg (by omega), none_left]
    exact ⟨size, rfl⟩
  | succ left ih =>
    have some_left : 0 < q.size := by omega
    obtain ⟨item, front, split⟩ := Queue.dequeue_contents wf some_left
    have smaller : q.dequeue.size = left := by
      simp [Queue.dequeue, size]
    have rest := ih (Queue.dequeue_wellFormed wf some_left) (f (some item) userData) smaller
    rw [drainLoop, if_pos some_left, split, front]
    exact rest

/-- Without a callback the drain loop leaves the user data alone. -/
theorem drainLoop_none (q : Queue α) (userData : σ) :
    (drainLoop none q userData).2 = userData := by
  induction size : q.size generalizing q with
  | zero =>
    rw [drainLoop, if_neg (by omega)]
  | succ left ih =>
    rw [drainLoop, if_pos (by omega)]
    exact ih q.dequeue (by simp [Queue.dequeue, size])

/-- With a callback the user data is folded over the items of a well-formed queue. -/
theorem nukeWithCleanup_fold {q : Queue α} (wf : q.WellFormed) (f : CleanupFn α σ) (userData : σ)
    (errno : RetVal) :
    nukeWithCleanup (some q) (some f) userData errno =
      ⟨errno, q.contents.foldl (fun data item => f (some item) data) userData, true⟩ := by
  rw [nukeWithCleanup, (drainLoop_fold wf f userData).2]

/-- The callback that writes down what it is given. -/
def passed : CleanupFn α (List α) := fun item items => items ++ item.toList

/-- After any sequence of calls the callback is folded over the items still queued, oldest first;
without one the user data stays as it is; and what the calls put in is, in order, what they
popped followed by what the callback is given. -/
theorem cleanup_drains {p : Platform} {n : Nat} {env : InitEnv} {q₀ q : Queue α}
    (created : init p n env = .ok q₀) {calls : List (Bool × Op α)} {replies : List (Reply α)}
    (ran : runCalls q₀ calls = some (q, replies)) (errno : RetVal) (userData : σ) :
    (∀ f : CleanupFn α σ, nukeWithCleanup (some q) (some f) userData errno =
      ⟨errno, q.contents.foldl (fun data item => f (some item) data) userData, true⟩) ∧
    nukeWithCleanup (some q) none userData errno = ⟨errno, userData, true⟩ ∧
    acceptedItems calls replies =
      poppedItems replies ++ (nukeWithCleanup (some q) (some passed) [] errno).userData := by
  obtain ⟨positive, rfl⟩ := init_ok created
  have fresh : (fresh n : Queue α).WellFormed := Queue.fresh_wellFormed positive
  have wf : q.WellFormed := (runCalls_wellFormed fresh ran).1
  refine ⟨fun f => nukeWithCleanup_fold wf f userData errno, ?_, ?_⟩
  · rw [nukeWithCleanup, drainLoop_none]
  · have simulated := runCalls_refines calls fresh
    rw [ran, Queue.fresh_contents] at simulated
    have balance := runCalls_balance calls simulated
    have given : q.contents.foldl (fun items item => passed (some item) items) [] = q.contents := by
      simp [passed, ← List.flatMap_def]
    rw [nukeWithCleanup_fold wf, given]
    simpa using balance

/-- A queue of capacity two that has wrapped: 1 was popped, and the callback gets 2 and then 3. -/
theorem cleanup_drains_wrapped :
    runCalls (fresh 2) [(true, .tryAdd (some 1)), (true, .tryAdd (some 2)),
        (true, .tryPop (some none)), (true, .tryAdd (some 3))] =
      some (⟨[some 3, some 2], 2, 2, 1, 1⟩, [.code .success, .code .success,
        .popped .success (some (some 1)), .code .success]) ∧
    nukeWithCleanup (some (⟨[some 3, some 2], 2, 2, 1, 1⟩ : Queue Nat))
      (some fun item sum => 10 * sum + item.getD 0) 0 .success = ⟨.success, 23, true⟩ := by
  have created : init (α := Nat) ⟨64, 8⟩ 2 ⟨true, true, true, true, true, true⟩ =
      .ok (fresh 2) := rfl
  have ran : runCalls (fresh 2) [(true, .tryAdd (some 1)), (true, .tryAdd (some 2)),
      (true, .tryPop (some none)), (true, .tryAdd (some 3))] =
      some (⟨[some 3, some 2], 2, 2, 1, 1⟩, [.code .success, .code .success,
        .popped .success (some (some 1)), .code .success]) := rfl
  exact ⟨ran, (cleanup_drains created ran .success 0).1 _⟩

end SpaceCaptain.GenericQueue
