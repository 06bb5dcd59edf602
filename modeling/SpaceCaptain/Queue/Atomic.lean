import SpaceCaptain.Library.Simulation
import SpaceCaptain.Queue.Fifo
import SpaceCaptain.Queue.History

/-!
# The queue as one atomic object

What the threads see of the queue are their calls and the answers. An atomic queue is a list of
items that takes each call at one moment: a call is pending, is decided by the sequential
specification `Fifo.call`, and then returns. A call that fails changes nothing, and may be decided
by what a thread saw at an earlier moment of the same call. The interleaved queue is a refinement
of the atomic one: whatever calls and answers a run shows, in their order, the atomic queue can
show too. So every call takes effect as a whole, at a moment between its entry and its return.
-/
namespace SpaceCaptain.GenericQueue

open SpaceCaptain.Library

variable {T α : Type*}

/-- What a thread sees of the queue. -/
inductive Visible (T α : Type*) where
  /-- A thread enters a call; the flag is false when the queue pointer is NULL. -/
  | called (t : T) (valid : Bool) (c : Call α)
  /-- A thread gets an answer. -/
  | answered (t : T) (reply : Reply α)
  deriving DecidableEq, Repr

/-- A call as an operation of the sequential interface, with the results of its waits. -/
def Call.op (waits : List WaitResult) : Call α → Option (Op α)
  | .add item => some (.add item waits)
  | .pop out => some (.pop out waits)
  | .tryAdd item => some (.tryAdd item)
  | .tryPop out => some (.tryPop out)
  | .status .isEmpty => some .isEmpty
  | .status .isFull => some .isFull
  | .status .getSize => some .getSize
  | .nukeWithCleanup _ => none

/-- A call on a list of at most `n` items: the list after it, and the answer. -/
def Call.decide (n : Nat) (xs : List α) (valid : Bool) (waits : List WaitResult) (c : Call α) :
    Option (List α × Reply α) :=
  (c.op waits).bind fun op => Fifo.call n xs (valid, op)

/-- Where a thread is with its call. -/
inductive Standing (α : Type*) where
  | idle
  /-- The call is not decided; the list is the one last looked at. -/
  | pending (valid : Bool) (c : Call α) (seen : Option (List α))
  /-- The call is decided and not answered. -/
  | decided (reply : Reply α)

/-- The atomic queue and the threads. -/
structure AtomicState (T α : Type*) where
  /-- The items, oldest first. -/
  items : List α
  /-- The threads. -/
  standing : T → Standing α

/-- The actions of a thread on the atomic queue. -/
inductive AtomicAct (T α : Type*) where
  | call (t : T) (valid : Bool) (c : Call α)
  | look (t : T)
  | decide (t : T) (waits : List WaitResult)
  | recall (t : T) (waits : List WaitResult)
  | answer (t : T)

section Atomic

variable [DecidableEq T]

/-- A thread goes on. -/
def AtomicState.put (a : AtomicState T α) (t : T) (standing : Standing α) : AtomicState T α :=
  { a with standing := Function.update a.standing t standing }

/-- The steps of the atomic queue that holds at most `n` items. -/
inductive AtomicStep (n : Nat) : AtomicState T α → AtomicAct T α → AtomicState T α → Prop
  /-- A call begins. -/
  | call {a : AtomicState T α} {t : T} (valid : Bool) (c : Call α) (idle : a.standing t = .idle) :
      AtomicStep n a (.call t valid c) (a.put t (.pending valid c none))
  /-- A pending call looks at the items. -/
  | look {a : AtomicState T α} {t : T} {valid : Bool} {c : Call α} {seen : Option (List α)}
      (pending : a.standing t = .pending valid c seen) :
      AtomicStep n a (.look t) (a.put t (.pending valid c (some a.items)))
  /-- A pending call takes effect on the items. -/
  | decide {a : AtomicState T α} {t : T} {valid : Bool} {c : Call α} {seen : Option (List α)}
      {waits : List WaitResult} {items : List α} {reply : Reply α}
      (pending : a.standing t = .pending valid c seen)
      (decided : c.decide n a.items valid waits = some (items, reply)) :
      AtomicStep n a (.decide t waits) ({ a with items }.put t (.decided reply))
  /-- A pending call fails because of the items that it looked at. -/
  | recall {a : AtomicState T α} {t : T} {valid : Bool} {c : Call α} {seen items : List α}
      {waits : List WaitResult} {reply : Reply α}
      (pending : a.standing t = .pending valid c (some seen))
      (decided : c.decide n seen valid waits = some (items, reply))
      (failed : reply.ret ≠ some .success) :
      AtomicStep n a (.recall t waits) (a.put t (.decided reply))
  /-- A call returns. -/
  | answer {a : AtomicState T α} {t : T} {reply : Reply α}
      (decided : a.standing t = .decided reply) :
      AtomicStep n a (.answer t) (a.put t .idle)

/-- The answer that a decided call brings. -/
def Standing.answer (t : T) : Standing α → List (Visible T α)
  | .decided reply => [.answered t reply]
  | .idle | .pending _ _ _ => []

/-- What a step of the atomic queue shows. -/
def AtomicState.shown (a : AtomicState T α) (act : AtomicAct T α) (_ : AtomicState T α) :
    List (Visible T α) :=
  match act with
  | .call t valid c => [.called t valid c]
  | .answer t => (a.standing t).answer t
  | .look _ | .decide _ _ | .recall _ _ => []

/-- The empty atomic queue, before the first call. -/
def AtomicState.empty : AtomicState T α := ⟨[], fun _ => .idle⟩

/-- The runs of the atomic queue with what they show. -/
abbrev AtomicRun (n : Nat) : AtomicState T α → List (Visible T α) → AtomicState T α → Prop :=
  Path (AtomicStep n) AtomicState.shown

end Atomic

/-- The call that an action enters. -/
def Act.called (t : T) : Act T α → List (Visible T α)
  | .call valid c => [.called t valid c]
  | _ => []

/-- What a step of the interleaved queue shows: the call it enters, and the answers it gives. -/
def State.shown (s : State T α) (label : Label T α) (s' : State T α) : List (Visible T α) :=
  label.2.called label.1 ++
    (s'.returned.drop s.returned.length).map fun r => .answered r.thread r.reply

/-- The runs of the interleaved queue without destruction, with what they show. -/
abbrev Run [Fintype T] [DecidableEq T] :
    State T α → List (Visible T α) → State T α → Prop :=
  Path (fun s label s' => withoutNuke label = true ∧ next s label = some s') State.shown

/-- The operation that a call with valid arguments executes. -/
inductive Call.Performs : Call α → OpCall α → Prop
  | add (item : α) : Performs (.add (some item)) (.add item)
  | pop (out : Option α) : Performs (.pop (some out)) .pop
  | tryAdd (item : α) : Performs (.tryAdd (some item)) (.tryAdd item)
  | tryPop (out : Option α) : Performs (.tryPop (some out)) .tryPop

/-- A call that is entered with its arguments checked. -/
theorem enter_performs {valid : Bool} {c : Call α} {p : Phase α} (kind : c.isNuke = false)
    (entered : enter valid c = .inl p) :
    valid = true ∧ ((∃ o, c.Performs o ∧ p = .op o (.wrlock false)) ∨
      ∃ q, c = .status q ∧ p = .status q .rdlock) := by
  cases c with
  | add argument =>
    cases argument <;> cases valid <;> simp [enter] at entered
    exact ⟨rfl, .inl ⟨_, .add _, entered.symm⟩⟩
  | pop argument =>
    cases argument <;> cases valid <;> simp [enter] at entered
    exact ⟨rfl, .inl ⟨_, .pop _, entered.symm⟩⟩
  | tryAdd argument =>
    cases argument <;> cases valid <;> simp [enter] at entered
    exact ⟨rfl, .inl ⟨_, .tryAdd _, entered.symm⟩⟩
  | tryPop argument =>
    cases argument <;> cases valid <;> simp [enter] at entered
    exact ⟨rfl, .inl ⟨_, .tryPop _, entered.symm⟩⟩
  | status q =>
    cases valid <;> simp [enter] at entered
    exact ⟨rfl, .inr ⟨q, rfl, entered.symm⟩⟩
  | nukeWithCleanup => contradiction

/-- A call refused for a NULL argument is answered as the specification says, and fails. -/
theorem decide_refused {valid : Bool} {c : Call α} {reply : Reply α} (kind : c.isNuke = false)
    (refused : enter valid c = .inr reply) (n : Nat) (xs : List α) :
    c.decide n xs valid [] = some (xs, reply) := by
  cases c with
  | add argument | tryAdd argument | pop argument | tryPop argument =>
    cases argument <;> cases valid <;> simp [enter] at refused <;> subst refused <;> rfl
  | status q =>
    cases valid <;> simp [enter] at refused
    subst refused
    cases q <;> rfl
  | nukeWithCleanup => contradiction

section Decide

variable {q : Queue α} {c : Call α} {o : OpCall α}

/-- An operation that is let through does what the specification says. -/
theorem decide_accepted (wf : q.WellFormed) (performs : c.Performs o)
    (accepted : o.refused q = false)
    {before out : Option α} {q' : Queue α} {effect : Option (Effect α)}
    (enacted : o.enact q before = (q', out, effect)) :
    c.decide q.capacity q.contents true [] = some (q'.contents, o.reply .success out) := by
  cases performs with
  | add item | tryAdd item =>
    obtain ⟨rfl, -⟩ := Prod.mk.inj enacted
    have pushed := push_room wf item accepted
    simp [Call.decide, Call.op, Fifo.call, pushed, OpCall.reply]
  | pop argument | tryPop argument =>
    obtain ⟨rfl, outcome⟩ := Prod.mk.inj enacted
    obtain ⟨rfl, -⟩ := Prod.mk.inj outcome
    obtain ⟨item, front, pulled⟩ := pull_nonempty wf accepted
    simp [Call.decide, Call.op, Fifo.call, pulled, OpCall.reply, front]

/-- An operation that does not wait is refused as the specification says. -/
theorem decide_declined (wf : q.WellFormed) (performs : c.Performs o) (refused : o.refused q = true)
    (returns : o.blocking = false) :
    c.decide q.capacity q.contents true [] =
      some (q.contents, o.reply o.refusal none) := by
  cases performs with
  | add | pop => contradiction
  | tryAdd item =>
    have full := push_full wf item refused
    simp [Call.decide, Call.op, Fifo.call, full, OpCall.reply, OpCall.refusal]
  | tryPop argument =>
    have empty := pull_empty wf refused
    simp [Call.decide, Call.op, Fifo.call, empty, OpCall.reply, OpCall.refusal]

/-- An operation that waits in vain fails as the specification says of the moment of its test. -/
theorem decide_gaveUp (wf : q.WellFormed) (performs : c.Performs o) (refused : o.refused q = true)
    (waits : o.blocking = true) {result : WaitResult} {code : RetVal}
    (blocked : Fifo.blockedCode [result] = some code) :
    c.decide q.capacity q.contents true [result] = some (q.contents, o.reply code none) := by
  cases performs with
  | tryAdd | tryPop => contradiction
  | add item =>
    have full := push_full wf item refused
    simp [Call.decide, Call.op, Fifo.call, full, blocked, OpCall.reply]
  | pop argument =>
    have empty := pull_empty wf refused
    simp [Call.decide, Call.op, Fifo.call, empty, blocked, OpCall.reply]

/-- A status call reads what the specification says. -/
theorem decide_status (wf : q.WellFormed) (asks : StatusCall) :
    (Call.status asks).decide q.capacity q.contents true [] =
      some (q.contents, (asks.read q : Reply α)) := by
  have length := Queue.contents_length wf
  cases asks with
  | isEmpty => simp [Call.decide, Call.op, Fifo.call, StatusCall.read, Queue.empty_contents wf]
  | isFull => simp [Call.decide, Call.op, Fifo.call, StatusCall.read, Queue.full_contents wf]
  | getSize => simp [Call.decide, Call.op, Fifo.call, StatusCall.read, length]

end Decide

/-- The statements between a refused test and the next one. -/
def Stage.blocked : Stage → Bool
  | .unlockBlocked | .lockCond | .deadline | .wait | .asleep _ | .relock _ | .unlockCond _
  | .resume _ => true
  | _ => false

/-- The statements before a test. -/
def Stage.testing : Stage → Bool
  | .wrlock _ | .body _ => true
  | _ => false

/-- A list on which a call would wait, and fail as its waits end. -/
def Waits (n : Nat) (c : Call α) (o : OpCall α) (xs : List α) : Prop :=
  ∀ result code, Fifo.blockedCode [result] = some code →
    c.decide n xs true [result] = some (xs, o.reply code none)

/-- A thread is where the atomic queue has it. -/
inductive Agrees (n : Nat) (th : Thread α) : Standing α → Prop
  | idle (at_phase : th.phase = .idle) : Agrees n th .idle
  /-- Before a test nothing is decided. -/
  | testing {c : Call α} {o : OpCall α} {stage : Stage} (seen : Option (List α))
      (at_phase : th.phase = .op o stage) (performs : c.Performs o) (testing : stage.testing = true)
      (cleared : th.out = none) : Agrees n th (.pending true c seen)
  /-- After a refused test the call has looked at a list on which it waits. -/
  | blocked {c : Call α} {o : OpCall α} {stage : Stage} {seen : List α}
      (at_phase : th.phase = .op o stage) (performs : c.Performs o) (blocked : stage.blocked = true)
      (cleared : th.out = none) (waits : Waits n c o seen) :
      Agrees n th (.pending true c (some seen))
  /-- A refused call that does not wait is decided. -/
  | declined {o : OpCall α} (at_phase : th.phase = .op o .unlockRefused) :
      Agrees n th (.decided (o.reply o.refusal th.out))
  /-- After the buffer update the call is decided. -/
  | done {o : OpCall α} {stage : Stage} (at_phase : th.phase = .op o stage)
      (done : stage.done = true) : Agrees n th (.decided (o.reply .success th.out))
  /-- Before the read nothing is decided. -/
  | asking {c : StatusCall} {stage : StatusStage α} (seen : Option (List α))
      (at_phase : th.phase = .status c stage) (asking : stage = .rdlock ∨ stage = .read) :
      Agrees n th (.pending true (.status c) seen)
  /-- After the read the call is decided. -/
  | told {c : StatusCall} {reply : Reply α} (at_phase : th.phase = .status c (.unlock reply)) :
      Agrees n th (.decided reply)

/-- The interleaved queue is where the atomic one is. -/
structure Refines (n : Nat) (s : State T α) (a : AtomicState T α) : Prop where
  /-- The items are the contents of the buffer. -/
  items : a.items = s.queue.contents
  /-- The threads agree. -/
  threads : ∀ u, Agrees n (s.threads u) (a.standing u)

section Agreement

variable {n : Nat} {th : Thread α} {o : OpCall α} {stage : Stage} {asks : StatusCall}
  {standing : Standing α}

/-- An idle thread has no call. -/
theorem Agrees.of_idle (agrees : Agrees n th standing) (at_phase : th.phase = .idle) :
    standing = .idle := by
  cases agrees with
  | idle => rfl
  | testing _ other | blocked other | declined other | done other | asking _ other | told other =>
    rw [at_phase] at other
    contradiction

/-- A thread before a test has a pending call. -/
theorem Agrees.of_testing (agrees : Agrees n th standing) (at_phase : th.phase = .op o stage)
    (testing : stage.testing = true) :
    ∃ c seen, standing = .pending true c seen ∧ c.Performs o ∧ th.out = none := by
  cases agrees with
  | idle other | asking _ other | told other =>
    rw [at_phase] at other
    contradiction
  | testing seen here performs _ cleared =>
    obtain ⟨rfl, -⟩ := Phase.op.inj (at_phase.symm.trans here)
    exact ⟨_, seen, rfl, performs, cleared⟩
  | blocked here _ blocked | done here blocked =>
    obtain ⟨-, rfl⟩ := Phase.op.inj (at_phase.symm.trans here)
    cases stage <;> contradiction
  | declined here =>
    obtain ⟨-, rfl⟩ := Phase.op.inj (at_phase.symm.trans here)
    contradiction

/-- A thread after a refused test has a pending call that has looked. -/
theorem Agrees.of_blocked (agrees : Agrees n th standing) (at_phase : th.phase = .op o stage)
    (blocked : stage.blocked = true) :
    ∃ c seen, standing = .pending true c (some seen) ∧ c.Performs o ∧ th.out = none ∧
      Waits n c o seen := by
  cases agrees with
  | idle other | asking _ other | told other =>
    rw [at_phase] at other
    contradiction
  | blocked here performs _ cleared waits =>
    obtain ⟨rfl, -⟩ := Phase.op.inj (at_phase.symm.trans here)
    exact ⟨_, _, rfl, performs, cleared, waits⟩
  | testing _ here _ early | done here early =>
    obtain ⟨-, rfl⟩ := Phase.op.inj (at_phase.symm.trans here)
    cases stage <;> contradiction
  | declined here =>
    obtain ⟨-, rfl⟩ := Phase.op.inj (at_phase.symm.trans here)
    contradiction

/-- A thread after its buffer update has a decided call. -/
theorem Agrees.of_done (agrees : Agrees n th standing) (at_phase : th.phase = .op o stage)
    (done : stage.done = true) : standing = .decided (o.reply .success th.out) := by
  cases agrees with
  | idle other | asking _ other | told other =>
    rw [at_phase] at other
    contradiction
  | done here =>
    obtain ⟨rfl, -⟩ := Phase.op.inj (at_phase.symm.trans here)
    rfl
  | testing _ here _ early | blocked here _ early =>
    obtain ⟨-, rfl⟩ := Phase.op.inj (at_phase.symm.trans here)
    cases stage <;> contradiction
  | declined here =>
    obtain ⟨-, rfl⟩ := Phase.op.inj (at_phase.symm.trans here)
    contradiction

/-- A thread that is refused and returns has a decided call. -/
theorem Agrees.of_declined (agrees : Agrees n th standing)
    (at_phase : th.phase = .op o .unlockRefused) :
    standing = .decided (o.reply o.refusal th.out) := by
  cases agrees with
  | idle other | asking _ other | told other =>
    rw [at_phase] at other
    contradiction
  | declined here =>
    obtain ⟨rfl, -⟩ := Phase.op.inj (at_phase.symm.trans here)
    rfl
  | testing _ here _ other | blocked here _ other | done here other =>
    obtain ⟨-, rfl⟩ := Phase.op.inj (at_phase.symm.trans here)
    contradiction

/-- A thread before its read has a pending status call. -/
theorem Agrees.of_asking (agrees : Agrees n th standing) {stage : StatusStage α}
    (at_phase : th.phase = .status asks stage) (asking : stage = .rdlock ∨ stage = .read) :
    ∃ seen, standing = .pending true (.status asks) seen := by
  cases agrees with
  | idle other | testing _ other | blocked other | declined other | done other =>
    rw [at_phase] at other
    contradiction
  | asking seen here =>
    obtain ⟨rfl, -⟩ := Phase.status.inj (at_phase.symm.trans here)
    exact ⟨seen, rfl⟩
  | told here =>
    obtain ⟨-, rfl⟩ := Phase.status.inj (at_phase.symm.trans here)
    simp at asking

/-- A thread after its read has a decided call. -/
theorem Agrees.of_told (agrees : Agrees n th standing) {reply : Reply α}
    (at_phase : th.phase = .status asks (.unlock reply)) : standing = .decided reply := by
  cases agrees with
  | idle other | testing _ other | blocked other | declined other | done other =>
    rw [at_phase] at other
    contradiction
  | asking _ here asking =>
    obtain ⟨-, rfl⟩ := Phase.status.inj (at_phase.symm.trans here)
    simp at asking
  | told here =>
    obtain ⟨-, same⟩ := Phase.status.inj (at_phase.symm.trans here)
    obtain rfl := StatusStage.unlock.inj same
    rfl

/-- Moving on after a refused test the thread stays where the atomic queue has it. -/
theorem Agrees.waiting (agrees : Agrees n th standing) (at_phase : th.phase = .op o stage)
    (blocked : stage.blocked = true) {th' : Thread α} {stage' : Stage}
    (later : th'.phase = .op o stage') (still : stage'.blocked = true) (out : th'.out = th.out) :
    Agrees n th' standing := by
  obtain ⟨c, seen, rfl, performs, cleared, waits⟩ := agrees.of_blocked at_phase blocked
  exact .blocked later performs still (out.trans cleared) waits

/-- Moving on after its buffer update the thread stays where the atomic queue has it. -/
theorem Agrees.leaving (agrees : Agrees n th standing) (at_phase : th.phase = .op o stage)
    (done : stage.done = true) {th' : Thread α} {stage' : Stage}
    (later : th'.phase = .op o stage') (still : stage'.done = true) (out : th'.out = th.out) :
    Agrees n th' standing := by
  rw [agrees.of_done at_phase done, ← out]
  exact .done later still

/-- A signal leaves its sleeper where the atomic queue has it. -/
theorem Agrees.marked (agrees : Agrees n th standing) (asleep : th.phase = .op o (.asleep false)) :
    Agrees n { th with phase := .op o (.asleep true) } standing :=
  agrees.waiting asleep rfl rfl rfl rfl

end Agreement

section Simulated

variable {n : Nat} {s s' : State T α} {t : T} {a : Act T α} {b b' : AtomicState T α}

/-- A step that returns nothing shows the call it enters. -/
theorem shown_silent (returned : s'.returned = s.returned) :
    s.shown (t, a) s' = a.called t := by
  simp [State.shown, returned]

/-- A step that returns shows the answer. -/
theorem shown_answer {r : Return T α} (returned : s'.returned = s.returned ++ [r]) :
    s.shown (t, a) s' = a.called t ++ [.answered r.thread r.reply] := by
  simp [State.shown, returned]

variable [DecidableEq T]

/-- When the acting thread agrees after a step, all do. -/
theorem Refines.moved (refines : Refines n s b) (moved : Move s t a s') {standing : Standing α}
    (own : Agrees n (s'.threads t) standing)
    (placed : b'.standing = Function.update b.standing t standing)
    (items : b'.items = s'.queue.contents) : Refines n s' b' := by
  refine ⟨items, fun u => ?_⟩
  rw [placed]
  by_cases acting : u = t
  · subst acting
    rw [Function.update_self]
    exact own
  · rw [Function.update_of_ne acting]
    rcases move_frame moved acting with same | ⟨o, asleep, marked⟩
    · rw [same]
      exact refines.threads u
    · rw [marked]
      exact (refines.threads u).marked asleep

/-- A step that shows nothing and changes no item, after which the thread still agrees. -/
theorem Refines.still (refines : Refines n s b) (moved : Move s t a s')
    (queue : s'.queue = s.queue) (returned : s'.returned = s.returned) (called : a.called t = [])
    (own : Agrees n (s'.threads t) (b.standing t)) :
    ∃ b', AtomicRun n b (s.shown (t, a) s') b' ∧ Refines n s' b' := by
  refine ⟨b, ?_, refines.moved moved own (Function.update_eq_self t b.standing).symm ?_⟩
  · rw [shown_silent returned, called]
    exact .refl b
  · rw [queue]
    exact refines.items

/-- A step that shows nothing is answered by one step of the atomic queue that shows nothing. -/
theorem Refines.silent (refines : Refines n s b) (moved : Move s t a s')
    (returned : s'.returned = s.returned) (called : a.called t = []) {act : AtomicAct T α}
    {items : List α} {standing : Standing α}
    (taken : AtomicStep n b act ({ b with items }.put t standing))
    (quiet : b.shown act ({ b with items }.put t standing) = [])
    (own : Agrees n (s'.threads t) standing) (same : items = s'.queue.contents) :
    ∃ b', AtomicRun n b (s.shown (t, a) s') b' ∧ Refines n s' b' := by
  refine ⟨{ b with items }.put t standing, ?_, refines.moved moved own rfl same⟩
  rw [shown_silent returned, called, ← quiet]
  exact .single taken

/-- The thread of a decided call answers and is idle. -/
theorem Refines.answered (refines : Refines n s b) (moved : Move s t a s') {reply : Reply α}
    {before : List (Visible T α)} {middle : AtomicState T α}
    (path : AtomicRun n b before middle) (decided : middle.standing t = .decided reply)
    (others : middle.standing = Function.update b.standing t (.decided reply))
    (items : middle.items = b.items) (called : a.called t = before) {r : Return T α}
    (thread : r.thread = t) (replied : r.reply = reply) (queue : s'.queue = s.queue)
    (returned : s'.returned = s.returned ++ [r]) (idle : s'.phase t = .idle) :
    ∃ b', AtomicRun n b (s.shown (t, a) s') b' ∧ Refines n s' b' := by
  refine ⟨middle.put t .idle, ?_, refines.moved moved (.idle idle) ?_ ?_⟩
  · have last : AtomicRun n middle (middle.shown (.answer t) _) (middle.put t .idle) :=
      .single (.answer decided)
    rw [AtomicState.shown, decided] at last
    rw [shown_answer returned, called, thread, replied]
    exact path.trans last
  · rw [AtomicState.put, others, Function.update_idem]
  · rw [queue, ← refines.items, ← items]
    rfl

/-- Moving a thread leaves every output cell. -/
theorem out_goto (s : State T α) (t u : T) (p : Phase α) :
    ((s.goto t p).threads u).out = (s.threads u).out := by
  rw [State.goto, State.threads_set]
  split
  · rename_i acting
    rw [acting]
  · rfl

/-- The thread that was replaced. -/
theorem threads_set_self (s : State T α) (t : T) (th : Thread α) :
    (s.set t th).threads t = th := by
  rw [State.threads_set, if_pos rfl]

/-- A call that is entered is pending. -/
theorem Refines.enter (refines : Refines n s b) (at_phase : s.phase t = .idle) {valid : Bool}
    {c : Call α} {p : Phase α} (kind : c.isNuke = false) (entered : enter valid c = .inl p)
    {th : Thread α} (phase : th.phase = p) (cleared : th.out = none)
    (moved : Move s t (.call valid c) (s.set t th)) :
    ∃ b', AtomicRun n b (s.shown (t, .call valid c) (s.set t th)) b' ∧
      Refines n (s.set t th) b' := by
  have idle := (refines.threads t).of_idle at_phase
  obtain ⟨rfl, place⟩ := enter_performs kind entered
  have own : Agrees n ((s.set t th).threads t) (.pending true c none) := by
    rw [threads_set_self]
    rcases place with ⟨o, performs, rfl⟩ | ⟨q, rfl, rfl⟩
    · exact .testing none phase performs rfl cleared
    · exact .asking none phase (.inl rfl)
  have returned : (s.set t th).returned = s.returned := rfl
  refine ⟨b.put t (.pending true c none), ?_, refines.moved moved own rfl refines.items⟩
  rw [shown_silent returned]
  exact .single (AtomicStep.call true c idle)

/-- A call that is refused for a NULL argument is called, decided and answered at once. -/
theorem Refines.refuse (refines : Refines n s b) (at_phase : s.phase t = .idle) {valid : Bool}
    {c : Call α} {reply : Reply α} (kind : c.isNuke = false)
    (refused : GenericQueue.enter valid c = .inr reply) (moved : Move s t (.call valid c) s')
    {effect : Option (Effect α)} (queue : s'.queue = s.queue)
    (returned : s'.returned = s.returned ++ [⟨t, reply, effect⟩]) (after : s'.phase t = .idle) :
    ∃ b', AtomicRun n b (s.shown (t, .call valid c) s') b' ∧ Refines n s' b' := by
  have idle := (refines.threads t).of_idle at_phase
  have called : AtomicRun n b [.called t valid c] (b.put t (.pending valid c none)) :=
    .single (AtomicStep.call valid c idle)
  have pending : (b.put t (.pending valid c none)).standing t = .pending valid c none :=
    Function.update_self ..
  have path := called.tail (.decide pending (decide_refused kind refused n _))
  refine refines.answered moved path (Function.update_self ..) ?_ rfl rfl rfl rfl queue returned
    after
  exact Function.update_idem ..

/-- A blocking call that is refused has looked at the items. -/
theorem Refines.blocked (refines : Refines n s b) (account : Account n s) {c : OpCall α}
    {again : Bool} (at_phase : s.phase t = .op c (.body again))
    (refused : c.refused s.queue = true) (waits : c.blocking = true)
    (moved : Move s t .next s') (queue : s'.queue = s.queue) (returned : s'.returned = s.returned)
    (later : (s'.threads t).phase = .op c .unlockBlocked)
    (out : (s'.threads t).out = (s.threads t).out) :
    ∃ b', AtomicRun n b (s.shown (t, .next) s') b' ∧ Refines n s' b' := by
  obtain ⟨call, seen, pending, performs, cleared⟩ := (refines.threads t).of_testing at_phase rfl
  have wf := account.ledger.wellFormed
  have capacity := account.ledger.capacity
  refine refines.silent moved returned rfl (.look pending) rfl ?_ ?_
  · refine .blocked later performs rfl (out.trans cleared) fun result code blocked => ?_
    rw [refines.items, ← capacity]
    exact decide_gaveUp wf performs refused waits blocked
  · rw [queue]
    exact refines.items

/-- A call that is refused and returns is decided. -/
theorem Refines.declined (refines : Refines n s b) (account : Account n s) {c : OpCall α}
    {again : Bool} (at_phase : s.phase t = .op c (.body again))
    (refused : c.refused s.queue = true) (returns : c.blocking = false)
    (moved : Move s t .next s') (queue : s'.queue = s.queue) (returned : s'.returned = s.returned)
    (later : (s'.threads t).phase = .op c .unlockRefused)
    (out : (s'.threads t).out = (s.threads t).out) :
    ∃ b', AtomicRun n b (s.shown (t, .next) s') b' ∧ Refines n s' b' := by
  obtain ⟨call, seen, pending, performs, cleared⟩ := (refines.threads t).of_testing at_phase rfl
  have decided := decide_declined account.ledger.wellFormed performs refused returns
  rw [account.ledger.capacity, ← refines.items] at decided
  refine refines.silent moved returned rfl (.decide pending decided) rfl ?_ ?_
  · rw [← cleared, ← out]
    exact .declined later
  · rw [queue]
    exact refines.items

/-- An operation that is let through takes effect. -/
theorem Refines.accepted (refines : Refines n s b) (account : Account n s) {c : OpCall α}
    {again : Bool} (at_phase : s.phase t = .op c (.body again))
    (accepted : c.refused s.queue = false) {queue : Queue α} {out : Option α}
    {effect : Option (Effect α)}
    (enacted : c.enact s.queue (s.threads t).out = (queue, out, effect))
    (moved : Move s t .next s') (result : s'.queue = queue) (returned : s'.returned = s.returned)
    (later : (s'.threads t).phase = .op c .unlockDone) (written : (s'.threads t).out = out) :
    ∃ b', AtomicRun n b (s.shown (t, .next) s') b' ∧ Refines n s' b' := by
  obtain ⟨call, seen, pending, performs, -⟩ := (refines.threads t).of_testing at_phase rfl
  have decided := decide_accepted account.ledger.wellFormed performs accepted enacted
  rw [account.ledger.capacity, ← refines.items] at decided
  refine refines.silent moved returned rfl (.decide pending decided) rfl ?_ ?_
  · rw [← written]
    exact .done later rfl
  · rw [result]

/-- A call that gives up is decided by what it looked at, and answers. -/
theorem Refines.gaveUp (refines : Refines n s b) {c : OpCall α} {result : WaitResult}
    {code : RetVal} (at_phase : s.phase t = .op c (.resume result))
    (blocked : Fifo.blockedCode [result] = some code) (moved : Move s t .next s')
    {effect : Option (Effect α)} (queue : s'.queue = s.queue)
    (returned : s'.returned = s.returned ++ [⟨t, c.reply code (s.threads t).out, effect⟩])
    (after : s'.phase t = .idle) :
    ∃ b', AtomicRun n b (s.shown (t, .next) s') b' ∧ Refines n s' b' := by
  obtain ⟨call, seen, pending, performs, cleared, waits⟩ :=
    (refines.threads t).of_blocked at_phase rfl
  have failed : (c.reply code none).ret ≠ some .success := by
    have unsuccessful := blockedCode_ne_success blocked
    cases c <;> simpa [OpCall.reply, Reply.ret] using unsuccessful
  have recalled := AtomicStep.recall pending (waits result code blocked) failed
  rw [cleared] at returned
  refine refines.answered moved (.single recalled) (Function.update_self ..) rfl rfl rfl rfl rfl
    queue returned after

/-- A call that was decided answers. -/
theorem Refines.answer (refines : Refines n s b) {reply : Reply α}
    (decided : b.standing t = .decided reply) (moved : Move s t .next s')
    {effect : Option (Effect α)} (queue : s'.queue = s.queue)
    (returned : s'.returned = s.returned ++ [⟨t, reply, effect⟩]) (after : s'.phase t = .idle) :
    ∃ b', AtomicRun n b (s.shown (t, .next) s') b' ∧ Refines n s' b' := by
  refine refines.answered moved (.refl b) decided ?_ rfl rfl rfl rfl queue returned after
  rw [← decided, Function.update_eq_self]

/-- A status call reads the items. -/
theorem Refines.read (refines : Refines n s b) (account : Account n s) {c : StatusCall}
    (at_phase : s.phase t = .status c .read) (moved : Move s t .next s')
    (queue : s'.queue = s.queue) (returned : s'.returned = s.returned)
    (later : (s'.threads t).phase = .status c (.unlock (c.read s.queue))) :
    ∃ b', AtomicRun n b (s.shown (t, .next) s') b' ∧ Refines n s' b' := by
  obtain ⟨seen, pending⟩ := (refines.threads t).of_asking at_phase (.inr rfl)
  have decided := decide_status account.ledger.wellFormed c
  rw [account.ledger.capacity, ← refines.items] at decided
  refine refines.silent moved returned rfl (.decide pending decided) rfl (.told later) ?_
  rw [queue]
  exact refines.items

/-- Every step without destruction is answered by the atomic queue. -/
theorem move_simulated (moved : Move s t a s') (admitted : withoutNuke (t, a) = true)
    (account : Account n s) (refines : Refines n s b) :
    ∃ b', AtomicRun n b (s.shown (t, a) s') b' ∧ Refines n s' b' := by
  have own := refines.threads t
  have nobody := account.outside t
  have same := moved
  cases moved
  case enter valid c p at_phase entered =>
    have kind : c.isNuke = false := by simpa [withoutNuke] using admitted
    exact refines.enter at_phase kind entered rfl rfl same
  case refuse valid c reply at_phase refused =>
    have kind : c.isNuke = false := by simpa [withoutNuke] using admitted
    exact refines.refuse at_phase kind refused same rfl rfl (State.phase_finish_self ..)
  case refuseNuke valid c at_phase nuke => simp [withoutNuke, nuke] at admitted
  case bodyRefused c again at_phase refused =>
    have later := State.phase_goto_self { s with stale := s.stale || s.queueFreed } t
      (.op c c.refusedStage)
    cases waits : c.blocking with
    | true =>
      have stage : c.refusedStage = .unlockBlocked := if_pos waits
      rw [stage] at later same ⊢
      exact refines.blocked account at_phase refused waits same rfl rfl later (out_goto ..)
    | false =>
      have stage : c.refusedStage = .unlockRefused := by simp [OpCall.refusedStage, waits]
      rw [stage] at later same ⊢
      exact refines.declined account at_phase refused waits same rfl rfl later (out_goto ..)
  case bodyDone c again queue out effect at_phase accepted enacted =>
    have thread := threads_set_self s t
      { s.threads t with phase := .op c .unlockDone, out, effect }
    exact refines.accepted account at_phase accepted enacted same rfl rfl
      (congrArg Thread.phase thread) (congrArg Thread.out thread)
  case giveUp c result code at_phase failed =>
    have blocked : Fifo.blockedCode [result] = some code := by
      rcases failed with ⟨rfl, rfl⟩ | ⟨e, rfl, rfl⟩ <;> rfl
    exact refines.gaveUp at_phase blocked same rfl rfl (State.phase_finish_self ..)
  case retry c at_phase =>
    obtain ⟨call, seen, pending, performs, cleared, -⟩ := own.of_blocked at_phase rfl
    refine refines.still same rfl rfl rfl ?_
    rw [pending]
    exact .testing _ (State.phase_goto_self ..) performs rfl ((out_goto ..).trans cleared)
  case unlockRefused c at_phase =>
    exact refines.answer (own.of_declined at_phase) same rfl rfl (State.phase_finish_self ..)
  case unlockSignal c at_phase =>
    exact refines.answer (own.of_done at_phase rfl) same rfl rfl (State.phase_finish_self ..)
  case unlockRead c answer at_phase =>
    exact refines.answer (own.of_told at_phase) same rfl rfl (State.phase_finish_self ..)
  case read c at_phase =>
    exact refines.read account at_phase same rfl rfl (State.phase_goto_self ..)
  case lockRead c at_phase free =>
    obtain ⟨seen, pending⟩ := own.of_asking at_phase (.inl rfl)
    refine refines.still same rfl rfl rfl ?_
    rw [pending]
    exact .asking seen (State.phase_goto_self ..) (.inr rfl)
  case lockWrite c again at_phase free =>
    obtain ⟨call, seen, pending, performs, cleared⟩ := own.of_testing at_phase rfl
    refine refines.still same rfl rfl rfl ?_
    rw [pending]
    exact .testing seen (State.phase_goto_self ..) performs rfl ((out_goto ..).trans cleared)
  case signalSome c o u at_phase target cond =>
    refine refines.still same rfl rfl rfl ?_
    exact own.leaving at_phase rfl (State.phase_goto_self ..) rfl
      ((out_goto ..).trans (out_goto ..))
  case unlockBlocked c at_phase | lockCond c at_phase free | wait c at_phase |
      wake c notified result at_phase | relock c result at_phase free |
      unlockCond c result at_phase =>
    refine refines.still same rfl rfl rfl ?_
    exact own.waiting at_phase rfl (State.phase_goto_self ..) rfl (out_goto ..)
  case deadline c now at_phase =>
    refine refines.still same rfl rfl rfl ?_
    exact own.waiting at_phase rfl (by rw [threads_set_self]) rfl (by rw [threads_set_self])
  case unlockDone c at_phase | lockSignal c at_phase free | signalNone c at_phase others =>
    refine refines.still same rfl rfl rfl ?_
    exact own.leaving at_phase rfl (State.phase_goto_self ..) rfl (out_goto ..)
  all_goals simp_all [Phase.nuking]

end Simulated

/-- Before the first call the two queues agree. -/
theorem start_refines (n : Nat) : Refines n (start T (fresh n : Queue α)) .empty :=
  ⟨(Queue.fresh_contents n).symm, fun _ => .idle rfl⟩

/-- In any interleaving, with any outcomes of the waits, the calls and answers of the threads are,
in their order, calls and answers of the atomic queue, whose items are the contents of the
buffer. -/
theorem queue_linearizable [Fintype T] [DecidableEq T] {p : Platform} {n : Nat} {env : InitEnv}
    {q : Queue α} (created : init p n env = .ok q) {events : List (Visible T α)} {s : State T α}
    (run : Run (start T q) events s) :
    ∃ b, AtomicRun n .empty events b ∧ b.items = s.queue.contents := by
  obtain ⟨positive, rfl⟩ := init_ok created
  have answers (s : State T α) (label : Label T α) (s' : State T α) (b : AtomicState T α)
      (known : Account n s ∧ Refines n s b)
      (taken : withoutNuke label = true ∧ next s label = some s') :
      ∃ b', AtomicRun n b (s.shown label s') b' ∧ Account n s' ∧ Refines n s' b' := by
    obtain ⟨account, refines⟩ := known
    have moved := step_move taken.2
    obtain ⟨b', path, kept⟩ := move_simulated moved taken.1 account refines
    exact ⟨b', path, move_account moved taken.1 account, kept⟩
  obtain ⟨b, path, -, refines⟩ :=
    run.simulate answers ⟨start_account positive, start_refines n⟩
  exact ⟨b, path, refines.items⟩

/-- A pop finds the queue empty and goes to sleep; an add and a size call come and go before it
times out. -/
def popBesideAdd : List (Label Bool Nat) :=
  [(true, .call true (.pop (some none)))] ++ List.replicate 4 (true, .next) ++
    [(true, .clock 0), (true, .next), (false, .call true (.add (some 7)))] ++
    List.replicate 4 (false, .next) ++ [(false, .signal (some true)), (false, .next)] ++
    [(false, .call true (.status .getSize))] ++ List.replicate 3 (false, .next) ++
    [(true, .wake .timedOut)] ++ List.replicate 3 (true, .next)

/-- The atomic queue shows the same: the pop looked at the items before the add. -/
theorem queue_linearizable_popBesideAdd :
    ∃ b : AtomicState Bool Nat, AtomicRun 1 .empty
      [.called true true (.pop (some none)), .called false true (.add (some 7)),
        .answered false (.code .success), .called false true (.status .getSize),
        .answered false (.count 1), .answered true (.popped .errTimeout (some none))] b ∧
      b.items = [7] := by
  have created : init (α := Nat) ⟨64, 8⟩ 1 ⟨true, true, true, true, true, true⟩ =
      .ok (fresh 1) := rfl
  have ran : (execute next State.shown (start Bool (fresh 1)) popBesideAdd).map
      (fun result => (result.1.queue.contents, result.2)) =
        some ([7], [.called true true (.pop (some none)), .called false true (.add (some 7)),
          .answered false (.code .success), .called false true (.status .getSize),
          .answered false (.count 1), .answered true (.popped .errTimeout (some none))]) := by
    decide +kernel
  obtain ⟨⟨s, events⟩, executed, result⟩ := Option.map_eq_some_iff.mp ran
  obtain ⟨contents, rfl⟩ := Prod.mk.inj result
  have plain : ∀ label ∈ popBesideAdd, withoutNuke label = true := by decide
  have run : Run (start Bool (fresh 1)) _ s := path_of_execute popBesideAdd
    (fun _ label _ member taken => ⟨plain label member, taken⟩) executed
  obtain ⟨b, path, items⟩ := queue_linearizable created run
  exact ⟨b, path, items.trans contents⟩

end SpaceCaptain.GenericQueue
