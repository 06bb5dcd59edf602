import SpaceCaptain.Queue.Wakeup

/-!
# What an expired wait says of the queue

A blocked call whose wait timed out returns `ERR_TIMEOUT` without testing the queue again. The
wait ends under `cond_mutex` and the queue changes under the rwlock, so an item may come in, or a
cell become free, between the end of the wait and the decision. `TimeoutsReal` is what the code
documents, that a call times out only while the queue remains empty or full. `undisturbed` is the
exact condition on the steps of a run under which it holds.
-/
namespace SpaceCaptain.GenericQueue

open SpaceCaptain.Library

variable {T α : Type*}

/-- What a reply tells of the queue it was decided on: a pop that timed out found it empty, an
add that timed out found it full. -/
def Reply.Justified (r : Reply α) (q : Queue α) : Prop :=
  match r with
  | .code .errTimeout => q.full = true
  | .popped .errTimeout _ => q.empty = true
  | _ => True

/-- Whichever action makes a call return in this state, the reply is justified by the queue. -/
def TimeoutsReal [Fintype T] [DecidableEq T] (s : State T α) : Prop :=
  ∀ label s' r, next s label = some s' → s'.returned = s.returned ++ [r] →
    r.reply.Justified s.queue

/-- The thread is not about to give up, or the test of its call still refuses. -/
def Phase.hopeless (q : Queue α) : Phase α → Bool
  | .op o (.resume .timedOut) => o.refused q
  | _ => true

/-- A call whose wait timed out has only to return. -/
def Phase.givingUp (c : Cond) : Phase α → Bool
  | .op o (.resume .timedOut) => o.waitsFor == c
  | _ => false

/-- A wait that timed out gives `cond_mutex` back only while the test of its call still refuses,
and nothing is added to or taken from the queue that a call about to give up has waited for. -/
def undisturbed [Fintype T] (s : State T α) (label : Label T α) : Bool :=
  match s.phase label.1, label.2 with
  | .op o (.unlockCond .timedOut), .next => o.refused s.queue
  | .op o (.body _), .next =>
    o.refused s.queue || decide (∀ u, (s.phase u).givingUp o.announces = false)
  | .nuke _ .drain, .next =>
    s.queue.empty || decide (∀ u, (s.phase u).givingUp .notFull = false)
  | _, _ => true

/-- A reply without the time-out code is justified. -/
theorem justified_of_ret {r : Reply α} (q : Queue α) (other : r.ret ≠ some .errTimeout) :
    r.Justified q := by
  cases r with
  | code ret | popped ret out =>
    cases ret with
    | errTimeout => exact absurd rfl other
    | _ => trivial
  | flag value | count value => trivial

/-- The time-out of a call is justified exactly while its test refuses. -/
theorem justified_timeout (o : OpCall α) (out : Option α) (q : Queue α) :
    (o.reply .errTimeout out).Justified q ↔ o.refused q = true := by
  cases o <;> exact Iff.rfl

/-- A call refused for a NULL argument does not time out. -/
theorem enter_refused_ret {valid : Bool} {c : Call α} {reply : Reply α}
    (refused : enter valid c = .inr reply) : reply.ret ≠ some .errTimeout := by
  have onNull (q : StatusCall) : (q.onNull : Reply α).ret = none := by cases q <;> rfl
  cases c with
  | add argument | tryAdd argument | pop argument | tryPop argument =>
    cases argument <;> cases valid <;>
      first
      | contradiction
      | (obtain rfl := Sum.inr.inj refused; simp [Reply.ret])
  | status q =>
    cases valid with
    | true => contradiction
    | false =>
      obtain rfl := Sum.inr.inj refused
      simp [onNull]
  | nukeWithCleanup cleanup =>
    cases valid with
    | true => contradiction
    | false =>
      obtain rfl := Sum.inr.inj refused
      simp [Reply.ret]

/-- The code of a call that is refused and does not wait is not the time-out. -/
theorem refusal_ret (o : OpCall α) (out : Option α) :
    (o.reply o.refusal out).ret ≠ some .errTimeout := by
  cases o <;> simp [OpCall.reply, OpCall.refusal, Reply.ret]

/-- The test of an operation refuses when there is nothing of what its callers wait for. -/
theorem refused_iff {q : Queue α} (wf : q.WellFormed) (o : OpCall α) :
    o.refused q = true ↔ q.available o.waitsFor = 0 := by
  have bounded := wf.bounded
  cases o <;>
    simp [OpCall.refused, OpCall.waitsFor, Queue.available, Queue.full, Queue.empty] <;>
    omega

/-- When a queue gets something of one kind and has something of the other, the calls about to
give up that waited for the first kind are those that would no longer be refused. -/
theorem hopeless_supplied {q q' : Queue α} {c : Cond} {p : Phase α} (wf : q.WellFormed)
    (wf' : q'.WellFormed) (other : ∀ c', c' ≠ c → 0 < q.available c') (more : 0 < q'.available c)
    (before : p.hopeless q = true) : p.hopeless q' = !p.givingUp c := by
  unfold Phase.hopeless at before ⊢
  split
  · rename_i o
    have nothing : q.available o.waitsFor = 0 := (refused_iff wf o).mp before
    have same : o.waitsFor = c := by
      by_contra differ
      have some_left := other o.waitsFor differ
      omega
    have passes : o.refused q' = false := by
      have decided := refused_iff wf' o
      rw [same] at decided
      rw [Bool.eq_false_iff]
      intro refused
      have gone := decided.mp refused
      omega
    simp [passes, Phase.givingUp, same]
  · rename_i elsewhere
    have outside : p.givingUp c = false := by
      unfold Phase.givingUp
      split
      · exact absurd rfl (elsewhere _)
      · rfl
    simp [outside]

section Steps

variable [DecidableEq T] {s s' : State T α} {t : T} {a : Act T α}

/-- A call comes back with the time-out code only from the test of a wait that timed out. -/
theorem move_timesOut {r : Return T α} (moved : Move s t a s') (honest : (s.threads t).Honest)
    (added : s'.returned = s.returned ++ [r]) :
    r.reply.ret ≠ some .errTimeout ∨
      ∃ o, s.phase t = .op o (.resume .timedOut) ∧
        r.reply = o.reply .errTimeout (s.threads t).out := by
  have given {x : Return T α} (more : s'.returned = s.returned ++ [x]) : x = r :=
    List.singleton_inj.mp (List.append_cancel_left (more.symm.trans added))
  cases moved
  case refuse valid c reply at_phase refused =>
    obtain rfl := given rfl
    exact .inl (enter_refused_ret refused)
  case unlockRefused o at_phase =>
    obtain rfl := given rfl
    exact .inl (refusal_ret o _)
  case giveUp o result code at_phase failed =>
    obtain rfl := given rfl
    rcases failed with ⟨rfl, rfl⟩ | ⟨e, rfl, rfl⟩
    · exact .inr ⟨o, at_phase, rfl⟩
    · refine .inl ?_
      cases o <;> simp [OpCall.reply, Reply.ret]
  case unlockSignal o at_phase =>
    obtain rfl := given rfl
    refine .inl ?_
    cases o <;> simp [OpCall.reply, Reply.ret]
  case unlockRead c answer at_phase =>
    obtain rfl := given rfl
    have plain : answer.ret = none := ((honest_status at_phase).mp honest).2
    refine .inl ?_
    change answer.ret ≠ _
    simp [plain]
  all_goals exact absurd (List.self_eq_append_right.mp added) (List.cons_ne_nil r [])

/-- Time-outs are real in a state exactly when every thread about to give up would be refused. -/
theorem timeoutsReal_iff [Fintype T] (honest : ∀ u, (s.threads u).Honest) :
    TimeoutsReal s ↔ ∀ u, (s.phase u).hopeless s.queue = true := by
  constructor
  · intro real u
    unfold Phase.hopeless
    split
    · rename_i o at_phase
      have taken : next s (u, .next) =
          some (s.finish u .errTimeout (o.reply .errTimeout (s.threads u).out)) := by
        have here : (s.threads u).phase = .op o (.resume .timedOut) := at_phase
        simp only [next, step, here, stepOp]
      exact (justified_timeout o _ s.queue).mp (real _ _ _ taken rfl)
    · rfl
  · rintro hopeless ⟨t, a⟩ s' r taken added
    rcases move_timesOut (step_move taken) (honest t) added with other | ⟨o, at_phase, reply⟩
    · exact justified_of_ret s.queue other
    · have refuses := hopeless t
      rw [at_phase] at refuses
      rw [reply]
      exact (justified_timeout o _ s.queue).mpr refuses

/-- An action that leaves the queue alone keeps the others as they are, about to give up or
not. -/
theorem hopeless_others (moved : Move s t a s') (before : ∀ u, (s.phase u).hopeless s.queue = true)
    (queue : s'.queue = s.queue) (own : (s'.phase t).hopeless s.queue = true) (u : T) :
    (s'.phase u).hopeless s'.queue = true := by
  rw [queue]
  by_cases acting : u = t
  · rw [acting]
    exact own
  · rw [move_others (Phase.hopeless s.queue) (fun _ => rfl) moved u acting]
    exact before u

/-- From a state where every thread about to give up would be refused, the steps that lead to
another such state are the undisturbed ones. -/
theorem move_hopeless_iff [Fintype T] (moved : Move s t a s') (wf : s.queue.WellFormed)
    (wf' : s'.queue.WellFormed) (before : ∀ u, (s.phase u).hopeless s.queue = true) :
    (∀ u, (s'.phase u).hopeless s'.queue = true) ↔ undisturbed s (t, a) = true := by
  have quiet (queue : s'.queue = s.queue) (own : (s'.phase t).hopeless s.queue = true)
      (admitted : undisturbed s (t, a) = true) :
      (∀ u, (s'.phase u).hopeless s'.queue = true) ↔ undisturbed s (t, a) = true :=
    iff_of_true (hopeless_others moved before queue own) admitted
  cases moved
  case enter valid c p at_phase entered =>
    refine quiet rfl ?_ (by simp [undisturbed, at_phase])
    rw [State.phase_set_self]
    rcases enter_phase entered with ⟨o, rfl⟩ | ⟨q, -, rfl⟩ | ⟨cleanup, -, rfl⟩ <;> rfl
  case unlockCond o result at_phase =>
    cases result with
    | timedOut =>
      have own : (({ s with condMutex := none }.goto t (.op o (.resume .timedOut))).phase t).hopeless
          s.queue = o.refused s.queue := by
        rw [State.phase_goto_self]
        rfl
      have guarded : undisturbed s (t, .next) = o.refused s.queue := by
        simp [undisturbed, at_phase]
      rw [guarded]
      constructor
      · intro after
        exact own ▸ after t
      · intro refused
        exact hopeless_others (.unlockCond o .timedOut at_phase) before rfl (own.trans refused)
    | woken | failed e =>
      refine quiet rfl ?_ (by simp [undisturbed, at_phase])
      rw [State.phase_goto_self]
      rfl
  case bodyRefused o again at_phase refused =>
    refine quiet rfl ?_ (by simp [undisturbed, at_phase, refused])
    rw [State.phase_goto_self]
    unfold OpCall.refusedStage
    split <;> rfl
  case bodyDone o again queue out effect at_phase accepted enacted =>
    obtain ⟨more, less⟩ := enact_available wf accepted enacted
    have supplied (u : T) :
        (s.phase u).hopeless queue = !(s.phase u).givingUp o.announces := by
      refine hopeless_supplied wf wf' (fun c differ => ?_) (by omega) (before u)
      have own : c = o.waitsFor := (announces_or_waitsFor o c).resolve_left differ
      rw [own]
      omega
    have places (u : T) : (({ s.set t { s.threads t with phase := .op o .unlockDone, out, effect }
        with queue } : State T α).phase u).hopeless queue = (s.phase u).hopeless queue := by
      change ((s.set t _).phase u).hopeless queue = _
      rw [State.phase_set]
      split
      · rename_i acting
        rw [acting, at_phase]
        rfl
      · rfl
    have guarded : undisturbed s (t, .next) = true ↔
        ∀ u, (s.phase u).givingUp o.announces = false := by
      simp [undisturbed, at_phase, accepted]
    rw [guarded]
    exact forall_congr' fun u => by rw [← Bool.not_eq_true', ← supplied u, ← places u]; exact Iff.rfl
  case nukeTake cleanup at_phase left =>
    have some_left := left_of_not_empty left
    have bounded := wf.bounded
    have supplied (u : T) :
        (s.phase u).hopeless s.queue.dequeue = !(s.phase u).givingUp .notFull := by
      refine hopeless_supplied wf wf' (fun c differ => ?_) ?_ (before u)
      · cases c with
        | notEmpty => exact some_left
        | notFull => exact absurd rfl differ
      · change 0 < s.queue.capacity - (s.queue.size - 1)
        omega
    have guarded : undisturbed s (t, .next) = true ↔
        ∀ u, (s.phase u).givingUp .notFull = false := by
      simp [undisturbed, at_phase, left]
    rw [guarded]
    exact forall_congr' fun u => by rw [← Bool.not_eq_true', ← supplied u]; exact Iff.rfl
  case refuseNuke valid c at_phase nuke =>
    refine quiet rfl ?_ (by simp [undisturbed, at_phase])
    rw [State.phase_set_self]
    change (s.phase t).hopeless s.queue = true
    exact before t
  all_goals
    exact quiet rfl (by simp [Phase.hopeless]) (by simp [undisturbed, *])

/-- In every run the buffer is well formed and every call has done what its place says. -/
theorem reached_ledger_honest [Fintype T] {n : Nat} {guard : State T α → Label T α → Prop}
    (positive : 0 < n) (reached : Reachable (fresh n) guard s) :
    Ledger n s ∧ ∀ u, (s.threads u).Honest := by
  refine reached.invariant (I := fun s => Ledger n s ∧ ∀ u, (s.threads u).Honest)
    (fun s₀ initial => ?_) fun s₁ label s₂ known _ taken => ?_
  · have account : Account n s₀ := initial ▸ start_account positive
    exact ⟨account.ledger, account.honest⟩
  · have moved := step_move taken
    exact ⟨move_ledger moved known.1, move_honest moved known.1 known.2⟩

end Steps

/-- Time-outs are real in every state of an undisturbed run, and the runs through such states are
the undisturbed ones. -/
theorem timeouts_real [Fintype T] [DecidableEq T] {p : Platform} {n : Nat} {env : InitEnv}
    {q : Queue α} (created : init p n env = .ok q) (s : State T α) :
    (Reachable q (fun s label => undisturbed s label = true) s → TimeoutsReal s) ∧
    (Reachable q (fun s label => undisturbed s label = true) s ↔
      Within (· = start T q) (fun s label s' => next s label = some s') TimeoutsReal s) := by
  obtain ⟨positive, rfl⟩ := init_ok created
  have exact : Reachable (fresh n) (fun s label => undisturbed s label = true) s ↔
      Within (· = start T (fresh n : Queue α)) (fun s label s' => next s label = some s')
        TimeoutsReal s := by
    refine Reach.within_iff (fun s₀ initial => ?_) fun s₁ label s₂ reached real taken => ?_
    · rw [initial]
      exact (timeoutsReal_iff (start_account positive).honest).mpr fun _ => rfl
    · have known := reached_ledger_honest positive reached
      have later : Ledger n s₂ ∧ ∀ u, (s₂.threads u).Honest :=
        ⟨move_ledger (step_move taken) known.1, move_honest (step_move taken) known.1 known.2⟩
      rw [timeoutsReal_iff later.2]
      exact move_hopeless_iff (step_move taken) known.1.wellFormed later.1.wellFormed
        ((timeoutsReal_iff known.2).mp real)
  exact ⟨fun reached => (exact.mp reached).holds, exact⟩

/-- A consumer finds the queue empty and waits; its wait times out. -/
def popTimesOut : List (Label Bool Nat) :=
  [(false, .call true (.pop (some none)))] ++ List.replicate 4 (false, .next) ++
    [(false, .clock 0), (false, .next), (false, .wake .timedOut), (false, .next)]

/-- The queue stays empty and the consumer gives up rightly. -/
theorem timeouts_real_popTimesOut :
    ∃ s, runGuarded next undisturbed (start Bool (fresh 1)) (popTimesOut ++ [(false, .next)]) =
        some s ∧
      s.phase false = .op .pop (.resume .timedOut) ∧ TimeoutsReal s := by
  have created : init (α := Nat) ⟨64, 8⟩ 1 ⟨true, true, true, true, true, true⟩ =
      .ok (fresh 1) := rfl
  have ran : (runGuarded next undisturbed (start Bool (fresh 1))
      (popTimesOut ++ [(false, .next)])).map (fun s => s.phase false) =
        some (.op .pop (.resume .timedOut)) := by
    decide +kernel
  obtain ⟨s, executed, at_phase⟩ := Option.map_eq_some_iff.mp ran
  refine ⟨s, executed, at_phase, ?_⟩
  exact (timeouts_real created s).1 (reach_of_runGuarded _ (.start rfl) executed)

/-- The wait of the consumer times out, and before it returns a producer adds an item. -/
def addAfterExpiry : List (Label Bool Nat) :=
  popTimesOut ++ [(true, .call true (.add (some 7)))] ++ List.replicate 3 (true, .next) ++
    [(false, .next)]

/-- The consumer has only to return, with the item of the producer in the queue. -/
theorem addAfterExpiry_ends :
    ∃ s, runGuarded next (fun _ _ => true) (start Bool (fresh 1)) addAfterExpiry = some s ∧
      s.phase false = .op .pop (.resume .timedOut) ∧ s.queue.size = 1 := by
  have ran : (runGuarded next (fun _ _ => true) (start Bool (fresh 1)) addAfterExpiry).map
      (fun s => (s.phase false, s.queue.size)) = some (.op .pop (.resume .timedOut), 1) := by
    decide +kernel
  obtain ⟨s, executed, facts⟩ := Option.map_eq_some_iff.mp ran
  exact ⟨s, executed, Prod.mk.inj facts⟩

/-- The consumer gives up next to the item. -/
theorem timeout_beside_item :
    ∃ q : Queue Nat, init ⟨64, 8⟩ 1 ⟨true, true, true, true, true, true⟩ = .ok q ∧
      ¬ ∀ s : State Bool Nat, Reachable q (fun _ _ => True) s → TimeoutsReal s := by
  refine ⟨fresh 1, rfl, fun real => ?_⟩
  obtain ⟨s, ran, consumer, one⟩ := addAfterExpiry_ends
  have executed : Reachable (fresh 1) (fun _ _ => true = true) s :=
    reach_of_runGuarded addAfterExpiry (.start rfl) ran
  have reached : Reachable (fresh 1) (fun _ _ => True) s := executed.weaken fun _ _ _ => trivial
  have honest := (reached_ledger_honest (by decide) reached).2
  have hopeless := (timeoutsReal_iff honest).mp (real s reached) false
  simp [consumer, Phase.hopeless, OpCall.refused, Queue.empty, one] at hopeless

end SpaceCaptain.GenericQueue
