import SpaceCaptain.Server.Sessions

/-!
# How long a client may be silent

The server reads the clock at four places: before the event loop, once per iteration, in
`check_client_timeouts`, and when a datagram from a client is seen. `clockReadings` says which of
them a step performs, in order, and an observer remembers the latest. In the runs with a
non-decreasing clock no client is older than the window of the timeout and the wait for the next
check together, at the time when an iteration starts to process its events.
-/
namespace SpaceCaptain.Server

open SpaceCaptain.Dtls SpaceCaptain.Library

variable {ρ : Type}

/-- The longest silence of a client when an iteration starts to process its events. -/
def longestSilence : Int := 34

/-- The clock readings of `add_client` for a source, followed by the one that the server then
stores. -/
def addReadings (H : Host ρ) (source : Endpoint) (add : AddEnv ρ) (now : Int) : List Int :=
  if !add.allocated then []
  else
    match sessionCreate (some H.ctx) H.fd (some source.sockaddr) sockaddrLen add.session with
    | .created _ => [add.now, now]
    | _ => [add.now]

/-- The clock readings of a step, in order. -/
def clockReadings (H : Host ρ) (s : State ρ) : Input ρ → List Int
  | .poll (some _) now sweepNow _ =>
    if 5 ≤ now - s.lastTimeoutCheck then [now, sweepNow] else [now]
  | .peek false add now =>
    match s.sock with
    | [] => []
    | d :: _ =>
      match findClient s.registry d.src.sockaddr with
      | .ok (some _) => [now]
      | .ok none => addReadings H d.src add now
      | .error _ => []
  | _ => []

/-- The latest clock reading after a step. -/
def latestReading (H : Host ρ) (s : State ρ) (input : Input ρ) (latest : Int) : Int :=
  (clockReadings H s input).getLastD latest

/-- The readings of a step continue the clock. -/
def steady (H : Host ρ) (x : State ρ × Int) (input : Input ρ) : Bool :=
  decide ((x.2 :: clockReadings H x.1 input).Pairwise (· ≤ ·))

/-- The states of the runs with a non-decreasing clock, each with the latest reading. -/
abbrev Clocked (H : Host ρ) : State ρ × Int → Prop :=
  Watched H State.lastTimeoutCheck (latestReading H) (steady H)

/-- What the clients' stamps owe the latest timeout check and the clock. -/
structure Awake (s : State ρ) (latest : Int) (l : List Entry) : Prop where
  /-- The latest check is not in the future. -/
  checked : s.lastTimeoutCheck ≤ latest
  /-- The latest check left no client whose silence exceeded the window. -/
  window : ∀ e ∈ l, s.lastTimeoutCheck - e.2.lastActivity ≤ clientTimeoutSeconds

section Steps

variable {H : Host ρ} {s s' : State ρ} {latest : Int} {l l' : List Entry}

/-- Under a steady clock nothing that a step reads is before the latest reading. -/
theorem steady_readings {input : Input ρ} (clock : steady H (s, latest) input = true) :
    (∀ time ∈ clockReadings H s input, latest ≤ time) ∧
      latest ≤ latestReading H s input latest := by
  have later := (List.pairwise_cons.mp (of_decide_eq_true clock)).1
  refine ⟨later, ?_⟩
  rcases List.mem_cons.mp (List.getLastD_mem_cons (l := clockReadings H s input) (a := latest)) with
    same | read
  · exact same.ge
  · exact later _ read

/-- A move that leaves the time of the latest check alone, and writes only fresh stamps. -/
theorem Awake.keep {later : Int} (awake : Awake s latest l) (forward : latest ≤ later)
    (check : s'.lastTimeoutCheck = s.lastTimeoutCheck)
    (stamps : ∀ e ∈ l', (∃ d ∈ l, e.2.lastActivity = d.2.lastActivity) ∨
      latest ≤ e.2.lastActivity) : Awake s' later l' where
  checked := by
    rw [check]
    exact awake.checked.trans forward
  window e entry := by
    have checked := awake.checked
    rw [check]
    rcases stamps e entry with ⟨d, old, same⟩ | fresh
    · rw [same]
      exact awake.window d old
    · simp only [clientTimeoutSeconds]
      omega

/-- What the server makes of a result leaves the stamps and the time of the latest check alone. -/
theorem Settled.stamps {left client sid : Nat} {call : Call} {result : DtlsResult} {data : Bytes}
    (settled : Settled H s l left client sid call result data s' l') :
    s'.lastTimeoutCheck = s.lastTimeoutCheck ∧
      ∀ e ∈ l', ∃ d ∈ l, e.2.lastActivity = d.2.lastActivity := by
  cases settled with
  | completed =>
    refine ⟨rfl, fun e entry => ?_⟩
    obtain ⟨d, old, rfl⟩ := mem_editClient.mp entry
    refine ⟨d, old, ?_⟩
    split <;> rfl
  | pending | failed | answered | nothing | broken | written =>
    exact ⟨rfl, fun e entry => ⟨e, entry, rfl⟩⟩
  | peerClosed | unwritten =>
    exact ⟨rfl, fun e entry => ⟨e, (mem_dropClient.mp entry).1, rfl⟩⟩

/-- The explicit `recvfrom` leaves the time of the latest check alone. -/
theorem Consumed.lastTimeoutCheck {why : Discard} {failed : Bool}
    (consumed : Consumed s why failed s') : s'.lastTimeoutCheck = s.lastTimeoutCheck := by
  cases consumed <;> rfl

/-- The server reads the clock once when it knows the source of the first datagram. -/
theorem clockReadings_known (intact : Intact s.registry l) {d : Datagram} {rest : List Datagram}
    (at_sock : s.sock = d :: rest) {client : Nat} {c : Client} (member : (client, c) ∈ l)
    (addr : c.addr = d.src.sockaddr) (add : AddEnv ρ) (now : Int) :
    clockReadings H s (.peek false add now) = [now] := by
  have found : findClient s.registry d.src.sockaddr = .ok (some client) :=
    addr ▸ findClient_some intact member
  simp only [clockReadings, at_sock, found]

/-- The server reads the clock twice when it adds the source of the first datagram. -/
theorem clockReadings_admitted (intact : Intact s.registry l) {d : Datagram}
    {rest : List Datagram} (at_sock : s.sock = d :: rest)
    (absent : ∀ e ∈ l, e.2.addr.key ≠ d.src.sockaddr.key) {add : AddEnv ρ} (now : Int)
    (succeeds : AddSucceeds H d.src add) :
    clockReadings H s (.peek false add now) = [add.now, now] := by
  obtain ⟨session, created⟩ := succeeds.created
  rcases findClient_cases intact d.src with ⟨client, c, -, member, addr⟩ | ⟨missing, -⟩
  · exact absurd (congrArg SockaddrIn.key addr) (absent _ member)
  · simp [clockReadings, at_sock, missing, addReadings, succeeds.allocated, created]

/-- Every move with a steady clock keeps the clients awake. -/
theorem Move.awake {input : Input ρ} (sound : Sound H s l) (awake : Awake s latest l)
    (clock : steady H (s, latest) input = true) (move : Move H s l input s' l')
    (sound' : Sound H s' l') (origins : ∀ q session',
      s'.registry.sessions.get? q = some session' → Origin s l H q session' input) :
    Awake s' (latestReading H s input latest) l' := by
  obtain ⟨later, forward⟩ := steady_readings clock
  have same (e : Entry) (entry : e ∈ l) : (∃ d ∈ l, e.2.lastActivity = d.2.lastActivity) ∨
      latest ≤ e.2.lastActivity := .inl ⟨e, entry, rfl⟩
  have dropped (client : Nat) (e : Entry) (entry : e ∈ dropClient client l) :=
    same e (mem_dropClient.mp entry).1
  cases move with
  | arrive | signal | interrupted | dispatch | leave | lastEvent | nextEvent | drained | refused
  | send | recv | halt => exact awake.keep forward rfl same
  | sweep nfds now sweepNow outcomes registry closed at_pc alive due =>
    have readings : clockReadings H s (.poll (some nfds) now sweepNow outcomes) =
        [now, sweepNow] := if_pos due
    have ordered : now ≤ sweepNow := by
      have sorted := of_decide_eq_true clock
      rw [readings] at sorted
      simpa using (List.pairwise_cons.mp sorted).2
    refine ⟨?_, fun e entry => ?_⟩
    · rw [latestReading, readings]
      exact ordered
    · -- The check leaves whoever was active in the window before its own reading.
      have fresh : ¬clientTimeoutSeconds < sweepNow - e.2.lastActivity := by
        simpa [expired] using (List.mem_filter.mp entry).2
      have left : now - e.2.lastActivity ≤ clientTimeoutSeconds := by omega
      exact left
  | known left add now d rest client c sid registry _ at_sock member addr =>
    have read := later now (by rw [clockReadings_known sound.intact at_sock member addr]; simp)
    refine awake.keep forward rfl fun e entry => ?_
    obtain ⟨d, old, rfl⟩ := mem_editClient.mp entry
    split
    · exact .inr read
    · exact same d old
  | admitted left add now d rest client registry _ at_sock absent =>
    refine awake.keep forward rfl fun e entry => ?_
    rcases List.mem_cons.mp entry with rfl | old
    · obtain ⟨-, q, session, -, owns, live, -⟩ := sound'.intact.session _ entry
      obtain rfl : s.registry.sessions.size = q := Option.some.inj owns
      cases origins _ session live with
      | kept _ before => exact absurd (Heap.lt_size before) (Nat.lt_irrefl _)
      | created left' _ _ d' rest' _ at_sock' _ _ _ succeeds =>
        obtain ⟨rfl, rfl⟩ := List.cons.inj (at_sock.symm.trans at_sock')
        exact .inr (later now
          (by rw [clockReadings_admitted sound.intact at_sock absent now succeeds]; simp))
    · exact same e old
  | finish _ _ _ _ _ _ _ _ _ _ _ _ _ _ _ _ _ _ settled =>
    obtain ⟨check, stamps⟩ := settled.stamps
    exact awake.keep forward check fun e entry => .inl (stamps e entry)
  | consume _ _ _ _ _ _ consumed => exact awake.keep forward consumed.lastTimeoutCheck same
  | discard _ _ client _ _ _ _ _ _ consumed =>
    exact awake.keep forward consumed.lastTimeoutCheck (dropped client)
  | shutdown _ client => exact awake.keep forward rfl (dropped client)

end Steps

/-- In every run with a non-decreasing clock the clients are awake. -/
theorem Clocked.awake {H : Host ρ} {s : State ρ} {latest : Int}
    (reached : Clocked H (s, latest)) : ∃ l, Sound H s l ∧ Awake s latest l :=
  Watched.listed_sessions (I := Awake)
    (fun _ _ => ⟨Int.le_refl _, fun _ entry => absurd entry List.not_mem_nil⟩)
    (fun _ _ _ _ _ _ sound awake clock move sound' origins =>
      move.awake sound awake clock sound' origins) reached

/-- When an iteration starts to process its events, no client has been silent for longer than the
window and the wait for the next check, and the clients that the check removed were silent for
longer than the window. -/
theorem inactivity_bound {H : Host ρ} {s s' : State ρ} {latest : Int} {nfds : Nat}
    {now sweepNow : Int} {outcomes : Nat → List SendOutcome} (reached : Clocked H (s, latest))
    (clock : steady H (s, latest) (.poll (some nfds) now sweepNow outcomes) = true)
    (taken : advance H s (.poll (some nfds) now sweepNow outcomes) = some s') :
    ∃ l l', Intact s.registry l ∧ Intact s'.registry l' ∧
      (∀ e ∈ l', now - e.2.lastActivity ≤ longestSilence) ∧
      ∀ e ∈ l, e ∉ l' → clientTimeoutSeconds < sweepNow - e.2.lastActivity := by
  obtain ⟨l, sound, awake⟩ := reached.awake
  obtain ⟨l', move, sound', origins⟩ := sound.advance taken
  have awake' := move.awake sound awake clock sound' origins
  refine ⟨l, l', sound.intact, sound'.intact, ?_, ?_⟩
  · intro e entry
    cases move with
    | dispatch _ _ _ _ at_pc _ early =>
      have before := awake.window e entry
      simp only [longestSilence, clientTimeoutSeconds] at before ⊢
      omega
    | sweep =>
      have after : now - e.2.lastActivity ≤ clientTimeoutSeconds := awake'.window e entry
      simp only [longestSilence, clientTimeoutSeconds] at after ⊢
      omega
  · intro e entry gone
    cases move with
    | dispatch => exact absurd entry gone
    | sweep =>
      have late : expired sweepNow e = true := by
        by_contra fresh
        exact gone (List.mem_filter.mpr ⟨entry, by simpa using fresh⟩)
      exact of_decide_eq_true late

/-- A client is created at time 0, and a check at time 30 leaves it. -/
def silentClient : List (Input Unit) :=
  [.arrive ⟨⟨1, 1⟩, [1]⟩, .poll (some 1) 0 0 (fun _ => []), .event,
    .peek false (addSucceeds 0 ()) 0, .recv .ready .normal, .finish [], .consume false [],
    .peek false (addSucceeds 0 ()) 0, .event, .poll (some 0) 30 30 (fun _ => []), .event]

/-- An iteration at time 34 finds that client, and no check has removed it: the bound is
reached. -/
theorem inactivity_bound_silentClient :
    ∃ s s', runGuarded (observe (advance ⟨plain, .little, serverContext, 3⟩)
        (latestReading ⟨plain, .little, serverContext, 3⟩))
        (steady ⟨plain, .little, serverContext, 3⟩) (startZero, 0) silentClient = some (s, 30) ∧
      advance ⟨plain, .little, serverContext, 3⟩ s (.poll (some 1) 34 34 fun _ => []) = some s' ∧
      (s'.registry.clients.get? 0).map (fun c => c.lastActivity) = some 0 ∧
      ∃ l l', Intact s.registry l ∧ Intact s'.registry l' ∧
        (∀ e ∈ l', 34 - e.2.lastActivity ≤ longestSilence) ∧
        ∀ e ∈ l, e ∉ l' → clientTimeoutSeconds < 34 - e.2.lastActivity := by
  have ran : (runGuarded (observe (advance ⟨plain, .little, serverContext, 3⟩)
      (latestReading ⟨plain, .little, serverContext, 3⟩))
      (steady ⟨plain, .little, serverContext, 3⟩) (startZero, 0) silentClient).map (fun x =>
        (x.2, steady ⟨plain, .little, serverContext, 3⟩ x (.poll (some 1) 34 34 fun _ => []),
          (advance ⟨plain, .little, serverContext, 3⟩ x.1 (.poll (some 1) 34 34 fun _ => [])).map
            fun s' => (s'.registry.clients.get? 0).map fun c => c.lastActivity)) =
      some (30, true, some (some 0)) := by
    decide +kernel
  obtain ⟨⟨s, latest⟩, executed, facts⟩ := Option.map_eq_some_iff.mp ran
  simp only [Prod.mk.injEq] at facts
  obtain ⟨rfl, clock, after⟩ := facts
  obtain ⟨s', taken, silent⟩ := Option.map_eq_some_iff.mp after
  have reached : Clocked ⟨plain, .little, serverContext, 3⟩ (s, 30) :=
    reach_of_runGuarded silentClient (.start ⟨starts_startZero plain .little 3, rfl⟩) executed
  exact ⟨s, s', executed, taken, silent, inactivity_bound reached clock taken⟩

end SpaceCaptain.Server
