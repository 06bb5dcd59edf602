import SpaceCaptain.Dtls.Intake
import SpaceCaptain.Server.Sessions

/-!
# What the drain loop leaves behind

`epoll_wait` reports new arrivals only, so the drain loop has to leave nothing behind: no datagram
in the socket, and no application data inside the library. It ends when a peek fails, and looks at
the socket alone. An observer collects what arrived since the last peek. In the runs in which a
failing peek finds the socket empty, and in which no call leaves application data in the library,
the server goes back to `epoll_wait` with everything drained.
-/
namespace SpaceCaptain.Server

open SpaceCaptain.Dtls SpaceCaptain.Library

variable {ρ : Type}

/-- The datagrams that arrived since the last peek. -/
def arrivedSincePeek (_ : State ρ) (input : Input ρ) (recent : List Datagram) : List Datagram :=
  match input with
  | .arrive d => recent ++ [d]
  | .peek .. => []
  | _ => recent

/-- The application data that a call which succeeds does not take. -/
def untaken (B : Intake ρ) (ssl : ρ) (seen : List Seen) :
    (call : Call) → Except MbedErr call.Value → List Bytes
  | .handshake, .ok _ => B.available .handshake ssl seen
  | .read len, .ok _ => leftover len (B.available (.read len) ssl seen)
  | _, _ => []

/-- A peek that fails finds the socket empty, and a handshake or a read that succeeds takes all
the application data there is. -/
def takesAll {τ : Type} (H : Host ρ) (B : Intake ρ) (x : State ρ × τ) (input : Input ρ) : Bool :=
  match input with
  | .peek true _ _ => x.1.sock.isEmpty
  | input =>
    match returning H x.1 input with
    | some r => (untaken B r.session.ssl r.seen r.call r.ret).isEmpty
    | none => true

/-- When the server goes back to `epoll_wait`, the socket holds only what arrived since the last
peek, and no client with a completed handshake has application data that has not been read. -/
def FullyDrained (B : Intake ρ) (s : State ρ) (recent : List Datagram) : Prop :=
  s.pc = .poll → s.sock <:+ recent ∧ ∃ l, Intact s.registry l ∧
    ∀ e ∈ l, e.2.handshakeComplete = true → ∀ sid session, e.2.dtlsSession = some sid →
      s.registry.sessions.get? sid = some session → B.held session.ssl = []

/-- The server is between two rounds of the drain loop. -/
def Pc.between : Pc → Bool
  | .poll | .events _ => true
  | _ => false

/-- What the drain loop keeps. -/
structure Draining (B : Intake ρ) (s : State ρ) (recent : List Datagram) (l : List Entry) :
    Prop where
  /-- A client in its handshake has not completed it. -/
  greets : ∀ e ∈ l, s.pc.client = some e.1 → s.pc.call = some .handshake →
    e.2.handshakeComplete = false
  /-- Nothing is left in the library. -/
  read : ∀ e ∈ l, e.2.handshakeComplete = true → ∀ sid session, e.2.dtlsSession = some sid →
    s.registry.sessions.get? sid = some session → B.held session.ssl = []
  /-- Nothing is left in the socket. -/
  socket : s.pc.between = true → s.sock = recent

section Steps

variable {H : Host ρ} {B : Intake ρ} {s s' : State ρ} {l l' : List Entry}
  {recent : List Datagram}

/-- After a return the server is in no handshake. -/
theorem Settled.noHandshake {left client sid : Nat} {call : Call} {result : DtlsResult}
    {data : Bytes} (settled : Settled H s l left client sid call result data s' l') :
    s'.pc.call ≠ some .handshake := by
  cases settled <;> nofun

/-- After a return the server is inside the drain loop. -/
theorem Settled.inside {left client sid : Nat} {call : Call} {result : DtlsResult}
    {data : Bytes} (settled : Settled H s l left client sid call result data s' l') :
    s'.pc.between = false := by
  cases settled <;> rfl

/-- A peek that fails finds the socket empty. -/
theorem takesAll_peek {τ : Type} {t : τ} {add : AddEnv ρ} {now : Int}
    (all : takesAll H B (s, t) (.peek true add now) = true) : s.sock = [] :=
  List.isEmpty_iff.mp all

/-- A call that returns takes all the application data there is. -/
theorem takesAll_finish {τ : Type} {t : τ} {left client sid : Nat} {call : Call}
    {seen : List Seen} {c : Client} {session : Session ρ} {ret : Except MbedErr call.Value}
    {ssl : ρ} {accepted : Bool} {outcomes : List SendOutcome} (intact : Intact s.registry l)
    (inside : InCall s l left client call seen c sid session)
    (moves : H.engine.move call session.ssl seen = .finish ret ssl accepted)
    (all : takesAll H B (s, t) (.finish outcomes) = true) :
    untaken B session.ssl seen call ret = [] := by
  simp only [takesAll, inside.returning intact moves outcomes] at all
  exact List.isEmpty_iff.mp all

/-- A call that takes all there is leaves nothing in the library, unless a handshake fails. -/
theorem held_nil (laws : B.Laws H.engine) {call : Call} {seen : List Seen} {session : Session ρ}
    {ret : Except MbedErr call.Value} {ssl : ρ} {accepted : Bool}
    (moves : H.engine.move call session.ssl seen = .finish ret ssl accepted)
    (taken : untaken B session.ssl seen call ret = [])
    (before : call ≠ .handshake → B.held session.ssl = [])
    (succeeds : call = .handshake → (callResult session ssl call ret).2.1 = .ok) :
    B.held ssl = [] := by
  cases call with
  | handshake =>
    have kept := (laws.handshakes _ _ _ _ _ moves).1
    cases ret with
    | ok done => exact kept.trans taken
    | error code =>
      have fine := succeeds rfl
      cases code <;> contradiction
  | read len =>
    cases ret with
    | ok data =>
      obtain ⟨record, rest, all, -, kept, -⟩ := laws.reads _ _ _ _ _ _ moves
      rw [kept, ← all]
      exact taken
    | error code => exact (laws.fails _ _ _ _ _ _ moves).1.trans (before nofun)
  | write bytes => exact (laws.writes _ _ _ _ _ _ moves).1.trans (before nofun)

/-- Every move that takes all there is leaves nothing in the library. -/
theorem Move.drainedSessions {τ : Type} {t : τ} {input : Input ρ} (laws : B.Laws H.engine)
    (sound : Sound H s l) (draining : Draining B s recent l)
    (all : takesAll H B (s, t) input = true) (move : Move H s l input s' l')
    (sound' : Sound H s' l') (origins : ∀ q session',
      s'.registry.sessions.get? q = some session' → Origin s l H q session' input) :
    (∀ e ∈ l', s'.pc.client = some e.1 → s'.pc.call = some .handshake →
      e.2.handshakeComplete = false) ∧
    ∀ e ∈ l', e.2.handshakeComplete = true → ∀ sid session, e.2.dtlsSession = some sid →
      s'.registry.sessions.get? sid = some session → B.held session.ssl = [] := by
  constructor
  · intro e entry here call
    obtain ⟨sid, session', -, -, descent⟩ := move.descent sound sound' origins entry
    cases descent with
    | kept _ c old _ flag _ _ goesOn begins =>
      rw [flag]
      by_cases before : s.pc.client = some e.1
      · exact draining.greets _ old before ((goesOn before).2 ▸ call)
      · have first : firstCall c = .handshake :=
          Option.some.inj ((begins before here).symm.trans call)
        unfold firstCall at first
        split at first
        · contradiction
        · rename_i incomplete
          simpa using incomplete
    | created _ _ _ _ flag => exact flag
    | returned _ _ _ _ _ _ _ _ _ _ _ _ _ _ _ settled => exact absurd call settled.noHandshake
  · intro e entry complete sid session owns live
    obtain ⟨sid', session', owns', live', descent⟩ := move.descent sound sound' origins entry
    obtain rfl := Option.some.inj (owns.symm.trans owns')
    obtain rfl := Option.some.inj (live.symm.trans live')
    cases descent with
    | kept _ c old _ flag owned alive =>
      exact draining.read _ old (flag ▸ complete) sid session owned alive
    | created _ _ _ _ flag =>
      rw [flag] at complete
      contradiction
    | returned left call seen c session₀ ret ssl accepted outcomes inside moves content _ flag =>
      rw [content, callResult_ssl]
      rw [flag] at complete
      have working : s.pc.client = some e.1 ∧ s.pc.call = some call := by
        rw [inside.at_pc]
        exact ⟨rfl, rfl⟩
      refine held_nil laws moves (takesAll_finish sound.intact inside moves all) ?_ ?_
      · intro other
        rw [if_neg fun both => other both.1] at complete
        exact draining.read _ inside.member complete sid session₀ inside.owns inside.live
      · intro handshake
        by_contra failed
        rw [if_neg fun both => failed both.2,
          draining.greets _ inside.member working.1 (handshake ▸ working.2)] at complete
        contradiction

/-- Every move that takes all there is leaves nothing in the socket between two rounds. -/
theorem Move.drainedSocket {τ : Type} {t : τ} {input : Input ρ} (draining : Draining B s recent l)
    (all : takesAll H B (s, t) input = true) (move : Move H s l input s' l')
    (between : s'.pc.between = true) : s'.sock = arrivedSincePeek s input recent := by
  cases move with
  | arrive d => rw [arrivedSincePeek, ← draining.socket between]
  | signal | interrupted => exact draining.socket between
  | dispatch _ _ _ _ at_pc | sweep _ _ _ _ _ _ at_pc | lastEvent at_pc =>
    exact draining.socket (by rw [at_pc]; rfl)
  | drained left failed add now at_pc idle =>
    cases failed with
    | true =>
      have empty := takesAll_peek all
      exact empty
    | false => exact idle.resolve_left Bool.false_ne_true
  | finish _ _ _ _ _ _ _ _ _ _ _ _ _ _ _ _ _ _ settled =>
    rw [settled.inside] at between
    contradiction
  | _ => contradiction

end Steps

/-- A client completes its handshake and sends a datagram, which is read and answered once; then
the server finds the socket empty. -/
def oneDatagram (bytes : Bytes) : List (Input (List Bytes × Bool)) :=
  greetThenSend ([], false) bytes ++ [.recv .ready .normal, .finish [], .send .sent, .finish [],
    .peek false (addSucceeds 0 ([], false)) 0, .event]

/-- The server is at `epoll_wait`. -/
def Pc.waits : Pc → Bool
  | .poll => true
  | _ => false

/-- The place of a server that is at `epoll_wait`. -/
theorem Pc.waits_iff {pc : Pc} : pc.waits = true ↔ pc = .poll := by
  cases pc <;> simp [Pc.waits]

/-- The second record of a datagram stays in the library. -/
theorem record_left_behind :
    ∃ s, runGuarded (observe (advance ⟨bundled, .little, serverContext, 3⟩) arrivedSincePeek)
        (fun _ _ => true) (startZero, []) (oneDatagram [0, 7, 8]) = some (s, []) ∧
      ¬FullyDrained bundledIntake s [] := by
  have ran : (runGuarded (observe (advance ⟨bundled, .little, serverContext, 3⟩)
      arrivedSincePeek) (fun _ _ => true) (startZero, []) (oneDatagram [0, 7, 8])).map (fun x =>
        (x.2.isEmpty && x.1.pc.waits && (x.1.registry.clients.get? 0).any fun c =>
          c.dtlsSession == some 0 && c.handshakeComplete,
        (x.1.registry.sessions.get? 0).map fun session => session.ssl.1)) =
      some (true, some [[8]]) := by
    decide +kernel
  obtain ⟨⟨s, recent⟩, executed, facts⟩ := Option.map_eq_some_iff.mp ran
  simp only [Prod.mk.injEq, Bool.and_eq_true, List.isEmpty_iff, Option.any_eq_true,
    beq_iff_eq] at facts
  obtain ⟨⟨⟨rfl, waits⟩, c, live, owns, complete⟩, state⟩ := facts
  refine ⟨s, executed, fun drained => ?_⟩
  obtain ⟨-, l, intact, read⟩ := drained (Pc.waits_iff.mp waits)
  obtain ⟨session, alive, held⟩ := Option.map_eq_some_iff.mp state
  obtain ⟨⟨client, d⟩, entry, place⟩ := List.mem_map.mp (intact.nodes 0 c live)
  obtain rfl : client = 0 := place
  obtain ⟨n, found, rfl⟩ := intact.node entry
  obtain rfl := Option.some.inj (found.symm.trans live)
  have empty : session.ssl.1 = [] := read _ entry complete 0 session owns alive
  exact absurd (held.symm.trans empty) (List.cons_ne_nil _ _)

/-- A datagram stays in the socket when the peek fails. -/
theorem datagram_left_behind :
    ∃ s, runGuarded (observe (advance ⟨bundled, .little, serverContext, 3⟩) arrivedSincePeek)
        (fun _ _ => true) (startZero, [])
        [.arrive ⟨⟨1, 1⟩, [1]⟩, .poll (some 1) 0 0 (fun _ => []), .event,
          .peek true (addSucceeds 0 ([], false)) 0, .event] = some (s, []) ∧
      ¬FullyDrained bundledIntake s [] := by
  refine ⟨_, rfl, fun drained => ?_⟩
  have suffix := (drained rfl).1
  exact absurd (List.suffix_nil.mp suffix) (List.cons_ne_nil _ _)

end SpaceCaptain.Server
