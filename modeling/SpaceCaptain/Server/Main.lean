import SpaceCaptain.Library.Reach
import SpaceCaptain.Server.Message
import SpaceCaptain.Server.Registry

/-!
# The server's event loop

The loop of `main` and the shutdown after it, in steps small enough for datagrams to arrive in
between: one `epoll_wait` with its timeout check, one peek with the search for the client, one
callback of the DTLS library, its return with what the server makes of the result, and one
explicit `recvfrom`. An input says what the environment does in a step: the results of system
calls, clock readings and allocations. A step that would misuse memory is an error.

`log` records what happened, oldest first; no step reads it. A record that the library accepts
is dated with the clock reading that the server took just before the call.
-/
namespace SpaceCaptain.Server

open SpaceCaptain.Dtls SpaceCaptain.Library

/-- Why an explicit `recvfrom` of the drain loop discards a datagram. -/
inductive Discard where
  /-- `add_client` failed. -/
  | addFailed
  /-- The handshake is complete. -/
  | handshakeDone
  /-- The handshake would block. -/
  | handshakePending
  /-- The handshake failed. -/
  | handshakeFailed
  /-- The read would block. -/
  | nothingToRead
  /-- The read failed. -/
  | readFailed
  deriving DecidableEq, Repr

/-- What happened. -/
inductive Event where
  /-- A datagram reached the socket. -/
  | arrived (d : Datagram)
  /-- `add_client` made a session for an address. -/
  | created (session : Nat) (addr : SockaddrIn) (now : Int)
  /-- `add_client` failed for a datagram. -/
  | refused (d : Datagram)
  /-- A call into the library on a session began. -/
  | called (session : Nat) (call : Call)
  /-- The receive callback took a datagram and gave it to the library. -/
  | handed (session : Nat) (d : Datagram)
  /-- The receive callback took a datagram and dropped it. -/
  | ignored (session : Nat) (d : Datagram)
  /-- An explicit `recvfrom` took a datagram. -/
  | discarded (why : Discard) (d : Datagram)
  /-- `udp_send` called `sendto`. -/
  | sent (session : Nat) (dest : SockaddrIn) (bytes : Bytes) (outcome : SendOutcome)
  /-- The library accepted a record as authentic. -/
  | accepted (session : Nat) (now : Int)
  /-- A call into the library came back to the server. -/
  | returned (session : Nat) (call : Call) (result : DtlsResult)
  /-- `sc_dtls_read` gave the server these bytes. -/
  | plaintext (session : Nat) (bytes : Bytes)
  /-- `sc_dtls_close`. -/
  | closed (session : Nat)
  /-- `sc_dtls_session_destroy`. -/
  | destroyed (session : Nat)
  /-- `check_client_timeouts` finished. -/
  | swept (now : Int)
  deriving DecidableEq, Repr

/-- Where the server is. `left` counts the events still to be handled. -/
inductive Pc where
  /-- At the test of `g_running`. -/
  | poll
  /-- At the head of the loop over the events. -/
  | events (left : Nat)
  /-- At the head of the drain loop. -/
  | peek (left : Nat)
  /-- Inside a call into the library. -/
  | engine (left client : Nat) (call : Call) (seen : List Seen)
  /-- Before an explicit `recvfrom`, and then before the removal of a client, if any. -/
  | consume (left : Nat) (why : Discard) (drop : Option Nat)
  /-- At the test of the shutdown loop. -/
  | shutdown
  /-- After the shutdown loop. -/
  | halted

/-- The part of the process that no step changes. -/
structure Host (ρ : Type) where
  /-- The DTLS library. -/
  engine : Engine ρ
  /-- The byte order. -/
  endian : Endian
  /-- `g_dtls_ctx`. -/
  ctx : Context
  /-- The socket's descriptor. -/
  fd : Int

/-- The state of the server and of its socket. -/
structure State (ρ : Type) where
  /-- Where the server is. -/
  pc : Pc
  /-- `g_running`. -/
  running : Bool
  /-- `g_clients` and the memory behind it. -/
  registry : Registry ρ
  /-- The datagrams in the socket. -/
  sock : List Datagram
  /-- `buffer`. -/
  buffer : Bytes
  /-- `last_timeout_check`. -/
  lastTimeoutCheck : Int
  /-- What happened. -/
  log : List Event

/-- What the environment does in a step. -/
inductive Input (ρ : Type) where
  /-- A datagram arrives. -/
  | arrive (d : Datagram)
  /-- The signal handler runs. -/
  | signal
  /-- `epoll_wait` returns a number of events or fails; `now` and `sweepNow` are the clock readings
  of the loop and of `check_client_timeouts`. -/
  | poll (result : Option Nat) (now sweepNow : Int) (outcomes : Nat → List SendOutcome)
  /-- The event loop is left. -/
  | leave
  /-- The loop over the events goes on. -/
  | event
  /-- `recvfrom` with `MSG_PEEK` works or fails; `add_client` and `time` do their part. -/
  | peek (failed : Bool) (add : AddEnv ρ) (now : Int)
  /-- The library sends. -/
  | send (outcome : SendOutcome)
  /-- The library receives. -/
  | recv (select : SelectOutcome) (outcome : RecvOutcome)
  /-- The library returns; `outcomes` is what `sendto` does if the client is then closed. -/
  | finish (outcomes : List SendOutcome)
  /-- The explicit `recvfrom` works or fails. -/
  | consume (failed : Bool) (outcomes : List SendOutcome)
  /-- One turn of the shutdown loop. -/
  | shutdown (outcomes : List SendOutcome)

variable {ρ : Type}

/-- The events of a session's end. -/
def Closed.events (d : Closed) : List Event :=
  d.sends.map (fun packet => .sent d.session d.dest packet.1 packet.2) ++
    [.closed d.session, .destroyed d.session]

/-- Remove a client and go on. -/
def drop (H : Host ρ) (s : State ρ) (client : Nat) (outcomes : List SendOutcome) (pc : Pc) :
    Except Fault (State ρ) := do
  let (registry, closed) ← removeClient H.engine s.registry client outcomes
  return { s with registry, pc, log := s.log ++ closed.toList.flatMap Closed.events }

/-- Begin a call into the library for a client. -/
def begin (s : State ρ) (left client : Nat) (call : Call) : Except Fault (State ρ) := do
  let c ← s.registry.clients.load client
  return { s with
    pc := .engine left client call []
    log := s.log ++ c.dtlsSession.toList.map fun session => .called session call }

/-- One timeout check and the dispatch of the events. -/
def pollStep (H : Host ρ) (s : State ρ) (result : Option Nat) (now sweepNow : Int)
    (outcomes : Nat → List SendOutcome) : Except Fault (State ρ) :=
  match result with
  | none => return s
  | some nfds => do
    if 5 ≤ now - s.lastTimeoutCheck then
      let (registry, closed) ← checkClientTimeouts H.engine s.registry sweepNow outcomes
      return { s with
        pc := .events nfds
        registry
        lastTimeoutCheck := now
        log := s.log ++ closed.flatMap Closed.events ++ [.swept sweepNow] }
    else return { s with pc := .events nfds }

/-- `time(NULL)` is stored as the client's last activity, and its handshake or read begins. -/
def meet (s : State ρ) (left client : Nat) (now : Int) : Except Fault (State ρ) := do
  let registry ← s.registry.modify client fun c => { c with lastActivity := now }
  let c ← registry.clients.load client
  begin { s with registry } left client
    (if c.handshakeComplete then .read socketBufferSize else .handshake)

/-- The search for the client of a datagram, who is added if there is none. -/
def recognize (H : Host ρ) (s : State ρ) (left : Nat) (d : Datagram) (add : AddEnv ρ)
    (now : Int) : Except Fault (State ρ) := do
  let s := { s with buffer := overwrite s.buffer d.bytes }
  match ← findClient s.registry d.src.sockaddr with
  | some client => meet s left client now
  | none =>
    match ← addClient s.registry H.ctx d.src.sockaddr sockaddrLen H.fd add with
    | (registry, none) =>
      return { s with registry, pc := .consume left .addFailed none, log := s.log ++ [.refused d] }
    | (registry, some client) =>
      let c ← registry.clients.load client
      meet { s with
        registry
        log := s.log ++
          c.dtlsSession.toList.map fun session => .created session c.addr c.lastActivity }
        left client now

/-- The peek, and what follows when there is a datagram. -/
def peekStep (H : Host ρ) (s : State ρ) (left : Nat) (failed : Bool) (add : AddEnv ρ)
    (now : Int) : Except Fault (State ρ) :=
  match failed, s.sock with
  | true, _ | false, [] => return { s with pc := .events left }
  | false, d :: _ => recognize H s left d add now

/-- What the server makes of the result of a handshake, a read or a write. -/
def settle (H : Host ρ) (s : State ρ) (left client : Nat) (call : Call) (session : Option Nat)
    (result : DtlsResult) (data : Bytes) (outcomes : List SendOutcome) :
    Except Fault (State ρ) :=
  match call with
  | .handshake =>
    match result with
    | .ok => do
      let registry ← s.registry.modify client fun c => { c with handshakeComplete := true }
      return { s with registry, pc := .consume left .handshakeDone none }
    | .errorWouldBlock => return { s with pc := .consume left .handshakePending none }
    | _ => return { s with pc := .consume left .handshakeFailed (some client) }
  | .read _ =>
    if result = .ok ∧ 0 < data.length then
      let buffer := respond H.endian (overwrite s.buffer data) data.length
      begin { s with
        buffer
        log := s.log ++ session.toList.map fun session => .plaintext session data }
        left client (.write (buffer.take data.length))
    else if result = .errorWouldBlock then
      return { s with pc := .consume left .nothingToRead none }
    else if result = .errorPeerClosed then drop H s client outcomes (.peek left)
    else return { s with pc := .consume left .readFailed (some client) }
  | .write _ =>
    if result ≠ .ok ∧ result ≠ .errorWouldBlock then drop H s client outcomes (.peek left)
    else return { s with pc := .peek left }

/-- The events of a receive callback. -/
def Fate.events (session : Nat) : Fate → List Event
  | .kept => []
  | .handed d => [.handed session d]
  | .ignored d => [.ignored session d]

/-- One move of the library, or the return of a call without a session. -/
def engineStep (H : Host ρ) (s : State ρ) (left client : Nat) (call : Call) (seen : List Seen)
    (input : Input ρ) : Except Fault (Option (State ρ)) := do
  let c ← s.registry.clients.load client
  match c.dtlsSession with
  | none =>
    match input with
    | .finish outcomes =>
      return some (← settle H s left client call none .errorInvalidParams [] outcomes)
    | _ => return none
  | some id =>
    let session ← s.registry.sessions.load id
    match H.engine.move call session.ssl seen, input with
    | .send bytes, .send outcome =>
      return some { s with
        pc := .engine left client call (seen ++ [.sent (udpSend bytes outcome)])
        log := s.log ++ [.sent id session.clientAddr bytes outcome] }
    | .recv len _, .recv select outcome =>
      let received := udpRecvTimeout session len select outcome s.sock
      return some { s with
        pc := .engine left client call (seen ++ [.received received.result])
        sock := received.sock
        log := s.log ++ Fate.events id received.fate }
    | .finish ret ssl accepted, .finish outcomes =>
      let (session, result, data) := callResult session ssl call ret
      let sessions ← s.registry.sessions.store id session
      let s := { s with
        registry := { s.registry with sessions }
        log := s.log ++ (if accepted then [.accepted id c.lastActivity] else []) ++
          [.returned id call result] }
      return some (← settle H s left client call (some id) result data outcomes)
    | _, _ => return none

/-- The explicit `recvfrom`. -/
def consume (s : State ρ) (why : Discard) (failed : Bool) : State ρ :=
  match failed, s.sock with
  | true, _ | false, [] => s
  | false, d :: rest =>
    { s with
      sock := rest
      buffer := overwrite s.buffer d.bytes
      log := s.log ++ [.discarded why d] }

/-- The explicit `recvfrom`, and the removal of the client whose handshake or read failed. -/
def consumeStep (H : Host ρ) (s : State ρ) (left : Nat) (why : Discard) (dropped : Option Nat)
    (failed : Bool) (outcomes : List SendOutcome) : Except Fault (State ρ) :=
  let s := consume s why failed
  match dropped with
  | none => return { s with pc := .peek left }
  | some client => drop H s client outcomes (.peek left)

/-- One step; `none` when the input does not fit the place where the server is. -/
def step (H : Host ρ) (s : State ρ) (input : Input ρ) : Except Fault (Option (State ρ)) :=
  match input, s.pc with
  | .arrive d, _ => return some { s with sock := s.sock ++ [d], log := s.log ++ [.arrived d] }
  | .signal, _ => return some { s with running := false }
  | .poll result now sweepNow outcomes, .poll =>
    if s.running then return some (← pollStep H s result now sweepNow outcomes) else return none
  | .leave, .poll => return if s.running then none else some { s with pc := .shutdown }
  | .event, .events left =>
    return some { s with pc := match left with | 0 => .poll | left + 1 => .peek left }
  | .peek failed add now, .peek left => return some (← peekStep H s left failed add now)
  | input, .engine left client call seen => engineStep H s left client call seen input
  | .consume failed outcomes, .consume left why dropped =>
    return some (← consumeStep H s left why dropped failed outcomes)
  | .shutdown outcomes, .shutdown =>
    match s.registry.gClients with
    | none => return some { s with pc := .halted }
    | some client => return some (← drop H s client outcomes .shutdown)
  | _, _ => return none

/-- The state before the event loop: `now` is the first clock reading, and the buffer holds
whatever is on the stack. -/
def start (buffer : Bytes) (now : Int) : State ρ where
  pc := .poll
  running := true
  registry := .empty
  sock := []
  buffer := buffer
  lastTimeoutCheck := now
  log := []

/-- The states in which `main` can enter the event loop, with its context. -/
structure Starts (H : Host ρ) (s : State ρ) : Prop where
  /-- The context is the one that `main` creates. -/
  context : ∃ certPath keyPath env,
    contextCreate true .server (some certPath) (some keyPath) none 0 env = some H.ctx
  /-- Nothing has happened yet. -/
  state : ∃ buffer now, buffer.length = socketBufferSize ∧ s = start buffer now

/-- The state after a step; `none` when there is no such step. -/
def advance (H : Host ρ) (s : State ρ) (input : Input ρ) : Option (State ρ) :=
  match step H s input with
  | .ok s' => s'
  | .error _ => none

/-- The steps are those of the step function. -/
theorem advance_eq_some {H : Host ρ} {s s' : State ρ} {input : Input ρ} :
    advance H s input = some s' ↔ step H s input = .ok (some s') := by
  unfold advance
  cases step H s input <;> simp

/-- The states of the runs whose steps all meet the guard. -/
abbrev Reachable (H : Host ρ) (guard : State ρ → Input ρ → Bool) : State ρ → Prop :=
  Reach (Starts H) (fun s input s' => advance H s input = some s')
    (fun s input => guard s input = true)

/-- The guard of the runs without restriction. -/
def anything (_ : State ρ) (_ : Input ρ) : Bool := true

/-- A library without cryptography: a handshake and a read take one datagram as it is, a write
sends its bytes, and a session ends with a packet of one byte. -/
def plain : Engine Unit where
  move
    | .handshake, _, [] | .read _, _, [] => .recv socketBufferSize 0
    | .write bytes, _, [] => .send bytes
    | .handshake, ssl, .received (.ok _) :: _ => .finish (.ok ()) ssl true
    | .handshake, ssl, .received (.error code) :: _ => .finish (.error code) ssl false
    | .read _, ssl, .received result :: _ => .finish result ssl true
    | .write _, ssl, .sent result :: _ => .finish result ssl false
    | _, ssl, _ => .finish (.error (.other 0)) ssl false
  close _ _ := [[0]]

/-- A library whose handshake discards datagrams until a callback returns an error; a time-out
makes it repeat itself and come back later. -/
def thirsty : Engine Unit where
  move
    | .handshake, ssl, seen =>
      match seen.getLast? with
      | some (.received (.error .timeout)) => .finish (.error .wantRead) ssl false
      | some (.received (.error code)) => .finish (.error code) ssl false
      | _ => .recv socketBufferSize 0
    | .read _, ssl, _ => .finish (.error .wantRead) ssl false
    | .write _, ssl, _ => .finish (.error .wantWrite) ssl false
  close _ _ := []

/-- The context that `main` creates. -/
def serverContext : Context := ⟨.server, .none, none, 0, 30000⟩

/-- The start of a run at time zero with a buffer of zeros. -/
def startZero : State ρ := start (List.replicate socketBufferSize 0) 0

/-- A run may start there. -/
theorem starts_startZero (engine : Engine ρ) (endian : Endian) (fd : Int) :
    Starts ⟨engine, endian, serverContext, fd⟩ startZero where
  context := ⟨"server.crt", "server.key", ⟨true, true, true, true, true, true, true, true⟩, rfl⟩
  state := ⟨_, 0, List.length_replicate, rfl⟩

/-- `add_client` succeeds at a time. -/
def addSucceeds (now : Int) (ssl : ρ) : AddEnv ρ := ⟨true, now, ⟨true, ssl, true, true, true⟩⟩

/-- A client completes its handshake with its first datagram, and the server peeks at a second one
from it. -/
def greetThenSend (ssl : ρ) (bytes : Bytes) : List (Input ρ) :=
  [.arrive ⟨⟨1, 1⟩, [1]⟩, .poll (some 1) 0 0 (fun _ => []), .event,
    .peek false (addSucceeds 0 ssl) 0, .recv .ready .normal, .finish [], .consume false [],
    .arrive ⟨⟨1, 1⟩, bytes⟩, .peek false (addSucceeds 0 ssl) 0]

end SpaceCaptain.Server
