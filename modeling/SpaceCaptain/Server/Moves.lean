import SpaceCaptain.Server.Intact
import SpaceCaptain.Server.Main

/-!
# What one step of the server can do

`Move` lists the steps of the server on a registry that stands for a list of clients, each with
what it does to the list, the socket and the record of what happened. `step_move` is the
inversion of the step function, and says besides that no step misuses memory. `Sound` is what
the list owes the place of the server, and `Move.sound` keeps it. Every invariant of the server
is a case analysis of `Move` under the rule `Reachable.listed`; none unfolds `step`.
-/
namespace SpaceCaptain.Server

open SpaceCaptain.Dtls SpaceCaptain.Library

variable {ρ : Type}

/-- The client that the server works on. -/
def Pc.client : Pc → Option Nat
  | .engine _ client _ _ => some client
  | .consume _ _ dropped => dropped
  | .poll | .events _ | .peek _ | .shutdown | .halted => none

/-- The memory stands for the list, and the list has the client that the server works on. -/
structure Sound (H : Host ρ) (s : State ρ) (l : List Entry) : Prop where
  /-- The registry stands for the list. -/
  intact : Intact s.registry l
  /-- The context plays the server. -/
  server : H.ctx.role = .server
  /-- The buffer has its size. -/
  buffer : s.buffer.length = socketBufferSize
  /-- The client that the server works on is in the list. -/
  current : ∀ client, s.pc.client = some client → ∃ c, (client, c) ∈ l
  /-- A read has room for a whole buffer. -/
  room : ∀ left client len seen, s.pc = .engine left client (.read len) seen →
    len = socketBufferSize

/-- Store the time of a datagram. -/
def stamp (now : Int) (c : Client) : Client := { c with lastActivity := now }

/-- Store that the handshake is complete. -/
def complete (c : Client) : Client := { c with handshakeComplete := true }

/-- The call that a datagram for a client begins. -/
def firstCall (c : Client) : Call :=
  if c.handshakeComplete then .read socketBufferSize else .handshake

/-- A client was removed from the list, and its session was closed and destroyed. -/
structure Removal (r : Registry ρ) (l : List Entry) (client : Nat) (r' : Registry ρ)
    (closed : Closed) : Prop where
  /-- The memory stands for the other clients. -/
  intact : Intact r' (dropClient client l)
  /-- The session was the client's, and its packets went to the client's address. -/
  client : ∃ c, (client, c) ∈ l ∧ c.dtlsSession = some closed.session ∧ closed.dest = c.addr
  /-- No session was created. -/
  size : r'.sessions.size = r.sessions.size

/-- The server is inside a call into the library, on the session of a client of the list. -/
structure InCall (s : State ρ) (l : List Entry) (left client : Nat) (call : Call)
    (seen : List Seen) (c : Client) (sid : Nat) (session : Session ρ) : Prop where
  /-- The place of the server. -/
  at_pc : s.pc = .engine left client call seen
  /-- The client. -/
  member : (client, c) ∈ l
  /-- The client's session. -/
  owns : c.dtlsSession = some sid
  /-- The session is alive. -/
  live : s.registry.sessions.get? sid = some session
  /-- The session plays the server. -/
  role : session.ctx.role = .server
  /-- The session's peer is the client. -/
  peer : session.clientAddr = c.addr
  /-- The address of the peer has the length that `recvfrom` reports. -/
  len : session.addrLen = sockaddrLen
  /-- The address of the client is that of a datagram's source. -/
  source : ∃ source : Endpoint, c.addr = source.sockaddr

/-- What the explicit `recvfrom` can do. -/
inductive Consumed (s : State ρ) (why : Discard) : Bool → State ρ → Prop
  | nothing (failed : Bool) (idle : failed = true ∨ s.sock = []) : Consumed s why failed s
  | taken (d : Datagram) (rest : List Datagram) (at_sock : s.sock = d :: rest) :
      Consumed s why false { s with
        sock := rest
        buffer := overwrite s.buffer d.bytes
        log := s.log ++ [.discarded why d] }

/-- What the server can make of the result of a call. -/
inductive Settled (H : Host ρ) (s : State ρ) (l : List Entry) (left client sid : Nat) :
    Call → DtlsResult → Bytes → State ρ → List Entry → Prop
  /-- The handshake is complete. -/
  | completed (data : Bytes) (registry : Registry ρ)
      (intact : Intact registry (editClient client complete l))
      (sessions : registry.sessions = s.registry.sessions) :
      Settled H s l left client sid .handshake .ok data
        { s with registry, pc := .consume left .handshakeDone none }
        (editClient client complete l)
  | pending (data : Bytes) :
      Settled H s l left client sid .handshake .errorWouldBlock data
        { s with pc := .consume left .handshakePending none } l
  | failed (result : DtlsResult) (data : Bytes) (error : result ≠ .ok)
      (blocked : result ≠ .errorWouldBlock) :
      Settled H s l left client sid .handshake result data
        { s with pc := .consume left .handshakeFailed (some client) } l
  /-- A plaintext is answered. -/
  | answered (len : Nat) (data buffer : Bytes) (nonempty : 0 < data.length)
      (size : buffer.length = s.buffer.length) :
      Settled H s l left client sid (.read len) .ok data
        { s with
          buffer
          pc := .engine left client (.write (replyTo H.endian data)) []
          log := s.log ++ [.plaintext sid data, .called sid (.write (replyTo H.endian data))] }
        l
  | nothing (len : Nat) (data : Bytes) :
      Settled H s l left client sid (.read len) .errorWouldBlock data
        { s with pc := .consume left .nothingToRead none } l
  | broken (len : Nat) (result : DtlsResult) (data : Bytes)
      (unread : result = .ok → data = []) (blocked : result ≠ .errorWouldBlock)
      (closed : result ≠ .errorPeerClosed) :
      Settled H s l left client sid (.read len) result data
        { s with pc := .consume left .readFailed (some client) } l
  /-- The peer closed the connection. -/
  | peerClosed (len : Nat) (data : Bytes) (registry : Registry ρ) (closed : Closed)
      (removal : Removal s.registry l client registry closed) :
      Settled H s l left client sid (.read len) .errorPeerClosed data
        { s with registry, pc := .peek left, log := s.log ++ closed.events }
        (dropClient client l)
  | written (bytes : Bytes) (result : DtlsResult) (data : Bytes)
      (fine : result = .ok ∨ result = .errorWouldBlock) :
      Settled H s l left client sid (.write bytes) result data { s with pc := .peek left } l
  | unwritten (bytes : Bytes) (result : DtlsResult) (data : Bytes) (registry : Registry ρ)
      (closed : Closed) (error : result ≠ .ok) (blocked : result ≠ .errorWouldBlock)
      (removal : Removal s.registry l client registry closed) :
      Settled H s l left client sid (.write bytes) result data
        { s with registry, pc := .peek left, log := s.log ++ closed.events }
        (dropClient client l)

/-- The steps of the server, each with its guard and the state and the list it leads to. -/
inductive Move (H : Host ρ) (s : State ρ) (l : List Entry) :
    Input ρ → State ρ → List Entry → Prop
  | arrive (d : Datagram) :
      Move H s l (.arrive d) { s with sock := s.sock ++ [d], log := s.log ++ [.arrived d] } l
  | signal : Move H s l .signal { s with running := false } l
  | interrupted (now sweepNow : Int) (outcomes : Nat → List SendOutcome) (at_pc : s.pc = .poll)
      (alive : s.running = true) :
      Move H s l (.poll none now sweepNow outcomes) s l
  | dispatch (nfds : Nat) (now sweepNow : Int) (outcomes : Nat → List SendOutcome)
      (at_pc : s.pc = .poll) (alive : s.running = true)
      (early : ¬5 ≤ now - s.lastTimeoutCheck) :
      Move H s l (.poll (some nfds) now sweepNow outcomes) { s with pc := .events nfds } l
  /-- The timeout check closes the clients that have expired. -/
  | sweep (nfds : Nat) (now sweepNow : Int) (outcomes : Nat → List SendOutcome)
      (registry : Registry ρ) (closed : List Closed) (at_pc : s.pc = .poll)
      (alive : s.running = true) (due : 5 ≤ now - s.lastTimeoutCheck)
      (intact : Intact registry (l.filter fun e => !expired sweepNow e))
      (swept : Swept s.registry registry sweepNow l closed) :
      Move H s l (.poll (some nfds) now sweepNow outcomes)
        { s with
          pc := .events nfds
          registry
          lastTimeoutCheck := now
          log := s.log ++ closed.flatMap Closed.events ++ [.swept sweepNow] }
        (l.filter fun e => !expired sweepNow e)
  | leave (at_pc : s.pc = .poll) (stopped : s.running = false) :
      Move H s l .leave { s with pc := .shutdown } l
  | lastEvent (at_pc : s.pc = .events 0) : Move H s l .event { s with pc := .poll } l
  | nextEvent (left : Nat) (at_pc : s.pc = .events (left + 1)) :
      Move H s l .event { s with pc := .peek left } l
  | drained (left : Nat) (failed : Bool) (add : AddEnv ρ) (now : Int)
      (at_pc : s.pc = .peek left) (idle : failed = true ∨ s.sock = []) :
      Move H s l (.peek failed add now) { s with pc := .events left } l
  /-- The datagram is from a client. -/
  | known (left : Nat) (add : AddEnv ρ) (now : Int) (d : Datagram) (rest : List Datagram)
      (client : Nat) (c : Client) (sid : Nat) (registry : Registry ρ)
      (at_pc : s.pc = .peek left) (at_sock : s.sock = d :: rest) (member : (client, c) ∈ l)
      (addr : c.addr = d.src.sockaddr) (owns : c.dtlsSession = some sid)
      (intact : Intact registry (editClient client (stamp now) l))
      (sessions : registry.sessions = s.registry.sessions) :
      Move H s l (.peek false add now)
        { s with
          registry
          buffer := overwrite s.buffer d.bytes
          pc := .engine left client (firstCall c) []
          log := s.log ++ [.called sid (firstCall c)] }
        (editClient client (stamp now) l)
  /-- The datagram is from an address that gets no client. -/
  | refused (left : Nat) (add : AddEnv ρ) (now : Int) (d : Datagram) (rest : List Datagram)
      (registry : Registry ρ) (at_pc : s.pc = .peek left) (at_sock : s.sock = d :: rest)
      (absent : ∀ e ∈ l, e.2.addr.key ≠ d.src.sockaddr.key) (intact : Intact registry l)
      (head : registry.gClients = s.registry.gClients)
      (sessions : s.registry.sessions.size ≤ registry.sessions.size) :
      Move H s l (.peek false add now)
        { s with
          registry
          buffer := overwrite s.buffer d.bytes
          pc := .consume left .addFailed none
          log := s.log ++ [.refused d] }
        l
  /-- The datagram is from an address that gets a client. -/
  | admitted (left : Nat) (add : AddEnv ρ) (now : Int) (d : Datagram) (rest : List Datagram)
      (client : Nat) (registry : Registry ρ) (at_pc : s.pc = .peek left)
      (at_sock : s.sock = d :: rest) (absent : ∀ e ∈ l, e.2.addr.key ≠ d.src.sockaddr.key)
      (fresh : client ∉ l.map Prod.fst)
      (intact : Intact registry
        ((client, stamp now (newClient d.src s.registry.sessions.size add.now)) :: l))
      (sessions : registry.sessions.size = s.registry.sessions.size + 1) :
      Move H s l (.peek false add now)
        { s with
          registry
          buffer := overwrite s.buffer d.bytes
          pc := .engine left client .handshake []
          log := s.log ++ [.created s.registry.sessions.size d.src.sockaddr add.now,
            .called s.registry.sessions.size .handshake] }
        ((client, stamp now (newClient d.src s.registry.sessions.size add.now)) :: l)
  /-- The library sends a packet to the client. -/
  | send (left client : Nat) (call : Call) (seen : List Seen) (c : Client) (sid : Nat)
      (session : Session ρ) (bytes : Bytes) (outcome : SendOutcome)
      (inside : InCall s l left client call seen c sid session)
      (moves : H.engine.move call session.ssl seen = .send bytes) :
      Move H s l (.send outcome)
        { s with
          pc := .engine left client call (seen ++ [.sent (udpSend bytes outcome)])
          log := s.log ++ [.sent sid session.clientAddr bytes outcome] }
        l
  /-- The library asks for a datagram. -/
  | recv (left client : Nat) (call : Call) (seen : List Seen) (c : Client) (sid : Nat)
      (session : Session ρ) (len timeout : Nat) (select : SelectOutcome) (outcome : RecvOutcome)
      (received : Received) (inside : InCall s l left client call seen c sid session)
      (moves : H.engine.move call session.ssl seen = .recv len timeout)
      (answer : udpRecvTimeout session len select outcome s.sock = received) :
      Move H s l (.recv select outcome)
        { s with
          pc := .engine left client call (seen ++ [.received received.result])
          sock := received.sock
          log := s.log ++ Fate.events sid received.fate }
        l
  /-- The library returns. -/
  | finish (left client : Nat) (call : Call) (seen : List Seen) (c : Client) (sid : Nat)
      (session : Session ρ) (ret : Except MbedErr call.Value) (ssl : ρ) (accepted : Bool)
      (outcomes : List SendOutcome) (sessions : Heap (Session ρ)) (s' : State ρ)
      (l' : List Entry) (inside : InCall s l left client call seen c sid session)
      (moves : H.engine.move call session.ssl seen = .finish ret ssl accepted)
      (intact : Intact { s.registry with sessions } l)
      (size : sessions.size = s.registry.sessions.size)
      (settled : Settled H
        { s with
          registry := { s.registry with sessions }
          log := s.log ++ (if accepted then [.accepted sid c.lastActivity] else []) ++
            [.returned sid call (callResult session ssl call ret).2.1] }
        l left client sid call (callResult session ssl call ret).2.1
        (callResult session ssl call ret).2.2 s' l') :
      Move H s l (.finish outcomes) s' l'
  | consume (left : Nat) (why : Discard) (failed : Bool) (outcomes : List SendOutcome)
      (s₁ : State ρ) (at_pc : s.pc = .consume left why none)
      (consumed : Consumed s why failed s₁) :
      Move H s l (.consume failed outcomes) { s₁ with pc := .peek left } l
  /-- A client whose handshake or read failed is removed. -/
  | discard (left : Nat) (why : Discard) (client : Nat) (failed : Bool)
      (outcomes : List SendOutcome) (s₁ : State ρ) (registry : Registry ρ) (closed : Closed)
      (at_pc : s.pc = .consume left why (some client)) (consumed : Consumed s why failed s₁)
      (removal : Removal s.registry l client registry closed) :
      Move H s l (.consume failed outcomes)
        { s₁ with registry, pc := .peek left, log := s₁.log ++ closed.events }
        (dropClient client l)
  | shutdown (outcomes : List SendOutcome) (client : Nat) (registry : Registry ρ)
      (closed : Closed) (at_pc : s.pc = .shutdown)
      (removal : Removal s.registry l client registry closed) :
      Move H s l (.shutdown outcomes)
        { s with registry, pc := .shutdown, log := s.log ++ closed.events }
        (dropClient client l)
  | halt (outcomes : List SendOutcome) (at_pc : s.pc = .shutdown) (empty : l = []) :
      Move H s l (.shutdown outcomes) { s with pc := .halted } l

section Steps

variable {H : Host ρ} {s : State ρ} {l : List Entry} {left client : Nat}

/-- Beginning a call for a client of the list. -/
theorem begin_ok (intact : Intact s.registry l) {c : Client} {sid : Nat}
    (member : (client, c) ∈ l) (owns : c.dtlsSession = some sid) (left : Nat) (call : Call) :
    begin s left client call = .ok { s with
      pc := .engine left client call []
      log := s.log ++ [.called sid call] } := by
  obtain ⟨n, found, rfl⟩ := intact.node member
  have pointer : n.dtlsSession = some sid := owns
  simp only [begin, Heap.load_ok found, ok_bind, pure_ok, pointer, Option.toList_some,
    List.map_cons, List.map_nil]

/-- Removing a client of the list. -/
theorem drop_ok (intact : Intact s.registry l) (member : ∃ c, (client, c) ∈ l)
    (outcomes : List SendOutcome) (pc : Pc) :
    ∃ registry closed, drop H s client outcomes pc =
        .ok { s with registry, pc, log := s.log ++ closed.events } ∧
      Removal s.registry l client registry closed := by
  obtain ⟨c, member⟩ := member
  obtain ⟨registry, closed, removed, rest, owns, dest, size, -⟩ :=
    removeClient_intact H.engine intact member outcomes
  refine ⟨registry, closed, ?_, rest, ⟨c, member, owns, dest⟩, size⟩
  simp only [drop, removed, ok_bind, pure_ok, Option.toList_some, List.flatMap_cons,
    List.flatMap_nil, List.append_nil]

/-- The time of a datagram is stored, and the call begins that the client needs. -/
theorem meet_ok (intact : Intact s.registry l) {c : Client} {sid : Nat}
    (member : (client, c) ∈ l) (owns : c.dtlsSession = some sid) (left : Nat) (now : Int) :
    ∃ registry, meet s left client now = .ok { s with
        registry
        pc := .engine left client (firstCall c) []
        log := s.log ++ [.called sid (firstCall c)] } ∧
      Intact registry (editClient client (stamp now) l) ∧
      registry.sessions = s.registry.sessions := by
  obtain ⟨registry, stored, intact', sessions⟩ : ∃ registry,
      s.registry.modify client (stamp now) = .ok registry ∧
        Intact registry (editClient client (stamp now) l) ∧
        registry.sessions = s.registry.sessions :=
    modify_intact intact member (fun _ => rfl) (fun _ => rfl)
  have member' : (client, stamp now c) ∈ editClient client (stamp now) l :=
    mem_editClient.mpr ⟨_, member, by simp⟩
  obtain ⟨n, found, fields⟩ := intact'.node member'
  have flag : n.handshakeComplete = c.handshakeComplete := by rw [fields]; rfl
  have began := begin_ok (s := { s with registry }) intact' member' owns left (firstCall c)
  refine ⟨registry, ?_, intact', sessions⟩
  have modified : (s.registry.modify client fun c => { c with lastActivity := now }) =
      .ok registry := stored
  simp only [meet, modified, ok_bind, Heap.load_ok found, flag]
  exact began

/-- A successful step leads to a state that a relation admits. -/
abbrev Admits (outcome : Except Fault (State ρ)) (after : State ρ → List Entry → Prop) : Prop :=
  ∃ s' l', outcome = .ok s' ∧ after s' l'

/-- The moves of `pollStep`. -/
theorem pollStep_move (sound : Sound H s l) (at_pc : s.pc = .poll) (alive : s.running = true)
    (result : Option Nat) (now sweepNow : Int) (outcomes : Nat → List SendOutcome) :
    Admits (pollStep H s result now sweepNow outcomes)
      (Move H s l (.poll result now sweepNow outcomes)) := by
  cases result with
  | none => exact ⟨s, l, rfl, .interrupted now sweepNow outcomes at_pc alive⟩
  | some nfds =>
    by_cases due : 5 ≤ now - s.lastTimeoutCheck
    · obtain ⟨registry, closed, checked, intact, swept⟩ :=
        checkClientTimeouts_intact H.engine sound.intact sweepNow outcomes
      refine ⟨_, _, ?_, .sweep nfds now sweepNow outcomes registry closed at_pc alive due intact
        swept⟩
      simp only [pollStep, if_pos due, checked, ok_bind, pure_ok]
    · exact ⟨_, _, if_neg due, .dispatch nfds now sweepNow outcomes at_pc alive due⟩

/-- The moves of `recognize`. -/
theorem recognize_move (sound : Sound H s l) (at_pc : s.pc = .peek left) {d : Datagram}
    {rest : List Datagram} (at_sock : s.sock = d :: rest) (add : AddEnv ρ) (now : Int) :
    Admits (recognize H s left d add now) (Move H s l (.peek false add now)) := by
  rcases findClient_cases sound.intact d.src with ⟨client, c, found, member, addr⟩ |
    ⟨missing, absent⟩
  · obtain ⟨-, sid, -, -, owns, -⟩ := sound.intact.session _ member
    obtain ⟨registry, met, intact, sessions⟩ :=
      meet_ok (s := { s with buffer := overwrite s.buffer d.bytes }) sound.intact member owns left
        now
    refine ⟨_, _, ?_, .known left add now d rest client c sid registry at_pc at_sock member addr
      owns intact sessions⟩
    simp only [recognize, found, ok_bind]
    exact met
  · obtain ⟨result, added, effect⟩ :=
      addClient_intact sound.intact sound.server absent H.fd add
    simp only [recognize, missing, added, ok_bind]
    cases effect with
    | failed registry intact head _ grown =>
      exact ⟨_, _, rfl, .refused left add now d rest registry at_pc at_sock absent intact head
        grown⟩
    | added registry session intact _ _ _ grown =>
      obtain ⟨n, found, fields⟩ := intact.node List.mem_cons_self
      have pointer : n.dtlsSession = some s.registry.sessions.size := by rw [fields]; rfl
      have address : n.addr = d.src.sockaddr := by rw [fields]; rfl
      have created : n.lastActivity = add.now := by rw [fields]; rfl
      have fresh : s.registry.clients.size ∉ l.map Prod.fst := by
        have nodup := intact.chain.nodup
        rw [List.map_cons, List.nodup_cons] at nodup
        exact nodup.1
      have alone : editClient s.registry.clients.size (stamp now) l = l := by
        refine (List.map_congr_left fun e entry => if_neg ?_).trans (List.map_id l)
        intro same
        exact fresh (same ▸ List.mem_map_of_mem entry)
      obtain ⟨registry', met, intact', sessions⟩ := meet_ok (s := { s with
        buffer := overwrite s.buffer d.bytes
        registry := registry
        log := s.log ++ [.created s.registry.sessions.size d.src.sockaddr add.now] })
        intact List.mem_cons_self rfl left now
      rw [editClient, List.map_cons, ← editClient, alone, if_pos rfl] at intact'
      refine ⟨_, _, ?_, .admitted left add now d rest s.registry.clients.size registry' at_pc
        at_sock absent fresh intact' ?_⟩
      · simp only [Heap.load_ok found, ok_bind, pointer, address, created, Option.toList_some,
          List.map_cons, List.map_nil]
        rw [met]
        simp only [firstCall, newClient, Bool.false_eq_true, ↓reduceIte, List.append_assoc,
          List.cons_append, List.nil_append]
      · have same : registry'.sessions = registry.sessions := sessions
        rw [same, grown]

/-- The moves of `peekStep`. -/
theorem peekStep_move (sound : Sound H s l) (at_pc : s.pc = .peek left) (failed : Bool)
    (add : AddEnv ρ) (now : Int) :
    Admits (peekStep H s left failed add now) (Move H s l (.peek failed add now)) := by
  cases failed with
  | true => exact ⟨_, _, rfl, .drained left true add now at_pc (.inl rfl)⟩
  | false =>
    cases at_sock : s.sock with
    | nil =>
      refine ⟨_, _, ?_, .drained left false add now at_pc (.inr at_sock)⟩
      simp only [peekStep, at_sock, pure_ok]
    | cons d rest =>
      simp only [peekStep, at_sock]
      exact recognize_move sound at_pc at_sock add now

/-- What `settle` makes of a result on the session of a client of the list. -/
theorem settle_move (intact : Intact s.registry l) (buffer : s.buffer.length = socketBufferSize)
    {c : Client} {sid : Nat} (member : (client, c) ∈ l) (owns : c.dtlsSession = some sid)
    (left : Nat) (call : Call) (result : DtlsResult) (data : Bytes)
    (fits : data.length ≤ socketBufferSize) (outcomes : List SendOutcome) :
    Admits (settle H s left client call (some sid) result data outcomes)
      (Settled H s l left client sid call result data) := by
  cases call with
  | handshake =>
    by_cases done : result = .ok
    · subst done
      obtain ⟨registry, stored, intact', sessions⟩ : ∃ registry,
          s.registry.modify client complete = .ok registry ∧
            Intact registry (editClient client complete l) ∧
            registry.sessions = s.registry.sessions :=
        modify_intact intact member (fun _ => rfl) (fun _ => rfl)
      refine ⟨_, _, ?_, .completed data registry intact' sessions⟩
      have modified : (s.registry.modify client fun c => { c with handshakeComplete := true }) =
          .ok registry := stored
      simp only [settle, modified, ok_bind, pure_ok]
    · by_cases blocked : result = .errorWouldBlock
      · subst blocked
        exact ⟨_, _, rfl, .pending data⟩
      · refine ⟨_, _, ?_, .failed result data done blocked⟩
        cases result <;> first | contradiction | rfl
  | read len =>
    by_cases got : result = .ok ∧ 0 < data.length
    · obtain ⟨rfl, nonempty⟩ := got
      have written : (respond H.endian (overwrite s.buffer data) data.length).take data.length =
          replyTo H.endian data := respond_overwrite H.endian (by omega)
      have began := begin_ok (s := { s with
        buffer := respond H.endian (overwrite s.buffer data) data.length
        log := s.log ++ [.plaintext sid data] }) intact member owns left
        (.write (replyTo H.endian data))
      refine ⟨_, _, ?_, .answered len data (respond H.endian (overwrite s.buffer data) data.length)
        nonempty (by simp)⟩
      simp only [settle, nonempty, and_self, ↓reduceIte, Option.toList_some, List.map_cons,
        List.map_nil, written]
      rw [began]
      simp only [List.append_assoc, List.cons_append, List.nil_append]
    · simp only [settle, if_neg got]
      have unread (ok : result = .ok) : data = [] := by
        cases data with
        | nil => rfl
        | cons b rest => exact absurd ⟨ok, Nat.succ_pos _⟩ got
      by_cases blocked : result = .errorWouldBlock
      · subst blocked
        exact ⟨_, _, rfl, .nothing len data⟩
      · simp only [if_neg blocked]
        by_cases closing : result = .errorPeerClosed
        · subst closing
          obtain ⟨registry, closed, dropped, removal⟩ :=
            drop_ok (H := H) intact ⟨c, member⟩ outcomes (.peek left)
          exact ⟨_, _, dropped, .peerClosed len data registry closed removal⟩
        · exact ⟨_, _, if_neg closing, .broken len result data unread blocked closing⟩
  | write bytes =>
    by_cases bad : result ≠ .ok ∧ result ≠ .errorWouldBlock
    · obtain ⟨registry, closed, dropped, removal⟩ :=
        drop_ok (H := H) intact ⟨c, member⟩ outcomes (.peek left)
      refine ⟨_, _, ?_, .unwritten bytes result data registry closed bad.1 bad.2 removal⟩
      simp only [settle, if_pos bad, dropped]
    · refine ⟨_, _, if_neg bad, .written bytes result data ?_⟩
      by_cases fine : result = .ok
      · exact .inl fine
      · exact .inr (not_not.mp fun blocked => bad ⟨fine, blocked⟩)

/-- A read puts no more into the buffer than it has room for. -/
theorem callResult_length (session : Session ρ) (ssl : ρ) (call : Call)
    (ret : Except MbedErr call.Value) (room : ∀ len, call = .read len → len = socketBufferSize) :
    (callResult session ssl call ret).2.2.length ≤ socketBufferSize := by
  cases call with
  | handshake => exact Nat.zero_le _
  | write bytes => exact Nat.zero_le _
  | read len =>
    obtain rfl := room len rfl
    have short (data : Bytes) : (readResult (.ok data)).2.length ≤ data.length := by
      cases data <;> simp [readResult]
    cases ret with
    | ok data =>
      refine (short (data.take socketBufferSize)).trans ?_
      simp
    | error code => cases code <;> exact Nat.zero_le _

/-- A call keeps the context and the peer of its session. -/
theorem callResult_kept (session : Session ρ) (ssl : ρ) (call : Call)
    (ret : Except MbedErr call.Value) :
    (callResult session ssl call ret).1.ctx = session.ctx ∧
      (callResult session ssl call ret).1.clientAddr = session.clientAddr ∧
      (callResult session ssl call ret).1.addrLen = session.addrLen := by
  cases call with
  | handshake =>
    cases ret with
    | ok done => exact ⟨rfl, rfl, rfl⟩
    | error code => cases code <;> exact ⟨rfl, rfl, rfl⟩
  | read len => exact ⟨rfl, rfl, rfl⟩
  | write bytes => exact ⟨rfl, rfl, rfl⟩

/-- A step succeeds, and leads to a state that a relation admits unless it is disabled. -/
abbrev Allows (outcome : Except Fault (Option (State ρ)))
    (after : State ρ → List Entry → Prop) : Prop :=
  ∃ next, outcome = .ok next ∧ ∀ s', next = some s' → ∃ l', after s' l'

/-- A step that is disabled. -/
theorem Allows.disabled {after : State ρ → List Entry → Prop} : Allows (.ok none) after :=
  ⟨none, rfl, nofun⟩

/-- A step that leads to a state. -/
theorem Allows.of_admits {outcome : Except Fault (State ρ)}
    {after : State ρ → List Entry → Prop} (admits : Admits outcome after) :
    Allows (outcome >>= fun s' => pure (some s')) after := by
  obtain ⟨s', l', rfl, related⟩ := admits
  refine ⟨some s', rfl, fun t same => ⟨l', ?_⟩⟩
  obtain rfl := Option.some.inj same
  exact related

/-- The session of the client that a call is for. -/
theorem Sound.inCall (sound : Sound H s l) {call : Call} {seen : List Seen}
    (at_pc : s.pc = .engine left client call seen) :
    ∃ c sid session, InCall s l left client call seen c sid session := by
  obtain ⟨c, member⟩ := sound.current client (by rw [at_pc]; rfl)
  obtain ⟨source, sid, session, addr, owns, live, role, peer, len⟩ :=
    sound.intact.session _ member
  exact ⟨c, sid, session, at_pc, member, owns, live, role, peer.trans addr.symm, len, source, addr⟩

/-- The moves of `engineStep`. -/
theorem engineStep_move (sound : Sound H s l) {call : Call} {seen : List Seen}
    (at_pc : s.pc = .engine left client call seen) (input : Input ρ) :
    Allows (engineStep H s left client call seen input) (Move H s l input) := by
  obtain ⟨c, sid, session, inside⟩ := sound.inCall at_pc
  obtain ⟨n, found, fields⟩ := sound.intact.node inside.member
  have pointer : n.dtlsSession = some sid := by rw [fields, inside.owns]
  have activity : n.lastActivity = c.lastActivity := by rw [fields]
  simp only [engineStep, Heap.load_ok found, ok_bind, pointer, Heap.load_ok inside.live]
  cases moves : H.engine.move call session.ssl seen with
  | send bytes =>
    cases input with
    | send outcome =>
      exact Allows.of_admits ⟨_, _, rfl,
        .send left client call seen c sid session bytes outcome inside moves⟩
    | _ => exact Allows.disabled
  | recv len timeout =>
    cases input with
    | recv select outcome =>
      exact Allows.of_admits ⟨_, _, rfl, .recv left client call seen c sid session len timeout
        select outcome _ inside moves rfl⟩
    | _ => exact Allows.disabled
  | finish ret ssl accepted =>
    cases input with
    | finish outcomes =>
      have kept := callResult_kept session ssl call ret
      obtain ⟨sessions, stored, intact, -, size⟩ := store_intact sound.intact inside.live
        kept.1 kept.2.1 kept.2.2
      have fits := callResult_length session ssl call ret
        fun len reads => sound.room left client len seen (reads ▸ at_pc)
      obtain ⟨s', l', settled, after⟩ := settle_move (H := H) (s := { s with
        registry := { s.registry with sessions }
        log := s.log ++ (if accepted then [.accepted sid c.lastActivity] else []) ++
          [.returned sid call (callResult session ssl call ret).2.1] })
        intact sound.buffer inside.member inside.owns left call
        (callResult session ssl call ret).2.1 (callResult session ssl call ret).2.2 fits outcomes
      simp only [stored, ok_bind, activity]
      refine Allows.of_admits ⟨s', l', settled, ?_⟩
      exact .finish left client call seen c sid session ret ssl accepted outcomes sessions s' l'
        inside moves intact size after
    | _ => exact Allows.disabled

/-- The explicit `recvfrom` leaves the registry alone. -/
theorem consume_registry (s : State ρ) (why : Discard) (failed : Bool) :
    (consume s why failed).registry = s.registry := by
  unfold consume
  split <;> rfl

/-- The moves of `consumeStep`. -/
theorem consumeStep_move (sound : Sound H s l) {why : Discard} {dropped : Option Nat}
    (at_pc : s.pc = .consume left why dropped) (failed : Bool) (outcomes : List SendOutcome) :
    Admits (consumeStep H s left why dropped failed outcomes)
      (Move H s l (.consume failed outcomes)) := by
  have consumed : Consumed s why failed (consume s why failed) := by
    cases failed with
    | true => exact .nothing true (.inl rfl)
    | false =>
      unfold consume
      cases at_sock : s.sock with
      | nil => exact .nothing false (.inr at_sock)
      | cons d rest => exact .taken d rest at_sock
  have same := consume_registry s why failed
  cases dropped with
  | none => exact ⟨_, _, rfl, .consume left why failed outcomes _ at_pc consumed⟩
  | some client =>
    obtain ⟨registry, closed, dropped, removal⟩ := drop_ok (H := H) (s := consume s why failed)
      (same ▸ sound.intact) (sound.current client (by rw [at_pc]; rfl)) outcomes (.peek left)
    exact ⟨_, _, dropped, .discard left why client failed outcomes _ registry closed at_pc
      consumed (same ▸ removal)⟩

/-- Every step succeeds, and what it leads to is one of the moves. -/
theorem step_move (sound : Sound H s l) (input : Input ρ) :
    Allows (step H s input) (Move H s l input) := by
  unfold step
  split
  · exact Allows.of_admits ⟨_, _, rfl, .arrive _⟩
  · exact Allows.of_admits ⟨_, _, rfl, .signal⟩
  · rename_i result now sweepNow outcomes at_pc
    split
    · rename_i alive
      exact Allows.of_admits (pollStep_move sound at_pc alive result now sweepNow outcomes)
    · exact Allows.disabled
  · rename_i at_pc
    split
    · exact Allows.disabled
    · rename_i stopped
      exact Allows.of_admits ⟨_, _, rfl, .leave at_pc (by simpa using stopped)⟩
  · rename_i left at_pc
    cases left with
    | zero => exact Allows.of_admits ⟨_, _, rfl, .lastEvent at_pc⟩
    | succ left => exact Allows.of_admits ⟨_, _, rfl, .nextEvent left at_pc⟩
  · rename_i failed add now left at_pc
    exact Allows.of_admits (peekStep_move sound at_pc failed add now)
  · rename_i left client call seen at_pc
    exact engineStep_move sound at_pc _
  · rename_i failed outcomes left why dropped at_pc
    exact Allows.of_admits (consumeStep_move sound at_pc failed outcomes)
  · rename_i outcomes at_pc
    split
    · rename_i head
      refine Allows.of_admits ⟨_, _, rfl, .halt outcomes at_pc ?_⟩
      have first := sound.intact.chain.head_eq
      rw [head] at first
      simpa using first.symm
    · rename_i client head
      obtain ⟨registry, closed, dropped, removal⟩ :=
        drop_ok (H := H) sound.intact (sound.intact.first head) outcomes .shutdown
      exact Allows.of_admits ⟨_, _, dropped, .shutdown outcomes client registry closed at_pc
        removal⟩
  · exact Allows.disabled

/-- Places where the server works on no client. -/
theorem Sound.idle (intact : Intact s.registry l) (server : H.ctx.role = .server)
    (buffer : s.buffer.length = socketBufferSize) (at_pc : s.pc.client = none) : Sound H s l where
  intact := intact
  server := server
  buffer := buffer
  current client here := by rw [at_pc] at here; contradiction
  room left client len seen here := by rw [here] at at_pc; contradiction

/-- Places where the server works on a client. -/
theorem Sound.busy (intact : Intact s.registry l) (server : H.ctx.role = .server)
    (buffer : s.buffer.length = socketBufferSize) {c : Client} (member : (client, c) ∈ l)
    (at_pc : s.pc.client = some client)
    (room : ∀ left client len seen, s.pc = .engine left client (.read len) seen →
      len = socketBufferSize) : Sound H s l where
  intact := intact
  server := server
  buffer := buffer
  current q here := by
    rw [at_pc] at here
    obtain rfl := Option.some.inj here
    exact ⟨c, member⟩
  room := room

/-- The first call for a client reads into the whole buffer. -/
theorem firstCall_room {c : Client} {len : Nat} (reads : firstCall c = .read len) :
    len = socketBufferSize := by
  unfold firstCall at reads
  split at reads
  · exact (Call.read.inj reads).symm
  · contradiction

/-- What the server makes of a result keeps the list. -/
theorem Settled.sound {sid : Nat} {call : Call} {result : DtlsResult} {data : Bytes}
    {s' : State ρ} {l' : List Entry} {c : Client} (intact : Intact s.registry l)
    (server : H.ctx.role = .server) (buffer : s.buffer.length = socketBufferSize)
    (member : (client, c) ∈ l)
    (settled : Settled H s l left client sid call result data s' l') : Sound H s' l' := by
  cases settled with
  | completed _ _ edited => exact .idle edited server buffer rfl
  | pending | nothing | written => exact .idle intact server buffer rfl
  | failed | broken => exact .busy intact server buffer member rfl nofun
  | answered len data filled nonempty size =>
    exact .busy intact server (size.trans buffer) member rfl nofun
  | peerClosed _ _ _ _ removal => exact .idle removal.intact server buffer rfl
  | unwritten _ _ _ _ _ _ _ removal => exact .idle removal.intact server buffer rfl

/-- The explicit `recvfrom` keeps the registry and the size of the buffer. -/
theorem Consumed.kept {s' : State ρ} {why : Discard} {failed : Bool}
    (consumed : Consumed s why failed s') :
    s'.registry = s.registry ∧ s'.buffer.length = s.buffer.length := by
  cases consumed with
  | nothing => exact ⟨rfl, rfl⟩
  | taken d rest => exact ⟨rfl, overwrite_length _ _⟩

/-- Every move keeps the list. -/
theorem Move.sound {input : Input ρ} {s' : State ρ} {l' : List Entry} (sound : Sound H s l)
    (move : Move H s l input s' l') : Sound H s' l' := by
  obtain ⟨intact, server, buffer, current, room⟩ := sound
  cases move with
  | arrive | signal => exact ⟨intact, server, buffer, current, room⟩
  | interrupted => exact ⟨intact, server, buffer, current, room⟩
  | dispatch | leave | lastEvent | nextEvent | drained | halt =>
    exact .idle intact server buffer rfl
  | sweep _ _ _ _ _ _ _ _ _ filtered => exact .idle filtered server buffer rfl
  | known left add now d rest client c sid registry _ _ member _ _ edited =>
    have member' : (client, stamp now c) ∈ editClient client (stamp now) l :=
      mem_editClient.mpr ⟨_, member, by simp⟩
    refine .busy edited server ((overwrite_length _ _).trans buffer) member' rfl ?_
    intro left client len seen here
    exact firstCall_room (Pc.engine.inj here).2.2.1
  | refused _ _ _ d _ _ _ _ _ kept =>
    exact .idle kept server ((overwrite_length _ _).trans buffer) rfl
  | admitted _ _ _ d _ _ _ _ _ _ _ grown =>
    exact .busy grown server ((overwrite_length _ _).trans buffer) List.mem_cons_self rfl nofun
  | send left client call seen _ _ _ _ _ inside =>
    refine .busy intact server buffer inside.member rfl fun left' client' len seen' here => ?_
    obtain ⟨rfl, rfl, rfl, -⟩ := Pc.engine.inj here
    exact room _ _ len seen inside.at_pc
  | recv left client call seen _ _ _ _ _ _ _ _ inside =>
    refine .busy intact server buffer inside.member rfl fun left' client' len seen' here => ?_
    obtain ⟨rfl, rfl, rfl, -⟩ := Pc.engine.inj here
    exact room _ _ len seen inside.at_pc
  | finish _ _ _ _ _ _ _ _ _ _ _ _ _ _ inside _ stored _ settled =>
    refine settled.sound ?_ server ?_ inside.member
    · exact stored
    · exact buffer
  | consume _ _ _ _ _ _ consumed =>
    obtain ⟨same, size⟩ := consumed.kept
    exact .idle (same ▸ intact) server (size.trans buffer) rfl
  | discard _ _ _ _ _ _ _ _ _ consumed removal =>
    exact .idle removal.intact server (consumed.kept.2.trans buffer) rfl
  | shutdown _ _ _ _ _ removal => exact .idle removal.intact server buffer rfl

/-- The context that the server creates plays the server. -/
theorem contextCreate_role {initialized : Bool} {role : Role} {certPath keyPath : Option String}
    {hash : Option Bytes} {len : Nat} {env : ContextEnv} {ctx : Context}
    (created : contextCreate initialized role certPath keyPath hash len env = some ctx) :
    ctx.role = role := by
  simp only [contextCreate, Option.ite_none_left_eq_some] at created
  obtain ⟨-, -, -, -, -, -, -, built⟩ := created
  split at built
  · split at built
    · obtain ⟨-, built⟩ := Option.ite_none_left_eq_some.mp built
      obtain rfl := Option.some.inj built
      rfl
    · obtain rfl := Option.some.inj built
      rfl
  · obtain rfl := Option.some.inj built
    rfl

/-- The server starts with the empty list. -/
theorem Starts.sound (starts : Starts H s) : Sound H s [] := by
  obtain ⟨⟨certPath, keyPath, env, created⟩, buffer, now, size, rfl⟩ := starts
  exact .idle empty_intact (contextCreate_role created) size rfl

/-- Every reachable state has a list of clients, with whatever the moves keep of both. -/
theorem Reachable.listed {guard : State ρ → Input ρ → Bool} {I : State ρ → List Entry → Prop}
    (base : ∀ s, Starts H s → I s [])
    (keep : ∀ s l input s' l', Sound H s l → I s l → guard s input = true →
      Move H s l input s' l' → I s' l')
    (reached : Reachable H guard s) : ∃ l, Sound H s l ∧ I s l := by
  refine Reach.invariant (I := fun s => ∃ l, Sound H s l ∧ I s l)
    (fun s starts => ⟨[], starts.sound, base s starts⟩) ?_ reached
  intro s input s' ⟨l, sound, holds⟩ admitted taken
  obtain ⟨next, outcome, related⟩ := step_move sound input
  rw [advance_eq_some, outcome] at taken
  obtain ⟨l', move⟩ := related s' (Except.ok.inj taken)
  exact ⟨l', move.sound sound, keep s l input s' l' sound holds admitted move⟩

end Steps

end SpaceCaptain.Server
