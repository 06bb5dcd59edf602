import SpaceCaptain.Library.Simulation
import SpaceCaptain.Server.Moves
import SpaceCaptain.Server.Reply

/-!
# The same server on every host

The server keeps one buffer on its stack, whose bytes nothing initialises, and lays a header with
host numbers over it. Neither shows: two servers whose hosts differ in the byte order and whose
buffers differ in what was on the stack go through the same states, up to the buffer, when the same
things happen to them. `State.hold` puts another buffer into a state, and each part of a step
commutes with it.
-/
namespace SpaceCaptain.Server

open SpaceCaptain.Dtls SpaceCaptain.Library

variable {ρ : Type}

/-- The state with another buffer. -/
def State.hold (b : Bytes) (s : State ρ) : State ρ := { s with buffer := b }

/-- The host with another byte order. -/
def Host.reordered (H : Host ρ) (endian : Endian) : Host ρ := { H with endian }

section Parts

variable (H : Host ρ) (endian : Endian) (s : State ρ) (b : Bytes)

/-- Removing a client does not look at the buffer. -/
theorem drop_hold (client : Nat) (outcomes : List SendOutcome) (pc : Pc) :
    drop (H.reordered endian) (s.hold b) client outcomes pc =
      (drop H s client outcomes pc).map (State.hold b) := by
  unfold drop
  change (removeClient H.engine s.registry client outcomes >>= _) = _
  cases removeClient H.engine s.registry client outcomes <;> rfl

/-- Beginning a call does not look at the buffer. -/
theorem begin_hold (left client : Nat) (call : Call) :
    begin (s.hold b) left client call = (begin s left client call).map (State.hold b) := by
  unfold begin
  change (s.registry.clients.load client >>= _) = _
  cases s.registry.clients.load client <;> rfl

/-- The timeout check does not look at the buffer. -/
theorem pollStep_hold (result : Option Nat) (now sweepNow : Int)
    (outcomes : Nat → List SendOutcome) :
    pollStep (H.reordered endian) (s.hold b) result now sweepNow outcomes =
      (pollStep H s result now sweepNow outcomes).map (State.hold b) := by
  cases result with
  | none => rfl
  | some nfds =>
    unfold pollStep
    change (if 5 ≤ now - s.lastTimeoutCheck then
      checkClientTimeouts H.engine s.registry sweepNow outcomes >>= _ else _) = _
    split
    · cases checkClientTimeouts H.engine s.registry sweepNow outcomes <;> rfl
    · rfl

/-- The beginning of a handshake or a read does not look at the buffer. -/
theorem meet_hold (left client : Nat) (now : Int) :
    meet (s.hold b) left client now = (meet s left client now).map (State.hold b) := by
  unfold meet
  change (s.registry.modify client _ >>= _) = _
  cases s.registry.modify client fun c => { c with lastActivity := now } with
  | error fault => rfl
  | ok registry =>
    change (registry.clients.load client >>= _) = (registry.clients.load client >>= _).map _
    cases registry.clients.load client with
    | error fault => rfl
    | ok c => exact begin_hold { s with registry } b left client _

/-- The search for a client looks at the datagram, and puts it into the buffer. -/
theorem recognize_hold (left : Nat) (d : Datagram) (add : AddEnv ρ) (now : Int) :
    recognize (H.reordered endian) (s.hold b) left d add now =
      (recognize H s left d add now).map (State.hold (overwrite b d.bytes)) := by
  unfold recognize
  change (findClient s.registry d.src.sockaddr >>= _) =
    (findClient s.registry d.src.sockaddr >>= _).map _
  cases findClient s.registry d.src.sockaddr with
  | error fault => rfl
  | ok found =>
    cases found with
    | some client =>
      exact meet_hold { s with buffer := overwrite s.buffer d.bytes } _ left client now
    | none =>
      change (addClient s.registry H.ctx d.src.sockaddr sockaddrLen H.fd add >>= _) =
        (addClient s.registry H.ctx d.src.sockaddr sockaddrLen H.fd add >>= _).map _
      cases addClient s.registry H.ctx d.src.sockaddr sockaddrLen H.fd add with
      | error fault => rfl
      | ok result =>
        obtain ⟨registry, created⟩ := result
        cases created with
        | none => rfl
        | some client =>
          change (registry.clients.load client >>= _) = (registry.clients.load client >>= _).map _
          cases registry.clients.load client with
          | error fault => rfl
          | ok c =>
            let created : State ρ := { s with
              registry
              buffer := overwrite s.buffer d.bytes
              log := s.log ++
                c.dtlsSession.toList.map fun session => .created session c.addr c.lastActivity }
            exact meet_hold created _ left client now

/-- What the server makes of a result is the same up to the buffer, since a reply depends on the
plaintext alone. -/
theorem settle_hold (left client : Nat) (call : Call) (session : Option Nat)
    (result : DtlsResult) (data : Bytes) (outcomes : List SendOutcome)
    (size : b.length = s.buffer.length) (fits : data.length ≤ b.length) :
    ∃ b', b'.length = b.length ∧
      settle (H.reordered endian) (s.hold b) left client call session result data outcomes =
        (settle H s left client call session result data outcomes).map (State.hold b') := by
  cases call with
  | handshake =>
    refine ⟨b, rfl, ?_⟩
    cases result with
    | ok =>
      change (s.registry.modify client _ >>= _) = (s.registry.modify client _ >>= _).map _
      cases s.registry.modify client fun c => { c with handshakeComplete := true } <;> rfl
    | _ => rfl
  | write bytes =>
    refine ⟨b, rfl, ?_⟩
    simp only [settle]
    split
    · exact drop_hold H endian s b client outcomes (.peek left)
    · rfl
  | read len =>
    simp only [settle]
    split
    · refine ⟨respond endian (overwrite b data) data.length, by simp, ?_⟩
      have same : (respond endian (overwrite b data) data.length).take data.length =
          (respond H.endian (overwrite s.buffer data) data.length).take data.length := by
        rw [respond_overwrite endian fits, respond_overwrite H.endian (size ▸ fits), replyTo_eq,
          replyTo_eq]
      change begin _ left client (.write
        ((respond endian (overwrite b data) data.length).take data.length)) = _
      rw [same]
      exact begin_hold { s with
        buffer := respond H.endian (overwrite s.buffer data) data.length
        log := s.log ++ session.toList.map fun session => .plaintext session data } _ left client _
    refine ⟨b, rfl, ?_⟩
    split
    · rfl
    split
    · exact drop_hold H endian s b client outcomes (.peek left)
    · rfl

/-- An explicit `recvfrom` looks at the socket, and puts what it takes into the buffer. -/
theorem consume_hold (why : Discard) (failed : Bool) :
    ∃ b', b'.length = b.length ∧
      consume (s.hold b) why failed = (consume s why failed).hold b' := by
  obtain ⟨pc, running, registry, sock, buffer, lastTimeoutCheck, log⟩ := s
  cases failed with
  | true => exact ⟨b, rfl, rfl⟩
  | false =>
    cases sock with
    | nil => exact ⟨b, rfl, rfl⟩
    | cons d rest => exact ⟨overwrite b d.bytes, overwrite_length _ _, rfl⟩

/-- So does the removal after it. -/
theorem consumeStep_hold (left : Nat) (why : Discard) (dropped : Option Nat) (failed : Bool)
    (outcomes : List SendOutcome) :
    ∃ b', b'.length = b.length ∧
      consumeStep (H.reordered endian) (s.hold b) left why dropped failed outcomes =
        (consumeStep H s left why dropped failed outcomes).map (State.hold b') := by
  obtain ⟨b', size, same⟩ := consume_hold s b why failed
  refine ⟨b', size, ?_⟩
  unfold consumeStep
  rw [same]
  cases dropped with
  | none => rfl
  | some client => exact drop_hold H endian (consume s why failed) b' client outcomes (.peek left)

/-- The peek looks at the socket. -/
theorem peekStep_hold (left : Nat) (failed : Bool) (add : AddEnv ρ) (now : Int) :
    ∃ b', b'.length = b.length ∧
      peekStep (H.reordered endian) (s.hold b) left failed add now =
        (peekStep H s left failed add now).map (State.hold b') := by
  cases failed with
  | true => exact ⟨b, rfl, rfl⟩
  | false =>
    have moves := recognize_hold H endian s b left
    obtain ⟨pc, running, registry, sock, buffer, lastTimeoutCheck, log⟩ := s
    cases sock with
    | nil => exact ⟨b, rfl, rfl⟩
    | cons d rest => exact ⟨overwrite b d.bytes, overwrite_length _ _, moves d add now⟩

end Parts

/-- A result that is the same up to the buffer. -/
def HeldResult (b : Bytes) (x y : Except Fault (Option (State ρ))) : Prop :=
  ∃ b', b'.length = b.length ∧ x = y.map (Option.map (State.hold b'))

/-- A part of a step that is the same up to the buffer makes the step so. -/
theorem HeldResult.of_part {b : Bytes} {x y : Except Fault (State ρ)}
    (part : ∃ b', b'.length = b.length ∧ x = y.map (State.hold b')) :
    HeldResult b (x >>= fun s => pure (some s)) (y >>= fun s => pure (some s)) := by
  obtain ⟨b', size, same⟩ := part
  refine ⟨b', size, ?_⟩
  rw [same]
  cases y <;> rfl

section Steps

variable {H : Host ρ} {s : State ρ} {l : List Entry} {b : Bytes}

/-- A move of the library does not look at the buffer, except to answer what was read. -/
theorem engineStep_hold (sound : Sound H s l) {left client : Nat} {call : Call}
    {seen : List Seen} (at_pc : s.pc = .engine left client call seen) (endian : Endian)
    (size : b.length = socketBufferSize) (input : Input ρ) :
    HeldResult b (engineStep (H.reordered endian) (s.hold b) left client call seen input)
      (engineStep H s left client call seen input) := by
  obtain ⟨c, sid, session, inside⟩ := sound.inCall at_pc
  obtain ⟨n, found, fields⟩ := sound.intact.node inside.member
  have pointer : n.dtlsSession = some sid := by rw [fields, inside.owns]
  have found' : (s.hold b).registry.clients.get? client = some n := found
  have live' : (s.hold b).registry.sessions.get? sid = some session := inside.live
  have same_engine : (H.reordered endian).engine = H.engine := rfl
  simp only [engineStep, Heap.load_ok found, Heap.load_ok found', ok_bind, pointer,
    Heap.load_ok inside.live, Heap.load_ok live', same_engine]
  cases H.engine.move call session.ssl seen with
  | send bytes => cases input <;> exact ⟨b, rfl, rfl⟩
  | recv len timeout => cases input <;> exact ⟨b, rfl, rfl⟩
  | finish ret ssl accepted =>
    cases input with
    | finish outcomes =>
      have kept := callResult_kept session ssl call ret
      obtain ⟨sessions, stored, -, -, -⟩ := store_intact sound.intact inside.live
        kept.1 kept.2.1 kept.2.2
      have stored' : (s.hold b).registry.sessions.store sid (callResult session ssl call ret).1 =
        .ok sessions := stored
      have fits := callResult_length session ssl call ret
        fun len reads => sound.room left client len seen (reads ▸ at_pc)
      simp only [stored, stored', ok_bind]
      exact .of_part (settle_hold H endian { s with
        registry := { s.registry with sessions }
        log := s.log ++ (if accepted then [.accepted sid n.lastActivity] else []) ++
          [.returned sid call (callResult session ssl call ret).2.1] } b left client call
        (some sid) _ _ outcomes (size.trans sound.buffer.symm) (size ▸ fits))
    | _ => exact ⟨b, rfl, rfl⟩

/-- A step on another host, with another buffer, is the same up to the buffer. -/
theorem step_hold (sound : Sound H s l) (endian : Endian) (size : b.length = socketBufferSize)
    (input : Input ρ) :
    HeldResult b (step (H.reordered endian) (s.hold b) input) (step H s input) := by
  have same_pc : (s.hold b).pc = s.pc := rfl
  have same_running : (s.hold b).running = s.running := rfl
  have same_head : (s.hold b).registry.gClients = s.registry.gClients := rfl
  unfold step
  rw [same_pc, same_running, same_head]
  split
  · exact ⟨b, rfl, rfl⟩
  · exact ⟨b, rfl, rfl⟩
  · rename_i result now sweepNow outcomes at_pc
    split
    · exact .of_part ⟨b, rfl, pollStep_hold H endian s b result now sweepNow outcomes⟩
    · exact ⟨b, rfl, rfl⟩
  · split <;> exact ⟨b, rfl, rfl⟩
  · exact ⟨b, rfl, rfl⟩
  · rename_i failed add now left at_pc
    exact .of_part (peekStep_hold H endian s b left failed add now)
  · rename_i left client call seen at_pc
    exact engineStep_hold sound at_pc endian size _
  · rename_i failed outcomes left why dropped at_pc
    exact .of_part (consumeStep_hold H endian s b left why dropped failed outcomes)
  · rename_i outcomes at_pc
    split
    · exact ⟨b, rfl, rfl⟩
    · rename_i client head
      exact .of_part ⟨b, rfl, drop_hold H endian s b client outcomes .shutdown⟩
  · exact ⟨b, rfl, rfl⟩

/-- A step to a state is answered by the same step to the same state up to the buffer. -/
theorem advance_hold (sound : Sound H s l) (endian : Endian) (size : b.length = socketBufferSize)
    {input : Input ρ} {s' : State ρ} (taken : advance H s input = some s') :
    ∃ b', b'.length = socketBufferSize ∧
      advance (H.reordered endian) (s.hold b) input = some (s'.hold b') := by
  obtain ⟨b', size', same⟩ := step_hold sound endian size input
  refine ⟨b', size'.trans size, ?_⟩
  rw [advance_eq_some] at taken ⊢
  rw [same, taken]
  rfl

end Steps

/-- The same state of a running server, up to the buffer. -/
def Alike (H : Host ρ) (s s' : State ρ) : Prop :=
  (∃ l, Sound H s l) ∧ ∃ b, b.length = socketBufferSize ∧ s' = s.hold b

/-- Each step is answered by the same step on the other host. -/
theorem Alike.advance {H : Host ρ} (endian : Endian) (s s' : State ρ) (input : Input ρ)
    (t : State ρ) (alike : Alike H s s') (taken : advance H s input = some t) :
    ∃ t', Server.advance (H.reordered endian) s' input = some t' ∧ Alike H t t' := by
  obtain ⟨⟨l, sound⟩, b, size, rfl⟩ := alike
  obtain ⟨b', size', taken'⟩ := advance_hold sound endian size taken
  obtain ⟨next, outcome, related⟩ := step_move sound input
  rw [advance_eq_some, outcome] at taken
  obtain ⟨l', move⟩ := related t (Except.ok.inj taken)
  exact ⟨t.hold b', taken', ⟨l', move.sound sound⟩, b', size', rfl⟩

/-- Whatever was on the stack and whatever the byte order of the host: when the same happens to two
servers, they go through the same states, up to the buffer, and so do and record the same. -/
theorem host_independent {H : Host ρ} {now : Int} {buffer buffer' : Bytes}
    (starts : Starts H (start buffer now)) (endian : Endian)
    (size : buffer'.length = socketBufferSize) {inputs : List (Input ρ)} {s : State ρ}
    (ran : runGuarded (advance H) anything (start buffer now) inputs = some s) :
    ∃ b, b.length = socketBufferSize ∧
      runGuarded (advance (H.reordered endian)) anything (start buffer' now) inputs =
        some { s with buffer := b } := by
  have alike : Alike H (start buffer now) (start buffer' now) :=
    ⟨⟨[], starts.sound⟩, buffer', size, rfl⟩
  obtain ⟨s', ran', -, b, size_b, rfl⟩ :=
    runGuarded_lockstep (fun _ _ _ _ => rfl) (Alike.advance endian) alike ran
  exact ⟨b, size_b, ran'⟩

/-- A PING that claims too much gets the same answer from a host of the other byte order whose
buffer was full of other bytes. -/
theorem host_independent_overlong :
    ∃ s b, runGuarded (advance ⟨plain, .little, serverContext, 3⟩) anything
        (start (List.replicate socketBufferSize 0) 0) overlongPing = some s ∧
      runGuarded (advance ⟨plain, .big, serverContext, 3⟩) anything
        (start (List.replicate socketBufferSize 0xAA) 0) overlongPing =
          some { s with buffer := b } := by
  have runs : (runGuarded (advance ⟨plain, .little, serverContext, 3⟩) anything
      (start (List.replicate socketBufferSize 0) 0) overlongPing).isSome = true := by
    decide +kernel
  obtain ⟨s, ran⟩ := Option.isSome_iff_exists.mp runs
  obtain ⟨b, -, ran'⟩ := host_independent (starts_startZero plain .little 3) .big
    (List.length_replicate : (List.replicate socketBufferSize (0xAA : UInt8)).length = _) ran
  exact ⟨s, b, ran, ran'⟩

end SpaceCaptain.Server
