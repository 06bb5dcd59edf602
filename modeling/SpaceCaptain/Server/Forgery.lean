import SpaceCaptain.Server.Moves

/-!
# A forged datagram to an established client

Anybody can send a datagram under a client's address. The library discards it when it is not
authentic, and asks the receive callback again; what the callback says then decides, through the
results of `mbedtls_ssl_read` and `sc_dtls_read`, whether the server keeps the client. One turn
of the drain loop is followed from the peek back to its head, stage by stage, and ends with the
client in place exactly when the datagram was not empty and the second call of the callback came
out as "would block".
-/
namespace SpaceCaptain.Server

open SpaceCaptain.Dtls SpaceCaptain.Library

variable {ρ : Type}

/-- What the library does with a datagram that it does not authenticate, during a read on an
established session with room for `len` bytes in its input: it asks for the datagram, discards it
and asks again, unless it is empty; and whatever negative value the callback returns, the read
returns. -/
structure Discards (E : Engine ρ) (ssl : ρ) (len : Nat) (bytes : Bytes) : Prop where
  /-- There is room. -/
  room : 0 < len
  /-- The read asks for a datagram. -/
  asks : ∃ timeout, E.move (.read socketBufferSize) ssl [] = .recv len timeout
  /-- The datagram is discarded, and the read asks again. -/
  silent : bytes ≠ [] → ∃ len' timeout,
    E.move (.read socketBufferSize) ssl [.received (.ok (bytes.take len))] = .recv len' timeout
  /-- A callback result of 0 makes the read return 0. -/
  empty : ∃ ssl', E.move (.read socketBufferSize) ssl [.received (.ok [])] =
    .finish (.ok []) ssl' false
  /-- A negative callback result is the result of the read. -/
  passes : ∀ seen code, ∃ ssl',
    E.move (.read socketBufferSize) ssl (seen ++ [.received (.error code)]) =
      .finish (.error code) ssl' false

/-- A source has a client with a session, and its handshake is complete. -/
def Established (s : State ρ) (source : Endpoint) (sid : Nat) : Prop :=
  ∃ client c, findClient s.registry source.sockaddr = .ok (some client) ∧
    s.registry.clients.get? client = some c ∧ c.dtlsSession = some sid ∧
    c.handshakeComplete = true

/-- The head of the drain loop. -/
def Pc.atPeek : Pc → Bool
  | .peek _ => true
  | _ => false

/-- Follow the inputs until the server is back at the head of the drain loop. -/
def backToPeek (H : Host ρ) (s : State ρ) : List (Input ρ) → Option (State ρ)
  | [] => if s.pc.atPeek then some s else none
  | input :: rest =>
    if s.pc.atPeek then none
    else match advance H s input with
      | none => none
      | some s' => backToPeek H s' rest

/-- One turn of the drain loop from its head: the peek works, no other datagram arrives, and the
server comes back to the head. -/
structure Turn (H : Host ρ) (s : State ρ) (add : AddEnv ρ) (now : Int) (inputs : List (Input ρ))
    (s' : State ρ) : Prop where
  /-- No other datagram arrives. -/
  quiet : ∀ d, .arrive d ∉ inputs
  /-- The peek and what follows it. -/
  back : ∃ s₁, advance H s (.peek false add now) = some s₁ ∧ backToPeek H s₁ inputs = some s'

/-- A reachable state in which a datagram from an established client's address, which the library
does not authenticate, is the only one in the socket. -/
structure Forged (H : Host ρ) (s : State ρ) (d : Datagram) (sid len : Nat) : Prop where
  /-- The state is reachable. -/
  reached : Reachable H anything s
  /-- No other datagram is available. -/
  alone : s.sock = [d]
  /-- The source has an established client. -/
  established : Established s d.src sid
  /-- The library does not authenticate the datagram. -/
  discards : ∃ session, s.registry.sessions.get? sid = some session ∧
    Discards H.engine session.ssl len d.bytes

/-- What the operating system did in a receive callback. -/
def Input.answer : Input ρ → Option (SelectOutcome × RecvOutcome)
  | .recv select outcome => some (select, outcome)
  | _ => none

/-- The datagram is not empty and is delivered, and then `select` reports the empty socket
readable. -/
def Survives (bytes : Bytes) (answers : List (SelectOutcome × RecvOutcome)) : Prop :=
  bytes ≠ [] ∧ ∃ first, first ≠ .failed ∧ answers = [(first, .normal), (.ready, .normal)]

/-- The first call of the callback, with the client's datagram alone in the socket. -/
theorem first_answer {session : Session ρ} {d : Datagram}
    (peer : session.clientAddr = d.src.sockaddr) (addrLen : session.addrLen = sockaddrLen)
    (len : Nat) (select : SelectOutcome) (outcome : RecvOutcome) :
    udpRecvTimeout session len select outcome [d] =
      if select ≠ .failed ∧ outcome = .normal then ⟨.ok (d.bytes.take len), [], .handed d⟩
      else ⟨.error .netRecvFailed, [d], .kept⟩ := by
  cases select <;> cases outcome <;> simp [udpRecvTimeout, udpRecv, peer, addrLen]

/-- The second call of the callback, with an empty socket, and what `sc_dtls_read` makes of it. -/
theorem second_answer (session : Session ρ) (len : Nat) (select : SelectOutcome)
    (outcome : RecvOutcome) :
    ∃ code, udpRecvTimeout session len select outcome [] = ⟨.error code, [], .kept⟩ ∧
      readResult (.error code) =
        (if select = .ready ∧ outcome = .normal then .errorWouldBlock else .errorRead, []) := by
  cases select <;> cases outcome <;> exact ⟨_, rfl, rfl⟩

/-- The established client of a source is in the list. -/
def Listed (l : List Entry) (client : Nat) (source : Endpoint) (sid : Nat) : Prop :=
  ∃ c, (client, c) ∈ l ∧ c.addr = source.sockaddr ∧ c.dtlsSession = some sid ∧
    c.handshakeComplete = true

/-- The server is inside the read for the client, and the library has the state it had at the
start of the read. -/
structure Reading (s : State ρ) (l : List Entry) (client : Nat) (source : Endpoint) (sid : Nat)
    (ssl : ρ) (seen : List Seen) : Prop where
  /-- The place of the server. -/
  at_pc : ∃ left, s.pc = .engine left client (.read socketBufferSize) seen
  /-- The client. -/
  listed : Listed l client source sid
  /-- The state of the library. -/
  live : ∃ session, s.registry.sessions.get? sid = some session ∧ session.ssl = ssl

/-- Where the server is in the turn, and what the answers so far mean for the client. -/
inductive Stage (E : Engine ρ) (d : Datagram) (client sid len : Nat) (ssl : ρ) (s : State ρ)
    (l : List Entry) (answers : List (SelectOutcome × RecvOutcome)) : Prop
  /-- The library asks for the datagram. -/
  | asking (reading : Reading s l client d.src sid ssl []) (alone : s.sock = [d])
      (first : answers = [])
  /-- The library has discarded the datagram and asks again. -/
  | again (reading : Reading s l client d.src sid ssl [.received (.ok (d.bytes.take len))])
      (empty : s.sock = []) (nonempty : d.bytes ≠ []) (select : SelectOutcome)
      (ready : select ≠ .failed) (second : answers = [(select, .normal)])
  /-- The read returns. -/
  | told (seen : List Seen) (reading : Reading s l client d.src sid ssl seen)
      (ret : Except MbedErr Bytes) (ssl' : ρ)
      (moves : E.move (.read socketBufferSize) ssl seen = .finish ret ssl' false)
      (result : DtlsResult)
      (reads : readResult (ret.map fun data => data.take socketBufferSize) = (result, []))
      (verdict : result = .errorWouldBlock ∧ Survives d.bytes answers ∨
        result = .errorRead ∧ ¬Survives d.bytes answers)
  /-- The client stays. -/
  | keeps (left : Nat) (at_pc : s.pc = .consume left .nothingToRead none)
      (listed : Listed l client d.src sid) (survives : Survives d.bytes answers)
  /-- The client is about to be removed. -/
  | loses (left : Nat) (at_pc : s.pc = .consume left .readFailed (some client))
      (listed : Listed l client d.src sid) (fails : ¬Survives d.bytes answers)
  /-- The client is still there. -/
  | kept (left : Nat) (at_pc : s.pc = .peek left) (listed : Listed l client d.src sid)
      (survives : Survives d.bytes answers)
  /-- The client is gone. -/
  | lost (left : Nat) (at_pc : s.pc = .peek left)
      (absent : ∀ e ∈ l, e.2.addr.key ≠ d.src.sockaddr.key) (fails : ¬Survives d.bytes answers)

section Stages

variable {H : Host ρ} {s s' : State ρ} {l l' : List Entry} {d : Datagram} {client sid len : Nat}
  {ssl : ρ} {seen : List Seen} {answers : List (SelectOutcome × RecvOutcome)} {input : Input ρ}

/-- One more answer of a callback leaves the client being read from. -/
theorem Reading.more (reading : Reading s l client d.src sid ssl seen) {answer : Seen} {left : Nat}
    (pc : s'.pc = .engine left client (.read socketBufferSize) (seen ++ [answer]))
    (registry : s'.registry = s.registry) :
    Reading s' l client d.src sid ssl (seen ++ [answer]) :=
  ⟨⟨left, pc⟩, reading.listed, registry ▸ reading.live⟩

/-- What can happen during the read, when no datagram arrives. -/
inductive Reading.Step (H : Host ρ) (s : State ρ) (l : List Entry) (client : Nat)
    (source : Endpoint) (sid : Nat) (ssl : ρ) (seen : List Seen) :
    Input ρ → State ρ → List Entry → Prop
  | signal : Step H s l client source sid ssl seen .signal { s with running := false } l
  | send (bytes : Bytes) (outcome : SendOutcome) (s' : State ρ)
      (moves : H.engine.move (.read socketBufferSize) ssl seen = .send bytes) :
      Step H s l client source sid ssl seen (.send outcome) s' l
  | recv (room timeout : Nat) (select : SelectOutcome) (outcome : RecvOutcome)
      (session : Session ρ) (received : Received) (s' : State ρ)
      (moves : H.engine.move (.read socketBufferSize) ssl seen = .recv room timeout)
      (peer : session.clientAddr = source.sockaddr) (addrLen : session.addrLen = sockaddrLen)
      (answer : udpRecvTimeout session room select outcome s.sock = received)
      (sock : s'.sock = received.sock)
      (reading : Reading s' l client source sid ssl (seen ++ [.received received.result])) :
      Step H s l client source sid ssl seen (.recv select outcome) s' l
  | finish (left : Nat) (s₁ : State ρ) (session : Session ρ) (ret : Except MbedErr Bytes)
      (ssl' : ρ) (accepted : Bool) (outcomes : List SendOutcome) (s' : State ρ)
      (l' : List Entry)
      (moves : H.engine.move (.read socketBufferSize) ssl seen = .finish ret ssl' accepted)
      (settled : Settled H s₁ l left client sid (.read socketBufferSize)
        (callResult session ssl' (.read socketBufferSize) ret).2.1
        (callResult session ssl' (.read socketBufferSize) ret).2.2 s' l') :
      Step H s l client source sid ssl seen (.finish outcomes) s' l'

/-- The moves during the read. -/
theorem Reading.step (reading : Reading s l client d.src sid ssl seen) (sound : Sound H s l)
    (quiet : ∀ d', input ≠ .arrive d') (move : Move H s l input s' l') :
    Reading.Step H s l client d.src sid ssl seen input s' l' := by
  have same {left client' sid' : Nat} {call : Call} {seen' : List Seen} {c : Client}
      {session : Session ρ} (inside : InCall s l left client' call seen' c sid' session) :
      client' = client ∧ call = .read socketBufferSize ∧ seen' = seen ∧ sid' = sid ∧
        session.ssl = ssl ∧ c.addr = d.src.sockaddr := by
    obtain ⟨⟨left', at_pc⟩, ⟨c', member, addr, owns, -⟩, other, live, rfl⟩ := reading
    obtain ⟨-, rfl, rfl, rfl⟩ := Pc.engine.inj (inside.at_pc.symm.trans at_pc)
    obtain rfl := sound.intact.same inside.member member
    obtain rfl := Option.some.inj (inside.owns.symm.trans owns)
    rw [inside.live] at live
    rw [Option.some.inj live]
    exact ⟨rfl, rfl, rfl, rfl, rfl, addr⟩
  obtain ⟨left, at_pc⟩ := reading.at_pc
  cases move with
  | arrive d' => exact absurd rfl (quiet d')
  | signal => exact .signal
  | send _ _ _ _ _ _ _ bytes outcome inside moves =>
    obtain ⟨rfl, rfl, rfl, rfl, rfl, -⟩ := same inside
    exact .send bytes outcome _ moves
  | recv left client' call seen' c sid' session room timeout select outcome received inside moves
      answer =>
    obtain ⟨rfl, rfl, rfl, rfl, rfl, addr⟩ := same inside
    exact .recv room timeout select outcome session received _ moves
      (inside.peer.trans addr) inside.len answer rfl (reading.more rfl rfl)
  | finish left client' call seen' c sid' session ret ssl' accepted outcomes sessions _ _ inside
      moves stored size settled =>
    obtain ⟨rfl, rfl, rfl, rfl, rfl, -⟩ := same inside
    exact .finish left _ session ret ssl' accepted outcomes s' l' moves settled
  | interrupted _ _ _ there | dispatch _ _ _ _ there | sweep _ _ _ _ _ _ there | leave there
  | lastEvent there | nextEvent _ there | drained _ _ _ _ there | refused _ _ _ _ _ _ there
  | known _ _ _ _ _ _ _ _ _ there | admitted _ _ _ _ _ _ _ there | consume _ _ _ _ _ there
  | discard _ _ _ _ _ _ _ _ there | shutdown _ _ _ _ there | halt _ there =>
    rw [there] at at_pc
    contradiction

/-- The library asks for the datagram, and gets it or an error. -/
theorem Stage.asked (discards : Discards H.engine ssl len d.bytes) (sound : Sound H s l)
    (reading : Reading s l client d.src sid ssl []) (alone : s.sock = [d])
    (quiet : ∀ d', input ≠ .arrive d') (move : Move H s l input s' l') :
    Stage H.engine d client sid len ssl s' l' input.answer.toList := by
  obtain ⟨timeout, asks⟩ := discards.asks
  have steps := reading.step sound quiet move
  cases steps with
  | signal => exact .asking ⟨reading.at_pc, reading.listed, reading.live⟩ alone rfl
  | send _ _ _ moves =>
    rw [asks] at moves
    contradiction
  | finish _ _ _ _ _ _ _ _ _ moves =>
    rw [asks] at moves
    contradiction
  | recv room timeout select outcome session received s' moves peer addrLen answer sock reading =>
    obtain ⟨rfl, rfl⟩ := Dtls.Move.recv.inj (asks.symm.trans moves)
    rw [alone, first_answer peer addrLen] at answer
    split at answer
    · rename_i taken
      obtain ⟨ready, rfl⟩ := taken
      subst answer
      by_cases nonempty : d.bytes = []
      · obtain ⟨ssl', moves⟩ := discards.empty
        refine .told _ reading (.ok []) ssl' ?_ .errorRead rfl (.inr ⟨rfl, ?_⟩)
        · simpa [nonempty] using moves
        · exact fun survives => survives.1 nonempty
      · exact .again reading sock nonempty select ready rfl
    · rename_i missed
      subst answer
      obtain ⟨ssl', moves⟩ := discards.passes [] .netRecvFailed
      refine .told _ reading _ ssl' moves .errorRead rfl (.inr ⟨rfl, ?_⟩)
      rintro ⟨-, first, ready, answers⟩
      simp [Input.answer] at answers

/-- The library asks again, and gets an error. -/
theorem Stage.askedAgain (discards : Discards H.engine ssl len d.bytes) (sound : Sound H s l)
    (reading : Reading s l client d.src sid ssl [.received (.ok (d.bytes.take len))])
    (empty : s.sock = []) (nonempty : d.bytes ≠ []) {select : SelectOutcome}
    (ready : select ≠ .failed) (quiet : ∀ d', input ≠ .arrive d')
    (move : Move H s l input s' l') :
    Stage H.engine d client sid len ssl s' l' ([(select, .normal)] ++ input.answer.toList) := by
  obtain ⟨len', timeout, asks⟩ := discards.silent nonempty
  have steps := reading.step sound quiet move
  cases steps with
  | signal =>
    exact .again ⟨reading.at_pc, reading.listed, reading.live⟩ empty nonempty select ready rfl
  | send _ _ _ moves =>
    rw [asks] at moves
    contradiction
  | finish _ _ _ _ _ _ _ _ _ moves =>
    rw [asks] at moves
    contradiction
  | recv room timeout second outcome session received s' moves peer addrLen answer sock reading =>
    obtain ⟨code, result, reads⟩ := second_answer session room second outcome
    rw [empty, result] at answer
    subst answer
    obtain ⟨ssl', moves⟩ := discards.passes [.received (.ok (d.bytes.take len))] code
    refine .told _ reading _ ssl' moves _ reads ?_
    by_cases blocked : second = .ready ∧ outcome = .normal
    · obtain ⟨rfl, rfl⟩ := blocked
      exact .inl ⟨rfl, nonempty, select, ready, rfl⟩
    · refine .inr ⟨if_neg blocked, ?_⟩
      rintro ⟨-, first, -, answers⟩
      simp only [Input.answer, Option.toList_some, List.cons_append, List.nil_append,
        List.cons.injEq, Prod.mk.injEq, and_true] at answers
      exact blocked answers.2

/-- The read returns, and the server decides about the client. -/
theorem Stage.returned (sound : Sound H s l) (reading : Reading s l client d.src sid ssl seen)
    {ret : Except MbedErr Bytes} {ssl' : ρ}
    (moves : H.engine.move (.read socketBufferSize) ssl seen = .finish ret ssl' false)
    {result : DtlsResult}
    (reads : readResult (ret.map fun data => data.take socketBufferSize) = (result, []))
    (verdict : result = .errorWouldBlock ∧ Survives d.bytes answers ∨
      result = .errorRead ∧ ¬Survives d.bytes answers)
    (quiet : ∀ d', input ≠ .arrive d') (move : Move H s l input s' l') :
    Stage H.engine d client sid len ssl s' l' (answers ++ input.answer.toList) := by
  have steps := reading.step sound quiet move
  cases steps with
  | signal =>
    simp only [Input.answer, Option.toList_none, List.append_nil]
    exact .told seen ⟨reading.at_pc, reading.listed, reading.live⟩ ret ssl' moves result reads
      verdict
  | send _ _ _ sends =>
    rw [moves] at sends
    contradiction
  | recv _ _ _ _ _ _ _ asks =>
    rw [moves] at asks
    contradiction
  | finish left s₁ session ret' ssl'' accepted outcomes _ _ returns settled =>
    obtain ⟨rfl, rfl, rfl⟩ := Dtls.Move.finish.inj (moves.symm.trans returns)
    have outcome : (callResult session ssl' (.read socketBufferSize) ret).2 = (result, []) := reads
    rw [outcome] at settled
    simp only [Input.answer, Option.toList_none, List.append_nil]
    rcases verdict with ⟨rfl, survives⟩ | ⟨rfl, fails⟩
    · cases settled with
      | nothing => exact .keeps left rfl reading.listed survives
      | broken _ _ _ _ blocked => exact absurd rfl blocked
    · cases settled with
      | broken => exact .loses left rfl reading.listed fails

/-- The server consumes and keeps the client. -/
theorem Stage.consumed {left : Nat} (at_pc : s.pc = .consume left .nothingToRead none)
    (listed : Listed l client d.src sid) (survives : Survives d.bytes answers)
    (quiet : ∀ d', input ≠ .arrive d') (move : Move H s l input s' l') :
    Stage H.engine d client sid len ssl s' l' (answers ++ input.answer.toList) := by
  cases move with
  | arrive d' => exact absurd rfl (quiet d')
  | signal =>
    simp only [Input.answer, Option.toList_none, List.append_nil]
    exact .keeps left at_pc listed survives
  | consume left' why failed outcomes s₁ at_pc' consumed =>
    simp only [Input.answer, Option.toList_none, List.append_nil]
    exact .kept left' rfl listed survives
  | send _ _ _ _ _ _ _ _ _ inside => exact absurd (inside.at_pc.symm.trans at_pc) nofun
  | recv _ _ _ _ _ _ _ _ _ _ _ _ inside => exact absurd (inside.at_pc.symm.trans at_pc) nofun
  | finish _ _ _ _ _ _ _ _ _ _ _ _ _ _ inside =>
    exact absurd (inside.at_pc.symm.trans at_pc) nofun
  | _ => simp_all

/-- The server consumes and removes the client. -/
theorem Stage.removed (sound : Sound H s l) {left : Nat}
    (at_pc : s.pc = .consume left .readFailed (some client))
    (listed : Listed l client d.src sid) (fails : ¬Survives d.bytes answers)
    (quiet : ∀ d', input ≠ .arrive d') (move : Move H s l input s' l') :
    Stage H.engine d client sid len ssl s' l' (answers ++ input.answer.toList) := by
  cases move with
  | arrive d' => exact absurd rfl (quiet d')
  | signal =>
    simp only [Input.answer, Option.toList_none, List.append_nil]
    exact .loses left at_pc listed fails
  | discard left' why client' failed outcomes s₁ registry closed at_pc' consumed =>
    simp only [Input.answer, Option.toList_none, List.append_nil]
    obtain rfl : client' = client := by
      rw [at_pc] at at_pc'
      exact (Option.some.inj (Pc.consume.inj at_pc').2.2).symm
    refine .lost left' rfl ?_ fails
    intro e entry same
    obtain ⟨before, apart⟩ := mem_dropClient.mp entry
    obtain ⟨c, member, addr, -⟩ := listed
    rw [← addr] at same
    exact apart (congrArg Prod.fst (sound.intact.of_key before member same))
  | send _ _ _ _ _ _ _ _ _ inside => exact absurd (inside.at_pc.symm.trans at_pc) nofun
  | recv _ _ _ _ _ _ _ _ _ _ _ _ inside => exact absurd (inside.at_pc.symm.trans at_pc) nofun
  | finish _ _ _ _ _ _ _ _ _ _ _ _ _ _ inside =>
    exact absurd (inside.at_pc.symm.trans at_pc) nofun
  | _ => simp_all

/-- A step from one stage of the turn leads to the next. -/
theorem Stage.step (discards : Discards H.engine ssl len d.bytes) (sound : Sound H s l)
    (stage : Stage H.engine d client sid len ssl s l answers) (inside : s.pc.atPeek = false)
    (quiet : ∀ d', input ≠ .arrive d') (move : Move H s l input s' l') :
    Stage H.engine d client sid len ssl s' l' (answers ++ input.answer.toList) := by
  cases stage with
  | asking reading alone first =>
    subst first
    exact .asked discards sound reading alone quiet move
  | again reading empty nonempty select ready second =>
    subst second
    exact .askedAgain discards sound reading empty nonempty ready quiet move
  | told seen reading ret ssl' moves result reads verdict =>
    exact .returned sound reading moves reads verdict quiet move
  | keeps left at_pc listed survives => exact .consumed at_pc listed survives quiet move
  | loses left at_pc listed fails => exact .removed sound at_pc listed fails quiet move
  | kept left at_pc => simp [at_pc, Pc.atPeek] at inside
  | lost left at_pc => simp [at_pc, Pc.atPeek] at inside

/-- The stages up to the head of the drain loop. -/
theorem Stage.run (discards : Discards H.engine ssl len d.bytes) {inputs : List (Input ρ)}
    (sound : Sound H s l) (stage : Stage H.engine d client sid len ssl s l answers)
    (quiet : ∀ d', .arrive d' ∉ inputs) (back : backToPeek H s inputs = some s') :
    s'.pc.atPeek = true ∧ ∃ l', Sound H s' l' ∧
      Stage H.engine d client sid len ssl s' l' (answers ++ inputs.filterMap Input.answer) := by
  induction inputs generalizing s l answers with
  | nil =>
    unfold backToPeek at back
    split at back
    · rename_i here
      obtain rfl := Option.some.inj back
      exact ⟨here, l, sound, by simpa using stage⟩
    · contradiction
  | cons input rest ih =>
    unfold backToPeek at back
    split at back
    · contradiction
    · rename_i inside
      split at back
      · contradiction
      · rename_i middle taken
        obtain ⟨next, outcome, related⟩ := step_move sound input
        rw [advance_eq_some, outcome] at taken
        obtain ⟨l', move⟩ := related middle (Except.ok.inj taken)
        have first : ∀ d', input ≠ .arrive d' :=
          fun d' same => quiet d' (same ▸ List.mem_cons_self)
        have moved := stage.step discards sound (by simpa using inside) first move
        obtain ⟨there, l'', sound', last⟩ := ih (move.sound sound) moved
          (fun d' member => quiet d' (List.mem_cons_of_mem _ member)) back
        refine ⟨there, l'', sound', ?_⟩
        have joined : (input :: rest).filterMap Input.answer =
            input.answer.toList ++ rest.filterMap Input.answer := by
          cases answer : input.answer <;> simp [answer]
        rw [joined, ← List.append_assoc]
        exact last

/-- The established client is in the list. -/
theorem Established.listed {source : Endpoint} (sound : Sound H s l)
    (established : Established s source sid) : ∃ client, Listed l client source sid := by
  obtain ⟨client, n, found, live, owns, done⟩ := established
  rcases findClient_cases sound.intact source with ⟨client', c, search, member, addr⟩ |
    ⟨search, -⟩
  · obtain rfl := Option.some.inj (Except.ok.inj (search.symm.trans found))
    obtain ⟨m, live', fields⟩ := sound.intact.node member
    obtain rfl : n = m := Option.some.inj (live.symm.trans live')
    exact ⟨client', c, member, addr, by rw [← fields, owns], by rw [← fields, done]⟩
  · rw [search] at found
    cases found

/-- A client of the list whose handshake is complete is established. -/
theorem Listed.established {source : Endpoint} (sound : Sound H s l)
    (listed : Listed l client source sid) : Established s source sid := by
  obtain ⟨c, member, addr, owns, done⟩ := listed
  obtain ⟨n, live, fields⟩ := sound.intact.node member
  have found : findClient s.registry source.sockaddr = .ok (some client) :=
    addr ▸ findClient_some sound.intact member
  exact ⟨client, n, found, live, by rw [fields, owns], by rw [fields, done]⟩

/-- The turn begins with the read for the established client. -/
theorem Stage.begin (sound : Sound H s l) (alone : s.sock = [d])
    (listed : Listed l client d.src sid)
    (live : ∃ session, s.registry.sessions.get? sid = some session ∧ session.ssl = ssl)
    {add : AddEnv ρ} {now : Int} (move : Move H s l (.peek false add now) s' l') :
    Stage H.engine d client sid len ssl s' l' [] := by
  obtain ⟨c, member, addr, owns, done⟩ := listed
  cases move with
  | drained _ _ _ _ _ idle => simp [alone] at idle
  | refused left' add now d' rest registry _ at_sock absent =>
    obtain ⟨rfl, -⟩ := List.cons.inj (alone.symm.trans at_sock)
    exact absurd (congrArg SockaddrIn.key addr) (absent _ member)
  | admitted left' add now d' rest client' registry _ at_sock absent =>
    obtain ⟨rfl, -⟩ := List.cons.inj (alone.symm.trans at_sock)
    exact absurd (congrArg SockaddrIn.key addr) (absent _ member)
  | known left' add now d' rest client' c' sid' registry _ at_sock member' addr' _ _ sessions =>
    obtain ⟨rfl, -⟩ := List.cons.inj (alone.symm.trans at_sock)
    have same := sound.intact.of_key member' member
      (congrArg SockaddrIn.key (addr'.trans addr.symm))
    obtain ⟨rfl, rfl⟩ := Prod.mk.inj same
    have call : firstCall c' = .read socketBufferSize := by
      rw [firstCall, if_pos done]
    refine .asking ⟨⟨left', congrArg (Pc.engine left' client' · []) call⟩, ⟨stamp now c', ?_, addr,
      owns, done⟩, ?_⟩ alone rfl
    · exact mem_editClient.mpr ⟨_, member, by simp⟩
    · change ∃ session, registry.sessions.get? sid = some session ∧ session.ssl = ssl
      rw [sessions]
      exact live

end Stages

/-- A library that completes handshakes, and whose reads authenticate nothing. -/
def skeptic : Engine Unit where
  move
    | .read _, ssl, seen =>
      match seen.getLast? with
      | none => .recv socketBufferSize 30000
      | some (.received (.ok [])) => .finish (.ok []) ssl false
      | some (.received (.error code)) => .finish (.error code) ssl false
      | some _ => .recv socketBufferSize 30000
    | .handshake, ssl, seen => plain.move .handshake ssl seen
    | .write bytes, ssl, seen => plain.move (.write bytes) ssl seen
  close _ _ := []

/-- Its reads discard every datagram. -/
theorem skeptic_discards (bytes : Bytes) : Discards skeptic () socketBufferSize bytes where
  room := by decide
  asks := ⟨30000, rfl⟩
  silent nonempty := by
    cases bytes with
    | nil => contradiction
    | cons b rest => exact ⟨socketBufferSize, 30000, rfl⟩
  empty := ⟨(), rfl⟩
  passes seen code := ⟨(), by simp [skeptic]⟩

/-- A client completes its handshake, and then a datagram arrives under its address. -/
def handshakeThenForgery : List (Input Unit) :=
  [.arrive ⟨⟨1, 1⟩, [1]⟩, .poll (some 1) 0 0 (fun _ => []), .event,
    .peek false (addSucceeds 0 ()) 0, .recv .ready .normal, .finish [], .consume false [],
    .arrive ⟨⟨1, 1⟩, [9]⟩]

/-- The host of that run. -/
def skepticHost : Host Unit := ⟨skeptic, .little, serverContext, 3⟩

/-- The state after that run. -/
def beforeForgery : State Unit :=
  (runGuarded (advance skepticHost) anything startZero handshakeThenForgery).getD startZero

/-- The library will not authenticate that datagram. -/
theorem beforeForgery_forged :
    Forged skepticHost beforeForgery ⟨⟨1, 1⟩, [9]⟩ 0 socketBufferSize where
  reached := reach_of_runGuarded handshakeThenForgery (.start (starts_startZero skeptic .little 3))
    rfl
  alone := rfl
  established := ⟨0, _, rfl, rfl, rfl, rfl⟩
  discards := ⟨_, rfl, skeptic_discards _⟩

end SpaceCaptain.Server
