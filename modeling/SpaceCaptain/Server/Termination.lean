import SpaceCaptain.Library.Rounds
import SpaceCaptain.Dtls.Intake
import SpaceCaptain.Server.Sessions

/-!
# The drain loop ends

The drain loop goes on for as long as its peek finds a datagram, and some of its branches take
none: after a read that gave data, and after the peer has closed the connection, the datagram that
was peeked at is still there. A round of the loop is the peek and all that follows until the
server is back at the head of the loop or has left it. No datagram arrives, and the library may
return anything. Every round that comes back leaves fewer datagrams in the socket, or the same
ones and less for their first sender to be read; so the loop ends.
-/
namespace SpaceCaptain.Server

open SpaceCaptain.Dtls SpaceCaptain.Library

variable {ρ : Type}

/-- A callback may have taken a datagram: it returned bytes, or "want read", which it also returns
for a datagram of another source. -/
def mayTake : Seen → Bool
  | .received (.ok _) | .received (.error .wantRead) => true
  | _ => false

/-- No callback of a call has taken a datagram. -/
def Untouched (seen : List Seen) : Prop := ∀ answer ∈ seen, mayTake answer = false

/-- One more callback that has taken none. -/
theorem Untouched.concat {seen : List Seen} {answer : Seen} (untouched : Untouched seen)
    (takes_none : mayTake answer = false) : Untouched (seen ++ [answer]) := by
  intro other member
  rcases List.mem_append.mp member with old | new
  · exact untouched other old
  · rw [List.mem_singleton.mp new]
    exact takes_none

/-- A session holds a finite amount of data: a read that gives data without a datagram being taken
makes it less, and a write without a datagram being taken does not make it more. -/
structure Buffers (E : Engine ρ) (amount : ρ → Nat) : Prop where
  /-- Reads. -/
  reads : ∀ len ssl seen data ssl' accepted, Untouched seen → data ≠ [] →
    E.move (.read len) ssl seen = .finish (.ok data) ssl' accepted → amount ssl' < amount ssl
  /-- Writes. -/
  writes : ∀ bytes ssl seen ret ssl' accepted, Untouched seen →
    E.move (.write bytes) ssl seen = .finish ret ssl' accepted → amount ssl' ≤ amount ssl

/-- A read of some bytes leaves fewer. -/
theorem leftover_length {len : Nat} {record : Bytes} {rest : List Bytes}
    (some_bytes : record.take len ≠ []) :
    (leftover len (record :: rest)).flatten.length < (record :: rest).flatten.length := by
  rw [ne_eq, List.take_eq_nil_iff, not_or] at some_bytes
  have positive : 0 < record.length := List.length_pos_iff.mpr some_bytes.2
  simp only [leftover]
  split
  · simp only [List.flatten_cons, List.length_append]
    omega
  · simp only [List.flatten_cons, List.length_append, List.length_drop]
    omega

/-- A library that treats application data as it should, and accepts none without a datagram. -/
theorem buffers_of_laws {B : Intake ρ} {E : Engine ρ} (laws : B.Laws E)
    (nothing : ∀ call ssl seen, Untouched seen → B.arriving call ssl seen = []) :
    Buffers E fun ssl => (B.held ssl).flatten.length where
  reads len ssl seen data ssl' accepted untouched some_bytes moves := by
    obtain ⟨record, rest, all, rfl, kept, -⟩ := laws.reads len ssl seen data ssl' accepted moves
    rw [Intake.available, nothing _ ssl seen untouched, List.append_nil] at all
    simp only [kept, all]
    exact leftover_length some_bytes
  writes bytes ssl seen ret ssl' accepted _ moves := by
    rw [(laws.writes bytes ssl seen ret ssl' accepted moves).1]

/-- The server is inside the drain loop. -/
def Pc.turn : Pc → Option Nat
  | .peek left | .engine left _ _ _ | .consume left _ _ => some left
  | _ => none

/-- What may happen in a round after its peek: anything but an arrival. The explicit `recvfrom`
fails in a round that is not strict only. -/
def calm (strict : Bool) (s : State ρ) (input : Input ρ) : Bool :=
  s.pc.turn.isSome && match input with
    | .arrive _ | .peek .. => false
    | .consume failed _ => !(strict && failed)
    | _ => true

/-- The states of a round after its peek, which led to a state. -/
abbrev Body (H : Host ρ) (strict : Bool) (s : State ρ) : State ρ → Prop :=
  Reach (fun t => t = s) (fun t input t' => advance H t input = some t')
    fun t input => calm strict t input = true

/-- One round of the drain loop: the peek, and what follows until the server is back at the head of
the loop, or at a break. -/
structure Round (H : Host ρ) (strict : Bool) (s s' : State ρ) : Prop where
  /-- The peek and what follows it. -/
  ran : ∃ failed add now s₁, advance H s (.peek failed add now) = some s₁ ∧ Body H strict s₁ s'
  /-- The end of the round. -/
  ended : ∃ left, s'.pc = .peek left ∨ s'.pc = .events left

/-- What a client's session holds and one more, if its handshake is complete. -/
def load (amount : ρ → Nat) (r : Registry ρ) (client : Nat) : Nat :=
  match r.clients.get? client with
  | some c =>
    if c.handshakeComplete then
      match c.dtlsSession.bind r.sessions.get? with
      | some session => amount session.ssl + 1
      | none => 0
    else 0
  | none => 0

/-- The load of the sender of the first datagram. -/
def burden (amount : ρ → Nat) (s : State ρ) : Nat :=
  match s.sock with
  | [] => 0
  | d :: _ =>
    match findClient s.registry d.src.sockaddr with
    | .ok (some client) => load amount s.registry client
    | _ => 0

/-- The datagrams in the socket, and the load of the sender of the first. -/
def drainMeasure (amount : ρ → Nat) (s : State ρ) : Nat × Nat := (s.sock.length, burden amount s)

section Measure

variable {H : Host ρ} {amount : ρ → Nat} {s : State ρ} {l : List Entry} {d : Datagram}
  {rest : List Datagram} {client : Nat} {c : Client}

/-- The burden of a socket whose first datagram is from a client of the list. -/
theorem burden_present (intact : Intact s.registry l) (at_sock : s.sock = d :: rest)
    (member : (client, c) ∈ l) (addr : c.addr = d.src.sockaddr) {sid : Nat}
    {session : Session ρ} (owns : c.dtlsSession = some sid)
    (live : s.registry.sessions.get? sid = some session) :
    burden amount s = if c.handshakeComplete then amount session.ssl + 1 else 0 := by
  have found : findClient s.registry d.src.sockaddr = .ok (some client) := by
    rw [← addr]
    exact findClient_some intact member
  obtain ⟨n, node, rfl⟩ := intact.node member
  have pointer : n.dtlsSession = some sid := owns
  simp only [burden, at_sock, found, load, node, pointer, Option.bind_some, live]

/-- The burden of a socket whose first datagram is from nobody on the list. -/
theorem burden_absent (intact : Intact s.registry l) (at_sock : s.sock = d :: rest)
    (absent : ∀ e ∈ l, e.2.addr.key ≠ d.src.sockaddr.key) : burden amount s = 0 := by
  obtain ⟨client, c, -, member, addr⟩ | ⟨missing, -⟩ := findClient_cases intact d.src
  · exact absurd (congrArg SockaddrIn.key addr) (absent _ member)
  · simp only [burden, at_sock, missing]

/-- When a client leaves the list, its address is nobody's. -/
theorem dropped_absent (intact : Intact s.registry l) (member : (client, c) ∈ l)
    (addr : c.addr = d.src.sockaddr) :
    ∀ e ∈ dropClient client l, e.2.addr.key ≠ d.src.sockaddr.key := by
  intro e entry same
  obtain ⟨old, other⟩ := mem_dropClient.mp entry
  have key : e.2.addr.key = (client, c).2.addr.key := same.trans (congrArg _ addr.symm)
  exact other (congrArg Prod.fst (intact.of_key old member key))

end Measure

/-- A client of the list whose handshake is complete, with an address and with a session that holds
some amount. -/
def Holds (amount : ρ → Nat) (s : State ρ) (l : List Entry) (client : Nat) (source : Endpoint)
    (held : Nat) : Prop :=
  ∃ c sid session, (client, c) ∈ l ∧ c.addr = source.sockaddr ∧ c.handshakeComplete = true ∧
    c.dtlsSession = some sid ∧ s.registry.sessions.get? sid = some session ∧
    amount session.ssl = held

/-- The server is in a handshake or before an explicit `recvfrom`. -/
def Pc.disposes : Pc → Option Nat
  | .engine left _ .handshake _ | .consume left _ _ => some left
  | _ => none

/-- Where the server is in a round, after a peek at the first datagram of `sock` from `source`,
with less than `bound` to be read from that source. -/
inductive RoundStage (amount : ρ → Nat) (sock : List Datagram) (source : Endpoint) (bound left : Nat)
    (s : State ρ) (l : List Entry) : Prop
  /-- A datagram has been taken. -/
  | shorter (at_loop : s.pc.turn = some left) (fewer : s.sock.length < sock.length)
  /-- The explicit `recvfrom` will take one. -/
  | disposing (at_pc : s.pc.disposes = some left) (same : s.sock = sock)
  /-- The server reads, or answers what it has read. -/
  | calling (client held : Nat) (call : Call) (seen : List Seen)
      (at_pc : s.pc = .engine left client call seen) (same : s.sock = sock)
      (untouched : Untouched seen) (holds : Holds amount s l client source held)
      (less : (call = .read socketBufferSize ∧ held < bound) ∨
        (∃ reply, call = .write reply) ∧ held + 1 < bound)
  /-- The server is back at the head of the loop. -/
  | back (at_pc : s.pc = .peek left) (same : s.sock = sock) (less : burden amount s < bound)
  /-- The server has left the loop. -/
  | broken (at_pc : s.pc = .events left)

section Steps

variable {H : Host ρ} {s s' : State ρ} {l l' : List Entry} {left : Nat} {input : Input ρ}

/-- After a return the server is inside the loop, with the same socket. -/
theorem Settled.turn {client sid : Nat} {call : Call} {result : DtlsResult} {data : Bytes}
    (settled : Settled H s l left client sid call result data s' l') :
    s'.pc.turn = some left ∧ s'.sock = s.sock := by
  cases settled <;> exact ⟨rfl, rfl⟩

/-- A receive callback adds no datagram. -/
theorem received_length (session : Session ρ) (len : Nat) (select : SelectOutcome)
    (outcome : RecvOutcome) (sock : List Datagram) :
    (udpRecvTimeout session len select outcome sock).sock.length ≤ sock.length := by
  have answered := udpRecvTimeout_answer session len select outcome sock
  revert answered
  generalize udpRecvTimeout session len select outcome sock = received
  intro answered
  cases answered with
  | code => exact Nat.le_refl _
  | handed d rest at_sock | ignored d rest at_sock =>
    rw [at_sock]
    exact Nat.le_succ rest.length

/-- A receive callback takes the first datagram, or returns a failure. -/
theorem received_cases (session : Session ρ) (len : Nat) (select : SelectOutcome)
    (outcome : RecvOutcome) (d : Datagram) (rest : List Datagram) :
    (udpRecvTimeout session len select outcome (d :: rest)).sock = rest ∨
      (udpRecvTimeout session len select outcome (d :: rest)).sock = d :: rest ∧
      mayTake (.received (udpRecvTimeout session len select outcome (d :: rest)).result) =
        false := by
  cases select with
  | failed => exact .inr ⟨rfl, rfl⟩
  | waits | ready =>
    cases outcome with
    | failed => exact .inr ⟨rfl, rfl⟩
    | normal =>
      refine .inl ?_
      simp only [udpRecvTimeout, udpRecv]
      split <;> rfl

/-- A step of a round after its peek stays inside the loop, and adds no datagram. -/
theorem Move.turn {strict : Bool} (quiet : calm strict s input = true)
    (at_loop : s.pc.turn = some left) (move : Move H s l input s' l') :
    s'.pc.turn = some left ∧ s'.sock.length ≤ s.sock.length := by
  have outside {pc : Pc} (at_pc : s.pc = pc) (elsewhere : pc.turn = none) :
      s'.pc.turn = some left ∧ s'.sock.length ≤ s.sock.length := by
    rw [at_pc, elsewhere] at at_loop
    contradiction
  cases move with
  | arrive | drained | known | refused | admitted => simp [calm] at quiet
  | signal => exact ⟨at_loop, Nat.le_refl _⟩
  | interrupted _ _ _ at_pc | dispatch _ _ _ _ at_pc | sweep _ _ _ _ _ _ at_pc | leave at_pc
  | lastEvent at_pc | nextEvent _ at_pc | shutdown _ _ _ _ at_pc | halt _ at_pc =>
    exact outside at_pc rfl
  | send _ _ _ _ _ _ _ _ _ inside =>
    rw [inside.at_pc] at at_loop
    exact ⟨at_loop, Nat.le_refl _⟩
  | recv _ _ _ _ _ _ session len _ select outcome _ inside _ answer =>
    rw [inside.at_pc] at at_loop
    exact ⟨at_loop, answer ▸ received_length session len select outcome s.sock⟩
  | finish _ _ _ _ _ _ _ _ _ _ _ _ _ _ inside _ _ _ settled =>
    rw [inside.at_pc] at at_loop
    obtain ⟨turn, sock⟩ := settled.turn
    exact ⟨turn.trans at_loop, Nat.le_of_eq (congrArg List.length sock)⟩
  | consume _ _ _ _ _ at_pc consumed | discard _ _ _ _ _ _ _ _ at_pc consumed =>
    rw [at_pc] at at_loop
    refine ⟨at_loop, ?_⟩
    cases consumed with
    | nothing => exact Nat.le_refl _
    | taken d rest at_sock =>
      rw [at_sock]
      exact Nat.le_succ rest.length

variable {amount : ρ → Nat} {sock : List Datagram} {d : Datagram} {rest : List Datagram}
  {bound held client sid : Nat} {source : Endpoint} {call : Call} {seen : List Seen} {c : Client}
  {session : Session ρ}

/-- The same registry holds the same. -/
theorem Holds.congr (holds : Holds amount s l client source held)
    (same : s'.registry = s.registry) : Holds amount s' l client source held := by
  rw [Holds, same]
  exact holds

/-- What the session of a running call holds. -/
theorem Holds.inCall (holds : Holds amount s l client source held) (intact : Intact s.registry l)
    (inside : InCall s l left client call seen c sid session) :
    amount session.ssl = held ∧ c.addr = source.sockaddr ∧ c.handshakeComplete = true := by
  obtain ⟨c', sid', session', member, addr, complete, owns, live, rfl⟩ := holds
  obtain rfl := intact.same inside.member member
  obtain rfl := Option.some.inj (inside.owns.symm.trans owns)
  obtain rfl := Option.some.inj (inside.live.symm.trans live)
  exact ⟨rfl, addr, complete⟩

/-- What the session of a call holds after its return. -/
theorem Holds.returned {ret : Except MbedErr call.Value} {ssl : ρ} {accepted : Bool}
    {outcomes : List SendOutcome} (holds : Holds amount s l client source held)
    (intact : Intact s.registry l) (intact' : Intact s'.registry l)
    (inside : InCall s l left client call seen c sid session)
    (moves : H.engine.move call session.ssl seen = .finish ret ssl accepted)
    (origins : ∀ q session', s'.registry.sessions.get? q = some session' →
      Origin s l H q session' (.finish outcomes)) :
    Holds amount s' l client source (amount ssl) := by
  obtain ⟨-, addr, complete⟩ := holds.inCall intact inside
  obtain ⟨-, sid', session', -, owns, live, -⟩ := intact'.session _ inside.member
  obtain rfl := Option.some.inj (inside.owns.symm.trans owns)
  have content := (origins sid session' live).current intact inside moves
  refine ⟨c, sid, session', inside.member, addr, complete, owns, live, ?_⟩
  rw [content, callResult_ssl]

/-- The burden is what the first sender's session holds, and one more. -/
theorem Holds.burden (holds : Holds amount s l client d.src held) (intact : Intact s.registry l)
    (at_sock : s.sock = d :: rest) : burden amount s = held + 1 := by
  obtain ⟨c, sid, session, member, addr, complete, owns, live, rfl⟩ := holds
  rw [burden_present intact at_sock member addr owns live, if_pos complete]

/-- After the return of a read or a write that has taken no datagram. -/
theorem RoundStage.returned (buffers : Buffers H.engine amount) {ret : Except MbedErr call.Value}
    {ssl : ρ} {accepted : Bool} {outcomes : List SendOutcome} {sessions : Heap (Session ρ)}
    {log : List Event} (sound : Sound H s l) (sound' : Sound H s' l')
    (inside : InCall s l left client call seen c sid session)
    (moves : H.engine.move call session.ssl seen = .finish ret ssl accepted)
    (settled : Settled H { s with registry := { s.registry with sessions }, log } l left client
      sid call (callResult session ssl call ret).2.1 (callResult session ssl call ret).2.2 s' l')
    (origins : ∀ q session', s'.registry.sessions.get? q = some session' →
      Origin s l H q session' (.finish outcomes))
    (at_sock : s.sock = d :: rest) (untouched : Untouched seen)
    (holds : Holds amount s l client d.src held)
    (less : (call = .read socketBufferSize ∧ held < bound) ∨
      (∃ reply, call = .write reply) ∧ held + 1 < bound) :
    RoundStage amount (d :: rest) d.src bound left s' l' := by
  obtain ⟨rfl, addr, -⟩ := holds.inCall sound.intact inside
  have gone {registry : Registry ρ} {events : List Event}
      (intact : Intact registry (dropClient client l)) (positive : 0 < bound) :
      RoundStage amount (d :: rest) d.src bound left
        { s with registry, pc := .peek left, log := events } (dropClient client l) := by
    refine .back rfl at_sock (Nat.lt_of_le_of_lt (Nat.le_of_eq ?_) positive)
    exact burden_absent intact at_sock (dropped_absent sound.intact inside.member addr)
  obtain ⟨rfl, fits⟩ | ⟨⟨reply, rfl⟩, fits⟩ := less
  · generalize answer : (callResult session ssl (.read socketBufferSize) ret).2 = told at settled
    obtain ⟨result, data⟩ := told
    cases settled with
    | answered _ _ buffer nonempty =>
      obtain ⟨bytes, rfl, some_bytes⟩ := readResult_ok answer
      have smaller := buffers.reads _ _ _ _ _ _ untouched some_bytes moves
      refine .calling client (amount ssl) _ [] rfl at_sock (fun _ none_seen => ?_)
        (holds.returned sound.intact sound'.intact inside moves origins) (.inr ⟨⟨_, rfl⟩, ?_⟩)
      · exact absurd none_seen List.not_mem_nil
      · exact Nat.lt_of_le_of_lt smaller fits
    | nothing => exact .disposing rfl at_sock
    | broken => exact .disposing rfl at_sock
    | peerClosed _ _ registry closed removal =>
      exact gone removal.intact (Nat.lt_of_le_of_lt (Nat.zero_le _) fits)
  · have no_more := buffers.writes _ _ _ _ _ _ untouched moves
    generalize (callResult session ssl (.write reply) ret).2 = told at settled
    obtain ⟨result, data⟩ := told
    cases settled with
    | written =>
      have after := holds.returned sound.intact sound'.intact inside moves origins
      refine .back rfl at_sock ?_
      rw [after.burden sound'.intact at_sock]
      exact Nat.lt_of_le_of_lt (Nat.succ_le_succ no_more) fits
    | unwritten _ _ _ registry closed _ _ removal =>
      exact gone removal.intact (Nat.lt_of_le_of_lt (Nat.zero_le _) fits)

/-- A step of a strict round that is about to discard. -/
theorem RoundStage.disposed (at_sock : s.sock = d :: rest) (at_pc : s.pc.disposes = some left)
    (quiet : calm true s input = true) (move : Move H s l input s' l') :
    RoundStage amount (d :: rest) source bound left s' l' := by
  have outside {pc : Pc} (here : s.pc = pc) (elsewhere : pc.disposes = none) :
      RoundStage amount (d :: rest) source bound left s' l' := by
    rw [here, elsewhere] at at_pc
    contradiction
  cases move with
  | arrive | drained | known | refused | admitted => simp [calm] at quiet
  | signal => exact .disposing at_pc at_sock
  | interrupted _ _ _ here | dispatch _ _ _ _ here | sweep _ _ _ _ _ _ here | leave here
  | lastEvent here | nextEvent _ here | shutdown _ _ _ _ here | halt _ here =>
    exact outside here rfl
  | send left' client call seen _ _ _ _ _ inside =>
    rw [inside.at_pc] at at_pc
    cases call with
    | handshake => exact .disposing at_pc at_sock
    | read | write => contradiction
  | recv left' client call seen _ _ session len _ select outcome _ inside _ answer =>
    rw [inside.at_pc] at at_pc
    cases call with
    | read | write => contradiction
    | handshake =>
      subst answer
      obtain taken | ⟨kept, -⟩ := received_cases session len select outcome d rest
      · refine .shorter at_pc ?_
        simp only [at_sock, taken, List.length_cons, Nat.lt_succ_self]
      · exact .disposing at_pc (by simp only [at_sock, kept])
  | finish left' client call seen _ _ session ret ssl _ _ _ _ _ inside _ _ _ settled =>
    rw [inside.at_pc] at at_pc
    cases call with
    | read | write => contradiction
    | handshake =>
      obtain rfl := Option.some.inj at_pc
      generalize (callResult session ssl .handshake ret).2 = told at settled
      obtain ⟨result, data⟩ := told
      cases settled <;> exact .disposing rfl at_sock
  | consume left' _ failed _ _ here consumed | discard left' _ _ failed _ _ _ _ here consumed =>
    rw [here] at at_pc
    cases consumed with
    | taken d' rest' at_sock' =>
      obtain ⟨rfl, rfl⟩ := List.cons.inj (at_sock.symm.trans at_sock')
      exact .shorter at_pc (Nat.lt_succ_self _)
    | nothing _ idle =>
      obtain rfl | empty := idle
      · simp [calm] at quiet
      · rw [at_sock] at empty
        contradiction

/-- A step of a round that reads, or answers what it has read. -/
theorem RoundStage.called (buffers : Buffers H.engine amount) (sound : Sound H s l)
    (sound' : Sound H s' l')
    (origins : ∀ q session', s'.registry.sessions.get? q = some session' →
      Origin s l H q session' input)
    (at_pc : s.pc = .engine left client call seen) (at_sock : s.sock = d :: rest)
    (untouched : Untouched seen) (holds : Holds amount s l client d.src held)
    (less : (call = .read socketBufferSize ∧ held < bound) ∨
      (∃ reply, call = .write reply) ∧ held + 1 < bound) {strict : Bool}
    (quiet : calm strict s input = true) (move : Move H s l input s' l') :
    RoundStage amount (d :: rest) d.src bound left s' l' := by
  cases move with
  | arrive | drained | known | refused | admitted => simp [calm] at quiet
  | signal => exact .calling client held call seen at_pc at_sock untouched (holds.congr rfl) less
  | send left' client' call' seen' _ _ _ bytes outcome inside =>
    obtain ⟨rfl, rfl, rfl, rfl⟩ := Pc.engine.inj (inside.at_pc.symm.trans at_pc)
    exact .calling client' held call' _ rfl at_sock (untouched.concat rfl) (holds.congr rfl) less
  | recv left' client' call' seen' _ _ session len _ select outcome _ inside _ answer =>
    obtain ⟨rfl, rfl, rfl, rfl⟩ := Pc.engine.inj (inside.at_pc.symm.trans at_pc)
    subst answer
    obtain taken | ⟨kept, failure⟩ := received_cases session len select outcome d rest
    · refine .shorter rfl ?_
      simp only [at_sock, taken, List.length_cons, Nat.lt_succ_self]
    · refine .calling client' held call' _ rfl (by simp only [at_sock, kept])
        (untouched.concat ?_) (holds.congr rfl) less
      rw [at_sock]
      exact failure
  | finish left' client' call' seen' _ _ _ ret _ _ _ _ _ _ inside moves _ _ settled =>
    obtain ⟨rfl, rfl, rfl, rfl⟩ := Pc.engine.inj (inside.at_pc.symm.trans at_pc)
    exact .returned buffers sound sound' inside moves settled origins at_sock untouched holds less
  | interrupted _ _ _ here | dispatch _ _ _ _ here | sweep _ _ _ _ _ _ here | leave here
  | lastEvent here | nextEvent _ here | shutdown _ _ _ _ here | halt _ here
  | consume _ _ _ _ _ here | discard _ _ _ _ _ _ _ _ here =>
    exact nomatch here.symm.trans at_pc

/-- Every step of a strict round leads from stage to stage. -/
theorem RoundStage.step (buffers : Buffers H.engine amount) (sound : Sound H s l)
    (stage : RoundStage amount (d :: rest) d.src bound left s l)
    (quiet : calm true s input = true) (move : Move H s l input s' l') (sound' : Sound H s' l')
    (origins : ∀ q session', s'.registry.sessions.get? q = some session' →
      Origin s l H q session' input) : RoundStage amount (d :: rest) d.src bound left s' l' := by
  cases stage with
  | shorter at_loop fewer =>
    obtain ⟨at_loop', length⟩ := move.turn quiet at_loop
    exact .shorter at_loop' (Nat.lt_of_le_of_lt length fewer)
  | disposing at_pc same => exact .disposed same at_pc quiet move
  | calling client held call seen at_pc same untouched holds less =>
    exact .called buffers sound sound' origins at_pc same untouched holds less quiet move
  | back at_pc same less =>
    cases move with
    | arrive | drained | known | refused | admitted => simp [calm] at quiet
    | signal => exact .back at_pc same less
    | send _ _ _ _ _ _ _ _ _ inside | recv _ _ _ _ _ _ _ _ _ _ _ _ inside
    | finish _ _ _ _ _ _ _ _ _ _ _ _ _ _ inside => exact nomatch inside.at_pc.symm.trans at_pc
    | interrupted _ _ _ here | dispatch _ _ _ _ here | sweep _ _ _ _ _ _ here | leave here
    | lastEvent here | nextEvent _ here | shutdown _ _ _ _ here | halt _ here
    | consume _ _ _ _ _ here | discard _ _ _ _ _ _ _ _ here =>
      exact nomatch here.symm.trans at_pc
  | broken at_pc => simp [calm, at_pc, Pc.turn] at quiet

/-- The first stage of a round. -/
theorem RoundStage.peeked {failed : Bool} {add : AddEnv ρ} {now : Int} (sound : Sound H s l)
    (at_pc : s.pc = .peek left) (at_sock : s.sock = d :: rest)
    (move : Move H s l (.peek failed add now) s' l') :
    RoundStage amount (d :: rest) d.src (burden amount s) left s' l' := by
  cases move with
  | drained left' _ _ _ here =>
    obtain rfl := Pc.peek.inj (here.symm.trans at_pc)
    exact .broken rfl
  | refused left' _ _ _ _ _ here =>
    obtain rfl := Pc.peek.inj (here.symm.trans at_pc)
    exact .disposing rfl at_sock
  | admitted left' _ _ _ _ _ _ here =>
    obtain rfl := Pc.peek.inj (here.symm.trans at_pc)
    exact .disposing rfl at_sock
  | known left' _ _ d' rest' client c sid registry here there member addr owns _ sessions =>
    obtain rfl := Pc.peek.inj (here.symm.trans at_pc)
    obtain ⟨rfl, rfl⟩ := List.cons.inj (there.symm.trans at_sock)
    cases flag : c.handshakeComplete with
    | false =>
      have first : firstCall c = .handshake := by rw [firstCall, flag]; rfl
      refine .disposing ?_ at_sock
      rw [first]
      rfl
    | true =>
      have first : firstCall c = .read socketBufferSize := by rw [firstCall, if_pos flag]
      obtain ⟨-, sid', session, -, owns', live, -⟩ := sound.intact.session _ member
      obtain rfl := Option.some.inj (owns.symm.trans owns')
      refine .calling client (amount session.ssl) (firstCall c) [] rfl at_sock
        (fun _ none_seen => absurd none_seen List.not_mem_nil) ?_ (.inl ⟨first, ?_⟩)
      · have stamped : (client, stamp now c) ∈ editClient client (stamp now) l :=
          mem_editClient.mpr ⟨_, member, by simp⟩
        have same : registry.sessions.get? sid = some session := by rw [sessions, live]
        exact ⟨stamp now c, sid, session, stamped, addr, flag, owns, same, rfl⟩
      · rw [burden_present sound.intact at_sock member addr owns live, if_pos flag]
        exact Nat.lt_succ_self _

/-- A round keeps the list, and ends at the head of the loop or at its break. -/
theorem Round.sound {strict : Bool} (round : Round H strict s s') (sound : Sound H s l)
    (at_pc : s.pc = .peek left) :
    (∃ l', Sound H s' l') ∧ (s'.pc = .peek left ∨ s'.pc = .events left) := by
  obtain ⟨⟨failed, add, now, s₁, peeked, body⟩, ended⟩ := round
  obtain ⟨l₁, move, sound₁, -⟩ := sound.advance peeked
  have first : s₁.pc.turn = some left ∨ s₁.pc = .events left := by
    cases move with
    | drained left' _ _ _ here =>
      obtain rfl := Pc.peek.inj (here.symm.trans at_pc)
      exact .inr rfl
    | known left' _ _ _ _ _ _ _ _ here | refused left' _ _ _ _ _ here
    | admitted left' _ _ _ _ _ _ here =>
      obtain rfl := Pc.peek.inj (here.symm.trans at_pc)
      exact .inl rfl
  obtain ⟨l', sound', place⟩ := Reach.invariant
    (I := fun t => ∃ l, Sound H t l ∧ (t.pc.turn = some left ∨ t.pc = .events left))
    (fun t here => by subst here; exact ⟨l₁, sound₁, first⟩) (fun t input t' inv quiet taken => by
      obtain ⟨l, sound, place⟩ := inv
      obtain ⟨l', move, sound', -⟩ := sound.advance taken
      obtain inside | outside := place
      · exact ⟨l', sound', .inl (move.turn quiet inside).1⟩
      · simp [calm, outside, Pc.turn] at quiet) body
  refine ⟨⟨l', sound'⟩, ?_⟩
  obtain inside | outside := place
  · obtain ⟨left', here | here⟩ := ended
    · rw [here] at inside ⊢
      exact .inl (congrArg Pc.peek (Option.some.inj inside))
    · rw [here] at inside
      contradiction
  · exact .inr outside

/-- A strict round ends in some stage. -/
theorem Round.stage (buffers : Buffers H.engine amount) (round : Round H true s s')
    (sound : Sound H s l) (at_pc : s.pc = .peek left) (at_sock : s.sock = d :: rest) :
    ∃ l', RoundStage amount (d :: rest) d.src (burden amount s) left s' l' := by
  obtain ⟨⟨failed, add, now, s₁, peeked, body⟩, -⟩ := round
  obtain ⟨l₁, move, sound₁, -⟩ := sound.advance peeked
  obtain ⟨l', -, stage⟩ := Reach.invariant
    (I := fun t => ∃ l, Sound H t l ∧
      RoundStage amount (d :: rest) d.src (burden amount s) left t l)
    (fun t here => by subst here; exact ⟨l₁, sound₁, .peeked sound at_pc at_sock move⟩)
    (fun t input t' inv quiet taken => by
      obtain ⟨l, sound, stage⟩ := inv
      obtain ⟨l', move, sound', origins⟩ := sound.advance taken
      exact ⟨l', sound', stage.step buffers sound quiet move sound' origins⟩) body
  exact ⟨l', stage⟩

/-- A round ends the loop when its peek finds no datagram. -/
theorem Round.drained {strict : Bool} (round : Round H strict s s') (sound : Sound H s l)
    (at_pc : s.pc = .peek left) (empty : s.sock = []) : s'.pc = .events left := by
  obtain ⟨⟨failed, add, now, s₁, peeked, body⟩, -⟩ := round
  obtain ⟨l₁, move, -⟩ := sound.advance peeked
  have first : s₁.pc = .events left := by
    cases move with
    | drained left' _ _ _ here =>
      obtain rfl := Pc.peek.inj (here.symm.trans at_pc)
      rfl
    | known _ _ _ _ _ _ _ _ _ _ there | refused _ _ _ _ _ _ _ there
    | admitted _ _ _ _ _ _ _ _ there =>
      rw [empty] at there
      contradiction
  refine Reach.invariant (I := fun t => t.pc = .events left) ?_ ?_ body
  · rintro t rfl
    exact first
  · intro t input t' outside quiet
    simp [calm, outside, Pc.turn] at quiet

/-- A strict round that comes back to the head of the loop lowers the measure. -/
theorem Round.lowers (buffers : Buffers H.engine amount) (round : Round H true s s')
    (sound : Sound H s l) (at_pc : s.pc = .peek left) (back : s'.pc = .peek left) :
    Prod.Lex (· < ·) (· < ·) (drainMeasure amount s') (drainMeasure amount s) := by
  cases at_sock : s.sock with
  | nil => exact nomatch (round.drained sound at_pc at_sock).symm.trans back
  | cons d rest =>
    obtain ⟨l', stage⟩ := round.stage buffers sound at_pc at_sock
    cases stage with
    | shorter _ fewer => exact .left _ _ (by rw [at_sock]; exact fewer)
    | disposing here =>
      rw [back] at here
      contradiction
    | calling _ _ _ _ here => exact nomatch here.symm.trans back
    | back _ same less =>
      rw [drainMeasure, drainMeasure, same, at_sock]
      exact .right _ less
    | broken here => exact nomatch here.symm.trans back

/-- The drain loop ends. A sequence of turns starts at the head of the loop, with any socket and any
registry; each turn at the head is followed by a round, in which no datagram arrives and everything
that is called returns anything, and from some turn on the explicit `recvfrom` works. Then some
turn reaches the break. -/
theorem drain_loop_breaks (buffers : Buffers H.engine amount) {turn : ℕ → State ρ} {first : ℕ}
    (sound : Sound H (turn 0) l) (head : (turn 0).pc = .peek left)
    (rounds : ∀ n, (turn n).pc = .peek left →
      Round H (decide (first ≤ n)) (turn n) (turn (n + 1))) :
    ∃ n, (turn n).pc = .events left := by
  have keep (n : ℕ) (inv : ∃ l, Sound H (turn n) l) (here : (turn n).pc = .peek left) :
      ∃ l, Sound H (turn (n + 1)) l := by
    obtain ⟨l, sound⟩ := inv
    exact ((rounds n here).sound sound here).1
  have lowers (n : ℕ) (late : first ≤ n) (inv : ∃ l, Sound H (turn n) l)
      (here : (turn n).pc = .peek left) (back : (turn (n + 1)).pc = .peek left) :
      Prod.Lex (· < ·) (· < ·) (drainMeasure amount (turn (n + 1)))
        (drainMeasure amount (turn n)) := by
    obtain ⟨l, sound⟩ := inv
    have strict := rounds n here
    rw [decide_eq_true late] at strict
    exact strict.lowers buffers sound here back
  obtain ⟨n, ⟨l, sound⟩, here, gone⟩ := exists_last_round (fun s => s.pc = .peek left)
    (fun s => ∃ l, Sound H s l) (Prod.Lex (· < ·) (· < ·)) (drainMeasure amount) head
    ⟨l, sound⟩ keep lowers
  exact ⟨n + 1, ((rounds n here).sound sound here).2.resolve_left gone⟩

end Steps

/-- The library with records accepts none without a datagram. -/
theorem bundled_buffers :
    Buffers bundled fun ssl => (bundledIntake.held ssl).flatten.length := by
  refine buffers_of_laws bundled_laws fun call ssl seen untouched => ?_
  cases call with
  | handshake | write => rfl
  | read len =>
    cases seen with
    | nil => rfl
    | cons answer rest =>
      have first := untouched answer List.mem_cons_self
      cases answer with
      | sent result => rfl
      | received result =>
        cases result with
        | ok bytes => contradiction
        | error code => rfl

/-- A loop over a socket with a datagram for the handshake, one that the server discards, one with
two records and one with one record. -/
def fourDatagrams : State (List Bytes × Bool) :=
  { startZero with
    pc := .peek 0
    sock := [⟨⟨1, 1⟩, [1]⟩, ⟨⟨1, 1⟩, [2]⟩, ⟨⟨1, 1⟩, [0, 7, 8]⟩, ⟨⟨1, 1⟩, [1, 9]⟩] }

/-- One round, with these inputs after its peek. -/
def runRound (H : Host ρ) (s : State ρ) (ssl : ρ) (inputs : List (Input ρ)) : Option (State ρ) :=
  (advance H s (.peek false (addSucceeds 0 ssl) 0)).bind fun s₁ =>
    runGuarded (advance H) (calm true) s₁ inputs

/-- The server is at the last peek, or at the break after it. -/
def Pc.last : Pc → Option Bool
  | .peek 0 => some true
  | .events 0 => some false
  | _ => none

/-- An executed round is a round. -/
theorem round_of_runRound {H : Host ρ} {s s' : State ρ} {ssl : ρ} {inputs : List (Input ρ)}
    {more : Bool} (ran : runRound H s ssl inputs = some s') (ended : s'.pc.last = some more) :
    Round H true s s' := by
  obtain ⟨s₁, peeked, executed⟩ := Option.bind_eq_some_iff.mp ran
  refine ⟨⟨false, _, 0, s₁, peeked, reach_of_runGuarded inputs (.start rfl) executed⟩, 0, ?_⟩
  unfold Pc.last at ended
  split at ended
  · exact .inl ‹_›
  · exact .inr ‹_›
  · contradiction

/-- A handshake takes one datagram, and another is discarded. -/
def greetOnce : List (Input (List Bytes × Bool)) :=
  [.recv .ready .normal, .finish [], .consume false []]

/-- What is left of a datagram is read and answered. -/
def readHeld : List (Input (List Bytes × Bool)) := [.finish [], .send .sent, .finish []]

/-- The second record is read while the last datagram stays in the socket; after five rounds the
loop ends. -/
theorem drain_loop_breaks_fourDatagrams :
    ∃ turn : ℕ → State (List Bytes × Bool), turn 0 = fourDatagrams ∧
      (turn 2).sock = (turn 3).sock ∧ ∃ n, (turn n).pc = .events 0 := by
  let H : Host (List Bytes × Bool) := ⟨bundled, .little, serverContext, 3⟩
  have ran : ((runRound H fourDatagrams ([], false) greetOnce).bind fun s₁ =>
      (runRound H s₁ ([], false) (.recv .ready .normal :: readHeld)).bind fun s₂ =>
      (runRound H s₂ ([], false) readHeld).bind fun s₃ =>
      (runRound H s₃ ([], false) (.recv .ready .normal :: readHeld)).bind fun s₄ =>
      (runRound H s₄ ([], false) []).map fun s₅ =>
        ([s₁, s₂, s₃, s₄, s₅].map fun s => s.pc.last, s₂.sock == s₃.sock)) =
      some ([some true, some true, some true, some true, some false], true) := by
    decide +kernel
  obtain ⟨s₁, first, ran⟩ := Option.bind_eq_some_iff.mp ran
  obtain ⟨s₂, second, ran⟩ := Option.bind_eq_some_iff.mp ran
  obtain ⟨s₃, third, ran⟩ := Option.bind_eq_some_iff.mp ran
  obtain ⟨s₄, fourth, ran⟩ := Option.bind_eq_some_iff.mp ran
  obtain ⟨s₅, fifth, facts⟩ := Option.map_eq_some_iff.mp ran
  simp only [List.map_cons, List.map_nil, Prod.mk.injEq, List.cons.injEq, beq_iff_eq,
    and_true] at facts
  obtain ⟨⟨at₁, at₂, at₃, at₄, at₅⟩, same⟩ := facts
  let turn : ℕ → State (List Bytes × Bool)
    | 0 => fourDatagrams
    | 1 => s₁
    | 2 => s₂
    | 3 => s₃
    | 4 => s₄
    | _ => s₅
  refine ⟨turn, rfl, same, ?_⟩
  have sound : Sound H (turn 0) [] := .idle empty_intact rfl List.length_replicate rfl
  have rounds (n : ℕ) (here : (turn n).pc = .peek 0) :
      Round H (decide (0 ≤ n)) (turn n) (turn (n + 1)) := by
    rw [decide_eq_true (Nat.zero_le n)]
    rcases n with _ | _ | _ | _ | _ | n
    · exact round_of_runRound first at₁
    · exact round_of_runRound second at₂
    · exact round_of_runRound third at₃
    · exact round_of_runRound fourth at₄
    · exact round_of_runRound fifth at₅
    · have looping : s₅.pc = .peek 0 := here
      rw [looping] at at₅
      exact absurd at₅ (by decide)
  exact drain_loop_breaks bundled_buffers sound rfl rounds

end SpaceCaptain.Server
