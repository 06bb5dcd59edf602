import SpaceCaptain.Dtls.Backlog
import SpaceCaptain.Library.Outbox
import SpaceCaptain.Server.Sessions

/-!
# Replies under back-pressure

The server hands each reply to `sc_dtls_write` once, and forgets a reply for which the write would
block. The library has encoded it and would send it in the next write, in place of the reply of
that write. But the server writes only after a read of the same session has given it a message, and
that read has sent what waited before. An observer keeps an outbox for each session: the replies
are its attempts, and it records which reply every application record on the wire was encoded for.
In every run the acknowledged replies are on the wire exactly once and in order.
-/
namespace SpaceCaptain.Server

open SpaceCaptain.Dtls SpaceCaptain.Library

variable {ρ : Type}

/-- A packet that is put on the wire. -/
structure Sending (ρ : Type) where
  /-- The session whose call sends it. -/
  sid : Nat
  /-- The state of the library at the start of that call. -/
  ssl : ρ
  /-- The packet. -/
  bytes : Bytes

/-- The packet that a callback of a call puts on the wire in a step, if any. What `sc_dtls_close`
sends is the end of its session. -/
def sending (H : Host ρ) (s : State ρ) : Input ρ → Option (Sending ρ)
  | .send .sent =>
    match s.pc with
    | .engine _ client call seen => do
      let c ← s.registry.clients.get? client
      let sid ← c.dtlsSession
      let session ← s.registry.sessions.get? sid
      match H.engine.move call session.ssl seen with
      | .send bytes => some ⟨sid, session.ssl, bytes⟩
      | _ => none
    | _ => none
  | _ => none

/-- An outbox after a packet: a waiting record was encoded for the reply that is stuck, and any
other for the current reply. -/
def afterSend (B : Backlog ρ) (ssl : ρ) (bytes : Bytes) (o : Outbox Bytes) : Outbox Bytes :=
  match B.opens ssl bytes with
  | some x => o.put (if (B.pending ssl).isSome then o.stuck.getD o.tried else o.tried) x
  | none => o

/-- An outbox after the return of a call: a write is acknowledged when it succeeds. -/
def afterReturn (B : Backlog ρ) (ssl : ρ) (result : DtlsResult) (o : Outbox Bytes) :
    Call → Outbox Bytes
  | .write reply => if result = .ok then o.ack reply else o.giveUp (B.pending ssl).isNone
  | _ => o

/-- The outboxes of the sessions after a step. -/
def traffic (H : Host ρ) (B : Backlog ρ) (s : State ρ) (input : Input ρ)
    (out : Nat → Outbox Bytes) : Nat → Outbox Bytes :=
  match sending H s input, returning H s input with
  | some p, _ => Function.update out p.sid (afterSend B p.ssl p.bytes (out p.sid))
  | none, some r => Function.update out r.sid
      (afterReturn B r.session.ssl (callResult r.session r.ssl r.call r.ret).2.1 (out r.sid)
        r.call)
  | none, none => out

/-- `mbedtls_ssl_setup` leaves nothing waiting. -/
def startsClear {τ : Type} (B : Backlog ρ) (_ : τ) (input : Input ρ) : Bool :=
  match input with
  | .peek false add _ => (B.pending add.session.ssl).isNone
  | _ => true

/-- The client and the reply of the running write, when its packet is on the wire. -/
def Pc.flight : Pc → Option (Nat × Bytes)
  | .engine _ client (.write reply) (.sent (.ok _) :: _) => some (client, reply)
  | _ => none

/-- The reply of the running write of a session is on the wire. -/
def Flying (s : State ρ) (l : List Entry) (sid : Nat) (reply : Bytes) : Prop :=
  ∃ client c, s.pc.flight = some (client, reply) ∧ (client, c) ∈ l ∧ c.dtlsSession = some sid

/-- What a run keeps of the outboxes. -/
structure Outboxes (B : Backlog ρ) (s : State ρ) (out : Nat → Outbox Bytes) (l : List Entry) :
    Prop where
  /-- A session without a reply on the wire is between two replies. -/
  calm : ∀ sid, (∀ reply, ¬Flying s l sid reply) → (out sid).Between
  /-- A session with a reply on the wire is in its write. -/
  flying : ∀ sid reply, Flying s l sid reply → (out sid).Underway reply
  /-- A waiting record was encoded for a reply that is stuck. -/
  stuck : ∀ sid session x, s.registry.sessions.get? sid = some session →
    B.pending session.ssl = some (some x) → ∃ attempt, (out sid).stuck = some attempt
  /-- In a write nothing was waiting. -/
  ready : ∀ e ∈ l, ∀ sid session reply, s.pc.client = some e.1 →
    s.pc.call = some (.write reply) → e.2.dtlsSession = some sid →
    s.registry.sessions.get? sid = some session → B.pending session.ssl = none

section Steps

variable {H : Host ρ} {B : Backlog ρ} {s s' : State ρ} {l l' : List Entry}
  {out : Nat → Outbox Bytes}

/-- The packet that the library sends in the call that the server is in. -/
theorem InCall.sending {left client : Nat} {call : Call} {seen : List Seen} {c : Client}
    {sid : Nat} {session : Session ρ} {bytes : Bytes}
    (inside : InCall s l left client call seen c sid session) (intact : Intact s.registry l)
    (moves : H.engine.move call session.ssl seen = .send bytes) :
    sending H s (.send .sent) = some ⟨sid, session.ssl, bytes⟩ := by
  obtain ⟨n, live, rfl⟩ := intact.node inside.member
  simp only [Server.sending, inside.at_pc, live, inside.owns, inside.live, moves,
    Option.bind_eq_bind, Option.bind_some]

/-- A step that neither puts a packet on the wire nor lets a call return. -/
theorem traffic_quiet {input : Input ρ} (unsent : input ≠ .send .sent)
    (running : ∀ outcomes, input ≠ .finish outcomes) : traffic H B s input out = out := by
  cases input with
  | send outcome =>
    cases outcome with
    | sent => exact absurd rfl unsent
    | again | failed => rfl
  | finish outcomes => exact absurd rfl (running outcomes)
  | _ => rfl

/-- A call that has just begun has no packet on the wire. -/
theorem flight_fresh (left client : Nat) (call : Call) :
    Pc.flight (.engine left client call []) = none := by
  cases call <;> rfl

/-- Only the first answer to a write that says its packet was sent puts it on the wire. -/
theorem flight_append (left client : Nat) (call : Call) (seen : List Seen) {answer : Seen}
    (other : ∀ n, answer ≠ .sent (.ok n)) :
    Pc.flight (.engine left client call (seen ++ [answer])) =
      Pc.flight (.engine left client call seen) := by
  cases call with
  | handshake | read => rfl
  | write reply =>
    cases seen with
    | cons first rest =>
      cases first with
      | received result => rfl
      | sent result => cases result <;> rfl
    | nil =>
      cases answer with
      | received result => rfl
      | sent result =>
        cases result with
        | error code => rfl
        | ok n => exact absurd rfl (other n)

/-- The session of a running call is the only one that can have a reply on the wire. -/
theorem Flying.of_call {left client sid q : Nat} {reply : Bytes} {call : Call} {seen : List Seen}
    {c : Client} {session : Session ρ} (flying : Flying s l q reply) (intact : Intact s.registry l)
    (inside : InCall s l left client call seen c sid session) :
    q = sid ∧ call = .write reply ∧ ∃ n rest, seen = .sent (.ok n) :: rest := by
  obtain ⟨client', c', flight, member, owns⟩ := flying
  rw [inside.at_pc] at flight
  unfold Pc.flight at flight
  split at flight
  · rename_i left₀ client₀ reply₀ n rest at_pc
    obtain ⟨-, rfl, rfl, rfl⟩ := Pc.engine.inj at_pc
    obtain ⟨rfl, rfl⟩ := Prod.mk.inj (Option.some.inj flight)
    obtain rfl := intact.same member inside.member
    exact ⟨Option.some.inj (owns.symm.trans inside.owns), rfl, n, rest, rfl⟩
  · contradiction

/-- The session of a write whose packet is on the wire has its reply there. -/
theorem InCall.flying {left client sid n : Nat} {reply : Bytes} {rest : List Seen} {c : Client}
    {session : Session ρ}
    (inside : InCall s l left client (.write reply) (.sent (.ok n) :: rest) c sid session) :
    Flying s l sid reply :=
  ⟨client, c, by rw [inside.at_pc]; rfl, inside.member, inside.owns⟩

/-- A step that neither puts a packet on the wire nor lets a call return leaves the packet of the
running write where it is. -/
theorem Move.flight {input : Input ρ} (move : Move H s l input s' l') (unsent : input ≠ .send .sent)
    (running : ∀ outcomes, input ≠ .finish outcomes) :
    s'.pc.flight = none ∧ s.pc.flight = none ∨ s'.pc.flight = s.pc.flight ∧ l' = l := by
  have idle {pc : Pc} (at_pc : s.pc = pc) (empty : pc.flight = none) : s.pc.flight = none := by
    rw [at_pc]
    exact empty
  cases move with
  | arrive | signal | interrupted => exact .inr ⟨rfl, rfl⟩
  | dispatch _ _ _ _ at_pc | sweep _ _ _ _ _ _ at_pc | leave at_pc | lastEvent at_pc
  | nextEvent _ at_pc | drained _ _ _ _ at_pc | refused _ _ _ _ _ _ at_pc
  | consume _ _ _ _ _ at_pc | discard _ _ _ _ _ _ _ _ at_pc | shutdown _ _ _ _ at_pc
  | halt _ at_pc => exact .inl ⟨rfl, idle at_pc rfl⟩
  | known _ _ _ _ _ _ _ _ _ at_pc | admitted _ _ _ _ _ _ _ at_pc =>
    exact .inl ⟨flight_fresh _ _ _, idle at_pc rfl⟩
  | send left client call seen _ _ _ bytes outcome inside =>
    refine .inr ⟨?_, rfl⟩
    rw [inside.at_pc]
    refine flight_append left client call seen fun n same => ?_
    cases outcome with
    | sent => exact unsent rfl
    | again | failed => simp [udpSend] at same
  | recv left client call seen _ _ _ _ _ _ _ received inside =>
    refine .inr ⟨?_, rfl⟩
    rw [inside.at_pc]
    exact flight_append left client call seen fun n => nofun
  | finish => exact absurd rfl (running _)

/-- A step in which no call returns leaves nothing waiting that did not wait before. -/
theorem Outboxes.sessions {input : Input ρ} {τ : Type} {t : τ} (sound : Sound H s l)
    (outboxes : Outboxes B s out l) (clear : startsClear B (s, t) input = true)
    (move : Move H s l input s' l') (sound' : Sound H s' l') (origins : ∀ q session',
      s'.registry.sessions.get? q = some session' → Origin s l H q session' input)
    (running : ∀ outcomes, input ≠ .finish outcomes) :
    (∀ sid session x, s'.registry.sessions.get? sid = some session →
      B.pending session.ssl = some (some x) → ∃ attempt, (out sid).stuck = some attempt) ∧
    ∀ e ∈ l', ∀ sid session reply, s'.pc.client = some e.1 →
      s'.pc.call = some (.write reply) → e.2.dtlsSession = some sid →
      s'.registry.sessions.get? sid = some session → B.pending session.ssl = none := by
  constructor
  · intro sid session x live waits
    cases origins sid session live with
    | kept _ same => exact outboxes.stuck sid session x same waits
    | created _ _ _ _ _ _ _ _ ssl =>
      have blank : B.pending session.ssl = none := by simpa [startsClear, ssl] using clear
      rw [blank] at waits
      contradiction
    | returned => exact absurd rfl (running _)
  · intro e entry sid session reply here writes owns live
    obtain ⟨sid', session', owns', live', descent⟩ := move.descent sound sound' origins entry
    obtain rfl := Option.some.inj (owns.symm.trans owns')
    obtain rfl := Option.some.inj (live.symm.trans live')
    cases descent with
    | kept _ c old _ _ owned alive goesOn begins =>
      by_cases before : s.pc.client = some e.1
      · have same := (goesOn before).2.symm.trans writes
        exact outboxes.ready _ old sid session reply before same owned alive
      · have first : firstCall c = .write reply :=
          Option.some.inj ((begins before here).symm.trans writes)
        unfold firstCall at first
        split at first <;> contradiction
    | created _ _ _ _ _ place => exact absurd (place.2.symm.trans writes) nofun
    | returned => exact absurd rfl (running _)

/-- A step that neither puts a packet on the wire nor lets a call return. -/
theorem Outboxes.quiet {input : Input ρ} {τ : Type} {t : τ} (sound : Sound H s l)
    (outboxes : Outboxes B s out l) (clear : startsClear B (s, t) input = true)
    (move : Move H s l input s' l') (sound' : Sound H s' l') (origins : ∀ q session',
      s'.registry.sessions.get? q = some session' → Origin s l H q session' input)
    (unsent : input ≠ .send .sent) (running : ∀ outcomes, input ≠ .finish outcomes) :
    Outboxes B s' out l' := by
  obtain ⟨stuck, ready⟩ := outboxes.sessions sound clear move sound' origins running
  have same (sid : Nat) (reply : Bytes) : Flying s' l' sid reply ↔ Flying s l sid reply := by
    unfold Flying
    rcases move.flight unsent running with ⟨after, before⟩ | ⟨flight, rfl⟩
    · simp [after, before]
    · rw [flight]
  exact ⟨fun sid calm => outboxes.calm sid fun reply here => calm reply ((same sid reply).mpr here),
    fun sid reply here => outboxes.flying sid reply ((same sid reply).mp here), stuck, ready⟩

/-- A packet leaves it open which reply is stuck. -/
theorem afterSend_stuck (B : Backlog ρ) (ssl : ρ) (bytes : Bytes) (o : Outbox Bytes) :
    (afterSend B ssl bytes o).stuck = o.stuck := by
  unfold afterSend
  split <;> rfl

/-- A call other than a write has no packet of a write on the wire. -/
theorem flight_other {call : Call} (other : ∀ reply, call ≠ .write reply) (left client : Nat)
    (seen : List Seen) : Pc.flight (.engine left client call seen) = none := by
  cases call with
  | handshake | read => rfl
  | write reply => exact absurd rfl (other reply)

/-- The packet of a call other than a write leaves its outbox between two replies. -/
theorem Outboxes.other_sent {left client sid : Nat} {call : Call} {seen : List Seen} {c : Client}
    {session : Session ρ} {bytes : Bytes} (laws : B.Laws H.engine) (outboxes : Outboxes B s out l)
    (inside : InCall s l left client call seen c sid session)
    (moves : H.engine.move call session.ssl seen = .send bytes)
    (other : ∀ reply, call ≠ .write reply) (between : (out sid).Between) :
    (afterSend B session.ssl bytes (out sid)).Between := by
  unfold afterSend
  rcases laws.others call session.ssl seen bytes other moves with absent | ⟨x, waits, carries⟩
  · rw [absent]
    exact between
  · obtain ⟨attempt, stuck⟩ := outboxes.stuck sid session x inside.live waits
    simp only [carries, waits, Option.isSome_some, if_true, stuck, Option.getD_some]
    exact between.put_stuck stuck

/-- Inside a write nothing was waiting at its start. -/
theorem Outboxes.blank {left client sid : Nat} {reply : Bytes} {seen : List Seen} {c : Client}
    {session : Session ρ} (outboxes : Outboxes B s out l)
    (inside : InCall s l left client (.write reply) seen c sid session) :
    B.pending session.ssl = none := by
  have place : s.pc.client = some client ∧ s.pc.call = some (.write reply) := by
    rw [inside.at_pc]
    exact ⟨rfl, rfl⟩
  exact outboxes.ready _ inside.member sid session reply place.1 place.2 inside.owns inside.live

/-- The packet of a write puts its reply on the wire. -/
theorem Outboxes.reply_sent {left client sid : Nat} {reply bytes : Bytes} {seen : List Seen}
    {c : Client} {session : Session ρ} (laws : B.Laws H.engine) (sound : Sound H s l)
    (outboxes : Outboxes B s out l)
    (inside : InCall s l left client (.write reply) seen c sid session)
    (moves : H.engine.move (.write reply) session.ssl seen = .send bytes) :
    seen = [] ∧ (afterSend B session.ssl bytes (out sid)).Underway reply := by
  obtain ⟨rfl, carries⟩ := laws.sends _ _ _ _ moves
  have blank := outboxes.blank inside
  have between : (out sid).Between := outboxes.calm sid fun r flying => by
    obtain ⟨-, -, n, rest, seen⟩ := flying.of_call sound.intact inside
    contradiction
  refine ⟨rfl, out sid, between, ?_⟩
  rw [blank, Option.getD_none] at carries
  simp [afterSend, carries, blank]

/-- A step that puts a packet on the wire. -/
theorem Outboxes.sent {τ : Type} {t : τ} {left client sid : Nat} {call : Call} {seen : List Seen}
    {c : Client} {session : Session ρ} {bytes : Bytes} (laws : B.Laws H.engine)
    (sound : Sound H s l) (outboxes : Outboxes B s out l)
    (clear : startsClear B (s, t) (.send .sent) = true)
    (inside : InCall s l left client call seen c sid session)
    (moves : H.engine.move call session.ssl seen = .send bytes)
    (move : Move H s l (.send .sent) s' l) (sound' : Sound H s' l) (origins : ∀ q session',
      s'.registry.sessions.get? q = some session' → Origin s l H q session' (.send .sent))
    (at_pc : s'.pc = .engine left client call (seen ++ [.sent (udpSend bytes .sent)])) :
    Outboxes B s' (traffic H B s (.send .sent) out) l := by
  obtain ⟨stuck, ready⟩ := outboxes.sessions sound clear move sound' origins nofun
  have updated : traffic H B s (.send .sent) out =
      Function.update out sid (afterSend B session.ssl bytes (out sid)) := by
    simp only [traffic, inside.sending sound.intact moves]
  have calm (q : Nat) (apart : q ≠ sid) : (out q).Between :=
    outboxes.calm q fun reply flying => apart (flying.of_call sound.intact inside).1
  have still (q : Nat) : (traffic H B s (.send .sent) out q).stuck = (out q).stuck := by
    rw [updated]
    by_cases here : q = sid
    · subst here
      rw [Function.update_self, afterSend_stuck]
    · rw [Function.update_of_ne here]
  have stuck' (q : Nat) (session' : Session ρ) (x : Bytes)
      (live : s'.registry.sessions.get? q = some session')
      (waits : B.pending session'.ssl = some (some x)) :
      ∃ attempt, (traffic H B s (.send .sent) out q).stuck = some attempt := by
    rw [still]
    exact stuck q session' x live waits
  by_cases write : ∃ reply, call = .write reply
  · obtain ⟨reply, rfl⟩ := write
    obtain ⟨rfl, underway⟩ := outboxes.reply_sent laws sound inside moves
    have flight : s'.pc.flight = some (client, reply) := by
      rw [at_pc]
      rfl
    have here : Flying s' l sid reply := ⟨client, c, flight, inside.member, inside.owns⟩
    refine ⟨fun q nothing => ?_, fun q r flying => ?_, stuck', ready⟩
    · have apart : q ≠ sid := by
        rintro rfl
        exact nothing reply here
      rw [updated, Function.update_of_ne apart]
      exact calm q apart
    · obtain ⟨client', c', flight', member, owns⟩ := flying
      obtain ⟨rfl, rfl⟩ := Prod.mk.inj (Option.some.inj (flight.symm.trans flight'))
      obtain rfl := sound.intact.same member inside.member
      obtain rfl := Option.some.inj (owns.symm.trans inside.owns)
      rw [updated, Function.update_self]
      exact underway
  · have other : ∀ reply, call ≠ .write reply := not_exists.mp write
    have grounded (q : Nat) (reply : Bytes) : ¬Flying s' l q reply := by
      rintro ⟨client', c', flight, -⟩
      rw [at_pc, flight_other other] at flight
      contradiction
    refine ⟨fun q _ => ?_, fun q r flying => absurd flying (grounded q r), stuck', ready⟩
    rw [updated]
    by_cases here : q = sid
    · subst here
      rw [Function.update_self]
      refine outboxes.other_sent laws inside moves other (outboxes.calm q fun reply flying => ?_)
      exact other reply (flying.of_call sound.intact inside).2.1
    · rw [Function.update_of_ne here]
      exact calm q here

/-- After a return no packet of a write is on the wire. -/
theorem Settled.flight {left client sid : Nat} {call : Call} {result : DtlsResult} {data : Bytes}
    (settled : Settled H s l left client sid call result data s' l') : s'.pc.flight = none := by
  cases settled <;> rfl

/-- After a return the server is in a write only when a read has given a message. -/
theorem Settled.writes {left client sid : Nat} {call : Call} {result : DtlsResult} {data : Bytes}
    (settled : Settled H s l left client sid call result data s' l') {reply : Bytes}
    (writes : s'.pc.call = some (.write reply)) :
    (∃ len, call = .read len) ∧ result = .ok ∧ l' = l := by
  cases settled with
  | answered len => exact ⟨⟨len, rfl⟩, rfl, rfl⟩
  | _ => contradiction

/-- What the return of a write says. -/
theorem write_succeeds (laws : B.Laws H.engine) {reply : Bytes} {seen : List Seen}
    {session : Session ρ} {ret : Except MbedErr Nat} {ssl : ρ} {accepted : Bool}
    (moves : H.engine.move (.write reply) session.ssl seen = .finish ret ssl accepted)
    (ok : (callResult session ssl (.write reply) ret).2.1 = .ok) :
    (∃ n rest, seen = .sent (.ok n) :: rest) ∧ B.pending ssl = none := by
  cases ret with
  | ok n => exact laws.succeeds reply session.ssl seen n ssl accepted moves
  | error code => cases code <;> simp [callResult, writeResult] at ok

/-- The return of a call leaves its outbox between two replies. -/
theorem Outboxes.between (laws : B.Laws H.engine) {left client sid : Nat} {call : Call}
    {seen : List Seen} {c : Client} {session : Session ρ} {ret : Except MbedErr call.Value}
    {ssl : ρ} {accepted : Bool} (sound : Sound H s l) (outboxes : Outboxes B s out l)
    (inside : InCall s l left client call seen c sid session)
    (moves : H.engine.move call session.ssl seen = .finish ret ssl accepted) :
    (afterReturn B session.ssl (callResult session ssl call ret).2.1 (out sid) call).Between := by
  have calm (other : ∀ reply, call ≠ .write reply) : (out sid).Between :=
    outboxes.calm sid fun reply flying => other reply (flying.of_call sound.intact inside).2.1
  cases call with
  | handshake | read => exact calm nofun
  | write reply =>
    by_cases ok : (callResult session ssl (.write reply) ret).2.1 = .ok
    · obtain ⟨⟨n, rest, rfl⟩, -⟩ := write_succeeds laws moves ok
      simp only [afterReturn, if_pos ok]
      exact (outboxes.flying sid reply inside.flying).ack
    · simp only [afterReturn, if_neg ok]
      by_cases flying : Flying s l sid reply
      · exact (outboxes.flying sid reply flying).giveUp _
      · refine (outboxes.calm sid fun r here => flying ?_).giveUp _
        obtain ⟨-, same, -⟩ := here.of_call sound.intact inside
        rw [Call.write.inj same]
        exact here

/-- What waits after a call was encoded for a reply that is stuck. -/
theorem Outboxes.waiting (laws : B.Laws H.engine) {left client sid : Nat} {call : Call}
    {seen : List Seen} {c : Client} {session : Session ρ} {ret : Except MbedErr call.Value}
    {ssl : ρ} {accepted : Bool} (outboxes : Outboxes B s out l)
    (inside : InCall s l left client call seen c sid session)
    (moves : H.engine.move call session.ssl seen = .finish ret ssl accepted) {x : Bytes}
    (waits : B.pending ssl = some (some x)) :
    ∃ attempt, (afterReturn B session.ssl (callResult session ssl call ret).2.1 (out sid)
      call).stuck = some attempt := by
  have before (other : ∀ reply, call ≠ .write reply) :
      ∃ attempt, (out sid).stuck = some attempt := by
    have waited := laws.clears call session.ssl seen ret ssl accepted x other moves waits
    exact outboxes.stuck sid session x inside.live waited
  cases call with
  | handshake | read => exact before nofun
  | write reply =>
    have blank := outboxes.blank inside
    by_cases ok : (callResult session ssl (.write reply) ret).2.1 = .ok
    · obtain ⟨-, nothing⟩ := write_succeeds laws moves ok
      rw [nothing] at waits
      contradiction
    · simp only [afterReturn, if_neg ok, blank, Option.isNone_none]
      exact ⟨_, rfl⟩

/-- The return of a call. -/
theorem Outboxes.returned {left client sid : Nat} {call : Call} {seen : List Seen} {c : Client}
    {session : Session ρ} {ret : Except MbedErr call.Value} {ssl : ρ} {accepted : Bool}
    {outcomes : List SendOutcome} {s₁ : State ρ} {data : Bytes} (laws : B.Laws H.engine)
    (sound : Sound H s l) (outboxes : Outboxes B s out l)
    (inside : InCall s l left client call seen c sid session)
    (moves : H.engine.move call session.ssl seen = .finish ret ssl accepted)
    (settled : Settled H s₁ l left client sid call (callResult session ssl call ret).2.1 data s' l')
    (origins : ∀ q session', s'.registry.sessions.get? q = some session' →
      Origin s l H q session' (.finish outcomes)) :
    Outboxes B s' (traffic H B s (.finish outcomes) out) l' := by
  have back := inside.returning sound.intact moves outcomes
  have updated : traffic H B s (.finish outcomes) out = Function.update out sid
      (afterReturn B session.ssl (callResult session ssl call ret).2.1 (out sid) call) := by
    simp only [traffic, sending, back]
  have grounded (q : Nat) (reply : Bytes) : ¬Flying s' l' q reply := by
    rintro ⟨client', c', flight, -⟩
    rw [settled.flight] at flight
    contradiction
  refine ⟨fun q _ => ?_, fun q reply flying => absurd flying (grounded q reply), ?_, ?_⟩
  · rw [updated]
    by_cases here : q = sid
    · subst here
      rw [Function.update_self]
      exact outboxes.between laws sound inside moves
    · rw [Function.update_of_ne here]
      exact outboxes.calm q fun reply flying => here (flying.of_call sound.intact inside).1
  · intro q session' x live waits
    rw [updated]
    by_cases here : q = sid
    · subst here
      rw [(origins q session' live).current sound.intact inside moves, callResult_ssl] at waits
      rw [Function.update_self]
      exact outboxes.waiting laws inside moves waits
    · rw [Function.update_of_ne here]
      exact outboxes.stuck q session' x ((origins q session' live).other sound.intact inside here)
        waits
  · intro e entry q session' reply works writes owns live
    obtain ⟨⟨len, rfl⟩, ok, rfl⟩ := settled.writes writes
    obtain ⟨p, d⟩ := e
    obtain rfl : client = p := settled.current works
    obtain rfl := sound.intact.same entry inside.member
    obtain rfl := Option.some.inj (owns.symm.trans inside.owns)
    rw [(origins q session' live).current sound.intact inside moves, callResult_ssl]
    obtain ⟨bytes, rfl, -⟩ := readResult_ok (Prod.ext ok rfl)
    exact laws.read_clears moves

end Steps

/-- In every run the acknowledged replies of every session are on the wire exactly once and in
order, and what is still waiting was encoded for none of them. -/
theorem acknowledged_replies_sent {H : Host ρ} {B : Backlog ρ} (laws : B.Laws H.engine)
    {s : State ρ} {out : Nat → Outbox Bytes}
    (reached : Watched H (fun _ _ => .empty) (traffic H B) (startsClear B) (s, out))
    (sid : Nat) : (out sid).Faithful := by
  obtain ⟨l, -, outboxes⟩ := Watched.listed_sessions (I := Outboxes B)
    (fun s starts => by
      obtain ⟨-, buffer, now, -, rfl⟩ := starts
      refine ⟨fun _ _ => Outbox.empty_between, ?_, ?_, ?_⟩
      · rintro _ _ ⟨_, _, flight, -⟩
        contradiction
      · intro _ _ _ live
        simp [start, Registry.empty] at live
      · exact fun _ entry => absurd entry List.not_mem_nil)
    (fun s out l input s' l' sound outboxes clear move sound' origins => by
      by_cases returns : ∃ outcomes, input = .finish outcomes
      · obtain ⟨outcomes, rfl⟩ := returns
        cases move with
        | finish left client call seen c sid session ret ssl accepted _ _ _ _ inside moves _ _
            settled => exact outboxes.returned laws sound inside moves settled origins
      · by_cases sends : input = .send .sent
        · subst sends
          have taken := move
          cases move with
          | send left client call seen c sid session bytes _ inside moves =>
            exact outboxes.sent laws sound clear inside moves taken sound' origins rfl
        · have quiet := outboxes.quiet sound clear move sound' origins sends
            (not_exists.mp returns)
          rwa [traffic_quiet sends (not_exists.mp returns)]) reached
  by_cases flying : ∃ reply, Flying s l sid reply
  · obtain ⟨reply, flying⟩ := flying
    exact (outboxes.flying sid reply flying).faithful
  · exact (outboxes.calm sid (not_exists.mp flying)).toFaithful

/-- The socket takes no packet for the first reply of a client, which then sends another byte. The
read of that byte sends the first reply. -/
def givenUpReply : List (Input (Option Bytes)) :=
  greetThenSend none [7] ++
    [.recv .ready .normal, .finish [], .send .again, .finish [],
      .arrive ⟨⟨1, 1⟩, [8]⟩, .peek false (addSucceeds 0 none) 0, .send .sent,
      .recv .ready .normal, .finish [], .send .sent, .finish []]

/-- The reply that was given up goes out late and as itself, and the acknowledged one after it. -/
theorem acknowledged_replies_sent_givenUp :
    ∃ s out, runGuarded (observe (advance ⟨retaining, .little, serverContext, 3⟩)
        (traffic ⟨retaining, .little, serverContext, 3⟩ retainingBacklog))
        (startsClear retainingBacklog) (startZero, fun _ => .empty) givenUpReply = some (s, out) ∧
      (out 0).wire = [(0, [7]), (1, [8])] ∧ (out 0).acked = [(1, [8])] ∧ (out 0).Faithful := by
  have ran : (runGuarded (observe (advance ⟨retaining, .little, serverContext, 3⟩)
      (traffic ⟨retaining, .little, serverContext, 3⟩ retainingBacklog))
      (startsClear retainingBacklog) (startZero, fun _ => .empty) givenUpReply).map
        (fun x => ((x.2 0).wire, (x.2 0).acked)) =
      some ([(0, [7]), (1, [8])], [(1, [8])]) := by
    decide +kernel
  obtain ⟨⟨s, out⟩, executed, facts⟩ := Option.map_eq_some_iff.mp ran
  obtain ⟨wire, acked⟩ := Prod.mk.inj facts
  refine ⟨s, out, executed, wire, acked, ?_⟩
  exact acknowledged_replies_sent retaining_laws (H := ⟨retaining, .little, serverContext, 3⟩)
    (reach_of_runGuarded _ (.start ⟨starts_startZero retaining .little 3, rfl⟩) executed) 0

end SpaceCaptain.Server
