import SpaceCaptain.Library.Reach
import SpaceCaptain.Dtls.Intake

/-!
# A read with nothing to read

`sc_dtls_read` is meant not to block, but the library has two receive callbacks and prefers the
one that waits in `select`. This module follows one read of a session of either role, callback by
callback, from any socket and through anything the operating system does. What the library does
between the callbacks is stated as laws. A read with nothing to read always returns, and it says
"would block" without having waited exactly when no system call of it fails, no datagram that it
takes is empty, `select` never finds the socket empty, and the library's own read timer, which an
earlier read may have started, has not run out.
-/
namespace SpaceCaptain.Dtls

open SpaceCaptain.Library

variable {ρ : Type*}

/-- What the operating system does in a callback. -/
inductive OsReply where
  /-- `udp_send` calls `sendto`. -/
  | sendto (outcome : SendOutcome)
  /-- `udp_recv_timeout` calls `select`, and `recvfrom` unless `select` rules it out. -/
  | receive (select : SelectOutcome) (outcome : RecvOutcome)
  deriving DecidableEq, Repr

/-- A call into the library that has not returned yet. -/
structure Progress where
  /-- What the callbacks returned so far. -/
  seen : List Seen
  /-- The socket. -/
  sock : List Datagram
  /-- A `select` has waited on an empty socket. -/
  waited : Bool

/-- The `struct timeval` of `udp_recv_timeout`: seconds and microseconds. -/
def timeval (timeout : Nat) : Nat × Nat := (timeout / 1000, timeout % 1000 * 1000)

/-- `select` waits on an empty socket until its time, which is not zero, is over. -/
def sleeps (timeout : Nat) (select : SelectOutcome) (sock : List Datagram) : Bool :=
  sock.isEmpty && select == .waits && timeval timeout != (0, 0)

/-- One callback of a call. -/
def callback (E : Engine ρ) (session : Session ρ) (call : Call) (p : Progress)
    (reply : OsReply) : Option Progress :=
  match E.move call session.ssl p.seen, reply with
  | .send bytes, .sendto outcome =>
    some { p with seen := p.seen ++ [.sent (udpSend bytes outcome)] }
  | .recv len timeout, .receive select outcome =>
    let received := udpRecvTimeout session len select outcome p.sock
    some {
      seen := p.seen ++ [.received received.result]
      sock := received.sock
      waited := p.waited || sleeps timeout select p.sock }
  | _, _ => none

/-- The two kinds of callbacks. -/
theorem callback_cases {E : Engine ρ} {session : Session ρ} {call : Call} {p p' : Progress}
    {reply : OsReply} (next : callback E session call p reply = some p') :
    (∃ bytes outcome, E.move call session.ssl p.seen = .send bytes ∧ reply = .sendto outcome ∧
      p' = { p with seen := p.seen ++ [.sent (udpSend bytes outcome)] }) ∨
    ∃ len timeout select outcome, E.move call session.ssl p.seen = .recv len timeout ∧
      reply = .receive select outcome ∧ p' =
        { seen := p.seen ++
            [.received (udpRecvTimeout session len select outcome p.sock).result]
          sock := (udpRecvTimeout session len select outcome p.sock).sock
          waited := p.waited || sleeps timeout select p.sock } := by
  unfold callback at next
  split at next
  · rename_i bytes outcome moves
    exact .inl ⟨bytes, outcome, moves, rfl, (Option.some.inj next).symm⟩
  · rename_i len timeout select outcome moves
    exact .inr ⟨len, timeout, select, outcome, moves, rfl, (Option.some.inj next).symm⟩
  · contradiction

/-- The states of a call on a socket, whatever the operating system does. -/
abbrev Underway (E : Engine ρ) (session : Session ρ) (call : Call) (sock : List Datagram) :
    Progress → Prop :=
  Reach (fun p => p = ⟨[], sock, false⟩)
    (fun p reply p' => callback E session call p reply = some p') fun _ _ => True

/-- What a read gives back. -/
structure ReadReturn (ρ : Type*) where
  /-- The session afterwards. -/
  session : Session ρ
  /-- The result. -/
  result : DtlsResult
  /-- The bytes behind `*bytes_read`. -/
  bytes : Bytes
  /-- The socket afterwards. -/
  sock : List Datagram
  /-- A `select` has waited on an empty socket. -/
  waited : Bool

/-- The return of a read whose last callback has returned. -/
def returnRead (E : Engine ρ) (session : Session ρ) (len : Nat) (p : Progress) :
    Option (ReadReturn ρ) :=
  match E.move (.read len) session.ssl p.seen with
  | .finish ret ssl _ =>
    let (session, result, bytes) := callResult session ssl (.read len) ret
    some { session, result, bytes, sock := p.sock, waited := p.waited }
  | _ => none

/-- The rest of a read, when the operating system does this. -/
def resumeRead (E : Engine ρ) (session : Session ρ) (len : Nat) (p : Progress)
    (replies : List OsReply) : Option (ReadReturn ρ) :=
  (runGuarded (callback E session (.read len)) (fun _ _ => true) p replies).bind
    (returnRead E session len)

/-- `sc_dtls_read` with room for `len` bytes, from its beginning to its return; `none` when the
operating system did fewer or other things than the callbacks asked for. -/
def dtlsRead (E : Engine ρ) (session : Session ρ) (len : Nat) (sock : List Datagram)
    (replies : List OsReply) : Option (ReadReturn ρ) :=
  resumeRead E session len ⟨[], sock, false⟩ replies

/-- The contract of a read that finds nothing: it says so, gives no bytes and has not waited. -/
def ReadReturn.Prompt (r : ReadReturn ρ) : Prop :=
  r.result = .errorWouldBlock ∧ r.bytes = [] ∧ r.waited = false

/-- The code that a callback returned. -/
def Seen.code : Seen → Option MbedErr
  | .sent (.error code) | .received (.error code) => some code
  | _ => none

/-- A callback has returned neither a code nor, for a receive, zero. -/
def Seen.goesOn (answer : Seen) : Prop := answer.code = none ∧ answer ≠ .received (.ok [])

/-- A packet was sent. -/
theorem Seen.goesOn_sent (n : Nat) : Seen.goesOn (.sent (.ok n)) := ⟨rfl, nofun⟩

/-- Some bytes were received. -/
theorem Seen.goesOn_received {bytes : Bytes} (some_bytes : bytes ≠ []) :
    Seen.goesOn (.received (.ok bytes)) :=
  ⟨rfl, fun empty => some_bytes (by simpa using empty)⟩

/-- The last callback, if there was one, has returned neither. -/
def Unstopped (seen : List Seen) : Prop := ∀ answer, seen.getLast? = some answer → answer.goesOn

/-- One more callback. -/
theorem unstopped_concat {seen : List Seen} {answer : Seen} (goesOn : answer.goesOn) :
    Unstopped (seen ++ [answer]) := by
  intro last here
  rw [List.getLast?_concat] at here
  obtain rfl := Option.some.inj here
  exact goesOn

/-- What the states of the library say about a read. -/
structure Reader (ρ : Type*) extends Intake ρ where
  /-- The handshake is over. -/
  established : ρ → Bool
  /-- The closure or the fatal record that the datagrams of a call contained, as its code. -/
  alarm : ρ → List Seen → Option MbedErr
  /-- After these callbacks the library looks at its own read timer, which this read or an earlier
  one has started, and the timer has run out. -/
  timeUp : ρ → List Seen → Bool

/-- There is nothing to read: no application data is held or was in the datagrams of the call, the
peer has not closed the connection and no fatal record came. -/
def Reader.Quiet (B : Reader ρ) (len : Nat) (ssl : ρ) (seen : List Seen) : Prop :=
  B.available (.read len) ssl seen = [] ∧ B.alarm ssl seen = none

/-- Why a read returns what it returns. -/
inductive Reader.Reason (B : Reader ρ) (len : Nat) (ssl : ρ) (seen : List Seen) :
    Except MbedErr Bytes → Prop
  /-- There is application data. -/
  | data (bytes : Bytes) (there : B.available (.read len) ssl seen ≠ []) :
      Reason B len ssl seen (.ok bytes)
  /-- The receive callback returned zero. -/
  | eof (last : seen.getLast? = some (.received (.ok []))) : Reason B len ssl seen (.ok [])
  /-- A callback returned a code. -/
  | code (answer : Seen) (code : MbedErr) (last : seen.getLast? = some answer)
      (negative : answer.code = some code) : Reason B len ssl seen (.error code)
  /-- The peer closed the connection, or a fatal record came. -/
  | alarm (code : MbedErr) (rang : B.alarm ssl seen = some code) :
      Reason B len ssl seen (.error code)
  /-- The library's own read timer has run out. -/
  | timer (up : B.timeUp ssl seen = true) : Reason B len ssl seen (.error .timeout)
  /-- A record came that is of no interest to the program. -/
  | idle : Reason B len ssl seen (.error .wantRead)

/-- How the library reads on an established session with a read timeout. -/
structure Reader.Laws (B : Reader ρ) (E : Engine ρ) (readTimeout : Nat) : Prop where
  /-- It asks with room for some bytes and with the read timeout. -/
  asks : ∀ len ssl seen room timeout, B.established ssl = true →
    E.move (.read len) ssl seen = .recv room timeout → 0 < room ∧ timeout = readTimeout
  /-- It returns the code that a callback returned, `MBEDTLS_ERR_SSL_TIMEOUT` included. -/
  passes : ∀ len ssl seen answer code, B.established ssl = true → Seen.code answer = some code →
    ∃ ssl' accepted, E.move (.read len) ssl (seen ++ [answer]) =
      .finish (.error code) ssl' accepted
  /-- It returns zero when the receive callback returned zero. -/
  eof : ∀ len ssl seen, B.established ssl = true →
    ∃ ssl' accepted, E.move (.read len) ssl (seen ++ [.received (.ok [])]) =
      .finish (.ok []) ssl' accepted
  /-- It returns as after a callback's time-out when its own read timer has run out. -/
  timer : ∀ len ssl seen, B.established ssl = true → B.timeUp ssl seen = true →
    ∃ ssl' accepted, E.move (.read len) ssl seen = .finish (.error .timeout) ssl' accepted
  /-- It returns for a reason. -/
  returns : ∀ len ssl seen ret ssl' accepted, B.established ssl = true →
    E.move (.read len) ssl seen = .finish ret ssl' accepted → B.Reason len ssl seen ret
  /-- It does not send for ever: after some number of packets it does something else. -/
  sends : ∀ len ssl seen, B.established ssl = true → ∃ n, ∀ sent : List Seen, sent.length = n →
    (∀ answer ∈ sent, ∃ k, answer = .sent (.ok k)) → ∀ bytes,
      E.move (.read len) ssl (seen ++ sent) ≠ .send bytes

/-- `udp_recv` drops a datagram, because the session plays the server and the datagram is from
another source. -/
def Session.Drops (session : Session ρ) (d : Datagram) : Prop :=
  session.ctx.role = .server ∧
    (sockaddrLen ≠ session.addrLen ∨ d.src.sockaddr ≠ session.clientAddr)

instance (session : Session ρ) (d : Datagram) : Decidable (session.Drops d) :=
  inferInstanceAs (Decidable (_ ∧ _))

/-- A receive callback does not stop the read: `select` and `recvfrom` do not fail, the first
datagram is not an empty one for the session, and if there is none, then `select` reports the
socket readable all the same. -/
def Favours (session : Session ρ) (sock : List Datagram) (select : SelectOutcome)
    (outcome : RecvOutcome) : Prop :=
  select ≠ .failed ∧ outcome = .normal ∧
    match sock with
    | [] => select = .ready
    | d :: _ => session.Drops d ∨ d.bytes ≠ []

/-- No callback of a read stops it; each receive takes a datagram off the socket. -/
def Favourable (session : Session ρ) : List Datagram → List OsReply → Prop
  | _, [] => True
  | sock, .sendto outcome :: rest => outcome ≠ .failed ∧ Favourable session sock rest
  | sock, .receive select outcome :: rest =>
    Favours session sock select outcome ∧ Favourable session sock.tail rest

/-- Whenever the library looks at its read timer, the timer has not run out. -/
def Reader.InTime (B : Reader ρ) (E : Engine ρ) (session : Session ρ) (len : Nat) :
    Progress → List OsReply → Prop
  | p, [] => B.timeUp session.ssl p.seen = false
  | p, reply :: rest => B.timeUp session.ssl p.seen = false ∧
    ∀ p', callback E session (.read len) p reply = some p' → B.InTime E session len p' rest

/-- Nothing stops a read on a socket: neither a callback nor the library's read timer. -/
def Reader.Unhindered (B : Reader ρ) (E : Engine ρ) (session : Session ρ) (len : Nat)
    (p : Progress) (replies : List OsReply) : Prop :=
  Favourable session p.sock replies ∧ B.InTime E session len p replies

/-- A receive with a datagram in the socket, when no system call fails. -/
theorem udpRecvTimeout_cons (session : Session ρ) (len : Nat) {select : SelectOutcome}
    (selected : select ≠ .failed) (d : Datagram) (rest : List Datagram) :
    udpRecvTimeout session len select .normal (d :: rest) =
      if session.Drops d then ⟨.error .wantRead, rest, .ignored d⟩
      else ⟨.ok (d.bytes.take len), rest, .handed d⟩ := by
  have direct : udpRecvTimeout session len select .normal (d :: rest) =
      udpRecv session len .normal (d :: rest) := by
    cases select with
    | failed => exact absurd rfl selected
    | waits | ready => rfl
  rw [direct]
  by_cases drops : session.Drops d
  · rw [if_pos drops]
    exact if_pos drops
  · rw [if_neg drops]
    exact if_neg drops

/-- A favourable receive takes the first datagram, if there is one, without waiting, and gives the
library some bytes or the word that there is nothing now. -/
theorem udpRecvTimeout_favoured {session : Session ρ} {len : Nat} {select : SelectOutcome}
    {outcome : RecvOutcome} {sock : List Datagram} (room : 0 < len)
    (favours : Favours session sock select outcome) (timeout : Nat) :
    (udpRecvTimeout session len select outcome sock).sock = sock.tail ∧
      sleeps timeout select sock = false ∧
      ((udpRecvTimeout session len select outcome sock).result = .error .wantRead ∨
        ∃ bytes, bytes ≠ [] ∧ sock ≠ [] ∧
          (udpRecvTimeout session len select outcome sock).result = .ok bytes) := by
  obtain ⟨selected, rfl, first⟩ := favours
  cases sock with
  | nil =>
    obtain rfl : select = .ready := first
    exact ⟨rfl, rfl, .inl rfl⟩
  | cons d rest =>
    rw [udpRecvTimeout_cons session len selected d rest]
    split
    · exact ⟨rfl, rfl, .inl rfl⟩
    · rename_i keeps
      have some_bytes : d.bytes.take len ≠ [] := by
        rw [ne_eq, List.take_eq_nil_iff, not_or]
        exact ⟨Nat.ne_of_gt room, first.resolve_left keeps⟩
      exact ⟨rfl, rfl, .inr ⟨_, some_bytes, List.cons_ne_nil d rest, rfl⟩⟩

/-- Any other receive gives the library zero, or a code that is an error to the program. -/
theorem udpRecvTimeout_hindered {session : Session ρ} (len : Nat) {select : SelectOutcome}
    {outcome : RecvOutcome} {sock : List Datagram}
    (hindered : ¬Favours session sock select outcome) :
    (udpRecvTimeout session len select outcome sock).result = .ok [] ∨
      ∃ code, (udpRecvTimeout session len select outcome sock).result = .error code ∧
        readResult (.error code) = (.errorRead, []) := by
  by_cases selected : select = .failed
  · subst selected
    exact .inr ⟨.netRecvFailed, rfl, rfl⟩
  cases sock with
  | nil =>
    cases select with
    | failed => exact absurd rfl selected
    | waits => exact .inr ⟨.timeout, rfl, rfl⟩
    | ready =>
      cases outcome with
      | failed => exact .inr ⟨.netRecvFailed, rfl, rfl⟩
      | normal => exact absurd ⟨selected, rfl, rfl⟩ hindered
  | cons d rest =>
    cases outcome with
    | failed => exact .inr ⟨.netRecvFailed, by cases select <;> rfl, rfl⟩
    | normal =>
      have stops : ¬(session.Drops d ∨ d.bytes ≠ []) :=
        fun fine => hindered ⟨selected, rfl, fine⟩
      obtain ⟨keeps, empty⟩ := not_or.mp stops
      rw [udpRecvTimeout_cons session len selected d rest, if_neg keeps, not_not.mp empty]
      exact .inl (congrArg Except.ok List.take_nil)

section Ends

variable {E : Engine ρ} {B : Reader ρ} {session : Session ρ} {len : Nat} {p : Progress}
  {replies : List OsReply} {r : ReadReturn ρ}

/-- Once the library returns, the read is over. -/
theorem resumeRead_finish {ret : Except MbedErr Bytes} {ssl : ρ} {accepted : Bool}
    (moves : E.move (.read len) session.ssl p.seen = .finish ret ssl accepted) :
    resumeRead E session len p replies = some r ↔ replies = [] ∧ r =
      { session := { session with ssl }
        result := (readResult (ret.map fun data => data.take len)).1
        bytes := (readResult (ret.map fun data => data.take len)).2
        sock := p.sock
        waited := p.waited } := by
  cases replies with
  | nil =>
    simp only [resumeRead, runGuarded, Option.bind_some, returnRead, moves, callResult,
      Option.some.injEq, true_and]
    exact eq_comm
  | cons reply rest =>
    have idle : callback E session (.read len) p reply = none := by
      unfold callback
      rw [moves]
    simp [resumeRead, runGuarded, idle]

/-- While the library asks for a callback, the read goes on. -/
theorem resumeRead_callback {reply : OsReply} {p' : Progress}
    (next : callback E session (.read len) p reply = some p') :
    resumeRead E session len p (reply :: replies) = resumeRead E session len p' replies := by
  simp only [resumeRead, runGuarded, next, if_true]

/-- The read returns the code that the last callback returned. -/
theorem resumeRead_code (laws : B.Laws E session.ctx.readTimeout)
    (established : B.established session.ssl = true) {seen : List Seen} {answer : Seen}
    {code : MbedErr} (last : p.seen = seen ++ [answer]) (negative : answer.code = some code)
    (returned : resumeRead E session len p replies = some r) :
    replies = [] ∧ r.result = (readResult (.error code)).1 ∧
      r.bytes = (readResult (.error code)).2 ∧ r.waited = p.waited := by
  obtain ⟨ssl, accepted, moves⟩ := laws.passes len session.ssl seen answer code established negative
  rw [← last] at moves
  obtain ⟨ended, rfl⟩ := (resumeRead_finish moves).mp returned
  exact ⟨ended, rfl, rfl, rfl⟩

/-- The read fails when the receive callback returned zero. -/
theorem resumeRead_eof (laws : B.Laws E session.ctx.readTimeout)
    (established : B.established session.ssl = true) {seen : List Seen}
    (last : p.seen = seen ++ [.received (.ok [])])
    (returned : resumeRead E session len p replies = some r) : r.result = .errorRead := by
  obtain ⟨ssl, accepted, moves⟩ := laws.eof len session.ssl seen established
  rw [← last] at moves
  obtain ⟨-, rfl⟩ := (resumeRead_finish moves).mp returned
  exact congrArg Prod.fst (readResult_zero len)

/-- The read fails when the library's read timer has run out. -/
theorem resumeRead_timer (laws : B.Laws E session.ctx.readTimeout)
    (established : B.established session.ssl = true) (up : B.timeUp session.ssl p.seen = true)
    (returned : resumeRead E session len p replies = some r) : r.result = .errorRead := by
  obtain ⟨ssl, accepted, moves⟩ := laws.timer len session.ssl p.seen established up
  obtain ⟨-, rfl⟩ := (resumeRead_finish moves).mp returned
  rfl

/-- A library that asks for a callback has time left. -/
theorem callback_inTime (laws : B.Laws E session.ctx.readTimeout)
    (established : B.established session.ssl = true) {reply : OsReply} {p' : Progress}
    (next : callback E session (.read len) p reply = some p') :
    B.timeUp session.ssl p.seen = false := by
  by_contra late
  obtain ⟨ssl, accepted, moves⟩ :=
    laws.timer len session.ssl p.seen established (by simpa using late)
  unfold callback at next
  rw [moves] at next
  contradiction

/-- A library that returns a callback's code does not look at its timer. -/
theorem code_inTime (laws : B.Laws E session.ctx.readTimeout)
    (established : B.established session.ssl = true) (seen : List Seen) {answer : Seen}
    {code : MbedErr} (negative : answer.code = some code) (other : code ≠ .timeout) :
    B.timeUp session.ssl (seen ++ [answer]) = false := by
  by_contra late
  obtain ⟨ssl, accepted, stops⟩ :=
    laws.timer 0 session.ssl _ established (by simpa using late)
  obtain ⟨ssl', accepted', moves⟩ :=
    laws.passes 0 session.ssl seen answer code established negative
  rw [stops] at moves
  exact other (Except.error.inj (Move.finish.inj moves).1).symm

/-- After a callback the rest of the read is in time when the whole is. -/
theorem inTime_callback (laws : B.Laws E session.ctx.readTimeout)
    (established : B.established session.ssl = true) {reply : OsReply} {p' : Progress}
    (next : callback E session (.read len) p reply = some p') :
    B.InTime E session len p (reply :: replies) ↔ B.InTime E session len p' replies := by
  constructor
  · exact fun inTime => inTime.2 p' next
  · intro later
    refine ⟨callback_inTime laws established next, fun q same => ?_⟩
    obtain rfl := Option.some.inj (next.symm.trans same)
    exact later

/-- A read with nothing to read says "would block" when nothing has stopped it. -/
theorem resumeRead_idle (laws : B.Laws E session.ctx.readTimeout)
    (established : B.established session.ssl = true) (quiet : B.Quiet len session.ssl p.seen)
    (unstopped : Unstopped p.seen) (inTime : B.timeUp session.ssl p.seen = false)
    (returned : resumeRead E session len p [] = some r) :
    r.result = .errorWouldBlock ∧ r.bytes = [] ∧ r.waited = p.waited := by
  cases moves : E.move (.read len) session.ssl p.seen with
  | send bytes => simp [resumeRead, runGuarded, returnRead, moves] at returned
  | recv room timeout => simp [resumeRead, runGuarded, returnRead, moves] at returned
  | finish ret ssl accepted =>
    obtain ⟨-, rfl⟩ := (resumeRead_finish moves).mp returned
    cases laws.returns len session.ssl p.seen ret ssl accepted established moves with
    | data bytes there => exact absurd quiet.1 there
    | eof last => exact absurd rfl (unstopped _ last).2
    | code answer code last negative =>
      have positive := (unstopped answer last).1
      rw [negative] at positive
      contradiction
    | alarm code rang =>
      rw [quiet.2] at rang
      contradiction
    | timer up =>
      rw [inTime] at up
      contradiction
    | idle => exact ⟨rfl, rfl, rfl⟩

end Ends

section Whole

variable {E : Engine ρ} {B : Reader ρ} {session : Session ρ} {len : Nat} {sock : List Datagram}
  {p : Progress} {replies : List OsReply} {r : ReadReturn ρ}

/-- A read is prompt if a condition is met, and fails if it is not. -/
def ReadReturn.Verdict (r : ReadReturn ρ) (fine : Prop) : Prop :=
  r.Prompt ∧ fine ∨ r.result = .errorRead ∧ ¬fine

/-- The same verdict under the same condition. -/
theorem ReadReturn.Verdict.congr {fine fine' : Prop} (same : fine' ↔ fine)
    (verdict : r.Verdict fine) : r.Verdict fine' := by
  unfold ReadReturn.Verdict
  rw [same]
  exact verdict

/-- From any point of a read with nothing to read, the rest is prompt if it is unhindered, and
fails if it is not. -/
theorem resumeRead_verdict (laws : B.Laws E session.ctx.readTimeout)
    (established : B.established session.ssl = true)
    (quiet : ∀ p, Underway E session (.read len) sock p → B.Quiet len session.ssl p.seen)
    (underway : Underway E session (.read len) sock p) (unstopped : Unstopped p.seen)
    (awake : p.waited = false) (returned : resumeRead E session len p replies = some r) :
    r.Verdict (B.Unhindered E session len p replies) := by
  induction replies generalizing p with
  | nil =>
    cases up : B.timeUp session.ssl p.seen with
    | true =>
      refine .inr ⟨resumeRead_timer laws established up returned, fun fine => ?_⟩
      exact Bool.noConfusion (up.symm.trans fine.2)
    | false =>
      obtain ⟨result, bytes, waited⟩ :=
        resumeRead_idle laws established (quiet p underway) unstopped up returned
      exact .inl ⟨⟨result, bytes, waited.trans awake⟩, trivial, up⟩
  | cons reply rest ih =>
    cases next : callback E session (.read len) p reply with
    | none => simp [resumeRead, runGuarded, next] at returned
    | some p' =>
      have punctual : B.InTime E session len p (reply :: rest) ↔ B.InTime E session len p' rest :=
        inTime_callback laws established next
      rw [resumeRead_callback next] at returned
      have further : Underway E session (.read len) sock p' := .step underway trivial next
      obtain ⟨bytes, outcome, -, rfl, rfl⟩ | ⟨room, timeout, select, outcome, asks, rfl, rfl⟩ :=
        callback_cases next
      · cases outcome with
        | sent =>
          have goesOn : Seen.goesOn (.sent (udpSend bytes .sent)) := Seen.goesOn_sent _
          have works : SendOutcome.sent ≠ .failed := by decide
          have later := ih further (unstopped_concat goesOn) awake returned
          exact later.congr (and_congr (and_iff_right works) punctual)
        | again =>
          have works : SendOutcome.again ≠ .failed := by decide
          have negative : Seen.code (.sent (udpSend bytes .again)) = some .wantWrite := rfl
          obtain ⟨rfl, result, none_read, waited⟩ :=
            resumeRead_code laws established rfl negative returned
          have inTime := code_inTime laws established p.seen negative (by decide)
          exact .inl ⟨⟨result, none_read, waited.trans awake⟩, ⟨works, trivial⟩,
            punctual.mpr inTime⟩
        | failed =>
          obtain ⟨-, result, -⟩ := resumeRead_code laws established rfl rfl returned
          exact .inr ⟨result, fun fine => fine.1.1 rfl⟩
      · obtain ⟨positive, -⟩ := laws.asks len session.ssl p.seen room timeout established asks
        by_cases favours : Favours session p.sock select outcome
        · obtain ⟨tail, asleep, told⟩ := udpRecvTimeout_favoured positive favours timeout
          have awake' : (p.waited || sleeps timeout select p.sock) = false := by
            rw [awake, asleep]
            rfl
          obtain blocked | ⟨bytes, nonempty, -, given⟩ := told
          · have negative : Seen.code (.received
                (udpRecvTimeout session room select outcome p.sock).result) = some .wantRead := by
              rw [blocked]
              rfl
            obtain ⟨rfl, result, none_read, waited⟩ :=
              resumeRead_code laws established rfl negative returned
            have inTime := code_inTime laws established p.seen negative (by decide)
            exact .inl ⟨⟨result, none_read, waited.trans awake'⟩, ⟨favours, trivial⟩,
              punctual.mpr inTime⟩
          · have goesOn : Seen.goesOn (.received
                (udpRecvTimeout session room select outcome p.sock).result) := by
              rw [given]
              exact Seen.goesOn_received nonempty
            have later := ih further (unstopped_concat goesOn) awake' returned
            have rest_favours : Favourable session
                (udpRecvTimeout session room select outcome p.sock).sock rest ↔
                  Favourable session p.sock.tail rest := by rw [tail]
            exact later.congr (and_congr ((and_iff_right favours).trans rest_favours.symm) punctual)
        · refine .inr ⟨?_, fun fine => favours fine.1.1⟩
          obtain zero | ⟨code, given, unreadable⟩ := udpRecvTimeout_hindered room favours
          · exact resumeRead_eof laws established (by rw [zero]) returned
          · obtain ⟨-, result, -⟩ :=
              resumeRead_code laws established rfl (by rw [given]; rfl) returned
            exact result.trans (congrArg Prod.fst unreadable)

/-- What the operating system would do, whichever system call comes next. -/
structure Os where
  /-- `sendto`. -/
  send : SendOutcome
  /-- `select`. -/
  select : SelectOutcome
  /-- `recvfrom`. -/
  recv : RecvOutcome

/-- The operating system does, callback after callback, what it would do. -/
def Follows (os : Nat → Os) : List OsReply → Prop
  | [] => True
  | reply :: rest =>
    (reply = .sendto (os 0).send ∨ reply = .receive (os 0).select (os 0).recv) ∧
      Follows (fun k => os (k + 1)) rest

/-- The rest of a read returns. -/
def Returns (E : Engine ρ) (session : Session ρ) (len : Nat) (os : Nat → Os) (p : Progress) :
    Prop :=
  ∃ replies r, Follows os replies ∧ resumeRead E session len p replies = some r

/-- The library returns. -/
theorem returns_finish {os : Nat → Os} {ret : Except MbedErr Bytes} {ssl : ρ} {accepted : Bool}
    (moves : E.move (.read len) session.ssl p.seen = .finish ret ssl accepted) :
    Returns E session len os p :=
  ⟨[], _, trivial, (resumeRead_finish moves).mpr ⟨rfl, rfl⟩⟩

/-- The library asks for a callback, and returns later. -/
theorem returns_callback {os : Nat → Os} {reply : OsReply} {p' : Progress}
    (does : reply = .sendto (os 0).send ∨ reply = .receive (os 0).select (os 0).recv)
    (next : callback E session (.read len) p reply = some p')
    (later : Returns E session len (fun k => os (k + 1)) p') : Returns E session len os p := by
  obtain ⟨replies, r, follows, returned⟩ := later
  exact ⟨reply :: replies, r, ⟨does, follows⟩, (resumeRead_callback next).trans returned⟩

/-- The library returns what the last callback returned, a code or zero. -/
theorem returns_stopped (laws : B.Laws E session.ctx.readTimeout)
    (established : B.established session.ssl = true) {seen : List Seen} {answer : Seen}
    (last : p.seen = seen ++ [answer])
    (stops : answer = .received (.ok []) ∨ ∃ code, answer.code = some code) (os : Nat → Os) :
    Returns E session len os p := by
  obtain rfl | ⟨code, negative⟩ := stops
  · obtain ⟨ssl, accepted, moves⟩ := laws.eof len session.ssl seen established
    rw [← last] at moves
    exact returns_finish moves
  · obtain ⟨ssl, accepted, moves⟩ :=
      laws.passes len session.ssl seen answer code established negative
    rw [← last] at moves
    exact returns_finish moves

/-- The library asks for a datagram: it gets the first of the socket, or is stopped. -/
theorem returns_receive (laws : B.Laws E session.ctx.readTimeout)
    (established : B.established session.ssl = true)
    (shorter : ∀ p' : Progress, p'.sock.length < p.sock.length → ∀ os,
      Returns E session len os p') {room timeout : Nat}
    (asks : E.move (.read len) session.ssl p.seen = .recv room timeout) (os : Nat → Os) :
    Returns E session len os p := by
  obtain ⟨positive, -⟩ := laws.asks len session.ssl p.seen room timeout established asks
  have next : callback E session (.read len) p (.receive (os 0).select (os 0).recv) = some
      { seen := p.seen ++
          [.received (udpRecvTimeout session room (os 0).select (os 0).recv p.sock).result]
        sock := (udpRecvTimeout session room (os 0).select (os 0).recv p.sock).sock
        waited := p.waited || sleeps timeout (os 0).select p.sock } := by
    simp only [callback, asks]
  refine returns_callback (.inr rfl) next ?_
  by_cases favours : Favours session p.sock (os 0).select (os 0).recv
  · obtain ⟨tail, -, told⟩ := udpRecvTimeout_favoured positive favours timeout
    obtain blocked | ⟨bytes, -, some_left, -⟩ := told
    · exact returns_stopped laws established rfl (.inr ⟨.wantRead, by rw [blocked]; rfl⟩) _
    · refine shorter _ ?_ _
      have fewer := List.length_pos_iff.mpr some_left
      simp only [tail, List.length_tail]
      omega
  · refine returns_stopped laws established rfl ?_ _
    obtain zero | ⟨code, given, -⟩ := udpRecvTimeout_hindered room favours
    · exact .inl (congrArg Seen.received zero)
    · exact .inr ⟨code, by rw [given]; rfl⟩

/-- The library sends no more than some number of packets before it does something else. -/
theorem returns_packets (laws : B.Laws E session.ctx.readTimeout)
    (established : B.established session.ssl = true) (n : Nat)
    (shorter : ∀ p' : Progress, p'.sock.length < p.sock.length → ∀ os,
      Returns E session len os p')
    (packets : ∀ sent : List Seen, sent.length = n →
      (∀ answer ∈ sent, ∃ k, answer = .sent (.ok k)) → ∀ bytes,
        E.move (.read len) session.ssl (p.seen ++ sent) ≠ .send bytes) (os : Nat → Os) :
    Returns E session len os p := by
  induction n generalizing p os with
  | zero =>
    have silent := packets [] rfl fun _ absent => absurd absent List.not_mem_nil
    rw [List.append_nil] at silent
    cases moves : E.move (.read len) session.ssl p.seen with
    | finish ret ssl accepted => exact returns_finish moves
    | recv room timeout => exact returns_receive laws established shorter moves os
    | send bytes => exact absurd moves (silent bytes)
  | succ n ih =>
    cases moves : E.move (.read len) session.ssl p.seen with
    | finish ret ssl accepted => exact returns_finish moves
    | recv room timeout => exact returns_receive laws established shorter moves os
    | send bytes =>
      have next : callback E session (.read len) p (.sendto (os 0).send) =
          some { p with seen := p.seen ++ [.sent (udpSend bytes (os 0).send)] } := by
        simp only [callback, moves]
      refine returns_callback (.inl rfl) next ?_
      cases (os 0).send with
      | again => exact returns_stopped laws established rfl (.inr ⟨.wantWrite, rfl⟩) _
      | failed => exact returns_stopped laws established rfl (.inr ⟨.netSendFailed, rfl⟩) _
      | sent =>
        refine ih (p := { p with seen := p.seen ++ [.sent (.ok bytes.length)] }) shorter ?_ _
        intro sent size all bytes'
        rw [List.append_assoc]
        refine packets (_ :: sent) (congrArg Nat.succ size) ?_ bytes'
        rintro answer (_ | ⟨_, member⟩)
        · exact ⟨bytes.length, rfl⟩
        · exact all answer member

/-- From any point a read returns. -/
theorem resumeRead_returns (laws : B.Laws E session.ctx.readTimeout)
    (established : B.established session.ssl = true) (p : Progress) (os : Nat → Os) :
    Returns E session len os p := by
  induction size : p.sock.length using Nat.strongRecOn generalizing p os with
  | ind left ih =>
    obtain ⟨n, packets⟩ := laws.sends len session.ssl p.seen established
    refine returns_packets laws established n (fun p' fewer os' => ?_) packets os
    exact ih _ (size ▸ fewer) p' os' rfl

/-- A read with nothing to read is prompt if it is unhindered, and fails if it is not. -/
theorem dtlsRead_verdict (laws : B.Laws E session.ctx.readTimeout)
    (established : B.established session.ssl = true)
    (quiet : ∀ p, Underway E session (.read len) sock p → B.Quiet len session.ssl p.seen)
    (returned : dtlsRead E session len sock replies = some r) :
    r.Verdict (B.Unhindered E session len ⟨[], sock, false⟩ replies) :=
  resumeRead_verdict laws established quiet (.start rfl) (fun _ last => nomatch last) rfl returned

end Whole

/-- A read that needs a datagram looks at its timer and asks for one. -/
def await (late : Bool) : Move Bool Bytes :=
  if late then .finish (.error .timeout) false false else .recv 65536 30000

/-- What a read does after its last callback: it discards a datagram that begins with zero and asks
again; one stands for a warning, two for a closure, and after any other byte there is application
data. -/
def heed (late : Bool) : Option Seen → Move Bool Bytes
  | some (.received (.error code)) | some (.sent (.error code)) => .finish (.error code) late false
  | some (.received (.ok [])) => .finish (.ok []) late false
  | some (.received (.ok (kind :: data))) =>
    if kind = 0 then await late
    else if kind = 1 then .finish (.error .wantRead) late true
    else if kind = 2 then .finish (.error .peerCloseNotify) late true
    else .finish (.ok data) late true
  | some (.sent (.ok _)) | none => await late

/-- The read needs a datagram after its last callback. -/
def awaits : Option Seen → Bool
  | some (.received (.ok (kind :: _))) => kind = 0
  | some (.sent (.ok _)) | none => true
  | _ => false

/-- A library whose read depends on its last callback only. Its state says that the read timer has
run out. -/
def attentive : Engine Bool where
  move
    | .handshake, late, _ => .finish (.ok ()) late false
    | .read _, late, seen => heed late seen.getLast?
    | .write bytes, late, seen =>
      match seen with
      | .sent result :: _ => .finish result late false
      | _ => .send bytes
  close _ _ := []

/-- What that library holds, which is nothing, what it gets from the last datagram, and when it
looks at its timer. -/
def attentiveReader : Reader Bool where
  held _ := []
  partway _ := false
  arriving _ _ seen :=
    match seen.getLast? with
    | some (.received (.ok (kind :: data))) =>
      if kind = 0 ∨ kind = 1 ∨ kind = 2 then [] else [data]
    | _ => []
  established _ := true
  alarm _ seen :=
    match seen.getLast? with
    | some (.received (.ok (kind :: _))) => if kind = 2 then some .peerCloseNotify else none
    | _ => none
  timeUp late seen := late && awaits seen.getLast?

/-- What a read does next, and why it returns. -/
theorem heed_cases (len : Nat) (late : Bool) (seen : List Seen) :
    heed late seen.getLast? = await late ∧ awaits seen.getLast? = true ∨
      awaits seen.getLast? = false ∧ ∃ ret accepted,
        heed late seen.getLast? = .finish ret late accepted ∧
          attentiveReader.Reason len late seen ret := by
  cases last : seen.getLast? with
  | none => exact .inl ⟨rfl, rfl⟩
  | some answer =>
    cases answer with
    | sent result =>
      cases result with
      | ok n => exact .inl ⟨rfl, rfl⟩
      | error code => exact .inr ⟨rfl, _, _, rfl, .code _ code last rfl⟩
    | received result =>
      cases result with
      | error code => exact .inr ⟨rfl, _, _, rfl, .code _ code last rfl⟩
      | ok bytes =>
        cases bytes with
        | nil => exact .inr ⟨rfl, _, _, rfl, .eof last⟩
        | cons kind data =>
          by_cases discarded : kind = 0
          · exact .inl ⟨if_pos discarded, decide_eq_true discarded⟩
          refine .inr ⟨decide_eq_false discarded, ?_⟩
          by_cases warning : kind = 1
          · exact ⟨.error .wantRead, true, by simp [heed, warning], .idle⟩
          by_cases closure : kind = 2
          · exact ⟨.error .peerCloseNotify, true, by simp [heed, closure],
              .alarm _ (by simp [attentiveReader, last, closure])⟩
          · refine ⟨.ok data, true, by simp [heed, discarded, warning, closure], .data _ ?_⟩
            simp [Intake.available, attentiveReader, last, discarded, warning, closure]

/-- That library reads as it should. -/
theorem attentive_laws : attentiveReader.Laws attentive 30000 where
  asks len late seen room timeout _ moves := by
    obtain ⟨asks, -⟩ | ⟨-, ret, accepted, returns, -⟩ := heed_cases len late seen
    · have moves := asks.symm.trans moves
      cases late with
      | true => contradiction
      | false =>
        obtain ⟨rfl, rfl⟩ := Move.recv.inj moves
        exact ⟨by decide, rfl⟩
    · exact nomatch returns.symm.trans moves
  passes len late seen answer code _ negative := by
    refine ⟨late, false, ?_⟩
    have last : attentive.move (.read len) late (seen ++ [answer]) = heed late (some answer) :=
      congrArg (heed late) List.getLast?_concat
    rw [last]
    cases answer with
    | sent result | received result =>
      cases result with
      | ok => contradiction
      | error code' =>
        obtain rfl : code' = code := Option.some.inj negative
        rfl
  eof len late seen _ := ⟨late, false, congrArg (heed late) List.getLast?_concat⟩
  timer len late seen _ up := by
    obtain ⟨rfl, needs⟩ := Bool.and_eq_true_iff.mp up
    obtain ⟨asks, -⟩ | ⟨busy, -⟩ := heed_cases len true seen
    · exact ⟨false, false, asks⟩
    · exact Bool.noConfusion (needs.symm.trans busy)
  returns len late seen ret late' accepted _ moves := by
    obtain ⟨asks, needs⟩ | ⟨-, ret', accepted', returns, reason⟩ := heed_cases len late seen
    · have moves := asks.symm.trans moves
      cases late with
      | true =>
        obtain ⟨rfl, -, -⟩ := Move.finish.inj moves
        exact .timer needs
      | false => contradiction
    · obtain ⟨rfl, -, -⟩ := Move.finish.inj (returns.symm.trans moves)
      exact reason
  sends len late seen _ := by
    refine ⟨0, fun sent _ _ bytes moves => ?_⟩
    obtain ⟨asks, -⟩ | ⟨-, ret, accepted, returns, -⟩ := heed_cases len late (seen ++ sent)
    · have moves := asks.symm.trans moves
      cases late <;> contradiction
    · exact nomatch returns.symm.trans moves

/-- With nothing but datagrams to discard in the socket, that library has nothing to read. -/
theorem attentive_quiet {session : Session Bool} {len : Nat} {sock : List Datagram}
    (noise : ∀ d ∈ sock, d.bytes.head? = some 0) {p : Progress}
    (underway : Underway attentive session (.read len) sock p) :
    attentiveReader.Quiet len session.ssl p.seen := by
  refine (Reach.invariant (I := fun p => attentiveReader.Quiet len session.ssl p.seen ∧
    ∀ d ∈ p.sock, d.bytes.head? = some 0) ?_ ?_ underway).1
  · rintro p rfl
    exact ⟨⟨rfl, rfl⟩, noise⟩
  rintro p reply p' ⟨-, noise⟩ - next
  obtain ⟨bytes, outcome, -, -, rfl⟩ | ⟨room, timeout, select, outcome, asks, -, rfl⟩ :=
    callback_cases next
  · exact ⟨by simp [Reader.Quiet, Intake.available, attentiveReader], noise⟩
  · obtain ⟨positive, -⟩ := attentive_laws.asks len session.ssl p.seen room timeout rfl asks
    have answered := udpRecvTimeout_answer session room select outcome p.sock
    revert answered
    generalize udpRecvTimeout session room select outcome p.sock = received
    intro answered
    cases answered with
    | code code => exact ⟨by simp [Reader.Quiet, Intake.available, attentiveReader], noise⟩
    | ignored d rest at_sock =>
      rw [at_sock] at noise
      exact ⟨by simp [Reader.Quiet, Intake.available, attentiveReader],
        fun d' member => noise d' (List.mem_cons_of_mem d member)⟩
    | handed d rest at_sock =>
      rw [at_sock] at noise
      refine ⟨?_, fun d' member => noise d' (List.mem_cons_of_mem d member)⟩
      obtain ⟨data, starts⟩ := List.head?_eq_some_iff.mp (noise d List.mem_cons_self)
      obtain ⟨n, rfl⟩ := Nat.exists_eq_succ_of_ne_zero (Nat.ne_of_gt positive)
      simp [Reader.Quiet, Intake.available, attentiveReader, starts]

/-- An established session of either role, whose read timer has run out or not. -/
def establishedAs (role : Role) (late : Bool) : Session Bool :=
  ⟨⟨role, .none, none, 0, 30000⟩, late, false, Endpoint.sockaddr ⟨1, 1⟩, sockaddrLen, true⟩

/-- A datagram from the peer that is discarded. -/
def noise : Datagram := ⟨⟨1, 1⟩, [0, 7]⟩

/-- The socket has nothing but that datagram. -/
theorem noise_quiet (role : Role) (p : Progress)
    (underway : Underway attentive (establishedAs role false) (.read 65536) [noise] p) :
    attentiveReader.Quiet 65536 (establishedAs role false).ssl p.seen :=
  attentive_quiet (fun d member => by rw [List.mem_singleton.mp member]; rfl) underway

/-- A server takes the datagram and asks again: nothing stops the read when `select` then reports
the empty socket readable. -/
theorem noise_unhindered (len : Nat) (select : SelectOutcome) :
    attentiveReader.Unhindered attentive (establishedAs .server false) len ⟨[], [noise], false⟩
      [.receive .waits .normal, .receive select .normal] ↔ select = .ready := by
  constructor
  · rintro ⟨⟨-, ⟨-, -, ready⟩, -⟩, -⟩
    exact ready
  · rintro rfl
    refine ⟨⟨⟨nofun, rfl, .inr (List.cons_ne_nil _ _)⟩, ⟨nofun, rfl, rfl⟩, trivial⟩, ?_⟩
    exact ⟨rfl, fun _ _ => ⟨rfl, fun _ _ => rfl⟩⟩

end SpaceCaptain.Dtls
