import SpaceCaptain.Library.Observer
import SpaceCaptain.Server.Moves

/-!
# Where the state of a session comes from

`Move` says what a step does to the list of clients. This module says what it does to the DTLS
sessions behind them: after a step, a live session is the one it was, was created by
`add_client` in this step, or is the one whose call has just returned. `Reachable.listed_sessions`
is the invariant rule with that knowledge, and `Watched.listed_sessions` the same for a run with
an observer.
-/
namespace SpaceCaptain.Server

open SpaceCaptain.Dtls SpaceCaptain.Library

variable {ρ : Type}

/-- The calls inside `add_client` all succeed for a source. -/
structure AddSucceeds (H : Host ρ) (source : Endpoint) (add : AddEnv ρ) : Prop where
  /-- The node is allocated. -/
  allocated : add.allocated = true
  /-- The session is created. -/
  created : ∃ session, sessionCreate (some H.ctx) H.fd (some source.sockaddr) sockaddrLen
    add.session = .created session

/-- Where a session that is alive after a step comes from. -/
inductive Origin (s : State ρ) (l : List Entry) (H : Host ρ) (q : Nat) (session' : Session ρ) :
    Input ρ → Prop
  /-- It was alive, and no call on it has returned. -/
  | kept (input : Input ρ) (same : s.registry.sessions.get? q = some session')
      (apart : ∀ left client call seen c session, InCall s l left client call seen c q session →
        ∀ outcomes, input ≠ .finish outcomes) : Origin s l H q session' input
  /-- It was created for the sender of a datagram. -/
  | created (left : Nat) (add : AddEnv ρ) (now : Int) (d : Datagram) (rest : List Datagram)
      (at_pc : s.pc = .peek left) (at_sock : s.sock = d :: rest)
      (fresh : q = s.registry.sessions.size) (ssl : session'.ssl = add.session.ssl)
      (before : session'.handshakeComplete = false) (succeeds : AddSucceeds H d.src add) :
      Origin s l H q session' (.peek false add now)
  /-- A call on it has returned. -/
  | returned (left client : Nat) (call : Call) (seen : List Seen) (c : Client)
      (session : Session ρ) (ret : Except MbedErr call.Value) (ssl : ρ) (accepted : Bool)
      (outcomes : List SendOutcome) (inside : InCall s l left client call seen c q session)
      (moves : H.engine.move call session.ssl seen = .finish ret ssl accepted)
      (content : session' = (callResult session ssl call ret).1) :
      Origin s l H q session' (.finish outcomes)

/-- The call into the library that the server is in. -/
def Pc.call : Pc → Option Call
  | .engine _ _ call _ => some call
  | _ => none

/-- A call that returns. -/
structure Return (ρ : Type) where
  /-- The client that the call is for. -/
  client : Client
  /-- The client's session. -/
  sid : Nat
  /-- That session before the return. -/
  session : Session ρ
  /-- The call. -/
  call : Call
  /-- What the callbacks returned during the call. -/
  seen : List Seen
  /-- What the library returned. -/
  ret : Except MbedErr call.Value
  /-- The state of the library after the call. -/
  ssl : ρ

/-- The call that returns in a step, if any. -/
def returning (H : Host ρ) (s : State ρ) : Input ρ → Option (Return ρ)
  | .finish _ =>
    match s.pc with
    | .engine _ client call seen => do
      let c ← s.registry.clients.get? client
      let sid ← c.dtlsSession
      let session ← s.registry.sessions.get? sid
      match H.engine.move call session.ssl seen with
      | .finish ret ssl _ => some ⟨c.toClient, sid, session, call, seen, ret, ssl⟩
      | _ => none
    | _ => none
  | _ => none

/-- Every session that is alive in a registry was alive before, and is the same. -/
def Keeps (before after : Registry ρ) : Prop :=
  ∀ q session, after.sessions.get? q = some session → before.sessions.get? q = some session

/-- The same sessions. -/
theorem Keeps.of_eq {r r' : Registry ρ} (same : r'.sessions = r.sessions) : Keeps r r' := by
  intro q session live
  rw [← same]
  exact live

section Steps

variable {H : Host ρ} {s s' : State ρ} {l : List Entry} {left client : Nat}

/-- A computation that succeeds in two parts. -/
theorem bind_ok {α β : Type} {x : Except Fault α} {f : α → Except Fault β} {b : β}
    (done : (x >>= f) = .ok b) : ∃ a, x = .ok a ∧ f a = .ok b := by
  cases x with
  | error e => contradiction
  | ok a => exact ⟨a, rfl, done⟩

/-- Beginning a call leaves the registry alone. -/
theorem begin_registry {call : Call} (began : begin s left client call = .ok s') :
    s'.registry = s.registry := by
  obtain ⟨c, -, rest⟩ := bind_ok began
  obtain rfl := Except.ok.inj rest
  rfl

/-- Writing fields of a client leaves the sessions alone. -/
theorem modify_sessions {r r' : Registry ρ} {edit : Client → Client}
    (modified : r.modify client edit = .ok r') : r'.sessions = r.sessions := by
  obtain ⟨c, -, rest⟩ := bind_ok modified
  obtain ⟨clients, -, rest⟩ := bind_ok rest
  obtain rfl := Except.ok.inj rest
  rfl

/-- Storing the time of a datagram and beginning a call leaves the sessions alone. -/
theorem meet_sessions {now : Int} (met : meet s left client now = .ok s') :
    s'.registry.sessions = s.registry.sessions := by
  obtain ⟨registry, modified, rest⟩ := bind_ok met
  obtain ⟨c, -, began⟩ := bind_ok rest
  rw [begin_registry began]
  exact modify_sessions modified

/-- Removing a client of the list keeps the other sessions. -/
theorem drop_keeps (intact : Intact s.registry l) (member : ∃ c, (client, c) ∈ l)
    {outcomes : List SendOutcome} {pc : Pc} (dropped : drop H s client outcomes pc = .ok s') :
    Keeps s.registry s'.registry := by
  obtain ⟨c, member⟩ := member
  obtain ⟨registry, closed, removed, -, -, -, -, cells⟩ :=
    removeClient_intact H.engine intact member outcomes
  simp only [drop, removed, ok_bind, pure_ok] at dropped
  obtain rfl := Except.ok.inj dropped
  intro q session live
  have after := (cells q).symm.trans live
  split at after
  · contradiction
  · exact after

/-- The timeout check keeps the sessions of the clients that have not expired. -/
theorem pollStep_keeps (intact : Intact s.registry l) {result : Option Nat}
    {now sweepNow : Int} {outcomes : Nat → List SendOutcome}
    (polled : pollStep H s result now sweepNow outcomes = .ok s') :
    Keeps s.registry s'.registry := by
  cases result with
  | none =>
    obtain rfl := Except.ok.inj polled
    exact .of_eq rfl
  | some nfds =>
    simp only [pollStep] at polled
    split at polled
    · obtain ⟨registry, closed, checked, -, swept⟩ :=
        checkClientTimeouts_intact H.engine intact sweepNow outcomes
      simp only [checked, ok_bind, pure_ok] at polled
      obtain rfl := Except.ok.inj polled
      intro q session live
      have after := (swept.cells q).symm.trans live
      split at after
      · contradiction
      · exact after
    · obtain rfl := Except.ok.inj polled
      exact .of_eq rfl

/-- What the server makes of a result keeps the sessions. -/
theorem settle_keeps (intact : Intact s.registry l) (member : ∃ c, (client, c) ∈ l) {call : Call}
    {session : Option Nat} {result : DtlsResult} {data : Bytes} {outcomes : List SendOutcome}
    (settled : settle H s left client call session result data outcomes = .ok s') :
    Keeps s.registry s'.registry := by
  cases call with
  | handshake =>
    cases result with
    | ok =>
      obtain ⟨registry, modified, rest⟩ := bind_ok settled
      obtain rfl := Except.ok.inj rest
      exact .of_eq (modify_sessions modified)
    | _ =>
      obtain rfl := Except.ok.inj settled
      exact .of_eq rfl
  | read len =>
    simp only [settle] at settled
    split at settled
    · have same := begin_registry settled
      exact .of_eq (by rw [same])
    · split at settled
      · obtain rfl := Except.ok.inj settled
        exact .of_eq rfl
      · split at settled
        · exact drop_keeps intact member settled
        · obtain rfl := Except.ok.inj settled
          exact .of_eq rfl
  | write bytes =>
    simp only [settle] at settled
    split at settled
    · exact drop_keeps intact member settled
    · obtain rfl := Except.ok.inj settled
      exact .of_eq rfl

/-- A client is added only when the calls inside `add_client` succeed. -/
theorem addClient_succeeds {r r' : Registry ρ} {source : Endpoint} {add : AddEnv ρ}
    (added : addClient r H.ctx source.sockaddr sockaddrLen H.fd add = .ok (r', some client)) :
    AddSucceeds H source add := by
  unfold addClient at added
  cases allocated : add.allocated with
  | false => simp [allocated] at added
  | true =>
    refine ⟨allocated, ?_⟩
    simp only [allocated, Bool.not_true, Bool.false_eq_true, ↓reduceIte] at added
    cases creation : sessionCreate (some H.ctx) H.fd (some source.sockaddr) sockaddrLen
        add.session with
    | refused =>
      simp only [creation] at added
      obtain ⟨clients, -, rest⟩ := bind_ok added
      exact absurd (Except.ok.inj rest) (by simp)
    | destroyed session =>
      simp only [creation] at added
      obtain ⟨sessions, -, rest⟩ := bind_ok added
      obtain ⟨clients, -, rest⟩ := bind_ok rest
      exact absurd (Except.ok.inj rest) (by simp)
    | created session => exact ⟨session, rfl⟩

/-- A session after the search for a client was there before, or was created for the datagram's
source. -/
theorem recognize_session (sound : Sound H s l) {d : Datagram} {add : AddEnv ρ} {now : Int}
    (recognized : recognize H s left d add now = .ok s') {q : Nat} {session' : Session ρ}
    (live : s'.registry.sessions.get? q = some session') :
    s.registry.sessions.get? q = some session' ∨
      q = s.registry.sessions.size ∧ session'.ssl = add.session.ssl ∧
        session'.handshakeComplete = false ∧ AddSucceeds H d.src add := by
  unfold recognize at recognized
  rcases findClient_cases sound.intact d.src with ⟨client, c, found, -, -⟩ | ⟨missing, absent⟩
  · simp only [found, ok_bind] at recognized
    rw [meet_sessions recognized] at live
    exact .inl live
  · obtain ⟨result, added, effect⟩ := addClient_intact sound.intact sound.server absent H.fd add
    simp only [missing, added, ok_bind] at recognized
    cases effect with
    | failed registry _ _ sessions _ =>
      obtain rfl := Except.ok.inj recognized
      exact .inl ((sessions q).symm.trans live)
    | added registry session _ ssl before sessions _ =>
      obtain ⟨c, -, met⟩ := bind_ok recognized
      rw [meet_sessions met] at live
      have after := (sessions q).symm.trans live
      split at after
      · rename_i fresh
        obtain rfl := Option.some.inj after
        exact .inr ⟨fresh, ssl, before, addClient_succeeds added⟩
      · exact .inl after

/-- Without a return from the library, what a step keeps of the sessions is as it was. -/
theorem Origin.of_keeps {input : Input ρ} {q : Nat} {session' : Session ρ}
    (keeps : Keeps s.registry s'.registry) (idle : ∀ outcomes, input ≠ .finish outcomes)
    (live : s'.registry.sessions.get? q = some session') : Origin s l H q session' input :=
  .kept input (keeps q session' live) fun _ _ _ _ _ _ _ => idle

/-- Where a session comes from after a move of the library. -/
theorem engineStep_origin (sound : Sound H s l) {call : Call} {seen : List Seen}
    (at_pc : s.pc = .engine left client call seen) {input : Input ρ}
    (taken : engineStep H s left client call seen input = .ok (some s')) {q : Nat}
    {session' : Session ρ} (live : s'.registry.sessions.get? q = some session') :
    Origin s l H q session' input := by
  obtain ⟨c, sid, session, inside⟩ := sound.inCall at_pc
  obtain ⟨n, found, fields⟩ := sound.intact.node inside.member
  have pointer : n.dtlsSession = some sid := by rw [fields, inside.owns]
  simp only [engineStep, Heap.load_ok found, ok_bind, pointer, Heap.load_ok inside.live] at taken
  split at taken
  · obtain rfl := Option.some.inj (Except.ok.inj taken)
    exact .of_keeps (.of_eq rfl) (by simp) live
  · obtain rfl := Option.some.inj (Except.ok.inj taken)
    exact .of_keeps (.of_eq rfl) (by simp) live
  · rename_i ret ssl accepted outcomes moves
    have kept := callResult_kept session ssl call ret
    obtain ⟨sessions, stored, intact, cells, -⟩ := store_intact sound.intact inside.live
      kept.1 kept.2.1 kept.2.2
    simp only [stored, ok_bind] at taken
    obtain ⟨settledState, settled, rest⟩ := bind_ok taken
    obtain rfl := Option.some.inj (Except.ok.inj rest)
    have before := settle_keeps intact ⟨c, inside.member⟩ settled q session' live
    have stored := (cells q).symm.trans before
    split at stored
    · rename_i current
      obtain rfl := Option.some.inj stored
      subst current
      exact .returned left client call seen c session ret ssl accepted outcomes inside moves rfl
    · rename_i other
      refine .kept _ stored fun left' client' call' seen' c' session'' inside' => ?_
      obtain ⟨rfl, rfl, -, -⟩ := Pc.engine.inj (at_pc.symm.trans inside'.at_pc)
      obtain rfl := sound.intact.same inside.member inside'.member
      exact absurd (Option.some.inj (inside'.owns.symm.trans inside.owns)) other
  · exact absurd (Except.ok.inj taken).symm (Option.some_ne_none s')

/-- Where a session comes from that is alive after a step. -/
theorem step_origin (sound : Sound H s l) {input : Input ρ}
    (taken : step H s input = .ok (some s')) {q : Nat} {session' : Session ρ}
    (live : s'.registry.sessions.get? q = some session') : Origin s l H q session' input := by
  unfold step at taken
  split at taken
  · obtain rfl := Option.some.inj (Except.ok.inj taken)
    exact .of_keeps (.of_eq rfl) nofun live
  · obtain rfl := Option.some.inj (Except.ok.inj taken)
    exact .of_keeps (.of_eq rfl) nofun live
  · split at taken
    · obtain ⟨polled, done, rest⟩ := bind_ok taken
      obtain rfl := Option.some.inj (Except.ok.inj rest)
      exact .of_keeps (pollStep_keeps sound.intact done) nofun live
    · exact absurd (Except.ok.inj taken) nofun
  · split at taken
    · exact absurd (Except.ok.inj taken) nofun
    · obtain rfl := Option.some.inj (Except.ok.inj taken)
      exact .of_keeps (.of_eq rfl) nofun live
  · obtain rfl := Option.some.inj (Except.ok.inj taken)
    exact .of_keeps (.of_eq rfl) nofun live
  · rename_i failed add now left at_pc
    obtain ⟨peeked, done, rest⟩ := bind_ok taken
    obtain rfl := Option.some.inj (Except.ok.inj rest)
    unfold peekStep at done
    split at done
    · obtain rfl := Except.ok.inj done
      exact .of_keeps (.of_eq rfl) nofun live
    · obtain rfl := Except.ok.inj done
      exact .of_keeps (.of_eq rfl) nofun live
    · rename_i d rest at_sock
      rcases recognize_session sound done live with same | ⟨fresh, ssl, before, succeeds⟩
      · exact .kept _ same fun _ _ _ _ _ _ _ => nofun
      · exact .created left add now d rest at_pc at_sock fresh ssl before succeeds
  · rename_i left client call seen at_pc
    exact engineStep_origin sound at_pc taken live
  · rename_i failed outcomes left why dropped at_pc
    obtain ⟨consumed, done, rest⟩ := bind_ok taken
    obtain rfl := Option.some.inj (Except.ok.inj rest)
    have same := consume_registry s why failed
    cases dropped with
    | none =>
      obtain rfl := Except.ok.inj done
      exact .of_keeps (.of_eq (congrArg Registry.sessions same)) nofun live
    | some client =>
      have keeps := drop_keeps (s := consume s why failed) (same ▸ sound.intact)
        (sound.current client (by rw [at_pc]; rfl)) done
      exact .of_keeps (same ▸ keeps) nofun live
  · rename_i outcomes at_pc
    split at taken
    · obtain rfl := Option.some.inj (Except.ok.inj taken)
      exact .of_keeps (.of_eq rfl) nofun live
    · rename_i client head
      obtain ⟨dropped, done, rest⟩ := bind_ok taken
      obtain rfl := Option.some.inj (Except.ok.inj rest)
      exact .of_keeps (drop_keeps sound.intact (sound.intact.first head) done) nofun live
  · exact absurd (Except.ok.inj taken) nofun

/-- The session of a client that was on the list is as it was, unless its call has returned. -/
theorem Origin.same {input : Input ρ} {q : Nat} {session' : Session ρ} {e : Entry}
    (origin : Origin s l H q session' input) (intact : Intact s.registry l) (entry : e ∈ l)
    (owns : e.2.dtlsSession = some q) (running : ∀ outcomes, input ≠ .finish outcomes) :
    s.registry.sessions.get? q = some session' := by
  cases origin with
  | kept _ same => exact same
  | created left add now d rest _ _ fresh =>
    obtain ⟨-, q', t, -, owns', live, -⟩ := intact.session e entry
    obtain rfl := Option.some.inj (owns.symm.trans owns')
    exact absurd (Heap.lt_size live) (by omega)
  | returned => exact absurd rfl (running _)

/-- Two accounts of the running call agree. -/
theorem InCall.unique {call call' : Call} {seen seen' : List Seen} {c c' : Client}
    {left' client' sid sid' : Nat} {session session' : Session ρ} (intact : Intact s.registry l)
    (first : InCall s l left client call seen c sid session)
    (second : InCall s l left' client' call' seen' c' sid' session') :
    call' = call ∧ seen' = seen ∧ client' = client ∧ c' = c ∧ sid' = sid ∧ session' = session := by
  obtain ⟨-, rfl, rfl, rfl⟩ := Pc.engine.inj (first.at_pc.symm.trans second.at_pc)
  obtain rfl := intact.same first.member second.member
  obtain rfl := Option.some.inj (first.owns.symm.trans second.owns)
  exact ⟨rfl, rfl, rfl, rfl, rfl, Option.some.inj (second.live.symm.trans first.live)⟩

/-- The session whose call returns is what the call made of it. -/
theorem Origin.current {call : Call} {seen : List Seen} {c : Client} {sid : Nat}
    {session session' : Session ρ} {outcomes : List SendOutcome} {ret : Except MbedErr call.Value}
    {ssl : ρ} {accepted : Bool} (origin : Origin s l H sid session' (.finish outcomes))
    (intact : Intact s.registry l) (inside : InCall s l left client call seen c sid session)
    (moves : H.engine.move call session.ssl seen = .finish ret ssl accepted) :
    session' = (callResult session ssl call ret).1 := by
  cases origin with
  | kept _ same apart => exact absurd rfl (apart left client call seen c session inside _)
  | returned left' client' call' seen' c' session₁ ret' ssl' accepted' _ inside' moves' content =>
    obtain ⟨rfl, rfl, -, -, -, rfl⟩ := inside.unique intact inside'
    obtain ⟨rfl, rfl, -⟩ := Dtls.Move.finish.inj (moves'.symm.trans moves)
    exact content

/-- The library has come back from the call that the server is in. -/
theorem InCall.returning {call : Call} {seen : List Seen} {c : Client} {sid : Nat}
    {session : Session ρ} {ret : Except MbedErr call.Value} {ssl : ρ} {accepted : Bool}
    (inside : InCall s l left client call seen c sid session) (intact : Intact s.registry l)
    (moves : H.engine.move call session.ssl seen = .finish ret ssl accepted)
    (outcomes : List SendOutcome) :
    returning H s (.finish outcomes) = some ⟨c, sid, session, call, seen, ret, ssl⟩ := by
  obtain ⟨n, live, rfl⟩ := intact.node inside.member
  simp only [Server.returning, inside.at_pc, live, inside.owns, inside.live, moves,
    Option.bind_eq_bind, Option.bind_some]

/-- A call that returns leaves its session with the library's new state. -/
theorem callResult_ssl (session : Session ρ) (ssl : ρ) (call : Call)
    (ret : Except MbedErr call.Value) : (callResult session ssl call ret).1.ssl = ssl := by
  cases call with
  | handshake =>
    cases ret with
    | ok done => rfl
    | error code => cases code <;> rfl
  | read len => rfl
  | write bytes => rfl

/-- The sessions without a running call are as they were. -/
theorem Origin.other {call : Call} {seen : List Seen} {c : Client} {q sid : Nat}
    {session session' : Session ρ} {outcomes : List SendOutcome}
    (origin : Origin s l H q session' (.finish outcomes)) (intact : Intact s.registry l)
    (inside : InCall s l left client call seen c sid session) (apart : q ≠ sid) :
    s.registry.sessions.get? q = some session' := by
  cases origin with
  | kept _ same => exact same
  | returned _ _ _ _ _ _ _ _ _ _ inside' =>
    obtain ⟨-, -, -, -, same, -⟩ := inside.unique intact inside'
    exact absurd same apart

/-- What a step does to the list and to the sessions behind it. -/
theorem Sound.advance (sound : Sound H s l) {input : Input ρ}
    (taken : advance H s input = some s') :
    ∃ l', Move H s l input s' l' ∧ Sound H s' l' ∧ ∀ q session',
      s'.registry.sessions.get? q = some session' → Origin s l H q session' input := by
  have done := advance_eq_some.mp taken
  obtain ⟨next, outcome, related⟩ := step_move sound input
  obtain ⟨l', move⟩ := related s' (Except.ok.inj (outcome.symm.trans done))
  exact ⟨l', move, move.sound sound, fun q session' live => step_origin sound done live⟩

/-- The flag inside a session is set by a handshake that succeeds, and by nothing else. -/
theorem callResult_flag (session : Session ρ) (ssl : ρ) (call : Call)
    (ret : Except MbedErr call.Value) :
    (callResult session ssl call ret).1.handshakeComplete =
      if call = .handshake ∧ (callResult session ssl call ret).2.1 = .ok then true
      else session.handshakeComplete := by
  cases call with
  | handshake =>
    cases ret with
    | ok done => rfl
    | error code => cases code <;> rfl
  | read len => rfl
  | write bytes => rfl

/-- What the server makes of a result leaves the other clients alone, and sets the flag of the
client when its handshake has succeeded. -/
theorem Settled.entry {l' : List Entry} {p sid : Nat} {c d : Client} {call : Call}
    {result : DtlsResult} {data : Bytes}
    (settled : Settled H s l left client sid call result data s' l')
    (intact : Intact s.registry l) (member : (client, c) ∈ l) (entry : (p, d) ∈ l') :
    p ≠ client ∧ (p, d) ∈ l ∨ p = client ∧ d.dtlsSession = c.dtlsSession ∧ d.addr = c.addr ∧
      d.handshakeComplete =
        if call = .handshake ∧ result = .ok then true else c.handshakeComplete := by
  have old (entry : (p, d) ∈ l) (flag : ¬(call = .handshake ∧ result = .ok)) :
      p ≠ client ∧ (p, d) ∈ l ∨ p = client ∧ d.dtlsSession = c.dtlsSession ∧
        d.addr = c.addr ∧ d.handshakeComplete =
          if call = .handshake ∧ result = .ok then true else c.handshakeComplete := by
    by_cases here : p = client
    · subst here
      obtain rfl := intact.same entry member
      exact .inr ⟨rfl, rfl, rfl, (if_neg flag).symm⟩
    · exact .inl ⟨here, entry⟩
  cases settled with
  | completed data registry edited =>
    by_cases here : p = client
    · subst here
      obtain rfl := (editClient_alone intact member complete d).mp entry
      exact .inr ⟨rfl, rfl, rfl, rfl⟩
    · exact .inl ⟨here, (editClient_rest here complete d).mp entry⟩
  | failed result data error => exact old entry fun both => error both.2
  | peerClosed => exact old (mem_dropClient.mp entry).1 (by simp)
  | unwritten => exact old (mem_dropClient.mp entry).1 (by simp)
  | pending | answered | nothing | broken | written => exact old entry (by simp)

/-- After a return the server works on the same client, if on any. -/
theorem Settled.current {l' : List Entry} {p sid : Nat} {call : Call} {result : DtlsResult}
    {data : Bytes} (settled : Settled H s l left client sid call result data s' l')
    (works : s'.pc.client = some p) : client = p := by
  cases settled with
  | failed | answered | broken => exact Option.some.inj works
  | _ => contradiction

/-- Where a client of the list after a step comes from, with its session. -/
inductive Descent (s : State ρ) (l : List Entry) (H : Host ρ) (s' : State ρ) (l' : List Entry)
    (e : Entry) (sid : Nat) (session' : Session ρ) : Input ρ → Prop
  /-- It was on the list, and no call on its session has returned. -/
  | kept (input : Input ρ) (c : Client) (old : (e.1, c) ∈ l) (addr : e.2.addr = c.addr)
      (flag : e.2.handshakeComplete = c.handshakeComplete) (owns : c.dtlsSession = some sid)
      (live : s.registry.sessions.get? sid = some session')
      (goesOn : s.pc.client = some e.1 →
        s'.pc.client = some e.1 ∧ s'.pc.call = s.pc.call)
      (begins : s.pc.client ≠ some e.1 → s'.pc.client = some e.1 →
        s'.pc.call = some (firstCall c)) :
      Descent s l H s' l' e sid session' input
  /-- It was created. -/
  | created (add : AddEnv ρ) (now : Int) (ssl : session'.ssl = add.session.ssl)
      (before : session'.handshakeComplete = false) (flag : e.2.handshakeComplete = false)
      (place : s'.pc.client = some e.1 ∧ s'.pc.call = some .handshake) :
      Descent s l H s' l' e sid session' (.peek false add now)
  /-- A call on its session has returned. -/
  | returned (left : Nat) (call : Call) (seen : List Seen) (c : Client) (session : Session ρ)
      (ret : Except MbedErr call.Value) (ssl : ρ) (accepted : Bool) (outcomes : List SendOutcome)
      (inside : InCall s l left e.1 call seen c sid session)
      (moves : H.engine.move call session.ssl seen = .finish ret ssl accepted)
      (content : session' = (callResult session ssl call ret).1) (addr : e.2.addr = c.addr)
      (flag : e.2.handshakeComplete =
        if call = .handshake ∧ (callResult session ssl call ret).2.1 = .ok then true
        else c.handshakeComplete) (sessions : Heap (Session ρ))
      (settled : Settled H
        { s with
          registry := { s.registry with sessions }
          log := s.log ++ (if accepted then [.accepted sid c.lastActivity] else []) ++
            [.returned sid call (callResult session ssl call ret).2.1] }
        l left e.1 sid call (callResult session ssl call ret).2.1
        (callResult session ssl call ret).2.2 s' l') :
      Descent s l H s' l' e sid session' (.finish outcomes)

/-- Every client of the list after a move comes from somewhere, with its session. -/
theorem Move.descent {input : Input ρ} {l' : List Entry} {e : Entry} (sound : Sound H s l)
    (move : Move H s l input s' l') (sound' : Sound H s' l')
    (origins : ∀ q session', s'.registry.sessions.get? q = some session' →
      Origin s l H q session' input) (entry : e ∈ l') :
    ∃ sid session', e.2.dtlsSession = some sid ∧
      s'.registry.sessions.get? sid = some session' ∧
      Descent s l H s' l' e sid session' input := by
  obtain ⟨p, d⟩ := e
  obtain ⟨-, sid, session', -, owns, live, -⟩ := sound'.intact.session _ entry
  refine ⟨sid, session', owns, live, ?_⟩
  have origin := origins sid session' live
  have intact := sound.intact
  have kept (c : Client) (old : (p, c) ∈ l) (addr : d.addr = c.addr)
      (flag : d.handshakeComplete = c.handshakeComplete) (same : d.dtlsSession = c.dtlsSession)
      (running : ∀ outcomes, input ≠ .finish outcomes)
      (goesOn : s.pc.client = some p → s'.pc.client = some p ∧ s'.pc.call = s.pc.call)
      (begins : s.pc.client ≠ some p → s'.pc.client = some p →
        s'.pc.call = some (firstCall c)) :
      Descent s l H s' l' (p, d) sid session' input :=
    .kept input c old addr flag (same.symm.trans owns)
      (origin.same intact old (same.symm.trans owns) running) goesOn begins
  have idle {pc : Pc} (at_pc : s.pc = pc) (nobody : pc.client = none)
      (here : s.pc.client = some p) : s'.pc.client = some p ∧ s'.pc.call = s.pc.call := by
    rw [at_pc, nobody] at here
    contradiction
  cases move with
  | arrive | signal | interrupted =>
    exact kept d entry rfl rfl rfl nofun (fun here => ⟨here, rfl⟩) fun apart here =>
      absurd here apart
  | dispatch _ _ _ _ at_pc | leave at_pc | lastEvent at_pc | nextEvent _ at_pc
  | drained _ _ _ _ at_pc | refused _ _ _ _ _ _ at_pc | halt _ at_pc
  | consume _ _ _ _ _ at_pc =>
    exact kept d entry rfl rfl rfl nofun (idle at_pc rfl) fun _ => nofun
  | sweep _ _ _ _ _ _ at_pc =>
    exact kept d (List.mem_of_mem_filter entry) rfl rfl rfl nofun (idle at_pc rfl) fun _ => nofun
  | shutdown _ _ _ _ at_pc =>
    exact kept d (mem_dropClient.mp entry).1 rfl rfl rfl nofun (idle at_pc rfl) fun _ => nofun
  | discard _ _ client _ _ _ _ _ at_pc =>
    obtain ⟨old, apart⟩ := mem_dropClient.mp entry
    refine kept d old rfl rfl rfl nofun (fun here => ?_) fun _ => nofun
    rw [at_pc] at here
    exact absurd (Option.some.inj here).symm apart
  | send _ _ _ _ _ _ _ _ _ inside | recv _ _ _ _ _ _ _ _ _ _ _ _ inside =>
    refine kept d entry rfl rfl rfl nofun (fun here => ?_) fun apart here => ?_
    · rw [inside.at_pc] at here ⊢
      exact ⟨here, rfl⟩
    · rw [inside.at_pc] at apart
      exact absurd here apart
  | known _ _ _ _ _ client c sid registry at_pc _ member =>
    by_cases here : p = client
    · subst here
      obtain rfl := (editClient_alone intact member (stamp _) d).mp entry
      exact kept c member rfl rfl rfl nofun (idle at_pc rfl) fun _ _ => rfl
    · refine kept d ((editClient_rest here (stamp _) d).mp entry) rfl rfl rfl nofun
        (idle at_pc rfl) fun _ current => ?_
      exact absurd (Option.some.inj current).symm here
  | admitted _ add now _ _ client registry at_pc _ _ fresh =>
    rcases List.mem_cons.mp entry with head | old
    · obtain ⟨rfl, rfl⟩ := Prod.mk.inj head
      obtain rfl : s.registry.sessions.size = sid := Option.some.inj owns
      cases origin with
      | kept _ same => exact absurd (Heap.lt_size same) (Nat.lt_irrefl _)
      | created _ _ _ _ _ _ _ _ ssl before => exact .created add now ssl before rfl ⟨rfl, rfl⟩
    · refine kept d old rfl rfl rfl nofun (idle at_pc rfl) fun _ current => ?_
      obtain rfl := Option.some.inj current
      exact absurd (List.mem_map_of_mem old) fresh
  | finish left client call seen c sid' session ret ssl accepted outcomes sessions _ _ inside moves
      edited _ settled =>
    rcases settled.entry edited inside.member entry with ⟨away, old⟩ | ⟨rfl, same, addr, flag⟩
    · have apart : sid ≠ sid' := by
        rintro rfl
        exact away (congrArg Prod.fst
          (intact.of_session old inside.member (owns.trans inside.owns.symm)))
      refine .kept _ d old rfl rfl owns (origin.other intact inside apart) (fun here => ?_)
        fun _ current => ?_
      · rw [inside.at_pc] at here
        exact absurd (Option.some.inj here).symm away
      · exact absurd (settled.current current).symm away
    · obtain rfl := Option.some.inj ((same.trans inside.owns).symm.trans owns)
      exact .returned left call seen c session ret ssl accepted outcomes inside moves
        (origin.current intact inside moves) addr flag sessions settled

/-- Every reachable state has a list of clients, with whatever the moves keep of the list and of
the sessions behind it. -/
theorem Reachable.listed_sessions {guard : State ρ → Input ρ → Bool}
    {I : State ρ → List Entry → Prop} (base : ∀ s, Starts H s → I s [])
    (keep : ∀ s l input s' l', Sound H s l → I s l → guard s input = true →
      Move H s l input s' l' → Sound H s' l' →
      (∀ q session', s'.registry.sessions.get? q = some session' →
        Origin s l H q session' input) → I s' l')
    (reached : Reachable H guard s) : ∃ l, Sound H s l ∧ I s l := by
  refine Reach.invariant (I := fun s => ∃ l, Sound H s l ∧ I s l)
    (fun s starts => ⟨[], starts.sound, base s starts⟩) ?_ reached
  intro s input s' ⟨l, sound, holds⟩ admitted taken
  obtain ⟨l', move, sound', origins⟩ := sound.advance taken
  exact ⟨l', sound', keep s l input s' l' sound holds admitted move sound' origins⟩

/-- The runs of the server under the eyes of an observer. -/
abbrev Watched {τ : Type} (H : Host ρ) (first : State ρ → τ)
    (note : State ρ → Input ρ → τ → τ) (guard : State ρ × τ → Input ρ → Bool) :
    State ρ × τ → Prop :=
  Observed (Starts H) first (Server.advance H) note guard

/-- Every state of an observed run has a list of clients, with whatever the moves keep of the
list, of the sessions behind it and of the observer's note. -/
theorem Watched.listed_sessions {τ : Type} {first : State ρ → τ}
    {note : State ρ → Input ρ → τ → τ} {guard : State ρ × τ → Input ρ → Bool}
    {I : State ρ → τ → List Entry → Prop} (base : ∀ s, Starts H s → I s (first s) [])
    (keep : ∀ s t l input s' l', Sound H s l → I s t l → guard (s, t) input = true →
      Move H s l input s' l' → Sound H s' l' →
      (∀ q session', s'.registry.sessions.get? q = some session' →
        Origin s l H q session' input) → I s' (note s input t) l')
    {t : τ} (reached : Watched H first note guard (s, t)) : ∃ l, Sound H s l ∧ I s t l := by
  refine Observed.invariant (I := fun s t => ∃ l, Sound H s l ∧ I s t l)
    (fun s starts => ⟨[], starts.sound, base s starts⟩) ?_ reached
  intro s t input s' ⟨l, sound, holds⟩ admitted taken
  obtain ⟨l', move, sound', origins⟩ := sound.advance taken
  exact ⟨l', sound', keep s t l input s' l' sound holds admitted move sound' origins⟩

end Steps

end SpaceCaptain.Server
