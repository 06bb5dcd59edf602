import SpaceCaptain.Server.Echo
import SpaceCaptain.Server.Typestate

/-!
# Each client is served as if it were alone

The server serves its clients one call at a time, in an order that the network chooses. A
`Service` is a server for one client that nobody else interrupts: it knows its next call, and moves
on when it is told what the callbacks returned during that call. An observer writes down what each
session has heard in its calls. The server with any number of clients is one service beside the
other: what it keeps of a session, and what it has read and written there, is the replay of what
that session has heard.
-/
namespace SpaceCaptain.Server

open SpaceCaptain.Dtls SpaceCaptain.Library

variable {ρ : Type}

/-- A server for one client. -/
structure Service (ρ : Type) where
  /-- The session of the client. -/
  session : Session ρ
  /-- The reply that has to be written next. -/
  reply : Option Bytes
  /-- The messages read so far. -/
  messages : List Bytes
  /-- A call has failed, and the client is given up. -/
  givenUp : Bool

namespace Service

/-- A new client. -/
def start (session : Session ρ) : Service ρ := ⟨session, none, [], false⟩

/-- The next call. -/
def call (v : Service ρ) : Call :=
  match v.reply with
  | some reply => .write reply
  | none => if v.session.handshakeComplete then .read socketBufferSize else .handshake

/-- What becomes of the service after a call with a result. -/
def settle (v : Service ρ) (session : Session ρ) (result : DtlsResult) (data : Bytes) :
    Service ρ :=
  match v.call with
  | .handshake => { v with session, givenUp := result != .ok && result != .errorWouldBlock }
  | .read _ =>
    if result = .ok ∧ 0 < data.length then
      { v with session, reply := some (pongReply data), messages := v.messages ++ [data] }
    else { v with session, givenUp := result != .errorWouldBlock }
  | .write _ =>
    { v with session, reply := none, givenUp := result != .ok && result != .errorWouldBlock }

/-- The next call, during which the callbacks returned what is given. -/
def turn (E : Engine ρ) (v : Service ρ) (seen : List Seen) : Option (Service ρ) :=
  if v.givenUp then none
  else
    match E.move v.call v.session.ssl seen with
    | .finish ret ssl _ =>
      let (session, result, data) := callResult v.session ssl v.call ret
      some (v.settle session result data)
    | _ => none

end Service

/-- What a session has heard. -/
structure Conversation (ρ : Type) where
  /-- The session when it was created. -/
  start : Session ρ
  /-- For each call that has returned, what the callbacks returned during it. -/
  heard : List (List Seen)

/-- The service after a conversation. -/
def Conversation.replay (E : Engine ρ) (c : Conversation ρ) : Option (Service ρ) :=
  c.heard.foldlM (Service.turn E) (.start c.start)

/-- The conversation goes on by one call. -/
def Conversation.hear (c : Conversation ρ) (seen : List Seen) : Conversation ρ :=
  { c with heard := c.heard ++ [seen] }

/-- The replay of a conversation that goes on. -/
theorem Conversation.replay_hear {E : Engine ρ} {c : Conversation ρ} {v : Service ρ}
    (replayed : c.replay E = some v) (seen : List Seen) :
    (c.hear seen).replay E = v.turn E seen := by
  unfold Conversation.replay at replayed ⊢
  rw [Conversation.hear, List.foldlM_append, replayed]
  simp

/-- The session that a step creates, if any. -/
def newSession (H : Host ρ) (s : State ρ) (input : Input ρ) : Option (Session ρ) := do
  let s' ← advance H s input
  s'.registry.sessions.get? s.registry.sessions.size

/-- What the sessions have heard after a step. -/
def conversing (H : Host ρ) (s : State ρ) (input : Input ρ)
    (told : Nat → Option (Conversation ρ)) : Nat → Option (Conversation ρ) :=
  match returning H s input with
  | some r => Function.update told r.sid ((told r.sid).map fun c => c.hear r.seen)
  | none =>
    match newSession H s input with
    | some session => Function.update told s.registry.sessions.size (some ⟨session, []⟩)
    | none => told

/-- The service knows what the library and the server keep in a session. -/
structure Service.Knows (v : Service ρ) (session : Session ρ) : Prop where
  /-- The state of the library. -/
  ssl : v.session.ssl = session.ssl
  /-- The flag. -/
  flag : v.session.handshakeComplete = session.handshakeComplete

/-- The service is where the server is with a client. -/
structure Service.Stands (v : Service ρ) (pc : Pc) (client : Nat) : Prop where
  /-- A client that the server does not work on waits for its next datagram. -/
  rests : pc.client ≠ some client → v.givenUp = false ∧ v.reply = none
  /-- In a call for the client the service is about to make the same call. -/
  calls : ∀ call, pc.client = some client → pc.call = some call →
    v.givenUp = false ∧ v.call = call

/-- Every session is what its conversation makes of it. -/
structure Alone (H : Host ρ) (s : State ρ) (told : Nat → Option (Conversation ρ))
    (l : List Entry) : Prop where
  /-- The messages of a session are those of the replay. -/
  heard : ∀ sid conv, told sid = some conv →
    ∃ v, conv.replay H.engine = some v ∧ messages s.log sid = v.messages
  /-- A session without a conversation has no messages. -/
  untold : ∀ sid, told sid = none → messages s.log sid = []
  /-- A session that was never allocated has no conversation. -/
  fresh : ∀ sid, s.registry.sessions.size ≤ sid → told sid = none
  /-- The session of a client is that of the replay. -/
  present : ∀ e ∈ l, ∀ sid session, e.2.dtlsSession = some sid →
    s.registry.sessions.get? sid = some session →
      ∃ conv v, told sid = some conv ∧ conv.replay H.engine = some v ∧ v.Knows session ∧
        v.Stands s.pc e.1

section Calls

variable {E : Engine ρ} {v : Service ρ}

/-- A result is settled in the session that is given. -/
theorem Service.settle_session (v : Service ρ) (session : Session ρ) (result : DtlsResult)
    (data : Bytes) : (v.settle session result data).session = session := by
  unfold settle
  split
  · rfl
  · split <;> rfl
  · rfl

/-- A service without a reply to write does not write. -/
theorem Service.reply_none (quiet : ∀ bytes, v.call ≠ .write bytes) : v.reply = none := by
  cases reply : v.reply with
  | none => rfl
  | some bytes => exact absurd (by rw [call, reply]) (quiet bytes)

/-- The result of a call depends on what the library returned, not on the session. -/
theorem callResult_result (session session' : Session ρ) (ssl : ρ) (call : Call)
    (ret : Except MbedErr call.Value) :
    (callResult session ssl call ret).2 = (callResult session' ssl call ret).2 := by
  cases call with
  | handshake =>
    cases ret with
    | ok done => rfl
    | error code => cases code <;> rfl
  | read len | write bytes => rfl

/-- A service takes its turn when the library comes back from its call. -/
theorem Service.turn_finish {session : Session ρ} {seen : List Seen}
    {ret : Except MbedErr v.call.Value} {ssl : ρ} {accepted : Bool} (knows : v.Knows session)
    (goesOn : v.givenUp = false)
    (moves : E.move v.call session.ssl seen = .finish ret ssl accepted) :
    ∃ session₁, v.turn E seen = some (v.settle session₁ (callResult session ssl v.call ret).2.1
        (callResult session ssl v.call ret).2.2) ∧
      (v.settle session₁ (callResult session ssl v.call ret).2.1
        (callResult session ssl v.call ret).2.2).Knows (callResult session ssl v.call ret).1 := by
  have same := callResult_result v.session session ssl v.call ret
  refine ⟨(callResult v.session ssl v.call ret).1, ?_, ?_⟩
  · rw [← knows.ssl] at moves
    simp only [turn, goesOn, moves, same]
    rfl
  · constructor <;> rw [settle_session]
    · rw [callResult_ssl, callResult_ssl]
    · rw [callResult_flag, callResult_flag, same, knows.flag]

end Calls

section Steps

variable {H : Host ρ} {s s' : State ρ} {l l' : List Entry} {v : Service ρ}
  {told : Nat → Option (Conversation ρ)}

/-- The server reads what the service reads. -/
theorem Settled.said {left client sid : Nat} {call : Call} {result : DtlsResult} {data : Bytes}
    (settled : Settled H s l left client sid call result data s' l') (same : v.call = call)
    (session : Session ρ) :
    ∃ new, (v.settle session result data).messages = v.messages ++ new ∧
      ∀ q, messages s'.log q = messages s.log q ++ if sid = q then new else [] := by
  rcases settled.speaks with ⟨len, reads, ok, nonempty, log⟩ | ⟨nothing, events, mute, log⟩
  · refine ⟨[data], ?_, fun q => ?_⟩
    · simp [Service.settle, same, reads, ok, nonempty]
    · rw [log, messages, List.filterMap_append, ← messages]
      by_cases here : sid = q <;> simp [here, Event.message]
  · refine ⟨[], ?_, fun q => ?_⟩
    · rw [List.append_nil]
      unfold Service.settle
      split
      · rfl
      · rename_i len at_call
        split
        · rename_i read
          have empty := nothing len (same.symm.trans at_call) read.1
          rw [empty] at read
          exact absurd read.2 (Nat.lt_irrefl 0)
        · rfl
      · rfl
    · rw [log, (mute.kept q).1]
      simp

/-- The server is where the service is after a call. -/
theorem Settled.stands {left client sid : Nat} {call : Call} {result : DtlsResult} {data : Bytes}
    {d : Client} (settled : Settled H s l left client sid call result data s' l')
    (same : v.call = call) (goesOn : v.givenUp = false) (entry : (client, d) ∈ l')
    (session : Session ρ) : (v.settle session result data).Stands s'.pc client := by
  have idle (quiet : ∀ bytes, v.call ≠ .write bytes) : v.reply = none := v.reply_none quiet
  cases settled with
  | completed | pending =>
    refine ⟨fun _ => ?_, fun _ here => by contradiction⟩
    simp [Service.settle, same, idle (by simp [same])]
  | failed | broken => exact ⟨fun away => absurd rfl away, fun _ _ calls => by contradiction⟩
  | answered len data buffer nonempty =>
    refine ⟨fun away => absurd rfl away, fun call _ calls => ?_⟩
    obtain rfl := Option.some.inj calls
    have settled : v.settle session .ok data =
        { v with session, reply := some (pongReply data), messages := v.messages ++ [data] } := by
      simp [Service.settle, same, nonempty]
    rw [settled, replyTo_eq]
    exact ⟨goesOn, rfl⟩
  | nothing =>
    have quiet := idle (by simp [same])
    refine ⟨fun _ => ?_, fun _ here => by contradiction⟩
    simp [Service.settle, same, quiet]
  | written bytes result data fine =>
    refine ⟨fun _ => ?_, fun _ here => by contradiction⟩
    rcases fine with rfl | rfl <;> simp [Service.settle, same]
  | peerClosed | unwritten => exact absurd rfl (mem_dropClient.mp entry).2

/-- What the server makes of a result allocates and frees no session's place. -/
theorem Settled.size {left client sid : Nat} {call : Call} {result : DtlsResult} {data : Bytes}
    (settled : Settled H s l left client sid call result data s' l') :
    s'.registry.sessions.size = s.registry.sessions.size := by
  cases settled with
  | completed _ _ _ sessions => exact congrArg Heap.size sessions
  | peerClosed _ _ _ _ removal => exact removal.size
  | unwritten _ _ _ _ _ _ _ removal => exact removal.size
  | pending | failed | answered | nothing | broken | written => rfl

/-- The number of sessions never falls. -/
theorem Move.grown {input : Input ρ} (move : Move H s l input s' l') :
    s.registry.sessions.size ≤ s'.registry.sessions.size := by
  cases move with
  | arrive | signal | interrupted | dispatch | leave | lastEvent | nextEvent | drained | halt
  | send | recv => exact Nat.le_refl _
  | sweep _ _ _ _ _ _ _ _ _ _ swept => exact swept.size.ge
  | known _ _ _ _ _ _ _ _ _ _ _ _ _ _ _ sessions => exact (congrArg Heap.size sessions).ge
  | refused _ _ _ _ _ _ _ _ _ _ _ sessions => exact sessions
  | admitted _ _ _ _ _ _ _ _ _ _ _ _ sessions => exact sessions ▸ Nat.le_succ _
  | finish _ _ _ _ _ _ _ _ _ _ _ _ _ _ _ _ _ size settled => exact (settled.size.trans size).ge
  | consume _ _ _ _ _ _ consumed => rw [consumed.kept.1]
  | discard _ _ _ _ _ _ _ _ _ _ removal => exact removal.size.ge
  | shutdown _ _ _ _ _ removal => exact removal.size.ge

/-- A session hears one call more, in which the server reads what the service does. -/
theorem Alone.hear {sid : Nat} {conv : Conversation ρ} {seen : List Seen} {v' : Service ρ}
    {new : List Bytes} (alone : Alone H s told l) (has : told sid = some conv)
    (replayed : conv.replay H.engine = some v) (turned : v.turn H.engine seen = some v')
    (more : v'.messages = v.messages ++ new)
    (said : ∀ q, messages s'.log q = messages s.log q ++ if sid = q then new else [])
    (size : s'.registry.sessions.size = s.registry.sessions.size)
    (present : ∀ e ∈ l', ∀ q session, e.2.dtlsSession = some q →
      s'.registry.sessions.get? q = some session →
        q ≠ sid ∧ (∃ conv v, told q = some conv ∧ conv.replay H.engine = some v ∧
          v.Knows session ∧ v.Stands s'.pc e.1) ∨
        q = sid ∧ v'.Knows session ∧ v'.Stands s'.pc e.1) :
    Alone H s' (Function.update told sid (some (conv.hear seen))) l' := by
  have replayed' := (Conversation.replay_hear replayed seen).trans turned
  constructor
  · intro q conv' has'
    by_cases here : q = sid
    · subst here
      rw [Function.update_self] at has'
      obtain rfl := Option.some.inj has'
      obtain ⟨v₁, again, spoken⟩ := alone.heard q conv has
      obtain rfl := Option.some.inj (replayed.symm.trans again)
      exact ⟨_, replayed', by rw [said, if_pos rfl, spoken, more]⟩
    · rw [Function.update_of_ne here] at has'
      obtain ⟨v₁, again, spoken⟩ := alone.heard q conv' has'
      exact ⟨v₁, again, by rw [said, if_neg (Ne.symm here), List.append_nil, spoken]⟩
  · intro q nothing
    by_cases here : q = sid
    · subst here
      rw [Function.update_self] at nothing
      contradiction
    · rw [Function.update_of_ne here] at nothing
      rw [said, if_neg (Ne.symm here), List.append_nil, alone.untold q nothing]
  · intro q high
    have silent := alone.fresh q (size ▸ high)
    have apart : q ≠ sid := by
      rintro rfl
      exact Option.some_ne_none conv (has.symm.trans silent)
    rw [Function.update_of_ne apart, silent]
  · intro e entry q session owns live
    rcases present e entry q session owns live with ⟨apart, same⟩ | ⟨rfl, knows, stands⟩
    · rwa [Function.update_of_ne apart]
    · exact ⟨_, v', Function.update_self .., replayed', knows, stands⟩

/-- When a call returns, its session has heard one call more. -/
theorem Alone.returned {left client sid : Nat} {call : Call} {seen : List Seen} {c : Client}
    {session : Session ρ} {ret : Except MbedErr call.Value} {ssl : ρ} {accepted : Bool}
    {outcomes : List SendOutcome} {sessions : Heap (Session ρ)} (sound : Sound H s l)
    (alone : Alone H s told l) (inside : InCall s l left client call seen c sid session)
    (moves : H.engine.move call session.ssl seen = .finish ret ssl accepted)
    (edited : Intact { s.registry with sessions } l)
    (size : sessions.size = s.registry.sessions.size)
    (settled : Settled H
      { s with
        registry := { s.registry with sessions }
        log := s.log ++ (if accepted then [.accepted sid c.lastActivity] else []) ++
          [.returned sid call (callResult session ssl call ret).2.1] }
      l left client sid call (callResult session ssl call ret).2.1
      (callResult session ssl call ret).2.2 s' l')
    (origins : ∀ q session', s'.registry.sessions.get? q = some session' →
      Origin s l H q session' (.finish outcomes)) :
    Alone H s' (conversing H s (.finish outcomes) told) l' := by
  have intact := sound.intact
  obtain ⟨conv, v, has, replayed, knows, stands⟩ :=
    alone.present _ inside.member sid session inside.owns inside.live
  obtain ⟨goesOn, rfl⟩ := stands.calls call (by rw [inside.at_pc]; rfl) (by rw [inside.at_pc]; rfl)
  obtain ⟨session₁, turned, knows'⟩ := Service.turn_finish knows goesOn moves
  obtain ⟨new, more, said⟩ := settled.said rfl session₁
  have returnMute := returned_mute accepted sid v.call c.lastActivity
    (callResult session ssl v.call ret).2.1
  have heard : conversing H s (.finish outcomes) told =
      Function.update told sid (some (conv.hear seen)) := by
    simp only [conversing, inside.returning intact moves outcomes, has, Option.map_some]
  rw [heard]
  refine alone.hear has replayed turned more (fun q => ?_) (settled.size.trans size) ?_
  · rw [said q, List.append_assoc, (returnMute.kept q).1]
  · rintro ⟨p, d⟩ entry q session' owns live
    have origin := origins q session' live
    rcases settled.entry edited inside.member entry with ⟨away, old⟩ | ⟨rfl, kept, -, -⟩
    · -- Another client: neither its session nor the place of its service has changed.
      have apart : q ≠ sid := by
        rintro rfl
        exact away (congrArg Prod.fst
          (intact.of_session old inside.member (owns.trans inside.owns.symm)))
      obtain ⟨conv', v', has', again, knows₁, stands₁⟩ :=
        alone.present _ old q session' owns (origin.other intact inside apart)
      refine .inl ⟨apart, conv', v', has', again, knows₁, fun _ => stands₁.rests ?_, ?_⟩
      · rw [inside.at_pc]
        exact fun works => away (Option.some.inj works).symm
      · exact fun _ works => absurd (settled.current works).symm away
    · obtain rfl := Option.some.inj (inside.owns.symm.trans (kept.symm.trans owns))
      obtain rfl := origin.current intact inside moves
      exact .inr ⟨rfl, knows', settled.stands rfl goesOn entry session₁⟩

/-- Only when the library comes back a call returns. -/
theorem returning_none {input : Input ρ} (running : ∀ outcomes, input ≠ .finish outcomes) :
    returning H s input = none := by
  cases input with
  | finish outcomes => exact absurd rfl (running outcomes)
  | _ => rfl

/-- Without a return, a session that was allocated before has heard what it had. -/
theorem conversing_old {input : Input ρ} (running : ∀ outcomes, input ≠ .finish outcomes) {q : Nat}
    (old : q ≠ s.registry.sessions.size) : conversing H s input told q = told q := by
  simp only [conversing, returning_none running]
  cases newSession H s input with
  | none => rfl
  | some session => exact Function.update_of_ne old ..

/-- Without a return, the session that is created has not heard anything. -/
theorem conversing_new {input : Input ρ} (running : ∀ outcomes, input ≠ .finish outcomes)
    (taken : advance H s input = some s') (untold : told s.registry.sessions.size = none) :
    conversing H s input told s.registry.sessions.size =
      (s'.registry.sessions.get? s.registry.sessions.size).map fun session => ⟨session, []⟩ := by
  have born : newSession H s input = s'.registry.sessions.get? s.registry.sessions.size := by
    simp only [newSession, taken, Option.bind_eq_bind, Option.bind_some]
  simp only [conversing, returning_none running, born]
  cases s'.registry.sessions.get? s.registry.sessions.size with
  | none => exact untold
  | some session => exact Function.update_self ..

/-- The service of a client that was on the list goes on where the server does. -/
theorem Alone.follows {client sid : Nat} {c : Client} {session : Session ρ} {pc : Pc}
    (alone : Alone H s told l) (agreeing : Agreeing s l) (old : (client, c) ∈ l)
    (owns : c.dtlsSession = some sid) (live : s.registry.sessions.get? sid = some session)
    (goesOn : s.pc.client = some client → pc.client = some client ∧ pc.call = s.pc.call)
    (begins : s.pc.client ≠ some client → pc.client = some client →
      pc.call = some (firstCall c)) :
    ∃ conv v, told sid = some conv ∧ conv.replay H.engine = some v ∧ v.Knows session ∧
      v.Stands pc client := by
  obtain ⟨conv, v, has, replayed, knows, stands⟩ :=
    alone.present _ old sid session owns live
  refine ⟨conv, v, has, replayed, knows, fun away => ?_, fun call here calls => ?_⟩
  · exact stands.rests fun before => away (goesOn before).1
  · by_cases before : s.pc.client = some client
    · exact stands.calls call before ((goesOn before).2 ▸ calls)
    · obtain ⟨onward, quiet⟩ := stands.rests before
      obtain rfl := Option.some.inj ((begins before here).symm.trans calls)
      have flag := knows.flag.trans (agreeing client c sid session old owns live)
      exact ⟨onward, by rw [Service.call, quiet, firstCall, flag]⟩

/-- The server peeks at a datagram and works on its sender, which is new or was on the list. -/
theorem Move.entered {add : AddEnv ρ} {now : Int} {e : Entry} {sid : Nat}
    (intact : Intact s.registry l) (move : Move H s l (.peek false add now) s' l') (entry : e ∈ l')
    (owns : e.2.dtlsSession = some sid) (works : s'.pc.client = some e.1) :
    sid = s.registry.sessions.size ∨ ∃ c, (e.1, c) ∈ l ∧ c.dtlsSession = some sid ∧
      s.pc.client = none ∧ s'.pc.call = some (firstCall c) ∧
      s'.registry.sessions = s.registry.sessions := by
  cases move with
  | drained | refused => contradiction
  | known _ _ _ _ _ client c q registry at_pc _ member _ _ _ sessions =>
    obtain rfl : client = e.1 := Option.some.inj works
    rw [(editClient_alone intact member (stamp _) e.2).mp entry] at owns
    exact .inr ⟨c, member, owns, by rw [at_pc]; rfl, rfl, sessions⟩
  | admitted _ _ _ _ _ client registry _ _ _ fresh =>
    rcases List.mem_cons.mp entry with rfl | before
    · exact .inl (Option.some.inj owns).symm
    · obtain rfl : client = e.1 := Option.some.inj works
      exact absurd (List.mem_map_of_mem before) fresh

/-- After a step in which no call returns, every session is what its conversation makes of it. -/
theorem Alone.running {input : Input ρ} (sound : Sound H s l) (alone : Alone H s told l)
    (agreeing : Agreeing s l) (taken : advance H s input = some s')
    (move : Move H s l input s' l') (running : ∀ outcomes, input ≠ .finish outcomes)
    (sound' : Sound H s' l') (origins : ∀ q session',
      s'.registry.sessions.get? q = some session' → Origin s l H q session' input) :
    Alone H s' (conversing H s input told) l' := by
  obtain ⟨events, mute, log⟩ := move.mute running
  have same (q : Nat) : messages s'.log q = messages s.log q := by rw [log, (mute.kept q).1]
  have untold := alone.fresh _ (Nat.le_refl _)
  have now := conversing_new running taken untold
  constructor
  · intro q conv has
    rw [same]
    by_cases new : q = s.registry.sessions.size
    · subst new
      obtain ⟨session, -, rfl⟩ := Option.map_eq_some_iff.mp (now.symm.trans has)
      exact ⟨.start session, rfl, alone.untold _ untold⟩
    · exact alone.heard q conv ((conversing_old running new).symm.trans has)
  · intro q nothing
    rw [same]
    by_cases new : q = s.registry.sessions.size
    · exact new ▸ alone.untold _ untold
    · exact alone.untold q ((conversing_old running new).symm.trans nothing)
  · intro q high
    by_cases new : q = s.registry.sessions.size
    · subst new
      have dead : s'.registry.sessions.get? s.registry.sessions.size = none :=
        Option.eq_none_iff_forall_ne_some.mpr fun session live =>
          absurd (Heap.lt_size live) (Nat.not_lt.mpr high)
      rw [now, dead]
      rfl
    · rw [conversing_old running new]
      exact alone.fresh q (move.grown.trans high)
  · intro e entry sid session owns live
    have old (before : s.registry.sessions.get? sid = some session) :
        conversing H s input told sid = told sid :=
      conversing_old running (Nat.ne_of_lt (Heap.lt_size before))
    obtain ⟨sid', session', owns', live', descent⟩ := move.descent sound sound' origins entry
    obtain rfl := Option.some.inj (owns.symm.trans owns')
    obtain rfl := Option.some.inj (live.symm.trans live')
    cases descent with
    | kept _ c before _ _ owned alive goesOn begins =>
      rw [old alive]
      exact alone.follows agreeing before owned alive goesOn begins
    | created add time _ flag _ place =>
      -- `Descent` does not say that the session is the one allocated in this step; `Move` does.
      rcases move.entered sound.intact entry owns place.1 with
        rfl | ⟨c, before, owned, nobody, first, sessions⟩
      · refine ⟨⟨session, []⟩, .start session, by rw [now, live]; rfl, rfl, ⟨rfl, rfl⟩, ?_, ?_⟩
        · exact fun away => absurd place.1 away
        · intro call _ calls
          obtain rfl := Option.some.inj (place.2.symm.trans calls)
          exact ⟨rfl, by rw [Service.call]; simp [Service.start, flag]⟩
      · have alive : s.registry.sessions.get? sid = some session := sessions ▸ live
        rw [old alive]
        refine alone.follows agreeing before owned alive (fun here => ?_) fun _ _ => first
        rw [nobody] at here
        contradiction
    | returned => exact absurd rfl (running _)

/-- Every move keeps every session what its conversation makes of it. -/
theorem Move.alone {input : Input ρ} (sound : Sound H s l) (alone : Alone H s told l)
    (agreeing : Agreeing s l) (taken : advance H s input = some s')
    (move : Move H s l input s' l') (sound' : Sound H s' l') (origins : ∀ q session',
      s'.registry.sessions.get? q = some session' → Origin s l H q session' input) :
    Alone H s' (conversing H s input told) l' := by
  by_cases returns : ∃ outcomes, input = .finish outcomes
  · obtain ⟨outcomes, rfl⟩ := returns
    cases move with
    | finish left client call seen c sid session ret ssl accepted _ sessions _ _ inside moves edited
        size settled => exact alone.returned sound inside moves edited size settled origins
  · exact alone.running sound agreeing taken move (not_exists.mp returns) sound' origins

end Steps

/-- Every session is served as if it were the only one. -/
structure ServedAlone (H : Host ρ) (s : State ρ) (told : Nat → Option (Conversation ρ)) :
    Prop where
  /-- What the server reads and writes in a session is what the replay of its conversation does. -/
  said : ∀ sid conv, told sid = some conv → ∃ v, conv.replay H.engine = some v ∧
    messages s.log sid = v.messages ∧ replies s.log sid = v.messages.map pongReply
  /-- It says nothing in a session without a conversation. -/
  unsaid : ∀ sid, told sid = none → messages s.log sid = [] ∧ replies s.log sid = []
  /-- A live session has a conversation, and is what the replay leaves of it. Between two rounds
  the replay waits for a datagram, as the server does. -/
  live : ∀ sid session, s.registry.sessions.get? sid = some session →
    ∃ conv v, told sid = some conv ∧ conv.replay H.engine = some v ∧ v.Knows session ∧
      (s.pc.client = none → v.givenUp = false ∧ v.reply = none)

/-- In every run each session is served as if it were the only one: whatever arrives from others,
and in whichever order, what becomes of it is the replay of what it has heard in its own calls. -/
theorem served_alone {H : Host ρ} {s : State ρ} {told : Nat → Option (Conversation ρ)}
    (reached : Watched H (fun _ _ => none) (conversing H) (fun _ _ => true) (s, told)) :
    ServedAlone H s told := by
  have known : Exchanges s.log ∧ ∃ l, Sound H s l ∧ Agreeing s l ∧ Alone H s told l := by
    refine Observed.invariant
      (I := fun s told => Exchanges s.log ∧ ∃ l, Sound H s l ∧ Agreeing s l ∧ Alone H s told l)
      (fun s starts => ?_) (fun s told input s' known _ taken => ?_) reached
    · refine ⟨?_, [], starts.sound, starts.staged.2, ?_⟩
      · obtain ⟨-, buffer, now, -, rfl⟩ := starts
        exact ⟨[], rfl⟩
      · obtain ⟨-, buffer, now, -, rfl⟩ := starts
        exact ⟨nofun, fun _ _ => rfl, fun _ _ => rfl,
          fun _ entry => absurd entry List.not_mem_nil⟩
    · obtain ⟨exchanges, l, sound, agreeing, alone⟩ := known
      obtain ⟨l', move, sound', origins⟩ := sound.advance taken
      exact ⟨move.exchanges exchanges, l', sound', move.agreeing sound agreeing sound' origins,
        move.alone sound alone agreeing taken sound' origins⟩
  obtain ⟨exchanges, l, sound, -, alone⟩ := known
  have answers := exchanges.served.answers
  constructor
  · intro sid conv has
    obtain ⟨v, replayed, same⟩ := alone.heard sid conv has
    exact ⟨v, replayed, same, by rw [answers, same]⟩
  · intro sid nothing
    have silent := alone.untold sid nothing
    exact ⟨silent, by rw [answers, silent]; rfl⟩
  · intro sid session alive
    obtain ⟨e, entry, owns⟩ := sound.intact.owned sid session alive
    obtain ⟨conv, v, has, replayed, knows, stands⟩ := alone.present e entry sid session owns alive
    refine ⟨conv, v, has, replayed, knows, fun nobody => stands.rests ?_⟩
    rw [nobody]
    exact nofun

/-- Two clients complete their handshakes, and the second one sends a message while the server
answers the first one. -/
def interleaved : List (Input Unit) :=
  greetThenSend () [7] ++
    [.arrive ⟨⟨2, 2⟩, [1]⟩, .recv .ready .normal, .finish [], .send .sent, .finish [],
      .peek false (addSucceeds 0 ()) 0, .recv .ready .normal, .finish [], .consume false [],
      .arrive ⟨⟨2, 2⟩, [8, 9]⟩, .peek false (addSucceeds 0 ()) 0, .recv .ready .normal, .finish [],
      .arrive ⟨⟨1, 1⟩, [5]⟩, .send .sent, .finish []]

/-- In that run each session has heard three calls, and is served as if it were alone. -/
theorem served_alone_interleaved :
    ∃ s told, runGuarded (observe (advance ⟨plain, .little, serverContext, 3⟩)
        (conversing ⟨plain, .little, serverContext, 3⟩)) (fun _ _ => true)
        (startZero, fun _ => none) interleaved = some (s, told) ∧
      messages s.log 0 = [[7]] ∧ messages s.log 1 = [[8, 9]] ∧
      (told 0).map (fun conv => conv.heard.length) = some 3 ∧
      (told 1).map (fun conv => conv.heard.length) = some 3 ∧
      ServedAlone ⟨plain, .little, serverContext, 3⟩ s told := by
  have ran : (runGuarded (observe (advance ⟨plain, .little, serverContext, 3⟩)
      (conversing ⟨plain, .little, serverContext, 3⟩)) (fun _ _ => true)
      (startZero, fun _ => none) interleaved).map (fun x => (messages x.1.log 0,
        messages x.1.log 1, (x.2 0).map (fun conv => conv.heard.length),
        (x.2 1).map fun conv => conv.heard.length)) =
      some ([[7]], [[8, 9]], some 3, some 3) := by
    decide +kernel
  obtain ⟨⟨s, told⟩, executed, facts⟩ := Option.map_eq_some_iff.mp ran
  simp only [Prod.mk.injEq] at facts
  obtain ⟨first, second, heard₁, heard₂⟩ := facts
  refine ⟨s, told, executed, first, second, heard₁, heard₂, served_alone ?_⟩
  exact reach_of_runGuarded _ (.start ⟨starts_startZero plain .little 3, rfl⟩) executed

end SpaceCaptain.Server
