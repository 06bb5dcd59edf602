import SpaceCaptain.Dtls.Intake
import SpaceCaptain.Server.Sessions

/-!
# Records and messages

What one `sc_dtls_read` returns is a message for the server: its first bytes are the header, and
it is answered with one reply of its length. The library gives out a record longer than the buffer
in pieces. An observer collects the records of each session whose bytes the server has begun to
read; the messages of a session are these records, one by one, exactly when each of them fits into
the buffer.
-/
namespace SpaceCaptain.Server

open SpaceCaptain.Dtls SpaceCaptain.Library

variable {ρ : Type}

/-- A message of a session, or a reply to one. -/
def Event.speaks : Event → Bool
  | .plaintext .. | .called _ (.write _) => true
  | _ => false

/-- The message that an event brings for a session. -/
def Event.message (sid : Nat) : Event → Option Bytes
  | .plaintext session bytes => if session = sid then some bytes else none
  | _ => none

/-- The reply that an event hands to `sc_dtls_write` for a session. -/
def Event.reply (sid : Nat) : Event → Option Bytes
  | .called session (.write bytes) => if session = sid then some bytes else none
  | _ => none

/-- The messages of a session, in order. -/
def messages (log : List Event) (sid : Nat) : List Bytes := log.filterMap (Event.message sid)

/-- The replies of a session, in order. -/
def replies (log : List Event) (sid : Nat) : List Bytes := log.filterMap (Event.reply sid)

/-- Some events without a message or a reply. -/
def Mute (events : List Event) : Prop := ∀ e ∈ events, e.speaks = false

/-- Events that do not speak bring nothing. -/
theorem Mute.filterMap {α : Type} {events : List Event} (mute : Mute events)
    {read : Event → Option α} (silent : ∀ e, e.speaks = false → read e = none) :
    events.filterMap read = [] :=
  List.filterMap_eq_nil_iff.mpr fun e member => silent e (mute e member)

/-- An event that does not speak has no message. -/
theorem Event.message_mute {sid : Nat} (e : Event) (mute : e.speaks = false) :
    e.message sid = none := by
  cases e <;> first | rfl | contradiction

/-- An event that does not speak has no reply. -/
theorem Event.reply_mute {sid : Nat} (e : Event) (mute : e.speaks = false) :
    e.reply sid = none := by
  cases e with
  | called session call => cases call <;> first | rfl | contradiction
  | _ => rfl

/-- Mute events change neither the messages nor the replies of a session. -/
theorem Mute.kept {log events : List Event} (mute : Mute events) (sid : Nat) :
    messages (log ++ events) sid = messages log sid ∧
      replies (log ++ events) sid = replies log sid := by
  constructor
  · rw [messages, List.filterMap_append, mute.filterMap Event.message_mute, List.append_nil]
    rfl
  · rw [replies, List.filterMap_append, mute.filterMap Event.reply_mute, List.append_nil]
    rfl

/-- Mute events one after the other. -/
theorem Mute.append {first second : List Event} (before : Mute first) (after : Mute second) :
    Mute (first ++ second) := by
  intro e member
  rcases List.mem_append.mp member with early | late
  · exact before e early
  · exact after e late

/-- The end of a session is mute. -/
theorem Closed.mute (closed : Closed) : Mute closed.events := by
  intro e member
  rcases List.mem_append.mp member with sent | ended
  · obtain ⟨packet, -, rfl⟩ := List.mem_map.mp sent
    rfl
  · simp only [List.mem_cons, List.not_mem_nil, or_false] at ended
    rcases ended with rfl | rfl <;> rfl

/-- The record that a call begins to read, if any: a read that gives bytes begins one unless it
goes on with the rest of a record. -/
def beganRecord (B : Intake ρ) (ssl : ρ) (seen : List Seen) :
    (call : Call) → Except MbedErr call.Value → Option Bytes
  | .read len, .ok data =>
    if data.isEmpty || B.partway ssl then none else (B.available (.read len) ssl seen).head?
  | _, _ => none

/-- The records begun so far, for each session in order. -/
def beganRecords (H : Host ρ) (B : Intake ρ) (s : State ρ) (input : Input ρ)
    (begun : Nat → List Bytes) : Nat → List Bytes :=
  match returning H s input with
  | some r => Function.update begun r.sid
      (begun r.sid ++ (beganRecord B r.session.ssl r.seen r.call r.ret).toList)
  | none => begun

/-- A new session has not begun a record. -/
def startsBlank {τ : Type} (B : Intake ρ) (_ : τ) (input : Input ρ) : Bool :=
  match input with
  | .peek false add _ => !B.partway add.session.ssl
  | _ => true

/-- Each record of a session is one message, with one reply of its length. -/
structure OneMessageEach (e : Endian) (log : List Event) (sid : Nat) (records : List Bytes) :
    Prop where
  /-- The messages are the records. -/
  messages : messages log sid = records
  /-- Each of them is answered with its reply. -/
  replies : replies log sid = records.map (replyTo e)
  /-- A reply is as long as its record. -/
  lengths : (Server.replies log sid).map List.length = records.map List.length

/-- What a run keeps of messages, replies and records. -/
structure Recorded (H : Host ρ) (B : Intake ρ) (s : State ρ) (begun : Nat → List Bytes) :
    Prop where
  /-- A message fits into the buffer. -/
  short : ∀ sid, ∀ message ∈ messages s.log sid, message.length ≤ socketBufferSize
  /-- Each message has its reply. -/
  answered : ∀ sid, replies s.log sid = (messages s.log sid).map (replyTo H.endian)
  /-- When the records of a session fit into the buffer, its messages are these records. -/
  whole : ∀ sid, (∀ record ∈ begun sid, record.length ≤ socketBufferSize) →
    messages s.log sid = begun sid
  /-- Then the session is not in the middle of a record. -/
  complete : ∀ sid session, (∀ record ∈ begun sid, record.length ≤ socketBufferSize) →
    s.registry.sessions.get? sid = some session → B.partway session.ssl = false

section Steps

variable {H : Host ρ} {B : Intake ρ} {s s' : State ρ} {l l' : List Entry}
  {begun : Nat → List Bytes}

/-- What the server makes of a result: a read that gives bytes is a message with its reply, and
everything else is mute. -/
theorem Settled.speaks {left client sid : Nat} {call : Call} {result : DtlsResult} {data : Bytes}
    (settled : Settled H s l left client sid call result data s' l') :
    (∃ len, call = .read len ∧ result = .ok ∧ 0 < data.length ∧
      s'.log = s.log ++ [.plaintext sid data, .called sid (.write (replyTo H.endian data))]) ∨
    (∀ len, call = .read len → result = .ok → data = []) ∧
      ∃ events, Mute events ∧ s'.log = s.log ++ events := by
  have mute (log : s'.log = s.log) : ∃ events, Mute events ∧ s'.log = s.log ++ events :=
    ⟨[], fun _ member => absurd member List.not_mem_nil, by rw [log, List.append_nil]⟩
  cases settled with
  | answered len data buffer nonempty => exact .inl ⟨len, rfl, rfl, nonempty, rfl⟩
  | broken len result data unread => exact .inr ⟨fun _ _ => unread, mute rfl⟩
  | peerClosed len data registry closed => exact .inr ⟨nofun, _, closed.mute, rfl⟩
  | unwritten _ _ _ _ closed => exact .inr ⟨nofun, _, closed.mute, rfl⟩
  | completed | pending | failed | nothing | written => exact .inr ⟨nofun, mute rfl⟩

/-- A step in which no call returns is mute. -/
theorem Move.mute {input : Input ρ} (move : Move H s l input s' l')
    (running : ∀ outcomes, input ≠ .finish outcomes) :
    ∃ events, Mute events ∧ s'.log = s.log ++ events := by
  have one (e : Event) (silent : e.speaks = false) : Mute [e] := fun _ member =>
    List.mem_singleton.mp member ▸ silent
  have none : Mute [] := fun _ member => absurd member List.not_mem_nil
  have first (c : Client) (sid : Nat) : Event.speaks (.called sid (firstCall c)) = false := by
    unfold firstCall
    split <;> rfl
  cases move with
  | arrive | refused | send => exact ⟨_, one _ rfl, rfl⟩
  | signal | interrupted | dispatch | leave | lastEvent | nextEvent | drained | halt =>
    exact ⟨[], none, (List.append_nil _).symm⟩
  | sweep _ _ sweepNow _ _ closed =>
    refine ⟨closed.flatMap Closed.events ++ [.swept sweepNow], ?_, List.append_assoc _ _ _⟩
    refine Mute.append (fun e member => ?_) (one _ rfl)
    obtain ⟨d, -, ended⟩ := List.mem_flatMap.mp member
    exact d.mute e ended
  | known _ _ _ _ _ client c sid => exact ⟨_, one _ (first c sid), rfl⟩
  | admitted => exact ⟨_, (one _ rfl).append (one _ rfl), rfl⟩
  | recv _ _ _ _ _ sid _ _ _ _ _ received =>
    refine ⟨_, ?_, rfl⟩
    obtain ⟨-, -, fate⟩ := received
    cases fate with
    | kept => exact none
    | handed d | ignored d => exact one _ rfl
  | finish => exact absurd rfl (running _)
  | consume _ _ _ _ _ _ consumed =>
    cases consumed with
    | nothing => exact ⟨[], none, (List.append_nil _).symm⟩
    | taken => exact ⟨_, one _ rfl, rfl⟩
  | discard _ _ _ _ _ _ _ closed _ consumed =>
    cases consumed with
    | nothing => exact ⟨_, closed.mute, rfl⟩
    | taken => exact ⟨_, (one _ rfl).append closed.mute, List.append_assoc _ _ _⟩
  | shutdown _ _ _ closed => exact ⟨_, closed.mute, rfl⟩

/-- Without a return there are no records begun. -/
theorem beganRecords_running {input : Input ρ} (running : ∀ outcomes, input ≠ .finish outcomes) :
    beganRecords H B s input begun = begun := by
  cases input with
  | finish outcomes => exact absurd rfl (running outcomes)
  | _ => rfl

/-- A mute step in which no record is begun. -/
theorem Recorded.mute {events : List Event} (recorded : Recorded H B s begun) (mute : Mute events)
    (log : s'.log = s.log ++ events)
    (complete : ∀ sid session, (∀ record ∈ begun sid, record.length ≤ socketBufferSize) →
      s'.registry.sessions.get? sid = some session → B.partway session.ssl = false) :
    Recorded H B s' begun where
  short sid message member := by
    rw [log, (mute.kept sid).1] at member
    exact recorded.short sid message member
  answered sid := by
    rw [log, (mute.kept sid).1, (mute.kept sid).2]
    exact recorded.answered sid
  whole sid fit := by
    rw [log, (mute.kept sid).1]
    exact recorded.whole sid fit
  complete := complete

/-- A step in which no call returns keeps messages, replies and records. -/
theorem Recorded.running {input : Input ρ} (recorded : Recorded H B s begun)
    (move : Move H s l input s' l') (running : ∀ outcomes, input ≠ .finish outcomes)
    (blank : startsBlank B (s, begun) input = true) (origins : ∀ q session',
      s'.registry.sessions.get? q = some session' → Origin s l H q session' input) :
    Recorded H B s' (beganRecords H B s input begun) := by
  obtain ⟨events, mute, log⟩ := move.mute running
  rw [beganRecords_running running]
  refine recorded.mute mute log fun sid session fit live => ?_
  cases origins sid session live with
  | kept _ same => exact recorded.complete sid session fit same
  | created _ _ _ _ _ _ _ _ ssl =>
    rw [ssl]
    simpa [startsBlank] using blank
  | returned => exact absurd rfl (running _)

/-- The reading of a message of a session whose next record is begun, or goes on. -/
theorem Recorded.message {sid : Nat} {session : Session ρ} {record : Bytes} {ssl : ρ}
    {events : List Event} (recorded : Recorded H B s begun) (mute : Mute events)
    (log : s'.log = s.log ++ events ++ [.plaintext sid (record.take socketBufferSize),
      .called sid (.write (replyTo H.endian (record.take socketBufferSize)))])
    (alive : s.registry.sessions.get? sid = some session)
    (live : ∀ q session', s'.registry.sessions.get? q = some session' →
      q = sid ∧ session'.ssl = ssl ∨ q ≠ sid ∧ s.registry.sessions.get? q = some session')
    (partway : B.partway ssl = decide (socketBufferSize < record.length)) :
    Recorded H B s' (Function.update begun sid
      (begun sid ++ (if B.partway session.ssl then none else some record).toList)) := by
  have log_messages (q : Nat) : messages s'.log q =
      messages s.log q ++ if sid = q then [record.take socketBufferSize] else [] := by
    rw [log, messages, List.filterMap_append, ← messages, (mute.kept q).1]
    by_cases here : sid = q <;> simp [here, Event.message]
  have log_replies (q : Nat) : replies s'.log q = replies s.log q ++
      if sid = q then [replyTo H.endian (record.take socketBufferSize)] else [] := by
    rw [log, replies, List.filterMap_append, ← replies, (mute.kept q).2]
    by_cases here : sid = q <;> simp [here, List.filterMap_cons, Event.reply]
  -- When all records fit, the session was not in the middle of one, and begins this one.
  have begins (fit : ∀ r ∈ begun sid ++
      (if B.partway session.ssl then none else some record).toList,
        r.length ≤ socketBufferSize) :
      B.partway session.ssl = false ∧ record.length ≤ socketBufferSize := by
    have fresh : B.partway session.ssl = false := recorded.complete sid session
      (fun r member => fit r (List.mem_append_left _ member)) alive
    exact ⟨fresh, fit record (by simp [fresh])⟩
  constructor
  · intro q message member
    rw [log_messages] at member
    rcases List.mem_append.mp member with old | new
    · exact recorded.short q message old
    · split at new
      · rw [List.mem_singleton.mp new]
        exact List.length_take_le _ _
      · contradiction
  · intro q
    rw [log_messages, log_replies, recorded.answered q, List.map_append]
    split <;> rfl
  · intro q fit
    rw [log_messages]
    by_cases here : q = sid
    · subst here
      rw [Function.update_self] at fit ⊢
      obtain ⟨fresh, short⟩ := begins fit
      rw [recorded.whole q fun r member => fit r (List.mem_append_left _ member), if_pos rfl,
        List.take_of_length_le short]
      simp [fresh]
    · rw [Function.update_of_ne here] at fit ⊢
      rw [recorded.whole q fit, if_neg (Ne.symm here), List.append_nil]
  · intro q session' fit found
    rcases live q session' found with ⟨rfl, state⟩ | ⟨here, before⟩
    · rw [Function.update_self] at fit
      rw [state, partway]
      exact decide_eq_false (Nat.not_lt.mpr (begins fit).2)
    · rw [Function.update_of_ne here] at fit
      exact recorded.complete q session' fit before

/-- What a return makes of the session and of the records: either it reads no bytes and the
session is in the middle of a record only if it was, or it is a read of a message. -/
theorem returned_read (laws : B.Laws H.engine) {call : Call} {seen : List Seen}
    {session : Session ρ} {ret : Except MbedErr call.Value} {ssl : ρ} {accepted : Bool}
    (room : ∀ len, call = .read len → len = socketBufferSize)
    (moves : H.engine.move call session.ssl seen = .finish ret ssl accepted) :
    (beganRecord B session.ssl seen call ret = none ∧
      (∀ len, call = .read len → (callResult session ssl call ret).2.1 = .ok →
        (callResult session ssl call ret).2.2 = []) ∧
      (B.partway session.ssl = false → B.partway ssl = false)) ∨
    ∃ record, call = .read socketBufferSize ∧ (callResult session ssl call ret).2.1 = .ok ∧
      (callResult session ssl call ret).2.2 = record.take socketBufferSize ∧
      record.take socketBufferSize ≠ [] ∧
      beganRecord B session.ssl seen call ret =
        (if B.partway session.ssl then none else some record) ∧
      B.partway ssl = decide (socketBufferSize < record.length) := by
  cases call with
  | handshake =>
    have kept := (laws.handshakes _ _ _ _ _ moves).2
    exact .inl ⟨rfl, by simp, fun before => kept.trans before⟩
  | write bytes =>
    have kept := (laws.writes _ _ _ _ _ _ moves).2
    exact .inl ⟨rfl, by simp, fun before => kept.trans before⟩
  | read len =>
    obtain rfl := room len rfl
    cases ret with
    | error code =>
      have kept := (laws.fails _ _ _ _ _ _ moves).2
      refine .inl ⟨rfl, fun _ _ fine => ?_, fun before => kept.trans before⟩
      obtain ⟨bytes, returned, -⟩ := readResult_ok (Prod.ext fine rfl)
      contradiction
    | ok data =>
      obtain ⟨record, rest, all, rfl, -, partway⟩ := laws.reads _ _ _ _ _ _ moves
      have whole : (record.take socketBufferSize).take socketBufferSize =
          record.take socketBufferSize := List.take_of_length_le (List.length_take_le _ _)
      cases piece : record.take socketBufferSize with
      | nil =>
        -- A record without bytes is no message for the server.
        obtain rfl : record = [] := by
          rcases List.take_eq_nil_iff.mp piece with nothing | nothing
          · contradiction
          · exact nothing
        exact .inl ⟨rfl, fun _ _ _ => rfl, fun _ => partway⟩
      | cons b more =>
        have result : (callResult session ssl (.read socketBufferSize)
            (.ok (record.take socketBufferSize))).2 = (.ok, record.take socketBufferSize) := by
          simp only [callResult, Except.map, whole]
          rw [piece, readResult]
          exact List.cons_ne_nil _ _
        rw [← piece]
        refine .inr ⟨record, rfl, congrArg Prod.fst result, congrArg Prod.snd result, ?_, ?_,
          partway⟩
        · rw [piece]
          exact List.cons_ne_nil _ _
        · simp only [beganRecord, all, piece]
          cases B.partway session.ssl <;> rfl

/-- The return of a call keeps messages, replies and records. -/
theorem Recorded.returned {left client sid : Nat} {call : Call} {seen : List Seen} {c : Client}
    {session : Session ρ} {ret : Except MbedErr call.Value} {ssl : ρ} {accepted : Bool}
    {outcomes : List SendOutcome} {sessions : Heap (Session ρ)} (laws : B.Laws H.engine)
    (sound : Sound H s l) (recorded : Recorded H B s begun)
    (inside : InCall s l left client call seen c sid session)
    (moves : H.engine.move call session.ssl seen = .finish ret ssl accepted)
    (settled : Settled H
      { s with
        registry := { s.registry with sessions }
        log := s.log ++ (if accepted then [.accepted sid c.lastActivity] else []) ++
          [.returned sid call (callResult session ssl call ret).2.1] }
      l left client sid call (callResult session ssl call ret).2.1
      (callResult session ssl call ret).2.2 s' l')
    (origins : ∀ q session', s'.registry.sessions.get? q = some session' →
      Origin s l H q session' (.finish outcomes)) :
    Recorded H B s' (beganRecords H B s (.finish outcomes) begun) := by
  have room (len : Nat) (reads : call = .read len) : len = socketBufferSize :=
    sound.room left client len seen (reads ▸ inside.at_pc)
  have live (q : Nat) (session' : Session ρ) (alive : s'.registry.sessions.get? q = some session') :
      q = sid ∧ session'.ssl = ssl ∨ q ≠ sid ∧ s.registry.sessions.get? q = some session' := by
    have origin := origins q session' alive
    by_cases here : q = sid
    · subst here
      rw [origin.current sound.intact inside moves, callResult_ssl]
      exact .inl ⟨rfl, rfl⟩
    · exact .inr ⟨here, origin.other sound.intact inside here⟩
  have back := inside.returning sound.intact moves outcomes
  have prefixMute : Mute ((if accepted then [.accepted sid c.lastActivity] else []) ++
      [.returned sid call (callResult session ssl call ret).2.1]) := by
    intro e member
    cases accepted <;> simp at member <;> rcases member with rfl | rfl <;> rfl
  rcases returned_read laws room moves with ⟨none, nothing, onward⟩ |
    ⟨record, reads, ok, data, nonempty, began, partway⟩
  · -- No bytes are read: the log stays mute, and no record is begun.
    have same : beganRecords H B s (.finish outcomes) begun = begun := by
      simp [beganRecords, back, none]
    obtain ⟨events, mute, log⟩ : ∃ events, Mute events ∧ s'.log = s.log ++ events := by
      rcases settled.speaks with ⟨len, isRead, fine, some, -⟩ | ⟨-, events, mute, log⟩
      · rw [nothing len isRead fine] at some
        exact absurd some (Nat.lt_irrefl 0)
      · exact ⟨_, prefixMute.append mute, by rw [log]; simp only [List.append_assoc]⟩
    rw [same]
    refine recorded.mute mute log fun q session' fit alive => ?_
    rcases live q session' alive with ⟨rfl, state⟩ | ⟨-, before⟩
    · rw [state]
      exact onward (recorded.complete q session fit inside.live)
    · exact recorded.complete q session' fit before
  · have same : beganRecords H B s (.finish outcomes) begun = Function.update begun sid
        (begun sid ++ (if B.partway session.ssl then none else some record).toList) := by
      simp only [beganRecords, back, began]
    rcases settled.speaks with ⟨len, -, -, -, log⟩ | ⟨nothing, -⟩
    · rw [same]
      refine recorded.message prefixMute ?_ inside.live live partway
      rw [log, data]
      simp only [List.append_assoc]
    · exact absurd (data.symm.trans (nothing _ reads ok)) nonempty

end Steps

/-- In every run whose new sessions are blank, the messages of a session are the records that it
accepted, one by one and each with one reply of its length, exactly when the records fit into the
buffer. -/
theorem one_record_one_message {H : Host ρ} {B : Intake ρ} (laws : B.Laws H.engine) {s : State ρ}
    {begun : Nat → List Bytes}
    (reached : Watched H (fun _ _ => []) (beganRecords H B) (startsBlank B) (s, begun))
    (sid : Nat) :
    OneMessageEach H.endian s.log sid (begun sid) ↔
      ∀ record ∈ begun sid, record.length ≤ socketBufferSize := by
  obtain ⟨l, -, recorded⟩ := Watched.listed_sessions
    (I := fun s begun _ => Recorded H B s begun)
    (fun s starts => by
      obtain ⟨-, buffer, now, -, rfl⟩ := starts
      exact ⟨fun _ _ member => absurd member List.not_mem_nil, fun _ => rfl, fun _ _ => rfl,
        fun _ _ _ live => by simp [start, Registry.empty] at live⟩)
    (fun s begun l input s' l' sound recorded blank move sound' origins => by
      by_cases returns : ∃ outcomes, input = .finish outcomes
      · obtain ⟨outcomes, rfl⟩ := returns
        cases move with
        | finish left client call seen c sid session ret ssl accepted _ sessions _ _ inside moves _
            _ settled => exact recorded.returned laws sound inside moves settled origins
      · exact recorded.running move (not_exists.mp returns) blank origins) reached
  constructor
  · intro each record member
    rw [← each.messages] at member
    exact recorded.short sid record member
  · intro fit
    have same := recorded.whole sid fit
    have answered : replies s.log sid = (begun sid).map (replyTo H.endian) := by
      rw [recorded.answered, same]
    refine ⟨same, answered, ?_⟩
    rw [answered, List.map_map]
    exact List.map_congr_left fun record _ => replyTo_length H.endian record

/-- A client sends one record, which the server reads and answers. -/
def oneRecord (record : Bytes) : List (Input (List Bytes × Bool)) :=
  greetThenSend ([], false) (1 :: record) ++
    [.recv .ready .normal, .finish [], .send .sent, .finish []]

/-- A record of 3 bytes is one message with one reply. -/
theorem one_record_one_message_short :
    ∃ s begun, runGuarded (observe (advance ⟨bundled, .little, serverContext, 3⟩)
        (beganRecords ⟨bundled, .little, serverContext, 3⟩ bundledIntake))
        (startsBlank bundledIntake) (startZero, fun _ => []) (oneRecord [7, 8, 9]) =
          some (s, begun) ∧
      begun 0 = [[7, 8, 9]] ∧ OneMessageEach .little s.log 0 (begun 0) := by
  have ran : (runGuarded (observe (advance ⟨bundled, .little, serverContext, 3⟩)
      (beganRecords ⟨bundled, .little, serverContext, 3⟩ bundledIntake))
      (startsBlank bundledIntake) (startZero, fun _ => []) (oneRecord [7, 8, 9])).map
        (fun x => x.2 0) = some [[7, 8, 9]] := by
    decide +kernel
  obtain ⟨⟨s, begun⟩, executed, records⟩ := Option.map_eq_some_iff.mp ran
  refine ⟨s, begun, executed, records, ?_⟩
  refine (one_record_one_message bundled_laws (H := ⟨bundled, .little, serverContext, 3⟩)
    (reach_of_runGuarded _ (.start ⟨starts_startZero bundled .little 3, rfl⟩) executed) 0).mpr ?_
  rw [show begun 0 = [[7, 8, 9]] from records]
  decide

/-- A record of 4097 bytes comes first, and the server reads a second time when another datagram of
the client is in the socket. -/
def longRecord : List (Input (List Bytes × Bool)) :=
  oneRecord (List.replicate 4097 7) ++
    [.arrive ⟨⟨1, 1⟩, [1]⟩, .peek false (addSucceeds 0 ([], false)) 0, .finish [], .send .sent,
      .finish []]

/-- The server takes that record for two messages, of 4096 bytes and of one byte. -/
theorem long_record_splits :
    bundledIntake.Laws bundled ∧
    ∃ s begun, runGuarded (observe (advance ⟨bundled, .little, serverContext, 3⟩)
        (beganRecords ⟨bundled, .little, serverContext, 3⟩ bundledIntake))
        (startsBlank bundledIntake) (startZero, fun _ => []) longRecord = some (s, begun) ∧
      (begun 0).map List.length = [4097] ∧
      (messages s.log 0).map List.length = [4096, 1] ∧
      (replies s.log 0).map List.length = [4096, 1] ∧
      ¬OneMessageEach .little s.log 0 (begun 0) := by
  have ran : (runGuarded (observe (advance ⟨bundled, .little, serverContext, 3⟩)
      (beganRecords ⟨bundled, .little, serverContext, 3⟩ bundledIntake))
      (startsBlank bundledIntake) (startZero, fun _ => []) longRecord).map (fun x =>
        ((x.2 0).map List.length, (messages x.1.log 0).map List.length,
          (replies x.1.log 0).map List.length)) = some ([4097], [4096, 1], [4096, 1]) := by
    decide +kernel
  obtain ⟨⟨s, begun⟩, executed, lengths⟩ := Option.map_eq_some_iff.mp ran
  simp only [Prod.mk.injEq] at lengths
  obtain ⟨records, split, answered⟩ := lengths
  refine ⟨bundled_laws, s, begun, executed, records, split, answered, fun each => ?_⟩
  rw [each.messages, records] at split
  exact absurd split (by decide)

end SpaceCaptain.Server
