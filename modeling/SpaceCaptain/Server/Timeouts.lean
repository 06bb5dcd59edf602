import SpaceCaptain.Server.Moves

/-!
# What keeps a client alive

The server may keep a client only while valid records arrive from it, within the window of the
timeout. It decides by a stamp that it writes when it peeks at a datagram, before the library has
seen it. `authenticated` says of the return of a call that the stamp was earned; in the runs
where every return is of that kind, `Earned` holds of every client but the one that the server
works on, and a timeout check leaves only clients with a valid record in the window.
-/
namespace SpaceCaptain.Server

open SpaceCaptain.Dtls SpaceCaptain.Library

variable {ρ : Type}

/-- A session was created at a time, or had a record accepted then. -/
def Vouched (log : List Event) (sid : Nat) (time : Int) : Prop :=
  (∃ addr, Event.created sid addr time ∈ log) ∨ Event.accepted sid time ∈ log

/-- When a timeout check has finished, each client that is left was created, or had a record
accepted, in the window before it. -/
def OnlyValidRecords (s : State ρ) : Prop :=
  ∀ before now, s.log = before ++ [.swept now] →
    ∃ l, Intact s.registry l ∧ ∀ e ∈ l, ∃ sid time, e.2.dtlsSession = some sid ∧
      Vouched before sid time ∧ now - time ≤ clientTimeoutSeconds

/-- An event vouches for a session since a time. -/
def Event.vouches (sid : Nat) (since : Int) : Event → Bool
  | .created session _ time | .accepted session time => session == sid && decide (since ≤ time)
  | _ => false

/-- When a call returns and the client stays, the call has accepted a record, or the client's
stamp is no later than a time at which its session was created or had a record accepted. -/
def authenticated (H : Host ρ) (s : State ρ) : Input ρ → Bool
  | .finish _ =>
    match s.pc with
    | .engine _ client call seen =>
      Option.getD (do
        let c ← s.registry.clients.get? client
        let sid ← c.dtlsSession
        let session ← s.registry.sessions.get? sid
        match H.engine.move call session.ssl seen with
        | .finish ret ssl accepted =>
          let result := (callResult session ssl call ret).2.1
          some (accepted || s.log.any (Event.vouches sid c.lastActivity) ||
            (result != .ok && result != .errorWouldBlock))
        | _ => none) true
    | _ => true
  | _ => true

/-- Somebody vouches for a session since a time. -/
theorem any_vouches {log : List Event} {sid : Nat} {since : Int} :
    log.any (Event.vouches sid since) = true ↔ ∃ time, Vouched log sid time ∧ since ≤ time := by
  rw [List.any_eq_true]
  constructor
  · rintro ⟨event, member, vouches⟩
    cases event with
    | created session addr time =>
      simp only [Event.vouches, Bool.and_eq_true, beq_iff_eq, decide_eq_true_eq] at vouches
      obtain ⟨rfl, later⟩ := vouches
      exact ⟨time, .inl ⟨addr, member⟩, later⟩
    | accepted session time =>
      simp only [Event.vouches, Bool.and_eq_true, beq_iff_eq, decide_eq_true_eq] at vouches
      obtain ⟨rfl, later⟩ := vouches
      exact ⟨time, .inr member, later⟩
    | _ => contradiction
  · rintro ⟨time, ⟨addr, member⟩ | member, later⟩
    · exact ⟨_, member, by simp [Event.vouches, later]⟩
    · exact ⟨_, member, by simp [Event.vouches, later]⟩

/-- What vouches for a session goes on to do so. -/
theorem Vouched.mono {log events : List Event} {sid : Nat} {time : Int}
    (vouched : Vouched log sid time) : Vouched (log ++ events) sid time := by
  rcases vouched with ⟨addr, member⟩ | member
  · exact .inl ⟨addr, List.mem_append_left _ member⟩
  · exact .inr (List.mem_append_left _ member)

/-- The stamp of a client is no later than something that vouches for its session. -/
def Earned (log : List Event) (c : Client) : Prop :=
  ∃ sid time, c.dtlsSession = some sid ∧ Vouched log sid time ∧ c.lastActivity ≤ time

/-- An earned stamp stays earned. -/
theorem Earned.mono {log events : List Event} {c : Client} (earned : Earned log c) :
    Earned (log ++ events) c := by
  obtain ⟨sid, time, owns, vouched, later⟩ := earned
  exact ⟨sid, time, owns, vouched.mono, later⟩

/-- Every client but the one that the server works on has an earned stamp. -/
def AllEarned (s : State ρ) (l : List Entry) : Prop :=
  ∀ e ∈ l, s.pc.client ≠ some e.1 → Earned s.log e.2

section Steps

variable {H : Host ρ} {s s' s₁ : State ρ} {l l' : List Entry} {events : List Event}

/-- A step that lets the server keep working on the client it works on, or begin with one. -/
theorem AllEarned.keep (earned : AllEarned s l) (log : s'.log = s.log ++ events)
    (list : ∀ e ∈ l', s'.pc.client ≠ some e.1 → e ∈ l ∧ s.pc.client ≠ some e.1) :
    AllEarned s' l' := by
  intro e member apart
  obtain ⟨entry, before⟩ := list e member apart
  rw [log]
  exact (earned e entry before).mono

/-- What `authenticated` says of the return of a call. -/
theorem authenticated_finish {left client sid : Nat} {call : Call} {seen : List Seen} {c : Client}
    {session : Session ρ} (intact : Intact s.registry l)
    (inside : InCall s l left client call seen c sid session) {ret : Except MbedErr call.Value}
    {ssl : ρ} {accepted : Bool}
    (moves : H.engine.move call session.ssl seen = .finish ret ssl accepted)
    (outcomes : List SendOutcome) :
    authenticated H s (.finish outcomes) =
      (accepted || s.log.any (Event.vouches sid c.lastActivity) ||
        ((callResult session ssl call ret).2.1 != .ok &&
          (callResult session ssl call ret).2.1 != .errorWouldBlock)) := by
  obtain ⟨n, live, fields⟩ := intact.node inside.member
  have pointer : n.dtlsSession = some sid := by rw [fields, inside.owns]
  have activity : n.lastActivity = c.lastActivity := by rw [fields]
  simp only [authenticated, inside.at_pc, live, pointer, inside.live, moves, activity,
    Option.bind_eq_bind, Option.bind_some, Option.getD_some]

/-- What the server makes of the result of a call, when the stamp of a client that stays is
earned. -/
theorem Settled.earned {left client sid : Nat} {call : Call} {result : DtlsResult} {data : Bytes}
    {c : Client} (intact : Intact s.registry l) (member : (client, c) ∈ l)
    (others : ∀ e ∈ l, e.1 ≠ client → Earned s.log e.2)
    (stays : result = .ok ∨ result = .errorWouldBlock → Earned s.log c)
    (settled : Settled H s l left client sid call result data s' l') : AllEarned s' l' := by
  have all (kept : result = .ok ∨ result = .errorWouldBlock) (e : Entry) (entry : e ∈ l) :
      Earned s.log e.2 := by
    by_cases here : e.1 = client
    · obtain ⟨p, d⟩ := e
      obtain rfl : p = client := here
      rw [intact.same entry member]
      exact stays kept
    · exact others e entry here
  cases settled with
  | completed =>
    intro e entry _
    obtain ⟨d, before, rfl⟩ := mem_editClient.mp entry
    split <;> exact all (.inl rfl) d before
  | pending | nothing => exact fun e entry _ => all (.inr rfl) e entry
  | written _ _ _ fine => exact fun e entry _ => all fine e entry
  | failed | broken => exact fun e entry apart => others e entry fun here => apart (here ▸ rfl)
  | answered =>
    exact fun e entry apart => (others e entry fun here => apart (here ▸ rfl)).mono
  | peerClosed | unwritten =>
    intro e entry _
    obtain ⟨before, apart⟩ := mem_dropClient.mp entry
    exact (others e before apart).mono

/-- The explicit `recvfrom` adds to the record. -/
theorem Consumed.log {why : Discard} {failed : Bool} (consumed : Consumed s why failed s') :
    ∃ events, s'.log = s.log ++ events := by
  cases consumed with
  | nothing => exact ⟨[], (List.append_nil _).symm⟩
  | taken d rest => exact ⟨_, rfl⟩

/-- Every authenticated move keeps the stamps earned. -/
theorem Move.earned {input : Input ρ} (sound : Sound H s l) (earned : AllEarned s l)
    (authentic : authenticated H s input = true) (move : Move H s l input s' l') :
    AllEarned s' l' := by
  have idle (at_pc : s.pc.client = none) (e : Entry) : s.pc.client ≠ some e.1 := by
    rw [at_pc]
    nofun
  cases move with
  | arrive d => exact earned.keep rfl fun e entry apart => ⟨entry, apart⟩
  | signal => exact earned.keep (List.append_nil _).symm fun e entry apart => ⟨entry, apart⟩
  | interrupted => exact earned
  | dispatch _ _ _ _ at_pc | leave at_pc | lastEvent at_pc | nextEvent _ at_pc
  | drained _ _ _ _ at_pc | halt _ at_pc =>
    exact earned.keep (List.append_nil _).symm fun e entry _ =>
      ⟨entry, idle (by rw [at_pc]; rfl) e⟩
  | sweep _ _ _ _ _ _ at_pc =>
    exact earned.keep (List.append_assoc _ _ _) fun e entry _ =>
      ⟨(List.mem_filter.mp entry).1, idle (by rw [at_pc]; rfl) e⟩
  | known left add now d rest client c sid registry at_pc =>
    refine earned.keep rfl fun e entry apart => ?_
    obtain ⟨d, before, rfl⟩ := mem_editClient.mp entry
    split at apart
    · rename_i here
      exact absurd (congrArg some here.symm) apart
    · rename_i other
      rw [if_neg other]
      exact ⟨before, idle (by rw [at_pc]; rfl) d⟩
  | refused _ _ _ _ _ _ at_pc =>
    exact earned.keep rfl fun e entry _ => ⟨entry, idle (by rw [at_pc]; rfl) e⟩
  | admitted left add now d rest client registry at_pc =>
    refine earned.keep rfl fun e entry apart => ?_
    rcases List.mem_cons.mp entry with rfl | entry
    · exact absurd rfl apart
    · exact ⟨entry, idle (by rw [at_pc]; rfl) e⟩
  | send left client call seen c sid session bytes outcome inside =>
    refine earned.keep rfl fun e entry apart => ⟨entry, ?_⟩
    rw [inside.at_pc]
    exact apart
  | recv left client call seen c sid session _ _ _ _ received inside =>
    refine earned.keep rfl fun e entry apart => ⟨entry, ?_⟩
    rw [inside.at_pc]
    exact apart
  | finish left client call seen c sid session ret ssl accepted outcomes sessions _ _ inside moves
      stored size settled =>
    refine settled.earned stored inside.member ?_ ?_
    · intro e entry apart
      have before : s.pc.client ≠ some e.1 := by
        rw [inside.at_pc]
        exact fun same => apart (Option.some.inj same).symm
      exact (earned e entry before).mono.mono
    · intro stays
      rw [authenticated_finish sound.intact inside moves] at authentic
      cases accepted with
      | true =>
        refine ⟨sid, c.lastActivity, inside.owns, .inr ?_, Int.le_refl _⟩
        exact List.mem_append_left _ (List.mem_append_right _ (List.mem_singleton_self _))
      | false =>
        have known : s.log.any (Event.vouches sid c.lastActivity) = true := by
          rcases stays with ok | blocked
          · simpa [ok] using authentic
          · simpa [blocked] using authentic
        obtain ⟨time, vouched, later⟩ := any_vouches.mp known
        exact ⟨sid, time, inside.owns, vouched.mono.mono, later⟩
  | consume left why failed outcomes s₁ at_pc consumed =>
    obtain ⟨events, log⟩ := consumed.log
    exact earned.keep log fun e entry _ => ⟨entry, idle (by rw [at_pc]; rfl) e⟩
  | discard left why client failed outcomes s₁ registry closed at_pc consumed =>
    obtain ⟨events, log⟩ := consumed.log
    have longer : s₁.log ++ closed.events = s.log ++ (events ++ closed.events) := by
      rw [log, List.append_assoc]
    refine earned.keep longer fun e entry _ => ?_
    obtain ⟨before, apart⟩ := mem_dropClient.mp entry
    refine ⟨before, ?_⟩
    rw [at_pc]
    exact fun same => apart (Option.some.inj same).symm
  | shutdown outcomes client registry closed at_pc =>
    exact earned.keep rfl fun e entry _ =>
      ⟨(mem_dropClient.mp entry).1, idle (by rw [at_pc]; rfl) e⟩

/-- The record does not end with a timeout check. -/
def EndsElsewhere (log : List Event) : Prop :=
  ∃ before event, log = before ++ [event] ∧ ∀ now, event ≠ .swept now

/-- The end of a session is not a timeout check. -/
theorem Closed.endsElsewhere (log : List Event) (d : Closed) : EndsElsewhere (log ++ d.events) :=
  ⟨log ++ (d.sends.map fun packet => .sent d.session d.dest packet.1 packet.2) ++
    [.closed d.session], .destroyed d.session, by simp [Closed.events], nofun⟩

/-- The latest event after what the server makes of the result of a call. -/
theorem Settled.endsElsewhere {left client sid : Nat} {call : Call} {result : DtlsResult}
    {data : Bytes} (returned : EndsElsewhere s.log)
    (settled : Settled H s l left client sid call result data s' l') : EndsElsewhere s'.log := by
  cases settled with
  | completed | pending | nothing | written | failed | broken => exact returned
  | answered len data =>
    exact ⟨s.log ++ [.plaintext sid data], .called sid (.write (replyTo H.endian data)),
      by simp, nofun⟩
  | peerClosed _ _ _ closed => exact closed.endsElsewhere _
  | unwritten _ _ _ _ closed => exact closed.endsElsewhere _

/-- A move other than a timeout check adds an event to the record, or leaves it and the list as
they are. -/
theorem Move.latest {input : Input ρ} (move : Move H s l input s' l') :
    s'.log = s.log ∧ l' = l ∨ EndsElsewhere s'.log ∨
      ∃ events now, s'.log = s.log ++ events ++ [.swept now] ∧
        l' = l.filter (fun e => !expired now e) ∧ s.pc = .poll := by
  cases move with
  | arrive d => exact .inr (.inl ⟨s.log, _, rfl, nofun⟩)
  | signal | interrupted | dispatch | leave | lastEvent | nextEvent | drained | halt =>
    exact .inl ⟨rfl, rfl⟩
  | sweep nfds now sweepNow outcomes registry closed at_pc =>
    exact .inr (.inr ⟨_, sweepNow, rfl, rfl, at_pc⟩)
  | known | refused | send => exact .inr (.inl ⟨s.log, _, rfl, nofun⟩)
  | admitted left add now d =>
    exact .inr (.inl ⟨s.log ++ [.created s.registry.sessions.size d.src.sockaddr add.now],
      .called s.registry.sessions.size .handshake, by simp, nofun⟩)
  | recv left client call seen c sid session _ _ _ _ received =>
    obtain ⟨result, sock, fate⟩ := received
    cases fate with
    | kept => exact .inl ⟨List.append_nil _, rfl⟩
    | handed d => exact .inr (.inl ⟨s.log, _, rfl, nofun⟩)
    | ignored d => exact .inr (.inl ⟨s.log, _, rfl, nofun⟩)
  | finish _ _ _ _ _ _ _ _ _ _ _ _ _ _ _ _ _ _ settled =>
    exact .inr (.inl (settled.endsElsewhere ⟨_, .returned _ _ _, rfl, nofun⟩))
  | consume left why failed outcomes s₁ at_pc consumed =>
    cases consumed with
    | nothing => exact .inl ⟨rfl, rfl⟩
    | taken d rest => exact .inr (.inl ⟨s.log, _, rfl, nofun⟩)
  | discard left why client failed outcomes s₁ registry closed =>
    exact .inr (.inl (closed.endsElsewhere _))
  | shutdown outcomes client registry closed => exact .inr (.inl (closed.endsElsewhere _))

/-- After a timeout check the clients left have a valid record in its window. -/
def Windowed (s : State ρ) (l : List Entry) : Prop :=
  ∀ before now, s.log = before ++ [.swept now] →
    ∀ e ∈ l, ∃ sid time, e.2.dtlsSession = some sid ∧ Vouched before sid time ∧
      now - time ≤ clientTimeoutSeconds

/-- Every move after which all stamps are earned keeps that. -/
theorem Move.windowed {input : Input ρ} (earned : AllEarned s l) (windowed : Windowed s l)
    (move : Move H s l input s' l') : Windowed s' l' := by
  rcases move.latest with ⟨log, same⟩ | ⟨front, event, log, other⟩ |
    ⟨events, sweepNow, log, left, at_pc⟩
  · rw [same]
    exact fun before now ends => windowed before now (log ▸ ends)
  · intro before now ends
    have last := List.append_inj_right' (log.symm.trans ends) rfl
    exact absurd (List.cons.inj last).1 (other now)
  · intro before now ends e entry
    obtain ⟨front, last⟩ := List.append_inj' (log.symm.trans ends) rfl
    obtain rfl := Event.swept.inj (List.cons.inj last).1
    rw [left, List.mem_filter] at entry
    have idle : s.pc.client ≠ some e.1 := by
      rw [at_pc]
      nofun
    obtain ⟨sid, time, owns, vouched, later⟩ := earned e entry.1 idle
    refine ⟨sid, time, owns, front ▸ vouched.mono, ?_⟩
    have fresh : ¬clientTimeoutSeconds < sweepNow - e.2.lastActivity := by
      simpa [expired] using entry.2
    omega

end Steps

/-- In every run in which each call that returns to a client that stays was authenticated, the
timeout checks leave only clients with a valid record in the window. -/
theorem valid_records_keep_alive {H : Host ρ} {s : State ρ}
    (reached : Reachable H (authenticated H) s) : OnlyValidRecords s := by
  obtain ⟨l, sound, -, windowed⟩ := Reachable.listed
    (I := fun s l => AllEarned s l ∧ Windowed s l)
    (fun s starts => by
      obtain ⟨-, buffer, now, -, rfl⟩ := starts
      exact ⟨nofun, nofun⟩)
    (fun _ _ _ _ _ sound before authentic move =>
      ⟨move.earned sound before.1 authentic, move.windowed before.1 before.2⟩) reached
  exact fun before now ends => ⟨l, sound.intact, windowed before now ends⟩

/-- A client's handshake is accepted at time 0, and a timeout check at time 6 leaves it. -/
def handshakeThenCheck : List (Input Unit) :=
  [.arrive ⟨⟨1, 1⟩, [1]⟩, .poll (some 1) 0 0 (fun _ => []), .event,
    .peek false (addSucceeds 0 ()) 0, .recv .ready .normal, .finish [], .consume false [],
    .peek false (addSucceeds 0 ()) 0, .event, .poll (some 0) 6 6 (fun _ => [])]

/-- Every step of that run is authenticated. -/
theorem valid_records_keep_alive_handshakeThenCheck :
    ∃ s, runGuarded (advance ⟨plain, .little, serverContext, 3⟩)
        (authenticated ⟨plain, .little, serverContext, 3⟩) startZero handshakeThenCheck = some s ∧
      s.log.getLast? = some (.swept 6) ∧ s.registry.gClients = some 0 ∧ OnlyValidRecords s := by
  refine ⟨_, rfl, rfl, rfl, ?_⟩
  exact valid_records_keep_alive
    (reach_of_runGuarded handshakeThenCheck (.start (starts_startZero plain .little 3)) rfl)

/-- The clock readings of a step, in order. -/
def Input.readings : Input ρ → List Int
  | .poll (some _) now sweepNow _ => [now, sweepNow]
  | .peek false add now => [add.now, now]
  | _ => []

/-- A greeting with a valid cookie, which begins with the content type of the handshake. -/
def greeting : Seen → Bool
  | .received (.ok bytes) => bytes.head? = some 22
  | _ => false

/-- No datagram came in time. -/
def lateness : Seen → Bool
  | .received (.error .timeout) => true
  | _ => false

/-- A library whose handshake answers the greeting of a client, rejects anything else before it and
discards it afterwards. A time-out makes it repeat its answer and come back later. Its state says
whether the client has greeted. -/
def hesitant : Engine Bool where
  move
    | .handshake, greeted, seen =>
      let met := greeted || seen.any greeting
      match seen.getLast? with
      | some (.received (.ok bytes)) =>
        if greeting (.received (.ok bytes)) then .send [22]
        else if met then .recv socketBufferSize 1000
        else .finish (.error (.other 0)) false false
      | some (.received (.error code)) =>
        if code = .timeout then .send [22] else .finish (.error code) met false
      | some (.sent (.ok _)) =>
        if seen.any lateness then .finish (.error .wantRead) met (seen.any greeting)
        else .recv socketBufferSize 1000
      | some (.sent (.error code)) => .finish (.error code) met false
      | none => .recv socketBufferSize 1000
    | .read _, greeted, _ => .finish (.error .wantRead) greeted false
    | .write _, greeted, _ => .finish (.error .wantWrite) greeted false
  close _ _ := []

/-- A client greets at time 0 and does not go on. A byte with its source arrives at time 25, which
the library discards, and a timeout check runs at time 35. -/
def greetingThenGarbage : List (Input Bool) :=
  [.arrive ⟨⟨1, 1⟩, [22]⟩, .poll (some 1) 0 0 (fun _ => []), .event,
    .peek false (addSucceeds 0 false) 0, .recv .ready .normal, .send .sent, .recv .waits .normal,
    .send .sent, .finish [], .consume false [], .peek false (addSucceeds 0 false) 0, .event,
    .arrive ⟨⟨1, 1⟩, [1]⟩, .poll (some 1) 25 25 (fun _ => []), .event,
    .peek false (addSucceeds 25 false) 25, .recv .ready .normal, .recv .waits .normal,
    .send .sent, .finish [], .consume false [], .peek false (addSucceeds 25 false) 25, .event,
    .poll (some 0) 35 35 (fun _ => [])]

/-- With that non-decreasing clock the check leaves a client that was created 35 seconds ago and
had its one record accepted then. -/
theorem garbage_keeps_alive :
    ∃ s, runGuarded (advance ⟨hesitant, .little, serverContext, 3⟩) anything startZero
        greetingThenGarbage = some s ∧
      (greetingThenGarbage.flatMap Input.readings).Pairwise (· ≤ ·) ∧
      .accepted 0 0 ∈ s.log ∧ ¬OnlyValidRecords s := by
  have ran : ((runGuarded (advance ⟨hesitant, .little, serverContext, 3⟩) anything startZero
      greetingThenGarbage).map fun s => (s.log.getLast? == some (.swept 35) &&
        s.log.all (fun event => !event.vouches 0 5)) &&
        (s.registry.clients.get? 0).map (fun c => c.dtlsSession) == some (some 0) &&
        s.log.any (· == .accepted 0 0)) = some true := by
    decide +kernel
  obtain ⟨s, executed, facts⟩ := Option.map_eq_some_iff.mp ran
  simp only [Bool.and_eq_true, beq_iff_eq, List.all_eq_true, Bool.not_eq_eq_eq_not,
    Bool.not_true, List.any_eq_true, exists_eq_right] at facts
  obtain ⟨⟨⟨ends, stale⟩, node⟩, accepted⟩ := facts
  refine ⟨s, executed, by decide, accepted, fun only => ?_⟩
  obtain ⟨before, split⟩ := List.getLast?_eq_some_iff.mp ends
  obtain ⟨l, intact, window⟩ := only before 35 split
  obtain ⟨c, live, owns⟩ := Option.map_eq_some_iff.mp node
  obtain ⟨e, entry, place⟩ := List.mem_map.mp (intact.nodes 0 c live)
  obtain ⟨sid, time, session, vouched, recent⟩ := window e entry
  obtain ⟨n, found, fields⟩ := intact.node entry
  obtain rfl : n = c := by
    rw [place, live] at found
    exact (Option.some.inj found).symm
  obtain rfl : 0 = sid := by
    rw [← fields] at session
    exact Option.some.inj (owns.symm.trans session)
  have late : 5 ≤ time := by
    simp only [clientTimeoutSeconds] at recent
    omega
  have vouches : s.log.any (Event.vouches 0 5) = true :=
    any_vouches.mpr ⟨time, split ▸ vouched.mono, late⟩
  obtain ⟨event, member, backs⟩ := List.any_eq_true.mp vouches
  rw [stale event member] at backs
  contradiction

end SpaceCaptain.Server
