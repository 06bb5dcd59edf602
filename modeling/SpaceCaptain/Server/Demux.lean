import SpaceCaptain.Server.Delivery

/-!
# Demultiplexing

All clients share one socket, and the datagrams in it are removed at two kinds of places: by the
receive callback of a session, and by an explicit `recvfrom` of the drain loop. A datagram is
demultiplexed when it is removed by the callback of the session registered for its source, or
because `add_client` failed for it. The server peeks at one datagram and then lets the library
take as many as it likes, and afterwards takes one more itself, so another client's datagram may
be removed at either place. `undisturbed` says of a step that this does not happen in it;
`no_datagram_lost_iff` says that the runs without loss are exactly those of such steps.
-/
namespace SpaceCaptain.Server

open SpaceCaptain.Dtls SpaceCaptain.Library

variable {ρ : Type}

/-- The datagram that an event brings into the socket. -/
def Event.arrives : Event → Option Datagram
  | .arrived d => some d
  | _ => none

/-- The datagram that an event takes out of the socket. -/
def Event.removes : Event → Option Datagram
  | .handed _ d | .ignored _ d | .discarded _ d => some d
  | _ => none

/-- A datagram is removed by the callback of the session that is registered for its source, or
because `add_client` failed for it. -/
def Rightful (before : List Event) (event : Event) (d : Datagram) : Prop :=
  (∃ sid, event = .handed sid d ∧ Named before sid d.src.sockaddr ∧
      Event.destroyed sid ∉ before) ∨
    event = .discarded .addFailed d ∧ Event.refused d ∈ before

/-- Every removal was rightful when it happened. -/
def Own (log : List Event) : Prop :=
  ∀ before event after d, log = before ++ event :: after → event.removes = some d →
    Rightful before event d

/-- No datagram was lost so far. -/
structure Demultiplexed (s : State ρ) : Prop where
  /-- The datagrams that arrived were removed once each, in order, or are still in the socket. -/
  fifo : s.log.filterMap Event.arrives = s.log.filterMap Event.removes ++ s.sock
  /-- Each went to the session of its source, unless `add_client` failed for it. -/
  own : Own s.log

/-- A callback takes a datagram only if it is from its own client, and an explicit `recvfrom`
takes one only if `add_client` failed. -/
def undisturbed (s : State ρ) : Input ρ → Bool
  | .recv select outcome =>
    match s.pc, s.sock with
    | .engine _ client _ _, d :: _ =>
      select == .failed || outcome == .failed ||
        (s.registry.clients.get? client).any fun c => c.addr == d.src.sockaddr
    | _, _ => true
  | .consume failed _ =>
    match s.pc, s.sock with
    | .consume _ why _, _ :: _ => failed || why == .addFailed
    | _, _ => true
  | _ => true

/-- Events that have nothing to do with the socket. -/
structure Passive (events : List Event) : Prop where
  /-- None arrives. -/
  arrives : events.filterMap Event.arrives = []
  /-- None is removed. -/
  removes : events.filterMap Event.removes = []

/-- No removal was lost on the way to a longer record. -/
theorem Own.shorter {log events : List Event} (own : Own (log ++ events)) : Own log :=
  fun before event after d split =>
    own before event (after ++ events) d (by rw [split, List.append_assoc, List.cons_append])

/-- Events that remove nothing. -/
theorem Own.append {log events : List Event} (own : Own log)
    (silent : events.filterMap Event.removes = []) : Own (log ++ events) := by
  intro before event after d split removes
  rcases split_append split with ⟨rest, old⟩ | ⟨gap, -, new⟩
  · exact own before event rest d old removes
  · have member : event ∈ events := by
      rw [new]
      exact List.mem_append_right gap List.mem_cons_self
    have listed : d ∈ events.filterMap Event.removes :=
      List.mem_filterMap.mpr ⟨event, member, removes⟩
    rw [silent] at listed
    contradiction

/-- A rightful removal. -/
theorem Own.remove {log : List Event} {event : Event} {d : Datagram} (own : Own log)
    (removes : event.removes = some d) (rightful : Rightful log event d) :
    Own (log ++ [event]) := by
  intro before event' after d' split removes'
  rcases split_append split with ⟨rest, old⟩ | ⟨gap, head, new⟩
  · exact own before event' rest d' old removes'
  · cases gap with
    | nil =>
      obtain rfl : event = event' := (List.cons.inj new).1
      obtain rfl : d = d' := Option.some.inj (removes.symm.trans removes')
      rw [head, List.append_nil]
      exact rightful
    | cons first gap => simp at new

/-- A removal in a record without loss was rightful. -/
theorem Own.last {log events : List Event} {event : Event} {d : Datagram}
    (own : Own (log ++ event :: events)) (removes : event.removes = some d) :
    Rightful log event d := own log event events d rfl removes

/-- The end of a session has nothing to do with the socket. -/
theorem Closed.passive (d : Closed) : Passive d.events where
  arrives := d.events_filterMap Event.arrives fun _ _ _ _ => rfl
  removes := d.events_filterMap Event.removes fun _ _ _ _ => rfl

/-- Neither do the ends of some sessions. -/
theorem ends_passive (closed : List Closed) (now : Int) :
    Passive (closed.flatMap Closed.events ++ [.swept now]) := by
  constructor <;>
    rw [List.filterMap_append, List.filterMap_flatMap, List.append_eq_nil_iff,
      List.flatMap_eq_nil_iff]
  · exact ⟨fun d _ => d.passive.arrives, rfl⟩
  · exact ⟨fun d _ => d.passive.removes, rfl⟩

/-- What a step does to the socket, and whether it is undisturbed. -/
inductive Effect (s : State ρ) (l : List Entry) (input : Input ρ) (s' : State ρ) : Prop
  | still (events : List Event) (log : s'.log = s.log ++ events) (passive : Passive events)
      (sock : s'.sock = s.sock) (calm : undisturbed s input = true)
  | arrived (d : Datagram) (log : s'.log = s.log ++ [.arrived d]) (sock : s'.sock = s.sock ++ [d])
      (calm : undisturbed s input = true)
  /-- The callback of a client's session takes a datagram of that client. -/
  | handed (d : Datagram) (client : Nat) (c : Client) (sid : Nat) (member : (client, c) ∈ l)
      (owns : c.dtlsSession = some sid) (addr : c.addr = d.src.sockaddr)
      (log : s'.log = s.log ++ [.handed sid d]) (sock : s.sock = d :: s'.sock)
      (calm : undisturbed s input = true)
  /-- The callback of a client's session takes and drops a datagram of another client. -/
  | ignored (d : Datagram) (sid : Nat) (log : s'.log = s.log ++ [.ignored sid d])
      (sock : s.sock = d :: s'.sock) (stray : undisturbed s input = false)
  /-- An explicit `recvfrom` takes a datagram. -/
  | discarded (left : Nat) (why : Discard) (dropped : Option Nat) (d : Datagram)
      (events : List Event) (at_pc : s.pc = .consume left why dropped)
      (log : s'.log = s.log ++ .discarded why d :: events) (passive : Passive events)
      (sock : s.sock = d :: s'.sock) (only : undisturbed s input = decide (why = .addFailed))

section Steps

variable {H : Host ρ} {s s' s₁ : State ρ} {l l' : List Entry}

/-- A receive callback is undisturbed unless it takes a datagram of another client. -/
theorem undisturbed_recv {left client sid : Nat} {call : Call} {seen : List Seen} {c : Client}
    {session : Session ρ} (intact : Intact s.registry l)
    (inside : InCall s l left client call seen c sid session) {d : Datagram}
    {rest : List Datagram} (at_sock : s.sock = d :: rest) (select : SelectOutcome)
    (outcome : RecvOutcome) :
    undisturbed s (.recv select outcome) =
      (select == .failed || outcome == .failed || c.addr == d.src.sockaddr) := by
  obtain ⟨n, live, fields⟩ := intact.node inside.member
  simp [undisturbed, inside.at_pc, at_sock, live, fields]

/-- What the server makes of the result of a call has nothing to do with the socket. -/
theorem Settled.passive {left client sid : Nat} {call : Call} {result : DtlsResult} {data : Bytes}
    (settled : Settled H s l left client sid call result data s' l') :
    ∃ events, s'.log = s.log ++ events ∧ Passive events ∧ s'.sock = s.sock := by
  cases settled with
  | completed | pending | nothing | written | failed | broken =>
    exact ⟨[], (List.append_nil _).symm, ⟨rfl, rfl⟩, rfl⟩
  | answered => exact ⟨_, rfl, ⟨rfl, rfl⟩, rfl⟩
  | peerClosed _ _ _ closed => exact ⟨_, rfl, closed.passive, rfl⟩
  | unwritten _ _ _ _ closed => exact ⟨_, rfl, closed.passive, rfl⟩

/-- The effect of an explicit `recvfrom`, with what is recorded after it. -/
theorem Consumed.effect {left : Nat} {why : Discard} {dropped : Option Nat} {failed : Bool}
    (at_pc : s.pc = .consume left why dropped) (consumed : Consumed s why failed s₁)
    (outcomes : List SendOutcome) {events : List Event} (passive : Passive events)
    (log : s'.log = s₁.log ++ events) (sock : s'.sock = s₁.sock) :
    Effect s l (.consume failed outcomes) s' := by
  cases consumed with
  | nothing failed idle =>
    refine .still events log passive sock ?_
    rcases idle with rfl | empty
    · cases at_sock : s.sock <;> simp [undisturbed, at_pc, at_sock]
    · simp [undisturbed, at_pc, empty]
  | taken d rest at_sock =>
    refine .discarded left why dropped d events at_pc ?_ passive (at_sock.trans ?_) ?_
    · rw [log, List.append_assoc, List.singleton_append]
    · rw [sock]
    · simp only [undisturbed, at_pc, at_sock, Bool.false_or]
      rfl

/-- The effect of every move. -/
theorem Move.effect {input : Input ρ} (sound : Sound H s l) (move : Move H s l input s' l') :
    Effect s l input s' := by
  cases move with
  | arrive d => exact .arrived d rfl rfl rfl
  | signal | interrupted | dispatch | leave | lastEvent | nextEvent | drained | halt =>
    exact .still [] (List.append_nil _).symm ⟨rfl, rfl⟩ rfl rfl
  | sweep nfds now sweepNow outcomes registry closed =>
    exact .still _ (List.append_assoc _ _ _) (ends_passive closed sweepNow) rfl rfl
  | known | refused | admitted | send => exact .still _ rfl ⟨rfl, rfl⟩ rfl rfl
  | recv left client call seen c sid session len timeout select outcome received inside moves
      answer =>
    have answers := answer ▸ udpRecvTimeout_answer session len select outcome s.sock
    cases answers with
    | code code idle =>
      refine .still _ rfl ⟨rfl, rfl⟩ rfl ?_
      cases at_sock : s.sock with
      | nil => simp [undisturbed, inside.at_pc, at_sock]
      | cons d rest =>
        rw [undisturbed_recv sound.intact inside at_sock]
        rcases idle with rfl | rfl | empty
        · rfl
        · simp
        · simp [at_sock] at empty
    | handed d rest at_sock peer =>
      have addr : c.addr = d.src.sockaddr := ((peer inside.role).trans inside.peer).symm
      refine .handed d client c sid inside.member inside.owns addr rfl at_sock ?_
      simp [undisturbed_recv sound.intact inside at_sock, addr]
    | ignored d rest at_sock taken stranger =>
      refine .ignored d sid rfl at_sock ?_
      have other : c.addr ≠ d.src.sockaddr := by
        rw [inside.len, inside.peer] at stranger
        exact (stranger.resolve_left fun h => h rfl).symm
      simp [undisturbed_recv sound.intact inside at_sock, taken, other]
  | finish left client call seen c sid session ret ssl accepted _ sessions _ _ inside moves stored
      size settled =>
    obtain ⟨events, log, passive, sock⟩ := settled.passive
    refine .still ((if accepted then [.accepted sid c.lastActivity] else []) ++
      .returned sid call (callResult session ssl call ret).2.1 :: events) (log.trans ?_) ⟨?_, ?_⟩
      sock rfl
    · simp
    · cases accepted <;> exact passive.arrives
    · cases accepted <;> exact passive.removes
  | consume left why failed outcomes s₁ at_pc consumed =>
    exact consumed.effect at_pc outcomes ⟨rfl, rfl⟩ (List.append_nil _).symm rfl
  | discard left why client failed outcomes s₁ registry closed at_pc consumed =>
    exact consumed.effect at_pc outcomes closed.passive rfl rfl
  | shutdown outcomes client registry closed =>
    exact .still _ rfl closed.passive rfl rfl

/-- The datagrams that arrived are those removed and those in the socket, and a datagram whose
`add_client` failed is still the first. -/
structure Queued (s : State ρ) : Prop where
  /-- Datagrams are removed in the order in which they arrived. -/
  fifo : s.log.filterMap Event.arrives = s.log.filterMap Event.removes ++ s.sock
  /-- The datagram that is to be discarded is the one that was peeked at. -/
  pending : ∀ left dropped, s.pc = .consume left .addFailed dropped →
    ∃ d rest, s.sock = d :: rest ∧ Event.refused d ∈ s.log

/-- Every step keeps the order of the datagrams. -/
theorem Effect.fifo {input : Input ρ} (effect : Effect s l input s')
    (fifo : s.log.filterMap Event.arrives = s.log.filterMap Event.removes ++ s.sock) :
    s'.log.filterMap Event.arrives = s'.log.filterMap Event.removes ++ s'.sock := by
  cases effect with
  | still events log passive sock =>
    rw [log, sock, List.filterMap_append, List.filterMap_append, passive.arrives, passive.removes,
      List.append_nil, List.append_nil, fifo]
  | arrived d log sock =>
    have quiet : [Event.arrived d].filterMap Event.removes = [] := rfl
    rw [log, sock, List.filterMap_append, List.filterMap_append, fifo, quiet, List.append_nil,
      List.append_assoc]
    rfl
  | handed d client c sid _ _ _ log sock =>
    have quiet : [Event.handed sid d].filterMap Event.arrives = [] := rfl
    rw [log, List.filterMap_append, List.filterMap_append, fifo, quiet, List.append_nil, sock,
      List.append_assoc]
    rfl
  | ignored d sid log sock =>
    have quiet : [Event.ignored sid d].filterMap Event.arrives = [] := rfl
    rw [log, List.filterMap_append, List.filterMap_append, fifo, quiet, List.append_nil, sock,
      List.append_assoc]
    rfl
  | discarded left why dropped d events _ log passive sock =>
    have quiet : (Event.discarded why d :: events).filterMap Event.arrives = [] :=
      passive.arrives
    have taken : (Event.discarded why d :: events).filterMap Event.removes = [d] :=
      congrArg (d :: ·) passive.removes
    rw [log, List.filterMap_append, List.filterMap_append, fifo, quiet, taken, List.append_nil,
      sock, List.append_assoc]
    rfl

/-- A failed handshake or read is not a failed `add_client`. -/
theorem Settled.notRefused {left client sid : Nat} {call : Call} {result : DtlsResult}
    {data : Bytes} (settled : Settled H s l left client sid call result data s' l') :
    ∀ left' dropped, s'.pc ≠ .consume left' .addFailed dropped := by
  cases settled <;> exact nofun

/-- Every move keeps the socket a queue. -/
theorem Move.queued {input : Input ρ} (sound : Sound H s l) (queued : Queued s)
    (move : Move H s l input s' l') : Queued s' := by
  refine ⟨(move.effect sound).fifo queued.fifo, ?_⟩
  intro left dropped at_pc
  cases move with
  | arrive d =>
    obtain ⟨first, rest, at_sock, refused⟩ := queued.pending left dropped at_pc
    refine ⟨first, rest ++ [d], ?_, List.mem_append_left _ refused⟩
    change s.sock ++ [d] = _
    rw [at_sock, List.cons_append]
  | signal | interrupted => exact queued.pending left dropped at_pc
  | refused left add now d rest registry _ at_sock =>
    exact ⟨d, rest, at_sock, List.mem_append_right _ List.mem_cons_self⟩
  | finish _ _ _ _ _ _ _ _ _ _ _ _ _ _ _ _ _ _ settled =>
    exact absurd at_pc (settled.notRefused left dropped)
  | _ => contradiction

/-- At first the socket is empty. -/
theorem Starts.queued (starts : Starts H s) : Queued s := by
  obtain ⟨-, buffer, now, -, rfl⟩ := starts
  exact ⟨rfl, nofun⟩

/-- An undisturbed step loses no datagram. -/
theorem Effect.own {input : Input ρ} (effect : Effect s l input s') (ledger : Ledger s l)
    (delivery : Delivery H s l) (queued : Queued s) (own : Own s.log)
    (calm : undisturbed s input = true) : Own s'.log := by
  cases effect with
  | still events log passive =>
    rw [log]
    exact own.append passive.removes
  | arrived d log =>
    rw [log]
    exact own.append rfl
  | handed d client c sid member owns addr log =>
    rw [log]
    refine own.remove rfl (.inl ⟨sid, rfl, ?_, ?_⟩)
    · rw [← addr]
      exact delivery.listed _ member sid owns
    · intro gone
      have released : sid ∈ s.log.filterMap Event.destroys :=
        List.mem_filterMap.mpr ⟨_, gone, rfl⟩
      have held : sid ∈ sessionsOf l := List.mem_filterMap.mpr ⟨_, member, owns⟩
      exact (List.nodup_append.mp ledger.lifetime.nodup).2.2 sid released sid held rfl
  | ignored d sid log sock stray =>
    rw [stray] at calm
    contradiction
  | discarded left why dropped d events at_pc log passive sock only =>
    rw [only, decide_eq_true_eq] at calm
    subst calm
    obtain ⟨first, rest, at_sock, refused⟩ := queued.pending left dropped at_pc
    obtain ⟨rfl, -⟩ := List.cons.inj (at_sock.symm.trans sock)
    rw [log, ← List.singleton_append, ← List.append_assoc]
    exact (own.remove rfl (.inr ⟨rfl, refused⟩)).append passive.removes

/-- A step after which no datagram is lost was undisturbed. -/
theorem Effect.needed {input : Input ρ} (effect : Effect s l input s') (own : Own s'.log) :
    Own s.log ∧ undisturbed s input = true := by
  cases effect with
  | still events log _ _ calm => exact ⟨(log ▸ own).shorter, calm⟩
  | arrived d log _ calm => exact ⟨(log ▸ own).shorter, calm⟩
  | handed d client c sid _ _ _ log _ calm => exact ⟨(log ▸ own).shorter, calm⟩
  | ignored d sid log =>
    rw [log] at own
    rcases own.last rfl with ⟨_, same, -⟩ | ⟨same, -⟩ <;> contradiction
  | discarded left why dropped d events at_pc log passive sock only =>
    rw [log] at own
    refine ⟨own.shorter, ?_⟩
    rcases own.last rfl with ⟨_, same, -⟩ | ⟨same, -⟩
    · contradiction
    · rw [only, (Event.discarded.inj same).1]
      rfl

end Steps

/-- Everything known of a reachable state. -/
theorem Reachable.queued {H : Host ρ} {guard : State ρ → Input ρ → Bool} {s : State ρ}
    (reached : Reachable H guard s) :
    ∃ l, Sound H s l ∧ Ledger s l ∧ Delivery H s l ∧ Queued s :=
  Reachable.listed (I := fun s l => Ledger s l ∧ Delivery H s l ∧ Queued s)
    (fun _ starts => ⟨starts.ledger, starts.delivery, starts.queued⟩)
    (fun _ _ _ _ _ sound before _ move => ⟨move.ledger sound before.1,
      move.delivery sound before.2.1, move.queued sound before.2.2⟩) reached

/-- The runs in which no datagram is lost are exactly those whose steps are all undisturbed. -/
theorem no_datagram_lost_iff {H : Host ρ} {s : State ρ} :
    Reachable H undisturbed s ↔ Reachable H anything s ∧ Demultiplexed s := by
  refine Reach.exact (fun _ _ _ => rfl) ?_ ?_
  · intro s reached
    obtain ⟨l, -, ⟨-, -, queued⟩, own⟩ := Reachable.listed
      (I := fun s l => (Ledger s l ∧ Delivery H s l ∧ Queued s) ∧ Own s.log)
      (fun s starts => ⟨⟨starts.ledger, starts.delivery, starts.queued⟩, by
        obtain ⟨-, buffer, now, -, rfl⟩ := starts
        intro before event after d split
        simp [start] at split⟩)
      (fun _ _ _ _ _ sound before calm move => ⟨⟨move.ledger sound before.1.1,
        move.delivery sound before.1.2.1, move.queued sound before.1.2.2⟩,
        (move.effect sound).own before.1.1 before.1.2.1 before.1.2.2 before.2 calm⟩) reached
    exact ⟨queued.fifo, own⟩
  · intro s input s' reached taken after
    obtain ⟨l, sound, -, -, queued⟩ := Reachable.queued reached
    obtain ⟨next, outcome, related⟩ := step_move sound input
    rw [advance_eq_some, outcome] at taken
    obtain ⟨l', move⟩ := related s' (Except.ok.inj taken)
    obtain ⟨own, calm⟩ := (move.effect sound).needed after.own
    exact ⟨⟨queued.fifo, own⟩, calm⟩

/-- The first datagrams of two clients arrive one after the other. -/
def twoHellos : List (Input Unit) :=
  [.arrive ⟨⟨1, 1⟩, [1]⟩, .arrive ⟨⟨2, 2⟩, [2]⟩, .poll (some 1) 0 0 (fun _ => []), .event,
    .peek false (addSucceeds 0 ()) 0, .recv .ready .normal, .recv .ready .normal]

/-- In that run the callback of the first client's session takes the second client's datagram
and drops it. -/
theorem datagram_lost :
    ∃ s, Reachable ⟨thirsty, .little, serverContext, 3⟩ anything s ∧ ¬Demultiplexed s := by
  have ran : ((runGuarded (advance ⟨thirsty, .little, serverContext, 3⟩) anything startZero
      twoHellos).map fun s => s.log.contains (.ignored 0 ⟨⟨2, 2⟩, [2]⟩)) = some true := by
    decide +kernel
  obtain ⟨s, executed, ignored⟩ := Option.map_eq_some_iff.mp ran
  refine ⟨s, reach_of_runGuarded twoHellos (.start (starts_startZero thirsty .little 3)) executed,
    fun demultiplexed => ?_⟩
  obtain ⟨before, after, split⟩ := List.append_of_mem (List.contains_iff_mem.mp ignored)
  rcases demultiplexed.own before _ after _ split rfl with ⟨_, same, -⟩ | ⟨same, -⟩ <;>
    contradiction

end SpaceCaptain.Server
