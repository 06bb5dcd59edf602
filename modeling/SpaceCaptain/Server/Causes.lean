import Mathlib.Data.List.Dedup
import SpaceCaptain.Server.Demux

/-!
# What everything the server does goes back to

The server acts only on what arrives. Each event of its record that touches the network or makes a
session has a cause among the earlier events: a session is created for the source of a datagram
that arrived, is handed datagrams that arrived, and sends to the address it was created for. So a
packet goes nowhere that no datagram has come from, and there are never more clients than sources.
-/
namespace SpaceCaptain.Server

open SpaceCaptain.Dtls SpaceCaptain.Library

variable {ρ : Type}

/-- A datagram came from the address. -/
def Heard (log : List Event) (addr : SockaddrIn) : Prop :=
  ∃ d, Event.arrived d ∈ log ∧ d.src.sockaddr = addr

/-- What an event goes back to. -/
def Event.cause (before : List Event) : Event → Prop
  | .created _ addr _ => Heard before addr
  | .sent sid dest _ _ => Named before sid dest
  | .handed sid d => Named before sid d.src.sockaddr ∧ .arrived d ∈ before
  | .ignored _ d | .discarded _ d | .refused d => .arrived d ∈ before
  | _ => True

/-- Every event has its cause among the earlier ones. -/
def Caused (log : List Event) : Prop :=
  ∀ before event after, log = before ++ event :: after → event.cause before

/-- An address stays heard. -/
theorem Heard.mono {log events : List Event} {addr : SockaddrIn} (heard : Heard log addr) :
    Heard (log ++ events) addr := by
  obtain ⟨d, member, from_addr⟩ := heard
  exact ⟨d, List.mem_append_left events member, from_addr⟩

/-- A cause stays one when more has happened. -/
theorem Event.cause_mono {before more : List Event} {event : Event}
    (cause : event.cause before) : event.cause (before ++ more) := by
  cases event with
  | created => exact Heard.mono cause
  | sent => exact Named.mono cause
  | handed => exact ⟨cause.1.mono, List.mem_append_left more cause.2⟩
  | ignored | discarded | refused => exact List.mem_append_left more cause
  | _ => trivial

/-- New events have their causes in the record so far. -/
theorem Caused.append {log events : List Event} (caused : Caused log)
    (each : ∀ event ∈ events, event.cause log) : Caused (log ++ events) := by
  intro before event after split
  rcases split_append split with ⟨rest, old⟩ | ⟨gap, head, new⟩
  · exact caused before event rest old
  · have member : event ∈ events := by
      rw [new]
      exact List.mem_append_right gap List.mem_cons_self
    rw [head]
    exact Event.cause_mono (each event member)

/-- Where a packet goes, a datagram has come from. -/
theorem Caused.heard {log before after : List Event} {sid : Nat} {dest : SockaddrIn}
    {bytes : Bytes} {outcome : SendOutcome} (caused : Caused log)
    (split : log = before ++ .sent sid dest bytes outcome :: after) : Heard before dest := by
  obtain ⟨now, created⟩ : Named before sid dest := caused before _ after split
  obtain ⟨earlier, later, split'⟩ := List.append_of_mem created
  have heard : Heard earlier dest := by
    refine caused earlier (.created sid dest now)
      (later ++ .sent sid dest bytes outcome :: after) ?_
    rw [split, split', List.append_assoc, List.cons_append]
  rw [split']
  exact heard.mono

section Steps

variable {H : Host ρ} {s s' : State ρ} {l l' : List Entry}

/-- A datagram in the socket has arrived. -/
theorem Queued.arrived (queued : Queued s) {d : Datagram} (member : d ∈ s.sock) :
    Event.arrived d ∈ s.log := by
  have listed : d ∈ s.log.filterMap Event.arrives := by
    rw [queued.fifo]
    exact List.mem_append_right _ member
  obtain ⟨event, inside, arrives⟩ := List.mem_filterMap.mp listed
  cases event with
  | arrived d' =>
    obtain rfl := Option.some.inj arrives
    exact inside
  | _ => contradiction

/-- The ends of some sessions go back to their creation. -/
theorem ends_cause {closed : List Closed} {log : List Event}
    (named : ∀ d ∈ closed, Named log d.session d.dest) :
    ∀ event ∈ closed.flatMap Closed.events, event.cause log := by
  intro event member
  obtain ⟨d, entry, ⟨bytes, outcome, rfl⟩ | rfl | rfl⟩ := ends_mem member
  · exact named d entry
  · trivial
  · trivial

/-- The end of a client's session goes back to its creation. -/
theorem Removal.cause {r r' : Registry ρ} {client : Nat} {closed : Closed}
    (delivery : Delivery H s l) (removal : Removal r l client r' closed) :
    ∀ event ∈ closed.events, event.cause s.log := by
  obtain ⟨c, member, owns, dest⟩ := removal.client
  have named : ∀ d ∈ [closed], Named s.log d.session d.dest := by
    intro d entry
    obtain rfl := List.mem_singleton.mp entry
    rw [dest]
    exact delivery.listed _ member _ owns
  simpa using ends_cause named

/-- What the server makes of a result has its causes. -/
theorem Settled.causes {s₀ : State ρ} {left client sid : Nat} {call : Call} {result : DtlsResult}
    {data : Bytes} (delivery : Delivery H s l)
    (settled : Settled H s₀ l left client sid call result data s' l') :
    ∃ events, s'.log = s₀.log ++ events ∧ ∀ event ∈ events, event.cause s.log := by
  cases settled with
  | completed | pending | failed | nothing | broken | written =>
    exact ⟨[], (List.append_nil _).symm, fun event member => absurd member List.not_mem_nil⟩
  | answered => exact ⟨_, rfl, by simp [Event.cause]⟩
  | peerClosed _ _ _ _ removal => exact ⟨_, rfl, removal.cause delivery⟩
  | unwritten _ _ _ _ _ _ _ removal => exact ⟨_, rfl, removal.cause delivery⟩

/-- What a move adds to the record has its causes there. -/
theorem Move.causes {input : Input ρ} (delivery : Delivery H s l)
    (queued : Queued s) (move : Move H s l input s' l') :
    ∃ events, s'.log = s.log ++ events ∧ ∀ event ∈ events, event.cause s.log := by
  have nothing : ∃ events, s.log = s.log ++ events ∧ ∀ event ∈ events, event.cause s.log :=
    ⟨[], (List.append_nil _).symm, fun event member => absurd member List.not_mem_nil⟩
  cases move with
  | arrive d => exact ⟨[.arrived d], rfl, by simp [Event.cause]⟩
  | signal | interrupted | dispatch | leave | lastEvent | nextEvent | drained | halt =>
    exact nothing
  | sweep nfds now sweepNow outcomes registry closed _ _ _ _ swept =>
    refine ⟨_, List.append_assoc _ _ _, fun event member => ?_⟩
    rcases List.mem_append.mp member with ends | last
    · refine ends_cause (fun d entry => ?_) event ends
      obtain ⟨e, listed, owns, addr⟩ := swept.closed_mem entry
      rw [← addr]
      exact delivery.listed e listed _ owns
    · obtain rfl := List.mem_singleton.mp last
      trivial
  | known left add now d rest client c sid registry =>
    exact ⟨_, rfl, by simp [Event.cause]⟩
  | refused left add now d rest registry _ at_sock =>
    have arrived := queued.arrived (d := d) (at_sock ▸ List.mem_cons_self)
    exact ⟨_, rfl, by simpa [Event.cause] using arrived⟩
  | admitted left add now d rest client registry _ at_sock =>
    have arrived := queued.arrived (d := d) (at_sock ▸ List.mem_cons_self)
    exact ⟨_, rfl, by simpa [Event.cause] using ⟨d, arrived, rfl⟩⟩
  | send left client call seen c sid session bytes outcome inside =>
    have named := delivery.listed _ inside.member sid inside.owns
    exact ⟨_, rfl, by simpa [Event.cause, inside.peer] using named⟩
  | recv left client call seen c sid session len timeout select outcome received inside moves
      answer =>
    refine ⟨_, rfl, ?_⟩
    have answers := answer ▸ udpRecvTimeout_answer session len select outcome s.sock
    cases answers with
    | code code => simp [Fate.events]
    | ignored d rest at_sock =>
      have arrived := queued.arrived (d := d) (at_sock ▸ List.mem_cons_self)
      simpa [Fate.events, Event.cause] using arrived
    | handed d rest at_sock peer =>
      have arrived := queued.arrived (d := d) (at_sock ▸ List.mem_cons_self)
      have named := delivery.listed _ inside.member sid inside.owns
      rw [← inside.peer, ← peer inside.role] at named
      simpa [Fate.events, Event.cause] using ⟨named, arrived⟩
  | finish left client call seen c sid session ret ssl accepted _ sessions _ _ inside moves stored
      size settled =>
    obtain ⟨events, log, causes⟩ := settled.causes delivery
    refine ⟨(if accepted then [.accepted sid c.lastActivity] else []) ++
      .returned sid call (callResult session ssl call ret).2.1 :: events, ?_, ?_⟩
    · rw [log]
      simp
    · intro event member
      rcases List.mem_append.mp member with first | last
      · cases accepted with
        | false => contradiction
        | true =>
          obtain rfl := List.mem_singleton.mp first
          trivial
      · rcases List.mem_cons.mp last with rfl | later
        · trivial
        · exact causes event later
  | consume left why failed outcomes s₁ at_pc consumed =>
    cases consumed with
    | nothing => exact nothing
    | taken d rest at_sock =>
      have arrived := queued.arrived (d := d) (at_sock ▸ List.mem_cons_self)
      exact ⟨_, rfl, by simpa [Event.cause] using arrived⟩
  | discard left why client failed outcomes s₁ registry closed at_pc consumed removal =>
    have ends := removal.cause delivery
    cases consumed with
    | nothing => exact ⟨_, rfl, ends⟩
    | taken d rest at_sock =>
      have arrived := queued.arrived (d := d) (at_sock ▸ List.mem_cons_self)
      refine ⟨_, List.append_assoc _ _ _, fun event member => ?_⟩
      rcases List.mem_append.mp member with first | last
      · obtain rfl := List.mem_singleton.mp first
        exact arrived
      · exact ends event last
  | shutdown outcomes client registry closed _ removal =>
    exact ⟨_, rfl, removal.cause delivery⟩

end Steps

/-- The server acts on what it has heard, and on nothing else. -/
structure Reactive (s : State ρ) (l : List Entry) : Prop where
  /-- Every event has its cause among the earlier ones. -/
  caused : Caused s.log
  /-- A packet goes to an address that a datagram had come from. -/
  sent : ∀ before after sid dest bytes outcome,
    s.log = before ++ .sent sid dest bytes outcome :: after → Heard before dest
  /-- Every client has an address that a datagram has come from. -/
  clients : ∀ e ∈ l, Heard s.log e.2.addr
  /-- There are no more clients than sources of datagrams. -/
  few : l.length ≤ ((s.log.filterMap Event.arrives).map Datagram.src).dedup.length

/-- Clients with heard addresses are no more than the sources of datagrams. -/
theorem Intact.few {r : Registry ρ} {l : List Entry} {log : List Event} (intact : Intact r l)
    (heard : ∀ e ∈ l, Heard log e.2.addr) :
    l.length ≤ ((log.filterMap Event.arrives).map Datagram.src).dedup.length := by
  have covered : (l.map fun e => e.2.addr.key) ⊆
      ((log.filterMap Event.arrives).map Datagram.src).dedup.map fun e => e.sockaddr.key := by
    intro key member
    obtain ⟨e, entry, rfl⟩ := List.mem_map.mp member
    obtain ⟨d, arrived, from_addr⟩ := heard e entry
    refine List.mem_map.mpr ⟨d.src, List.mem_dedup.mpr (List.mem_map.mpr ⟨d, ?_, rfl⟩), ?_⟩
    · exact List.mem_filterMap.mpr ⟨_, arrived, rfl⟩
    · rw [from_addr]
  have bound := (List.subperm_of_subset intact.keys covered).length_le
  simpa using bound

/-- Whatever arrives and whatever the library does, the server never speaks first: its packets go
only where datagrams have come from, and so do its sessions. -/
theorem never_speaks_first {H : Host ρ} {s : State ρ} (reached : Reachable H anything s) :
    ∃ l, Sound H s l ∧ Reactive s l := by
  obtain ⟨l, sound, ⟨delivery, queued⟩, caused⟩ := Reachable.listed
    (I := fun s l => (Delivery H s l ∧ Queued s) ∧ Caused s.log)
    (fun s starts => ⟨⟨starts.delivery, starts.queued⟩, by
      obtain ⟨-, buffer, now, -, rfl⟩ := starts
      intro before event after split
      simp [start] at split⟩)
    (fun _ _ _ _ _ sound known _ move => by
      refine ⟨⟨move.delivery sound known.1.1, move.queued sound known.1.2⟩, ?_⟩
      obtain ⟨events, log, causes⟩ := move.causes known.1.1 known.1.2
      rw [log]
      exact known.2.append causes) reached
  have heard : ∀ e ∈ l, Heard s.log e.2.addr := by
    intro e entry
    obtain ⟨-, sid, -, -, owns, -⟩ := sound.intact.session e entry
    obtain ⟨now, created⟩ := delivery.listed e entry sid owns
    obtain ⟨before, after, split⟩ := List.append_of_mem created
    have first : Heard before e.2.addr := caused before _ after split
    rw [split]
    exact first.mono
  exact ⟨l, sound, caused, fun before after sid dest bytes outcome split => caused.heard split,
    heard, sound.intact.few heard⟩

/-- A client comes, and is sent a packet when the server shuts down. -/
theorem never_speaks_first_shutdown :
    ∃ s, runGuarded (advance ⟨plain, .little, serverContext, 3⟩) anything startZero
        handshakeThenShutdown = some s ∧
      .sent 0 (Endpoint.sockaddr ⟨1, 1⟩) [0] .sent ∈ s.log ∧
      ∃ l, Sound ⟨plain, .little, serverContext, 3⟩ s l ∧ Reactive s l := by
  have ran : ((runGuarded (advance ⟨plain, .little, serverContext, 3⟩) anything startZero
      handshakeThenShutdown).map fun s =>
        s.log.contains (.sent 0 (Endpoint.sockaddr ⟨1, 1⟩) [0] .sent)) = some true := by
    decide +kernel
  obtain ⟨s, executed, told⟩ := Option.map_eq_some_iff.mp ran
  have reached : Reachable ⟨plain, .little, serverContext, 3⟩ anything s :=
    reach_of_runGuarded handshakeThenShutdown (.start (starts_startZero plain .little 3)) executed
  exact ⟨s, executed, List.contains_iff_mem.mp told, never_speaks_first reached⟩

end SpaceCaptain.Server
