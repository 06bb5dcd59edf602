import SpaceCaptain.Server.Delivery
import SpaceCaptain.Server.Typestate

/-!
# The registry as its history tells it

What `find_client` answers is a function of what happened, not of the memory: an address has the
session that was created for it last and was not destroyed since, and there never is another one.
`current` is that function, over the record alone; the linked list behind `g_clients` implements
it in every state, and so does its flag for a completed handshake.
-/
namespace SpaceCaptain.Server

open SpaceCaptain.Dtls SpaceCaptain.Library

variable {ρ : Type}

/-- The session that an event creates for an address. -/
def Event.createsFor (addr : SockaddrIn) : Event → Option Nat
  | .created session addr' _ => if addr' = addr then some session else none
  | _ => none

/-- The sessions that were created for an address and not destroyed since. -/
def current (log : List Event) (addr : SockaddrIn) : List Nat :=
  (log.filterMap (Event.createsFor addr)).filter fun sid => sid ∉ log.filterMap Event.destroys

/-- They are the sessions of that address in the record. -/
theorem mem_current {log : List Event} {addr : SockaddrIn} {sid : Nat} :
    sid ∈ current log addr ↔ Named log sid addr ∧ sid ∉ log.filterMap Event.destroys := by
  have created : sid ∈ log.filterMap (Event.createsFor addr) ↔ Named log sid addr := by
    rw [List.mem_filterMap]
    constructor
    · rintro ⟨event, member, creates⟩
      cases event with
      | created session addr' now =>
        obtain ⟨rfl, same⟩ := Option.ite_none_right_eq_some.mp creates
        obtain rfl := Option.some.inj same
        exact ⟨now, member⟩
      | _ => contradiction
    · rintro ⟨now, member⟩
      exact ⟨_, member, if_pos rfl⟩
  rw [current, List.mem_filter, created, decide_eq_true_eq]

/-- A session is created for an address when it is created. -/
theorem creates_of_createsFor {addr : SockaddrIn} {log : List Event} :
    (log.filterMap (Event.createsFor addr)).Sublist (log.filterMap Event.creates) := by
  induction log with
  | nil => exact .slnil
  | cons event rest ih =>
    cases event with
    | created session addr' now =>
      have creates : Event.creates (.created session addr' now) = some session := rfl
      rw [List.filterMap_cons_some creates]
      by_cases same : addr' = addr
      · have here : Event.createsFor addr (.created session addr' now) = some session :=
          if_pos same
        rw [List.filterMap_cons_some here]
        exact ih.cons_cons _
      · have elsewhere : Event.createsFor addr (.created session addr' now) = none :=
          if_neg same
        rw [List.filterMap_cons_none elsewhere]
        exact ih.cons _
    | _ => exact ih

section History

variable {H : Host ρ} {s : State ρ} {l : List Entry}

/-- An address that the record gives a session has a client with it. -/
theorem Delivery.current (delivery : Delivery H s l) (ledger : Ledger s l) {addr : SockaddrIn}
    {sid : Nat} (member : sid ∈ current s.log addr) :
    ∃ e ∈ l, e.2.dtlsSession = some sid ∧ e.2.addr = addr := by
  obtain ⟨named, kept⟩ := mem_current.mp member
  obtain ⟨now, created⟩ := named
  have held : sid ∈ sessionsOf l :=
    ledger.lifetime.mem_held.mpr ⟨List.mem_filterMap.mpr ⟨_, created, rfl⟩, kept⟩
  obtain ⟨e, entry, owns⟩ := List.mem_filterMap.mp held
  exact ⟨e, entry, owns, (delivery.listed e entry sid owns).unique ledger.lifetime.unique
    ⟨now, created⟩⟩

/-- A client's session is the only one that the record gives its address. -/
theorem Intact.current (intact : Intact s.registry l) (delivery : Delivery H s l)
    (ledger : Ledger s l) {e : Entry} (entry : e ∈ l) {sid : Nat}
    (owns : e.2.dtlsSession = some sid) : current s.log e.2.addr = [sid] := by
  have held : sid ∈ sessionsOf l := List.mem_filterMap.mpr ⟨e, entry, owns⟩
  have kept := (ledger.lifetime.mem_held.mp held).2
  have member : sid ∈ Server.current s.log e.2.addr :=
    mem_current.mpr ⟨delivery.listed e entry sid owns, kept⟩
  have only : ∀ q ∈ Server.current s.log e.2.addr, q = sid := by
    intro q other
    obtain ⟨e', entry', owns', addr⟩ := delivery.current ledger other
    obtain rfl := intact.of_key entry' entry (congrArg SockaddrIn.key addr)
    exact Option.some.inj (owns'.symm.trans owns)
  have unique : (Server.current s.log e.2.addr).Nodup :=
    (ledger.lifetime.unique.sublist creates_of_createsFor).filter _
  have same : (Server.current s.log e.2.addr).Perm [sid] := by
    rw [List.perm_ext_iff_of_nodup unique (List.nodup_singleton sid)]
    intro q
    rw [List.mem_singleton]
    exact ⟨only q, fun here => here ▸ member⟩
  exact List.perm_singleton.mp same

/-- An established session has seen its handshake succeed. -/
theorem Staged.established (staged : Staged s l) {client : Nat} {c : Client} {sid : Nat}
    (entry : (client, c) ∈ l) (owns : c.dtlsSession = some sid)
    (kept : ∀ left why, s.pc ≠ .consume left why (some client)) :
    c.handshakeComplete = true ↔ .returned sid .handshake .ok ∈ s.log := by
  have place := staged.live client c sid entry owns
  have flag : (s.pc.typestate client c.handshakeComplete).established =
      some c.handshakeComplete := by
    unfold Pc.typestate
    split
    · split <;> rfl
    · rename_i left why current at_pc
      have other : current ≠ client := fun same => kept left why (same ▸ at_pc)
      rw [if_neg other]
      rfl
    · rfl
  rw [(past_of_watch place).established _ flag]
  exact ⟨fun member => of_mem_lifeOf member only_returned, mem_lifeOf (if_pos rfl)⟩

end History

/-- What `find_client` answers for a source, and what the record says of it. -/
inductive Found (s : State ρ) (source : Endpoint) : Prop
  /-- No session of that address exists. -/
  | nobody (gone : current s.log source.sockaddr = [])
      (answer : findClient s.registry source.sockaddr = .ok none)
  /-- One session of that address exists, and the client has it. -/
  | client (sid client : Nat) (node : ClientSession)
      (alone : current s.log source.sockaddr = [sid])
      (answer : findClient s.registry source.sockaddr = .ok (some client))
      (live : s.registry.clients.get? client = some node) (owns : node.dtlsSession = some sid)
      (addr : node.addr = source.sockaddr)
      (established : (∀ left why, s.pc ≠ .consume left why (some client)) →
        (node.handshakeComplete = true ↔ .returned sid .handshake .ok ∈ s.log))

/-- In every state of every run, `find_client` answers what the record of the run says. -/
theorem find_client_history {H : Host ρ} {s : State ρ} (reached : Reachable H anything s)
    (source : Endpoint) : Found s source := by
  obtain ⟨l, sound, staged, delivery, ledger⟩ := Reachable.listed
    (I := fun s l => Staged s l ∧ Delivery H s l ∧ Ledger s l)
    (fun _ starts => ⟨starts.staged.1, starts.delivery, starts.ledger⟩)
    (fun _ _ _ _ _ sound known _ move => ⟨move.staged sound known.1,
      move.delivery sound known.2.1, move.ledger sound known.2.2⟩) reached
  rcases findClient_cases sound.intact source with
    ⟨client, c, answer, entry, addr⟩ | ⟨answer, absent⟩
  · obtain ⟨node, live, rfl⟩ := sound.intact.node entry
    obtain ⟨-, sid, -, -, owns, -⟩ := sound.intact.session _ entry
    have alone := sound.intact.current delivery ledger entry owns
    exact .client sid client node (addr ▸ alone) answer live owns addr
      (staged.established entry owns)
  · refine .nobody (List.eq_nil_iff_forall_not_mem.mpr fun sid member => ?_) answer
    obtain ⟨e, entry, -, addr⟩ := delivery.current ledger member
    exact absent e entry (congrArg SockaddrIn.key addr)

/-- After a client's handshake the record gives its address one session, and `find_client` finds
the client. -/
theorem find_client_history_greeted :
    ∃ s, runGuarded (advance ⟨plain, .little, serverContext, 3⟩) anything startZero
        (greetThenSend () [2]) = some s ∧
      current s.log (Endpoint.sockaddr ⟨1, 1⟩) = [0] ∧ Found s ⟨1, 1⟩ := by
  have ran : ((runGuarded (advance ⟨plain, .little, serverContext, 3⟩) anything startZero
      (greetThenSend () [2])).map fun s => current s.log (Endpoint.sockaddr ⟨1, 1⟩)) =
        some [0] := by
    decide +kernel
  obtain ⟨s, executed, alone⟩ := Option.map_eq_some_iff.mp ran
  have reached : Reachable ⟨plain, .little, serverContext, 3⟩ anything s :=
    reach_of_runGuarded (greetThenSend () [2]) (.start (starts_startZero plain .little 3)) executed
  exact ⟨s, executed, alone, find_client_history reached ⟨1, 1⟩⟩

end SpaceCaptain.Server
