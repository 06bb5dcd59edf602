import SpaceCaptain.Library.Lifetime
import SpaceCaptain.Server.Moves

/-!
# The integrity of the client registry

In every state that the event loop and the shutdown loop can reach the registry is a finite
list of live nodes with distinct addresses, it holds every session that was created and not yet
destroyed, no step touches freed memory, and when the shutdown loop has ended every session was
closed and destroyed once. The list part is `Sound`; the sessions are accounted for by a
`Lifetime` over the record of what happened.
-/
namespace SpaceCaptain.Server

open SpaceCaptain.Dtls SpaceCaptain.Library

variable {ρ : Type}

/-- The session that an event creates. -/
def Event.creates : Event → Option Nat
  | .created session _ _ => some session
  | _ => none

/-- The session that an event closes. -/
def Event.closes : Event → Option Nat
  | .closed session => some session
  | _ => none

/-- The session that an event destroys. -/
def Event.destroys : Event → Option Nat
  | .destroyed session => some session
  | _ => none

/-- The sessions of some clients. -/
def sessionsOf (l : List Entry) : List Nat := l.filterMap fun e => e.2.dtlsSession

/-- The end of a session is its closing and its destruction, besides what was sent. -/
theorem Closed.events_filterMap {α : Type} (read : Event → Option α)
    (silent : ∀ session dest bytes outcome, read (.sent session dest bytes outcome) = none)
    (d : Closed) :
    d.events.filterMap read = [.closed d.session, .destroyed d.session].filterMap read := by
  have quiet : (d.sends.map fun packet =>
      Event.sent d.session d.dest packet.1 packet.2).filterMap read = [] := by
    rw [List.filterMap_map, List.filterMap_eq_nil_iff]
    exact fun packet _ => silent _ _ _ _
  rw [Closed.events, List.filterMap_append, quiet, List.nil_append]

/-- The ends of some sessions are their closings and destructions, besides what was sent. -/
theorem ends_filterMap {α : Type} (read : Event → Option α)
    (silent : ∀ session dest bytes outcome, read (.sent session dest bytes outcome) = none)
    (closed : List Closed) : (closed.flatMap Closed.events).filterMap read =
      closed.flatMap fun d => [.closed d.session, .destroyed d.session].filterMap read := by
  simp only [List.filterMap_flatMap, Closed.events_filterMap read silent]

/-- The ends of some sessions create none. -/
@[simp] theorem ends_creates (closed : List Closed) :
    (closed.flatMap Closed.events).filterMap Event.creates = [] := by
  rw [ends_filterMap Event.creates fun _ _ _ _ => rfl]
  exact List.flatMap_eq_nil_iff.mpr fun _ _ => rfl

/-- The ends of some sessions close them. -/
@[simp] theorem ends_closes (closed : List Closed) :
    (closed.flatMap Closed.events).filterMap Event.closes = closed.map Closed.session := by
  rw [ends_filterMap Event.closes fun _ _ _ _ => rfl]
  exact List.map_eq_flatMap.symm

/-- The ends of some sessions destroy them. -/
@[simp] theorem ends_destroys (closed : List Closed) :
    (closed.flatMap Closed.events).filterMap Event.destroys = closed.map Closed.session := by
  rw [ends_filterMap Event.destroys fun _ _ _ _ => rfl]
  exact List.map_eq_flatMap.symm

/-- Editing other fields keeps the sessions. -/
theorem sessionsOf_editClient {client : Nat} (edit : Client → Client)
    (owns : ∀ c, (edit c).dtlsSession = c.dtlsSession) (l : List Entry) :
    sessionsOf (editClient client edit l) = sessionsOf l := by
  have values (m : List Entry) : sessionsOf m = (m.map fun e => e.2.dtlsSession).filterMap id := by
    rw [List.filterMap_map]
    rfl
  rw [values, values, editClient_map (fun e => e.2.dtlsSession) fun e => owns e.2]

/-- A removal takes one session out. -/
theorem Removal.sessions {r r' : Registry ρ} {l : List Entry} {client : Nat} {closed : Closed}
    (removal : Removal r l client r' closed) (nodup : (l.map Prod.fst).Nodup) :
    (sessionsOf l).Perm ([closed.session] ++ sessionsOf (dropClient client l)) := by
  obtain ⟨c, member, owns, -⟩ := removal.client
  obtain ⟨front, back, rfl⟩ := List.append_of_mem member
  rw [(drop_middle nodup).2]
  simp only [sessionsOf, List.filterMap_append, List.filterMap_cons, owns]
  exact List.perm_middle

/-- A timeout check takes the sessions of the expired clients out. -/
theorem Swept.split {r r' : Registry ρ} {l : List Entry} {now : Int} {closed : List Closed}
    (swept : Swept r r' now l closed) :
    (sessionsOf l).Perm
      (closed.map Closed.session ++ sessionsOf (l.filter fun e => !expired now e)) := by
  have gone : sessionsOf (l.filter (expired now)) = closed.map Closed.session := by
    have owners := congrArg (List.filterMap Prod.fst) swept.sessions
    simpa [List.filterMap_map, Function.comp_def, sessionsOf] using owners.symm
  simp only [← gone, sessionsOf, ← List.filterMap_append]
  exact ((List.filter_append_perm (expired now) l).filterMap _).symm

/-- The record accounts for the sessions. -/
structure Ledger (s : State ρ) (l : List Entry) : Prop where
  /-- The created sessions are those destroyed and those of the list. -/
  lifetime : Lifetime (s.log.filterMap Event.creates) (s.log.filterMap Event.destroys)
    (sessionsOf l) s.registry.sessions.size
  /-- Every session that was destroyed was closed. -/
  closed : s.log.filterMap Event.closes = s.log.filterMap Event.destroys
  /-- The shutdown loop ends when the list is empty. -/
  halted : s.pc = .halted → l = []

section Account

variable {H : Host ρ} {s s' : State ρ} {l l' : List Entry} {events : List Event}

/-- Events that neither begin nor end a session. -/
structure Quiet (events : List Event) : Prop where
  /-- None is created. -/
  creates : events.filterMap Event.creates = []
  /-- None is closed. -/
  closes : events.filterMap Event.closes = []
  /-- None is destroyed. -/
  destroys : events.filterMap Event.destroys = []

/-- A step that neither begins nor ends a session. -/
theorem Ledger.quiet (ledger : Ledger s l) (log : s'.log = s.log ++ events) (quiet : Quiet events)
    (same : sessionsOf l' = sessionsOf l)
    (size : s.registry.sessions.size ≤ s'.registry.sessions.size)
    (halted : s'.pc = .halted → l' = []) : Ledger s' l' := by
  refine ⟨?_, ?_, halted⟩
  · rw [log, same, List.filterMap_append, List.filterMap_append, quiet.creates, quiet.destroys,
      List.append_nil, List.append_nil]
    exact ledger.lifetime.skip size
  · rw [log, List.filterMap_append, List.filterMap_append, quiet.closes, quiet.destroys,
      ledger.closed]

/-- A step that leaves the record and the sessions as they are. -/
theorem Ledger.silent (ledger : Ledger s l) (log : s'.log = s.log)
    (same : sessionsOf l' = sessionsOf l)
    (size : s'.registry.sessions.size = s.registry.sessions.size)
    (halted : s'.pc = .halted → l' = []) : Ledger s' l' :=
  ledger.quiet (log.trans (List.append_nil _).symm) ⟨rfl, rfl, rfl⟩ same (Nat.le_of_eq size.symm)
    halted

/-- A step that ends sessions of the list. -/
theorem Ledger.release {closed : List Closed} (ledger : Ledger s l)
    (log : s'.log = s.log ++ (closed.flatMap Closed.events ++ events)) (quiet : Quiet events)
    (split : (sessionsOf l).Perm (closed.map Closed.session ++ sessionsOf l'))
    (size : s'.registry.sessions.size = s.registry.sessions.size) (moves : s'.pc ≠ .halted) :
    Ledger s' l' := by
  refine ⟨?_, ?_, fun halted => absurd halted moves⟩
  · have released := ledger.lifetime.release split
    simpa [log, quiet.creates, quiet.destroys, size] using released
  · simp [log, quiet.closes, quiet.destroys, ledger.closed]

/-- A step that removes one client. -/
theorem Ledger.removal {client : Nat} {closed : Closed} (ledger : Ledger s l)
    (nodup : (l.map Prod.fst).Nodup) (removal : Removal s.registry l client s'.registry closed)
    (log : s'.log = s.log ++ closed.events) (moves : s'.pc ≠ .halted) :
    Ledger s' (dropClient client l) := by
  have ends : s'.log = s.log ++ ([closed].flatMap Closed.events ++ []) := by simpa using log
  exact ledger.release ends ⟨rfl, rfl, rfl⟩ (removal.sessions nodup) removal.size moves

/-- What the server makes of a result keeps the account. -/
theorem Settled.ledger {left client sid : Nat} {call : Call} {result : DtlsResult} {data : Bytes}
    (ledger : Ledger s l) (nodup : (l.map Prod.fst).Nodup)
    (settled : Settled H s l left client sid call result data s' l') : Ledger s' l' := by
  cases settled with
  | completed data registry intact sessions =>
    exact ledger.silent rfl (sessionsOf_editClient complete (fun _ => rfl) l)
      (congrArg Heap.size sessions) nofun
  | pending | nothing | written | failed | broken => exact ledger.silent rfl rfl rfl nofun
  | answered => exact ledger.quiet rfl ⟨rfl, rfl, rfl⟩ rfl (Nat.le_refl _) nofun
  | peerClosed _ _ _ _ removal => exact ledger.removal nodup removal rfl nofun
  | unwritten _ _ _ _ _ _ _ removal => exact ledger.removal nodup removal rfl nofun

/-- The explicit `recvfrom` keeps the account. -/
theorem Consumed.ledger {why : Discard} {failed : Bool} (ledger : Ledger s l)
    (consumed : Consumed s why failed s') (busy : s.pc ≠ .halted) : Ledger s' l := by
  cases consumed with
  | nothing => exact ledger
  | taken d rest =>
    exact ledger.quiet rfl ⟨rfl, rfl, rfl⟩ rfl (Nat.le_refl _) fun halted => absurd halted busy

/-- What a receive callback did says nothing about the sessions. -/
theorem Fate.quiet (sid : Nat) (fate : Fate) : Quiet (Fate.events sid fate) := by
  cases fate <;> exact ⟨rfl, rfl, rfl⟩

/-- Every move keeps the account. -/
theorem Move.ledger {input : Input ρ} (sound : Sound H s l) (ledger : Ledger s l)
    (move : Move H s l input s' l') : Ledger s' l' := by
  have nodup := sound.intact.chain.nodup
  cases move with
  | arrive d => exact ledger.quiet rfl ⟨rfl, rfl, rfl⟩ rfl (Nat.le_refl _) ledger.halted
  | signal => exact ledger.silent rfl rfl rfl ledger.halted
  | interrupted => exact ledger
  | dispatch | leave | lastEvent | nextEvent | drained => exact ledger.silent rfl rfl rfl nofun
  | halt outcomes at_pc empty => exact ledger.silent rfl rfl rfl fun _ => empty
  | sweep nfds now sweepNow outcomes registry closed _ _ _ intact swept =>
    exact ledger.release (List.append_assoc _ _ _) ⟨rfl, rfl, rfl⟩ swept.split swept.size nofun
  | known left add now d rest client c sid registry _ _ _ _ _ _ sessions =>
    refine ledger.quiet rfl ⟨rfl, rfl, rfl⟩
      (sessionsOf_editClient (stamp now) (fun _ => rfl) l) (Nat.le_of_eq ?_) nofun
    exact congrArg Heap.size sessions.symm
  | refused _ _ _ _ _ _ _ _ _ _ _ grown =>
    exact ledger.quiet rfl ⟨rfl, rfl, rfl⟩ rfl grown nofun
  | admitted left add now d rest client registry _ _ _ _ _ grown =>
    refine ⟨?_, ?_, nofun⟩
    · have alive : [Event.created s.registry.sessions.size d.src.sockaddr add.now,
          .called s.registry.sessions.size .handshake].filterMap Event.destroys = [] := rfl
      rw [List.filterMap_append, List.filterMap_append, alive, List.append_nil, grown]
      exact ledger.lifetime.create
    · simp only [List.filterMap_append, ledger.closed]
      rfl
  | send => exact ledger.quiet rfl ⟨rfl, rfl, rfl⟩ rfl (Nat.le_refl _) nofun
  | recv left client call seen c sid session len timeout select outcome received =>
    exact ledger.quiet rfl (Fate.quiet sid received.fate) rfl (Nat.le_refl _) nofun
  | finish left client call seen c sid session ret ssl accepted _ sessions _ _ inside moves intact
      size settled =>
    refine settled.ledger ?_ nodup
    refine ledger.quiet (List.append_assoc _ _ _) ?_ rfl (Nat.le_of_eq size.symm) ?_
    · cases accepted <;> exact ⟨rfl, rfl, rfl⟩
    · intro halted
      exact absurd (inside.at_pc.symm.trans halted) nofun
  | consume left why failed outcomes s₁ at_pc consumed =>
    have busy : s.pc ≠ .halted := by rw [at_pc]; nofun
    exact (consumed.ledger ledger busy).silent rfl rfl rfl nofun
  | discard left why client failed outcomes s₁ registry closed at_pc consumed removal =>
    have busy : s.pc ≠ .halted := by rw [at_pc]; nofun
    exact (consumed.ledger ledger busy).removal nodup (consumed.kept.1 ▸ removal) rfl nofun
  | shutdown outcomes client registry closed _ removal =>
    exact ledger.removal nodup removal rfl nofun

/-- The account begins empty. -/
theorem Starts.ledger (starts : Starts H s) : Ledger s [] := by
  obtain ⟨-, buffer, now, -, rfl⟩ := starts
  exact ⟨.empty _, rfl, fun _ => rfl⟩

end Account

/-- The registry is in order, and its clients are those of the list. -/
structure Orderly (H : Host ρ) (s : State ρ) (l : List Entry) : Prop where
  /-- Following `next` from `g_clients` visits the live nodes of the list and ends. -/
  chain : Chain ClientSession.toClient ClientSession.next s.registry.clients.get?
    s.registry.gClients l
  /-- Every live node is visited exactly once. -/
  nodes : ∀ p c, s.registry.clients.get? p = some c → (l.map Prod.fst).count p = 1
  /-- No two nodes have the same address and port. -/
  keys : (l.map fun e => e.2.addr.key).Nodup
  /-- A session that was created and not destroyed is on the list exactly once. -/
  sessions : ∀ sid ∈ s.log.filterMap Event.creates, sid ∉ s.log.filterMap Event.destroys →
    (sessionsOf l).count sid = 1
  /-- Every step succeeds: it uses no node and no session that was freed, and its loops end. -/
  memory : ∀ input, ∃ next, step H s input = .ok next
  /-- `add_client` of a new address leaves the list unchanged when it fails. -/
  refusal : ∀ (source : Endpoint) (add : AddEnv ρ) (r' : Registry ρ),
    findClient s.registry source.sockaddr = .ok none →
    addClient s.registry H.ctx source.sockaddr sockaddrLen H.fd add = .ok (r', none) →
    Chain ClientSession.toClient ClientSession.next r'.clients.get? r'.gClients l
  /-- No session is created twice. -/
  created : (s.log.filterMap Event.creates).Nodup
  /-- After the shutdown loop every session was closed and destroyed exactly once. -/
  shutdown : s.pc = .halted → ∀ sid ∈ s.log.filterMap Event.creates,
    s.log.count (.closed sid) = 1 ∧ s.log.count (.destroyed sid) = 1

/-- How often a session is closed and destroyed. -/
theorem count_ends (log : List Event) (sid : Nat) :
    log.count (.closed sid) = (log.filterMap Event.closes).count sid ∧
      log.count (.destroyed sid) = (log.filterMap Event.destroys).count sid := by
  rw [List.count_filterMap, List.count_filterMap, List.count_eq_countP, List.count_eq_countP]
  constructor <;> refine List.countP_congr fun event _ => ?_ <;>
    cases event <;> simp [Event.closes, Event.destroys]

/-- Whatever arrives, whatever the library returns, whatever fails, and whenever the server is
told to shut down, the registry is in order. -/
theorem registry_integrity {H : Host ρ} {s : State ρ} (reached : Reachable H anything s) :
    ∃ l, Orderly H s l := by
  obtain ⟨l, sound, ledger⟩ := Reachable.listed (I := Ledger) (fun _ starts => starts.ledger)
    (fun _ _ _ _ _ sound ledger _ move => move.ledger sound ledger) reached
  refine ⟨l, {
    chain := sound.intact.chain
    nodes := fun p c live => List.count_eq_one_of_mem sound.intact.chain.nodup
      (sound.intact.nodes p c live)
    keys := sound.intact.keys
    sessions := fun sid made kept => ledger.lifetime.held_once made kept
    memory := ?_
    refusal := ?_
    created := ledger.lifetime.unique
    shutdown := ?_ }⟩
  · intro input
    obtain ⟨next, outcome, -⟩ := step_move sound input
    exact ⟨next, outcome⟩
  · intro source add r' missing failed
    rcases findClient_cases sound.intact source with ⟨_, _, found, -⟩ | ⟨-, absent⟩
    · rw [missing] at found
      cases found
    · obtain ⟨result, outcome, effect⟩ :=
        addClient_intact sound.intact sound.server absent H.fd add
      rw [failed] at outcome
      obtain rfl := Except.ok.inj outcome
      cases effect with
      | failed _ intact => exact intact.chain
  · intro halted sid made
    obtain rfl := ledger.halted halted
    rw [(count_ends s.log sid).1, (count_ends s.log sid).2, ledger.closed]
    exact ⟨ledger.lifetime.released_once made, ledger.lifetime.released_once made⟩

/-- A client comes, and the server is told to shut down while its handshake is under way. -/
def handshakeThenShutdown : List (Input Unit) :=
  [.arrive ⟨⟨1, 1⟩, [7]⟩, .poll (some 1) 0 0 (fun _ => []), .event,
    .peek false (addSucceeds 0 ()) 0, .signal, .recv .ready .normal, .finish [], .consume false [],
    .peek false (addSucceeds 0 ()) 0, .event, .leave, .shutdown [], .shutdown []]

/-- After that run the one session was closed and destroyed once. -/
theorem registry_integrity_shutdown :
    ∃ s, runGuarded (advance ⟨plain, .little, serverContext, 3⟩) anything startZero
        handshakeThenShutdown = some s ∧
      s.pc = .halted ∧ s.log.filterMap Event.creates = [0] ∧
      ∃ l, Orderly ⟨plain, .little, serverContext, 3⟩ s l := by
  refine ⟨_, rfl, rfl, rfl, ?_⟩
  exact registry_integrity
    (reach_of_runGuarded handshakeThenShutdown (.start (starts_startZero plain .little 3)) rfl)

end SpaceCaptain.Server
