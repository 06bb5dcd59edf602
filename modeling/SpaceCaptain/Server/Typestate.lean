import SpaceCaptain.Library.Monitor
import SpaceCaptain.Server.Integrity
import SpaceCaptain.Server.Sessions

/-!
# The life of a DTLS session

A session is created, shakes hands until that succeeds, is read and written after that, and is
closed and destroyed; once a call on it has failed nothing but the end may follow. `Typestate`
is this protocol as a monitor over what happened to one session. `Staged` says that the record
of every session follows it and where the session then is, as far as the place of the server and
the list of clients tell. Both copies of the flag `handshake_complete` say the same.
-/
namespace SpaceCaptain.Server

open SpaceCaptain.Dtls SpaceCaptain.Library

variable {ρ : Type}

/-- What happens to one session. -/
inductive SessionEvent where
  | created
  | called (call : Call)
  | returned (call : Call) (result : DtlsResult)
  | closed
  | destroyed
  deriving DecidableEq, Repr

/-- What an event says about a session. -/
def Event.onSession (sid : Nat) : Event → Option SessionEvent
  | .created q _ _ => if q = sid then some .created else none
  | .called q call => if q = sid then some (.called call) else none
  | .returned q call result => if q = sid then some (.returned call result) else none
  | .closed q => if q = sid then some .closed else none
  | .destroyed q => if q = sid then some .destroyed else none
  | _ => none

/-- Where a session is in its life. -/
inductive Typestate where
  /-- It does not exist yet. -/
  | absent
  /-- No call is running; the flag says whether the handshake has succeeded. -/
  | usable (established : Bool)
  /-- A call is running. -/
  | busy (established : Bool) (call : Call)
  /-- A call has failed. -/
  | failed
  | closed
  | destroyed
  deriving DecidableEq, Repr

/-- A read or a write needs an established session, and a handshake one that is not. -/
def needsEstablished : Call → Bool
  | .handshake => false
  | .read _ | .write _ => true

/-- Where a session is after a call has returned. -/
def Typestate.afterReturn (established : Bool) : DtlsResult → Typestate
  | .ok => .usable true
  | .errorWouldBlock => .usable established
  | _ => .failed

/-- What may happen to a session, and where it is then. -/
def Typestate.next : Typestate → SessionEvent → Option Typestate
  | .absent, .created => some (.usable false)
  | .usable established, .called call =>
    if established = needsEstablished call then some (.busy established call) else none
  | .busy established call, .returned call' result =>
    if call' = call then some (.afterReturn established result) else none
  | .usable _, .closed | .failed, .closed => some .closed
  | .closed, .destroyed => some .destroyed
  | _, _ => none

/-- What happened to one session. -/
def lifeOf (log : List Event) (sid : Nat) : List SessionEvent := log.filterMap (Event.onSession sid)

/-- No event says nothing. -/
@[simp] theorem lifeOf_nil (sid : Nat) : lifeOf [] sid = [] := rfl

/-- What is said of a session by an event and those after it. -/
@[simp] theorem lifeOf_cons (e : Event) (rest : List Event) (sid : Nat) :
    lifeOf (e :: rest) sid = (e.onSession sid).toList ++ lifeOf rest sid := by
  unfold lifeOf
  cases said : e.onSession sid <;> simp [said]

/-- What is said of a session in two lists of events. -/
@[simp] theorem lifeOf_append (first second : List Event) (sid : Nat) :
    lifeOf (first ++ second) sid = lifeOf first sid ++ lifeOf second sid :=
  List.filterMap_append

/-- Where a session is after what happened; `none` when that was against the protocol. -/
def typestate (log : List Event) (sid : Nat) : Option Typestate :=
  watch Typestate.next .absent (lifeOf log sid)

/-- Further events are watched from where the session is. -/
theorem typestate_append (log events : List Event) (sid : Nat) :
    typestate (log ++ events) sid =
      (typestate log sid).bind fun t => watch Typestate.next t (lifeOf events sid) := by
  rw [typestate, lifeOf, List.filterMap_append, watch_append]
  rfl

/-- Events that say nothing about a session leave it where it is. -/
theorem typestate_silent {log events : List Event} {sid : Nat} (silent : lifeOf events sid = []) :
    typestate (log ++ events) sid = typestate log sid := by
  rw [typestate_append, silent]
  cases typestate log sid <;> rfl

/-- Whether the handshake of a session has succeeded, while it may be called. -/
def Typestate.established : Typestate → Option Bool
  | .usable established | .busy established _ => some established
  | .absent | .failed | .closed | .destroyed => none

/-- What the protocol knows of the past of a session. -/
structure Past (events : List SessionEvent) (t : Typestate) : Prop where
  /-- Nothing has happened to a session that does not exist. -/
  absent : t = .absent → events = []
  /-- A running call is one that the session was ready for. -/
  ready : ∀ established call, t = .busy established call → established = needsEstablished call
  /-- A session is established when a handshake has succeeded. -/
  established : ∀ flag, t.established = some flag →
    (flag = true ↔ .returned .handshake .ok ∈ events)

/-- A return changes what is known of the past as it should. -/
theorem Past.returned {events : List SessionEvent} {established : Bool} {call : Call}
    (past : Past events (.busy established call)) (result : DtlsResult) :
    Past (events ++ [.returned call result]) (.afterReturn established result) := by
  have ready := past.ready established call rfl
  have before := past.established established rfl
  have unchanged (other : result ≠ .ok) : .returned .handshake .ok ∈ events ++
      [SessionEvent.returned call result] ↔ .returned .handshake .ok ∈ events := by
    simp [other.symm]
  cases result with
  | ok =>
    refine ⟨nofun, nofun, fun flag same => ?_⟩
    obtain rfl := Option.some.inj same
    refine iff_of_true rfl ?_
    cases call with
    | handshake => simp
    | read len | write bytes => exact List.mem_append_left _ (before.mp ready)
  | errorWouldBlock =>
    refine ⟨nofun, nofun, fun flag same => ?_⟩
    obtain rfl := Option.some.inj same
    rw [unchanged nofun]
    exact before
  | _ => exact ⟨nofun, nofun, nofun⟩

/-- The past of every session that follows the protocol. -/
theorem past_of_watch {events : List SessionEvent} {t : Typestate}
    (accepted : watch Typestate.next .absent events = some t) : Past events t := by
  have base : Past [] .absent := ⟨fun _ => rfl, fun _ _ => nofun, fun _ => nofun⟩
  refine watch_invariant base ?_ accepted
  intro seen t₁ e t₂ past moved
  unfold Typestate.next at moved
  split at moved
  · obtain rfl := Option.some.inj moved
    obtain rfl := past.absent rfl
    exact ⟨nofun, nofun, fun flag same => by simp [← Option.some.inj same]⟩
  · split at moved
    · rename_i established call ready
      obtain rfl := Option.some.inj moved
      refine ⟨nofun, fun _ _ same => ?_, fun flag same => ?_⟩
      · obtain ⟨rfl, rfl⟩ := Typestate.busy.inj same
        exact ready
      · simpa using past.established flag same
    · contradiction
  · split at moved
    · rename_i result same
      obtain rfl := Option.some.inj moved
      subst same
      exact past.returned result
    · contradiction
  · obtain rfl := Option.some.inj moved
    exact ⟨nofun, nofun, nofun⟩
  · obtain rfl := Option.some.inj moved
    exact ⟨nofun, nofun, nofun⟩
  · obtain rfl := Option.some.inj moved
    exact ⟨nofun, nofun, nofun⟩
  · contradiction

/-- What has happened to a session since a call on it failed. -/
inductive Retired (events : List SessionEvent) : Typestate → Prop
  | failed (quiet : events = []) : Retired events .failed
  | closed (life : events = [.closed]) : Retired events .closed
  | destroyed (life : events = [.closed, .destroyed]) : Retired events .destroyed

/-- After a failed call only the end of the session may follow. -/
theorem retired_of_watch {events : List SessionEvent} {t : Typestate}
    (accepted : watch Typestate.next .failed events = some t) : Retired events t := by
  have base : Retired [] .failed := .failed rfl
  refine watch_invariant base ?_ accepted
  intro seen t₁ e t₂ retired moved
  cases retired with
  | failed quiet =>
    cases e with
    | closed =>
      obtain rfl := Option.some.inj moved
      exact .closed (by rw [quiet]; rfl)
    | _ => contradiction
  | closed life =>
    cases e with
    | destroyed =>
      obtain rfl := Option.some.inj moved
      exact .destroyed (by rw [life]; rfl)
    | _ => contradiction
  | destroyed => cases e <;> contradiction

/-- Where the session of a client is, as the place of the server and the client's flag tell. -/
def Pc.typestate (pc : Pc) (client : Nat) (flag : Bool) : Typestate :=
  match pc with
  | .engine _ current call _ => if current = client then .busy flag call else .usable flag
  | .consume _ _ (some current) => if current = client then .failed else .usable flag
  | _ => .usable flag

/-- Every session follows the protocol, and is where the server takes it to be. -/
structure Staged (s : State ρ) (l : List Entry) : Prop where
  /-- The session of a client. -/
  live : ∀ client c sid, (client, c) ∈ l → c.dtlsSession = some sid →
    typestate s.log sid = some (s.pc.typestate client c.handshakeComplete)
  /-- A session that no client has. -/
  gone : ∀ sid, (∀ e ∈ l, e.2.dtlsSession ≠ some sid) →
    typestate s.log sid = some .absent ∨ typestate s.log sid = some .destroyed
  /-- A session that was never allocated. -/
  fresh : ∀ sid, s.registry.sessions.size ≤ sid → typestate s.log sid = some .absent

section Steps

variable {H : Host ρ} {s s' : State ρ} {l l' : List Entry} {client sid : Nat} {c : Client}
  {events : List Event}

/-- A step that says nothing about the sessions. -/
theorem Staged.still (staged : Staged s l) (log : s'.log = s.log ++ events)
    (silent : ∀ sid, lifeOf events sid = [])
    (pcs : ∀ p flag, s'.pc.typestate p flag = s.pc.typestate p flag)
    (grown : s.registry.sessions.size ≤ s'.registry.sessions.size) : Staged s' l := by
  have same (q : Nat) : typestate s'.log q = typestate s.log q := by
    rw [log, typestate_silent (silent q)]
  constructor
  · intro p d q member owns
    rw [same, pcs]
    exact staged.live p d q member owns
  · intro q nobody
    rw [same]
    exact staged.gone q nobody
  · intro q beyond
    rw [same]
    exact staged.fresh q (grown.trans beyond)

/-- Where the session of a client is after a step on it: the client is still on the list, or the
session has come to its end. -/
inductive Ends (pc' : Pc) (l' : List Entry) (client sid : Nat) (t : Typestate) : Prop
  | stays (c' : Client) (alone : ∀ d, (client, d) ∈ l' ↔ d = c')
      (owns : c'.dtlsSession = some sid) (place : t = pc'.typestate client c'.handshakeComplete)
  | leaves (off : ∀ d, (client, d) ∉ l') (ended : t = .destroyed)

/-- What a step on one client does, from where the client's session was. -/
structure Episode (pc : Pc) (l : List Entry) (client sid : Nat) (t : Typestate)
    (events : List Event) (pc' : Pc) (l' : List Entry) : Prop where
  /-- The step says nothing about the other sessions. -/
  others : ∀ q, q ≠ sid → lifeOf events q = []
  /-- The other sessions are where they were. -/
  pcs : ∀ p flag, p ≠ client → pc'.typestate p flag = pc.typestate p flag
  /-- The other clients are those of before. -/
  rest : ∀ p d, p ≠ client → ((p, d) ∈ l' ↔ (p, d) ∈ l)
  /-- The session follows the protocol. -/
  own : ∃ t', watch Typestate.next t (lifeOf events sid) = some t' ∧ Ends pc' l' client sid t'

/-- A step on one client keeps the sessions on the protocol. -/
theorem Staged.episode (staged : Staged s l) (intact : Intact s.registry l)
    (member : (client, c) ∈ l) (owns : c.dtlsSession = some sid)
    (log : s'.log = s.log ++ events)
    (grown : s.registry.sessions.size ≤ s'.registry.sessions.size)
    (episode : Episode s.pc l client sid (s.pc.typestate client c.handshakeComplete) events s'.pc
      l') : Staged s' l' := by
  obtain ⟨t, watched, ends⟩ := episode.own
  have other (q : Nat) (apart : q ≠ sid) : typestate s'.log q = typestate s.log q := by
    rw [log, typestate_silent (episode.others q apart)]
  have own : typestate s'.log sid = some t := by
    rw [log, typestate_append, staged.live client c sid member owns]
    exact watched
  have unshared (p : Nat) (d : Client) (entry : (p, d) ∈ l) (away : p ≠ client) (q : Nat)
      (owned : d.dtlsSession = some q) : q ≠ sid := by
    rintro rfl
    exact away (congrArg Prod.fst (intact.of_session entry member (owned.trans owns.symm)))
  constructor
  · intro p d q entry owned
    by_cases here : p = client
    · subst here
      cases ends with
      | stays c' alone keeps place =>
        obtain rfl := (alone d).mp entry
        obtain rfl := Option.some.inj (keeps.symm.trans owned)
        rw [own, place]
      | leaves off ended => exact absurd entry (off d)
    · have before := (episode.rest p d here).mp entry
      rw [other q (unshared p d before here q owned), episode.pcs p _ here]
      exact staged.live p d q before owned
  · intro q nobody
    by_cases here : q = sid
    · subst here
      cases ends with
      | stays c' alone keeps place => exact absurd keeps (nobody _ ((alone c').mpr rfl))
      | leaves off ended => exact .inr (ended ▸ own)
    · rw [other q here]
      refine staged.gone q fun e entry owned => ?_
      by_cases away : e.1 = client
      · obtain ⟨p, d⟩ := e
        obtain rfl : p = client := away
        rw [intact.same entry member, owns] at owned
        exact here (Option.some.inj owned).symm
      · exact nobody e ((episode.rest e.1 e.2 away).mpr entry) owned
  · intro q beyond
    obtain ⟨-, q', t', -, owned, found, -⟩ := intact.session _ member
    obtain rfl : q' = sid := Option.some.inj (owned.symm.trans owns)
    have inside := Heap.lt_size found
    rw [other q (by omega)]
    exact staged.fresh q (grown.trans beyond)

/-- The end of a session is its closing and its destruction. -/
theorem lifeOf_closed (closed : Closed) (q : Nat) :
    lifeOf closed.events q = if closed.session = q then [.closed, .destroyed] else [] := by
  rw [lifeOf, Closed.events_filterMap (Event.onSession q) fun _ _ _ _ => rfl]
  split <;> simp [Event.onSession, *]

/-- The session that a removal ends is the client's. -/
theorem Removal.session {r r' : Registry ρ} {closed : Closed} (intact : Intact r l)
    (member : (client, c) ∈ l) (owns : c.dtlsSession = some sid)
    (removal : Removal r l client r' closed) : closed.session = sid := by
  obtain ⟨d, entry, owned, -⟩ := removal.client
  rw [intact.same entry member, owns] at owned
  exact (Option.some.inj owned).symm

/-- A client stays, after events on its session that lead to its place. -/
theorem Episode.stays {pc pc' : Pc} {t : Typestate} {edit : Client → Client}
    (intact : Intact s.registry l) (member : (client, c) ∈ l)
    (owns : (edit c).dtlsSession = some sid)
    (others : ∀ q, q ≠ sid → lifeOf events q = [])
    (pcs : ∀ p flag, p ≠ client → pc'.typestate p flag = pc.typestate p flag)
    (watched : watch Typestate.next t (lifeOf events sid) =
      some (pc'.typestate client (edit c).handshakeComplete)) :
    Episode pc l client sid t events pc' (editClient client edit l) where
  others := others
  pcs := pcs
  rest _ _ away := editClient_rest away edit _
  own := ⟨_, watched, .stays (edit c) (editClient_alone intact member edit) owns rfl⟩

/-- A client is removed, after events on its session from which it may be closed. -/
theorem Episode.leaves {pc pc' : Pc} {t t' : Typestate} {r r' : Registry ρ} {closed : Closed}
    (intact : Intact r l) (member : (client, c) ∈ l) (owns : c.dtlsSession = some sid)
    (removal : Removal r l client r' closed)
    (others : ∀ q, q ≠ sid → lifeOf events q = [])
    (pcs : ∀ p flag, p ≠ client → pc'.typestate p flag = pc.typestate p flag)
    (watched : watch Typestate.next t (lifeOf events sid) = some t')
    (closes : t'.next .closed = some .closed) :
    Episode pc l client sid t (events ++ closed.events) pc' (dropClient client l) where
  others q apart := by
    have session := removal.session intact member owns
    rw [lifeOf_append, others q apart, lifeOf_closed, session, if_neg apart.symm]
    rfl
  pcs := pcs
  rest _ d away := dropClient_rest away d
  own := by
    refine ⟨.destroyed, ?_, .leaves (fun d entry => ?_) rfl⟩
    · rw [lifeOf_append, lifeOf_closed, removal.session intact member owns, if_pos rfl,
        watch_append, watched, Option.bind_some, watch_cons, closes]
      rfl
    · exact (mem_dropClient.mp entry).2 rfl

/-- An edit that changes nothing. -/
theorem editClient_id (client : Nat) (l : List Entry) : editClient client id l = l := by
  refine (List.map_congr_left fun e _ => ?_).trans (List.map_id l)
  split <;> rfl

/-- A client stays as it is, after events on its session that lead to its place. -/
theorem Episode.keeps {pc pc' : Pc} {t : Typestate} (intact : Intact s.registry l)
    (member : (client, c) ∈ l) (owns : c.dtlsSession = some sid)
    (others : ∀ q, q ≠ sid → lifeOf events q = [])
    (pcs : ∀ p flag, p ≠ client → pc'.typestate p flag = pc.typestate p flag)
    (watched : watch Typestate.next t (lifeOf events sid) =
      some (pc'.typestate client c.handshakeComplete)) :
    Episode pc l client sid t events pc' l := by
  have episode : Episode pc l client sid t events pc' (editClient client id l) :=
    .stays intact member owns others pcs watched
  rwa [editClient_id] at episode

/-- A failed call leaves the session to be closed. -/
theorem afterReturn_failed {result : DtlsResult} (error : result ≠ .ok)
    (blocked : result ≠ .errorWouldBlock) (established : Bool) :
    Typestate.afterReturn established result = .failed := by
  cases result <;> first | contradiction | rfl

/-- Earlier events on the same session. -/
theorem Episode.prepend {pc pc' : Pc} {t₀ t : Typestate} {first : List Event}
    (others : ∀ q, q ≠ sid → lifeOf first q = [])
    (watched : watch Typestate.next t₀ (lifeOf first sid) = some t)
    (episode : Episode pc l client sid t events pc' l') :
    Episode pc l client sid t₀ (first ++ events) pc' l' where
  others q apart := by
    rw [lifeOf_append, others q apart, episode.others q apart]
    rfl
  pcs := episode.pcs
  rest := episode.rest
  own := by
    obtain ⟨t', later, ends⟩ := episode.own
    refine ⟨t', ?_, ends⟩
    rw [lifeOf_append, watch_append, watched]
    exact later

/-- What the server makes of a result keeps the session on the protocol. -/
theorem Settled.episode {left : Nat} {call : Call} {seen : List Seen} {result : DtlsResult}
    {data : Bytes} (settled : Settled H s l left client sid call result data s' l')
    (intact : Intact s.registry l) (member : (client, c) ∈ l) (owns : c.dtlsSession = some sid)
    (ready : c.handshakeComplete = needsEstablished call)
    (at_pc : s.pc = .engine left client call seen)
    (honest : ∀ len, call = .read len → result = .ok → data ≠ []) :
    ∃ events, s'.log = s.log ++ events ∧
      s.registry.sessions.size = s'.registry.sessions.size ∧
      Episode s.pc l client sid (.afterReturn c.handshakeComplete result) events s'.pc l' := by
  have away (p : Nat) (flag : Bool) (apart : p ≠ client) :
      s.pc.typestate p flag = .usable flag := by
    rw [at_pc]
    exact if_neg apart.symm
  have idle {pc : Pc} (free : ∀ p flag, p ≠ client → pc.typestate p flag = .usable flag) (p : Nat)
      (flag : Bool) (apart : p ≠ client) : pc.typestate p flag = s.pc.typestate p flag :=
    (free p flag apart).trans (away p flag apart).symm
  have nothing (q : Nat) (_ : q ≠ sid) : lifeOf [] q = [] := rfl
  cases settled with
  | completed data registry edited sessions =>
    refine ⟨[], (List.append_nil _).symm, (congrArg Heap.size sessions).symm, ?_⟩
    exact .stays intact member owns nothing (idle fun _ _ _ => rfl) rfl
  | pending | nothing =>
    refine ⟨[], (List.append_nil _).symm, rfl, ?_⟩
    exact .keeps intact member owns nothing (idle fun _ _ _ => rfl) rfl
  | failed result data error blocked =>
    refine ⟨[], (List.append_nil _).symm, rfl, ?_⟩
    refine .keeps intact member owns nothing (idle fun _ _ apart => if_neg apart.symm) ?_
    rw [afterReturn_failed error blocked]
    exact congrArg some (if_pos rfl).symm
  | answered len data buffer nonempty size =>
    refine ⟨_, rfl, rfl, ?_⟩
    refine .keeps intact member owns (fun q apart => ?_)
      (idle fun _ _ apart => if_neg apart.symm) ?_
    · simp [Event.onSession, apart.symm]
    · have established : c.handshakeComplete = true := ready
      simp [Event.onSession, Typestate.afterReturn, Typestate.next, Pc.typestate,
        needsEstablished, established]
  | broken len result data unread blocked closing =>
    have error : result ≠ .ok := fun ok => honest len rfl ok (unread ok)
    refine ⟨[], (List.append_nil _).symm, rfl, ?_⟩
    refine .keeps intact member owns nothing (idle fun _ _ apart => if_neg apart.symm) ?_
    rw [afterReturn_failed error blocked]
    exact congrArg some (if_pos rfl).symm
  | peerClosed len data registry closed removal =>
    refine ⟨_, rfl, removal.size.symm, ?_⟩
    exact .leaves intact member owns removal nothing (idle fun _ _ _ => rfl) rfl rfl
  | written bytes result data fine =>
    refine ⟨[], (List.append_nil _).symm, rfl, ?_⟩
    refine .keeps intact member owns nothing (idle fun _ _ _ => rfl) ?_
    have established : c.handshakeComplete = true := ready
    rw [established]
    rcases fine with rfl | rfl <;> rfl
  | unwritten bytes result data registry closed error blocked removal =>
    refine ⟨_, rfl, removal.size.symm, ?_⟩
    have failed : watch Typestate.next (.afterReturn c.handshakeComplete result)
        (lifeOf [] sid) = some .failed := by
      rw [afterReturn_failed error blocked]
      rfl
    exact .leaves intact member owns removal nothing (idle fun _ _ _ => rfl) failed rfl

/-- The sessions that a timeout check ends are those of the expired clients. -/
theorem Swept.mem {r r' : Registry ρ} {now : Int} {closed : List Closed}
    (swept : Swept r r' now l closed) :
    sid ∈ closed.map Closed.session ↔
      ∃ e ∈ l, expired now e = true ∧ e.2.dtlsSession = some sid := by
  have owners : closed.map (fun d => some d.session) =
      (l.filter (expired now)).map fun e => e.2.dtlsSession := by
    have both := congrArg (List.map Prod.fst) swept.sessions
    simpa [List.map_map, Function.comp_def] using both
  have ended : sid ∈ closed.map Closed.session ↔
      some sid ∈ closed.map fun d => some d.session := by simp
  rw [ended, owners]
  simp [and_assoc]

/-- A timeout check ends no session twice. -/
theorem Swept.nodup {r r' : Registry ρ} {now : Int} {closed : List Closed}
    (swept : Swept r r' now l closed) (intact : Intact r l) :
    (closed.map Closed.session).Nodup := by
  have owners : (closed.map Closed.session).map some =
      (l.filter (expired now)).map fun e => e.2.dtlsSession := by
    have both := congrArg (List.map Prod.fst) swept.sessions
    simpa [List.map_map, Function.comp_def] using both
  have distinct : ((closed.map Closed.session).map some).Nodup := by
    rw [owners]
    exact intact.distinct.sublist (List.filter_sublist.map _)
  exact distinct.of_map

/-- What the ends of some sessions say of one. -/
theorem ends_lifeOf {closed : List Closed} (nodup : (closed.map Closed.session).Nodup) (sid : Nat) :
    lifeOf (closed.flatMap Closed.events) sid =
      if sid ∈ closed.map Closed.session then [.closed, .destroyed] else [] := by
  induction closed with
  | nil => rfl
  | cons d rest ih =>
    obtain ⟨apart, nodup⟩ := List.nodup_cons.mp nodup
    rw [List.flatMap_cons, lifeOf_append, lifeOf_closed, ih nodup]
    by_cases here : d.session = sid
    · subst here
      simp only [↓reduceIte, if_neg apart, List.map_cons, List.mem_cons, true_or,
        List.append_nil]
    · have other : ¬sid = d.session := fun same => here same.symm
      simp only [if_neg here, List.nil_append, List.map_cons, List.mem_cons, other, false_or]

/-- A timeout check keeps the sessions on the protocol. -/
theorem Staged.sweep {now : Int} {closed : List Closed} (staged : Staged s l)
    (intact : Intact s.registry l) (at_pc : s.pc = .poll) (at_pc' : ∃ left, s'.pc = .events left)
    (swept : Swept s.registry s'.registry now l closed)
    (log : s'.log = s.log ++ closed.flatMap Closed.events ++ [.swept now]) :
    Staged s' (l.filter fun e => !expired now e) := by
  obtain ⟨left, at_pc'⟩ := at_pc'
  have said (q : Nat) : typestate s'.log q = (typestate s.log q).bind fun t =>
      watch Typestate.next t
        (if q ∈ closed.map Closed.session then [.closed, .destroyed] else []) := by
    rw [log, typestate_silent (by simp [Event.onSession]), typestate_append,
      ends_lifeOf (swept.nodup intact)]
  have kept (q : Nat) (apart : q ∉ closed.map Closed.session) :
      typestate s'.log q = typestate s.log q := by
    rw [said, if_neg apart]
    cases typestate s.log q <;> rfl
  constructor
  · intro p d q entry owned
    obtain ⟨entry, current⟩ := List.mem_filter.mp entry
    have apart : q ∉ closed.map Closed.session := by
      intro ended
      obtain ⟨e, entry', late, owned'⟩ := swept.mem.mp ended
      obtain rfl := intact.of_session entry' entry (owned'.trans owned.symm)
      simp [late] at current
    have before := staged.live p d q entry owned
    rw [kept q apart, before, at_pc, at_pc']
    rfl
  · intro q nobody
    by_cases ended : q ∈ closed.map Closed.session
    · obtain ⟨⟨p, d⟩, entry, late, owned⟩ := swept.mem.mp ended
      have before := staged.live p d q entry owned
      rw [said, if_pos ended, before, at_pc]
      exact .inr rfl
    · rw [kept q ended]
      refine staged.gone q fun e entry owned => ?_
      by_cases late : expired now e = true
      · exact ended (swept.mem.mpr ⟨e, entry, late, owned⟩)
      · exact nobody e (List.mem_filter.mpr ⟨entry, by simpa using late⟩) owned
  · intro q beyond
    rw [swept.size] at beyond
    have apart : q ∉ closed.map Closed.session := by
      intro ended
      obtain ⟨e, entry, -, owned⟩ := swept.mem.mp ended
      obtain ⟨-, q', t, -, owned', found, -⟩ := intact.session e entry
      obtain rfl := Option.some.inj (owned.symm.trans owned')
      exact absurd (Heap.lt_size found) (by omega)
    rw [kept q apart]
    exact staged.fresh q beyond

/-- A new client begins its handshake. -/
theorem Staged.admit {left : Nat} {source : Endpoint} {created now : Int} {addr : SockaddrIn}
    (staged : Staged s l) (intact : Intact s.registry l) (at_pc : s.pc = .peek left)
    (at_pc' : s'.pc = .engine left client .handshake []) (absent : client ∉ l.map Prod.fst)
    (size : s'.registry.sessions.size = s.registry.sessions.size + 1)
    (log : s'.log = s.log ++ [.created s.registry.sessions.size addr created,
      .called s.registry.sessions.size .handshake]) :
    Staged s' ((client, stamp now (newClient source s.registry.sessions.size created)) :: l) := by
  have other (q : Nat) (apart : q ≠ s.registry.sessions.size) :
      typestate s'.log q = typestate s.log q := by
    rw [log, typestate_silent]
    simp [Event.onSession, apart.symm]
  have own : typestate s'.log s.registry.sessions.size = some (.busy false .handshake) := by
    rw [log, typestate_append, staged.fresh _ (Nat.le_refl _)]
    simp [Event.onSession, Typestate.next, needsEstablished]
  have old (e : Entry) (entry : e ∈ l) (q : Nat) (owned : e.2.dtlsSession = some q) :
      q < s.registry.sessions.size := by
    obtain ⟨-, q', t, -, owned', found, -⟩ := intact.session e entry
    obtain rfl := Option.some.inj (owned.symm.trans owned')
    exact Heap.lt_size found
  constructor
  · intro p d q entry owned
    rcases List.mem_cons.mp entry with head | entry
    · obtain ⟨rfl, rfl⟩ := Prod.mk.inj head
      obtain rfl : s.registry.sessions.size = q := Option.some.inj owned
      rw [own, at_pc']
      exact congrArg some (if_pos rfl).symm
    · have away : ¬client = p := fun same => absent (same ▸ List.mem_map_of_mem entry)
      have before := old _ entry q owned
      rw [other q (by omega), staged.live p d q entry owned, at_pc, at_pc']
      exact congrArg some (if_neg away).symm
  · intro q nobody
    have apart : q ≠ s.registry.sessions.size := by
      rintro rfl
      exact nobody _ List.mem_cons_self rfl
    rw [other q apart]
    exact staged.gone q fun e entry => nobody e (List.mem_cons_of_mem _ entry)
  · intro q beyond
    rw [size] at beyond
    rw [other q (by omega)]
    exact staged.fresh q (by omega)

/-- The explicit `recvfrom` says nothing about the sessions. -/
theorem Consumed.staged {why : Discard} {failed : Bool} (consumed : Consumed s why failed s')
    (staged : Staged s l) : Staged s' l := by
  cases consumed with
  | nothing => exact staged
  | taken d rest =>
    exact staged.still rfl (fun _ => by simp [Event.onSession]) (fun _ _ => rfl) (Nat.le_refl _)

/-- A client whose session may be closed is removed. -/
theorem Staged.remove {closed : Closed} (staged : Staged s l) (intact : Intact s.registry l)
    (removal : Removal s.registry l client s'.registry closed)
    (log : s'.log = s.log ++ closed.events)
    (closes : ∀ flag, (s.pc.typestate client flag).next .closed = some .closed)
    (pcs : ∀ p flag, p ≠ client → s'.pc.typestate p flag = s.pc.typestate p flag) :
    Staged s' (dropClient client l) := by
  obtain ⟨c, member, owns, -⟩ := removal.client
  have episode : Episode s.pc l client closed.session (s.pc.typestate client c.handshakeComplete)
      ([] ++ closed.events) s'.pc (dropClient client l) :=
    .leaves intact member owns removal (fun _ _ => rfl) pcs rfl (closes _)
  exact staged.episode intact member owns log removal.size.symm.le episode

/-- The session whose call returns was ready for it. -/
theorem Staged.ready {left : Nat} {call : Call} {seen : List Seen} {session : Session ρ}
    (staged : Staged s l) (inside : InCall s l left client call seen c sid session) :
    typestate s.log sid = some (.busy c.handshakeComplete call) ∧
      c.handshakeComplete = needsEstablished call := by
  have place : typestate s.log sid = some (.busy c.handshakeComplete call) := by
    rw [staged.live client c sid inside.member inside.owns, inside.at_pc]
    exact congrArg some (if_pos rfl)
  exact ⟨place, (past_of_watch place).ready _ _ rfl⟩

/-- Every move keeps the sessions on the protocol. -/
theorem Move.staged {input : Input ρ} (sound : Sound H s l) (staged : Staged s l)
    (move : Move H s l input s' l') : Staged s' l' := by
  have intact := sound.intact
  cases move with
  | arrive d =>
    exact staged.still rfl (fun _ => by simp [Event.onSession]) (fun _ _ => rfl) (Nat.le_refl _)
  | signal =>
    exact staged.still (List.append_nil _).symm (fun _ => rfl) (fun _ _ => rfl) (Nat.le_refl _)
  | interrupted => exact staged
  | dispatch _ _ _ _ at_pc | leave at_pc | lastEvent at_pc | nextEvent _ at_pc
  | drained _ _ _ _ at_pc | halt _ at_pc =>
    exact staged.still (List.append_nil _).symm (fun _ => rfl) (fun _ _ => by rw [at_pc]; rfl)
      (Nat.le_refl _)
  | sweep nfds now sweepNow outcomes registry closed at_pc _ _ _ swept =>
    exact staged.sweep intact at_pc ⟨nfds, rfl⟩ swept rfl
  | known left add now d rest client c sid registry at_pc _ member _ owns edited sessions =>
    have grown := Nat.le_of_eq (congrArg Heap.size sessions.symm)
    refine staged.episode intact member owns rfl grown ?_
    rw [at_pc]
    refine .stays intact member owns (fun q apart => by simp [Event.onSession, apart.symm])
      (fun _ _ apart => if_neg apart.symm) ?_
    have ready : c.handshakeComplete = needsEstablished (firstCall c) := by
      unfold firstCall
      split
      · rename_i established
        exact established
      · rename_i fresh
        exact Bool.not_eq_true _ ▸ fresh
    simp [Event.onSession, Typestate.next, Pc.typestate, stamp, ← ready]
  | refused left add now d rest registry at_pc _ _ _ _ grown =>
    have silent (q : Nat) : lifeOf [.refused d] q = [] := rfl
    exact staged.still rfl silent (fun _ _ => by rw [at_pc]; rfl) grown
  | admitted left add now d rest client registry at_pc _ _ fresh _ size =>
    exact staged.admit intact at_pc rfl fresh size rfl
  | send left client call seen c sid session bytes outcome inside =>
    have silent (q : Nat) : lifeOf [.sent sid session.clientAddr bytes outcome] q = [] := rfl
    exact staged.still rfl silent (fun _ _ => by rw [inside.at_pc]; rfl) (Nat.le_refl _)
  | recv left client call seen c sid session len timeout select outcome received inside =>
    have silent (q : Nat) : lifeOf (Fate.events sid received.fate) q = [] := by
      cases received.fate <;> rfl
    exact staged.still rfl silent (fun _ _ => by rw [inside.at_pc]; rfl) (Nat.le_refl _)
  | finish left client call seen c sid session ret ssl accepted _ sessions _ _ inside moves edited
      size settled =>
    obtain ⟨_, ready⟩ := staged.ready inside
    have honest (len : Nat) (reads : call = .read len)
        (ok : (callResult session ssl call ret).2.1 = .ok) :
        (callResult session ssl call ret).2.2 ≠ [] := by
      subst reads
      exact List.ne_nil_of_length_pos (readResult_nonempty (Prod.ext ok rfl))
    obtain ⟨events, log, same, episode⟩ := settled.episode edited inside.member inside.owns ready
      inside.at_pc honest
    have whole : s'.log = s.log ++ ((if accepted then [.accepted sid c.lastActivity] else []) ++
        [.returned sid call (callResult session ssl call ret).2.1] ++ events) := by
      rw [log]
      simp only [List.append_assoc]
    refine staged.episode intact inside.member inside.owns whole (size.symm.trans same).le ?_
    rw [inside.at_pc] at episode ⊢
    refine episode.prepend (fun q apart => ?_) ?_
    · cases accepted <;> simp [Event.onSession, apart.symm]
    · cases accepted <;> simp [Event.onSession, Pc.typestate, Typestate.next]
  | consume left why failed outcomes s₁ at_pc consumed =>
    have free : s₁.pc = s.pc := by cases consumed <;> rfl
    exact (consumed.staged staged).still (List.append_nil _).symm (fun _ => rfl)
      (fun _ _ => by rw [free, at_pc]; rfl) (Nat.le_refl _)
  | discard left why client failed outcomes s₁ registry closed at_pc consumed removal =>
    have same := consumed.kept.1
    have free : s₁.pc = .consume left why (some client) := by
      rw [← at_pc]
      cases consumed <;> rfl
    refine (consumed.staged staged).remove (same ▸ intact) (same ▸ removal) rfl ?_ ?_
    · intro flag
      rw [free, Pc.typestate, if_pos rfl]
      rfl
    · intro p flag away
      rw [free]
      exact (if_neg away.symm).symm
  | shutdown outcomes client registry closed at_pc removal =>
    refine staged.remove intact removal rfl ?_ ?_
    · intro flag
      rw [at_pc]
      rfl
    · intro p flag away
      rw [at_pc]

/-- A client's flag says what the flag inside its session says. -/
def Agreeing (s : State ρ) (l : List Entry) : Prop :=
  ∀ client c sid session, (client, c) ∈ l → c.dtlsSession = some sid →
    s.registry.sessions.get? sid = some session →
    session.handshakeComplete = c.handshakeComplete

/-- Every move keeps the two flags the same. -/
theorem Move.agreeing {input : Input ρ} (sound : Sound H s l) (agreeing : Agreeing s l)
    (move : Move H s l input s' l') (sound' : Sound H s' l') (origins : ∀ q session',
      s'.registry.sessions.get? q = some session' → Origin s l H q session' input) :
    Agreeing s' l' := by
  intro client d q session' entry owns live
  obtain ⟨q', session'', owns', live', descent⟩ := move.descent sound sound' origins entry
  obtain rfl := Option.some.inj (owns.symm.trans owns')
  obtain rfl := Option.some.inj (live.symm.trans live')
  cases descent with
  | kept _ c old _ flag owned alive =>
    rw [flag]
    exact agreeing client c q session' old owned alive
  | created _ _ _ before flag => exact before.trans flag.symm
  | returned left call seen c session ret ssl accepted _ inside _ content _ flag =>
    rw [content, callResult_flag, flag,
      agreeing client c q session inside.member inside.owns inside.live]

/-- What the record says of the sessions, and what the registry does. -/
structure FollowsTypestate (s : State ρ) (l : List Entry) : Prop where
  /-- A session is read or written only after its handshake succeeded. -/
  established : ∀ (sid : Nat) (before after : List Event) (call : Call),
    s.log = before ++ .called sid call :: after → call ≠ .handshake →
    .returned sid .handshake .ok ∈ before
  /-- After that there is no other handshake. -/
  once : ∀ (sid : Nat) (before after : List Event),
    s.log = before ++ .called sid .handshake :: after → .returned sid .handshake .ok ∉ before
  /-- The flag of a client is the flag inside its session. -/
  flags : ∀ (client : Nat) (c : Client) (sid : Nat), (client, c) ∈ l →
    c.dtlsSession = some sid → ∃ session, s.registry.sessions.get? sid = some session ∧
      session.handshakeComplete = c.handshakeComplete
  /-- After a failure there is no other call. -/
  last : ∀ (sid : Nat) (before after : List Event) (call : Call) (result : DtlsResult),
    s.log = before ++ .returned sid call result :: after → result ≠ .ok →
    result ≠ .errorWouldBlock → ∀ call', .called sid call' ∉ after
  /-- After a failure the session is closed, destroyed and off the list as soon as the server works
  on no client, as at the head of the drain loop. -/
  retired : ∀ (sid : Nat) (before after : List Event) (call : Call) (result : DtlsResult),
    s.log = before ++ .returned sid call result :: after → result ≠ .ok →
    result ≠ .errorWouldBlock → s.pc.client = none →
    .closed sid ∈ after ∧ .destroyed sid ∈ after ∧
      s.registry.sessions.get? sid = none ∧ ∀ e ∈ l, e.2.dtlsSession ≠ some sid

/-- An event is in a record when what it says of a session is. -/
theorem mem_lifeOf {log : List Event} {sid : Nat} {e : Event} {x : SessionEvent}
    (said : e.onSession sid = some x) (member : e ∈ log) : x ∈ lifeOf log sid :=
  List.mem_filterMap.mpr ⟨e, member, said⟩

/-- What is said of a session was said by an event, which it determines. -/
theorem of_mem_lifeOf {log : List Event} {sid : Nat} {e : Event} {x : SessionEvent}
    (member : x ∈ lifeOf log sid)
    (only : ∀ e', Event.onSession sid e' = some x → e' = e) : e ∈ log := by
  obtain ⟨e', member, said⟩ := List.mem_filterMap.mp member
  exact only e' said ▸ member

/-- Only a return says that a call has returned. -/
theorem only_returned {sid : Nat} {call : Call} {result : DtlsResult} (e : Event)
    (said : e.onSession sid = some (.returned call result)) : e = .returned sid call result := by
  cases e <;> simp_all [Event.onSession]

/-- Only a closing says that a session is closed. -/
theorem only_closed {sid : Nat} (e : Event) (said : e.onSession sid = some .closed) :
    e = .closed sid := by
  cases e <;> simp_all [Event.onSession]

/-- Only a destruction says that a session is destroyed. -/
theorem only_destroyed {sid : Nat} (e : Event) (said : e.onSession sid = some .destroyed) :
    e = .destroyed sid := by
  cases e <;> simp_all [Event.onSession]

/-- Every session is somewhere in its life. -/
theorem Staged.somewhere (staged : Staged s l) (sid : Nat) : ∃ t, typestate s.log sid = some t := by
  by_cases owned : ∃ e ∈ l, e.2.dtlsSession = some sid
  · obtain ⟨⟨p, d⟩, entry, owns⟩ := owned
    exact ⟨_, staged.live p d sid entry owns⟩
  · rcases staged.gone sid fun e entry owns => owned ⟨e, entry, owns⟩ with place | place <;>
      exact ⟨_, place⟩

/-- A record cut at an event that says something of a session. -/
theorem Staged.cut {before after : List Event} {e : Event} {x : SessionEvent}
    (staged : Staged s l) (said : e.onSession sid = some x) (log : s.log = before ++ e :: after) :
    ∃ t₁ t₂ t, watch Typestate.next .absent (lifeOf before sid) = some t₁ ∧
      t₁.next x = some t₂ ∧ watch Typestate.next t₂ (lifeOf after sid) = some t ∧
      typestate s.log sid = some t := by
  obtain ⟨t, place⟩ := staged.somewhere sid
  have accepted := place
  rw [typestate, log, lifeOf_append, lifeOf_cons, said] at accepted
  obtain ⟨t₁, t₂, first, moved, rest⟩ := watch_split accepted
  exact ⟨t₁, t₂, t, first, moved, rest, place⟩

/-- The session of a call is established when the call needs that. -/
theorem Staged.called {before after : List Event} {call : Call} (staged : Staged s l)
    (log : s.log = before ++ .called sid call :: after) :
    needsEstablished call = true ↔ .returned sid .handshake .ok ∈ before := by
  have said : (Event.called sid call).onSession sid = some (.called call) := if_pos rfl
  obtain ⟨t₁, t₂, -, first, moved, -⟩ := staged.cut said log
  cases t₁ with
  | usable established =>
    simp only [Typestate.next] at moved
    split at moved
    · rename_i ready
      rw [← ready, (past_of_watch first).established established rfl]
      exact ⟨fun member => of_mem_lifeOf member only_returned, mem_lifeOf (if_pos rfl)⟩
    · contradiction
  | _ => contradiction

/-- A session whose call has failed only comes to its end after that. -/
theorem Staged.failed {before after : List Event} {call : Call} {result : DtlsResult}
    (staged : Staged s l) (log : s.log = before ++ .returned sid call result :: after)
    (error : result ≠ .ok) (blocked : result ≠ .errorWouldBlock) :
    ∃ t, typestate s.log sid = some t ∧ Retired (lifeOf after sid) t := by
  have said : (Event.returned sid call result).onSession sid = some (.returned call result) :=
    if_pos rfl
  obtain ⟨t₁, t₂, t, -, moved, rest, place⟩ := staged.cut said log
  refine ⟨t, place, retired_of_watch ?_⟩
  cases t₁ with
  | busy established call' =>
    simp only [Typestate.next] at moved
    split at moved
    · rw [afterReturn_failed error blocked] at moved
      rw [Option.some.inj moved]
      exact rest
    · contradiction
  | _ => contradiction

/-- The protocol and the flags give what the record says. -/
theorem Staged.follows (staged : Staged s l) (sound : Sound H s l) (agreeing : Agreeing s l) :
    FollowsTypestate s l where
  established sid before after call log other := by
    refine (staged.called log).mp ?_
    cases call with
    | handshake => contradiction
    | read len | write bytes => rfl
  once sid before after log := (staged.called log).not.mp (by simp [needsEstablished])
  flags client c sid member owns := by
    obtain ⟨-, sid', session, -, owned, live, -⟩ := sound.intact.session _ member
    obtain rfl := Option.some.inj (owns.symm.trans owned)
    exact ⟨session, live, agreeing client c sid session member owns live⟩
  last sid before after call result log error blocked call' again := by
    obtain ⟨t, -, retired⟩ := staged.failed log error blocked
    have said : .called call' ∈ lifeOf after sid :=
      mem_lifeOf (e := .called sid call') (if_pos rfl) again
    cases retired with
    | failed life | closed life | destroyed life => simp [life] at said
  retired sid before after call result log error blocked idle := by
    obtain ⟨t, place, retired⟩ := staged.failed log error blocked
    have off (e : Entry) (entry : e ∈ l) : e.2.dtlsSession ≠ some sid := by
      intro owns
      have usable : s.pc.typestate e.1 e.2.handshakeComplete = .usable e.2.handshakeComplete := by
        cases at_pc : s.pc with
        | consume left why dropped =>
          rw [at_pc] at idle
          obtain rfl : dropped = none := idle
          rfl
        | engine => simp [at_pc, Pc.client] at idle
        | _ => rfl
      have live := staged.live e.1 e.2 sid entry owns
      rw [place, usable] at live
      cases retired <;> simp at live
    have ended : typestate s.log sid = some .destroyed := by
      rcases staged.gone sid off with absent | ended
      · rw [place] at absent
        cases retired <;> simp at absent
      · exact ended
    obtain rfl := Option.some.inj (place.symm.trans ended)
    cases retired with
    | destroyed life =>
      refine ⟨of_mem_lifeOf (by simp [life]) only_closed,
        of_mem_lifeOf (by simp [life]) only_destroyed, ?_, off⟩
      refine Option.eq_none_iff_forall_ne_some.mpr fun session live => ?_
      obtain ⟨e, entry, owns⟩ := sound.intact.owned sid session live
      exact off e entry owns

end Steps

/-- No session has begun its life before the event loop. -/
theorem Starts.staged {H : Host ρ} {s : State ρ} (starts : Starts H s) :
    Staged s [] ∧ Agreeing s [] := by
  obtain ⟨-, buffer, now, -, rfl⟩ := starts
  have nobody (e : Entry) : e ∉ [] := List.not_mem_nil
  have staged : Staged (start buffer now : State ρ) [] :=
    ⟨fun p d _ entry => absurd entry (nobody (p, d)), fun _ _ => .inl rfl, fun _ _ => rfl⟩
  refine ⟨staged, ?_⟩
  exact fun p d _ _ entry => absurd entry (nobody (p, d))

/-- In every state of every run of the server, every session has followed its typestate. -/
theorem session_typestate {H : Host ρ} {s : State ρ} (reached : Reachable H anything s) :
    ∃ l, Sound H s l ∧ FollowsTypestate s l := by
  obtain ⟨l, sound, staged, agreeing⟩ := Reachable.listed_sessions
    (I := fun s l => Staged s l ∧ Agreeing s l) (fun _ starts => starts.staged)
    (fun _ _ _ _ _ sound known _ move sound' origins =>
      ⟨move.staged sound known.1, move.agreeing sound known.2 sound' origins⟩) reached
  exact ⟨l, sound, staged.follows sound agreeing⟩

/-- A handshake succeeds, one message is read and answered, and the next read fails. -/
def readThenFail : List (Input Unit) :=
  [.arrive ⟨⟨1, 1⟩, [1]⟩, .poll (some 1) 0 0 (fun _ => []), .event,
    .peek false (addSucceeds 0 ()) 0, .recv .ready .normal, .finish [], .consume false [],
    .arrive ⟨⟨1, 1⟩, [2]⟩, .peek false (addSucceeds 0 ()) 0, .recv .ready .normal, .finish [],
    .send .sent, .finish [], .arrive ⟨⟨1, 1⟩, [3]⟩, .peek false (addSucceeds 0 ()) 0,
    .recv .ready .failed, .finish [], .consume false []]

/-- After that run the session is gone. -/
theorem session_typestate_readThenFail :
    ∃ s, runGuarded (advance ⟨plain, .little, serverContext, 3⟩) anything startZero
        readThenFail = some s ∧
      lifeOf s.log 0 = [.created, .called .handshake, .returned .handshake .ok,
        .called (.read 4096), .returned (.read 4096) .ok, .called (.write [2]),
        .returned (.write [2]) .ok, .called (.read 4096), .returned (.read 4096) .errorRead,
        .closed, .destroyed] ∧
      ∃ l, Sound ⟨plain, .little, serverContext, 3⟩ s l ∧ FollowsTypestate s l := by
  have ran : ((runGuarded (advance ⟨plain, .little, serverContext, 3⟩) anything startZero
      readThenFail).map fun s => lifeOf s.log 0) = some [.created, .called .handshake,
        .returned .handshake .ok, .called (.read 4096), .returned (.read 4096) .ok,
        .called (.write [2]), .returned (.write [2]) .ok, .called (.read 4096),
        .returned (.read 4096) .errorRead, .closed, .destroyed] := by
    decide +kernel
  obtain ⟨s, executed, life⟩ := Option.map_eq_some_iff.mp ran
  have reached : Reachable ⟨plain, .little, serverContext, 3⟩ anything s :=
    reach_of_runGuarded readThenFail (.start (starts_startZero plain .little 3)) executed
  exact ⟨s, executed, life, session_typestate reached⟩

end SpaceCaptain.Server
