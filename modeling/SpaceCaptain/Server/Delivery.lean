import SpaceCaptain.Server.Integrity

/-!
# No delivery across clients

A session is registered under the address it was created for. Whatever its receive callback
hands to the library comes from datagrams of that address, whatever its packets carry goes to
that address, and a reply is computed from the plaintext that was read from the same session
just before. `Delivery` is the invariant; the two comparisons of addresses, that of
`find_client` and that of `udp_recv`, agree because the kernel reports every source in one
form.
-/
namespace SpaceCaptain.Server

open SpaceCaptain.Dtls SpaceCaptain.Library

variable {ρ : Type}

/-- A session was created for an address. -/
def Named (log : List Event) (sid : Nat) (addr : SockaddrIn) : Prop :=
  ∃ now, Event.created sid addr now ∈ log

/-- A session keeps its address. -/
theorem Named.mono {log events : List Event} {sid : Nat} {addr : SockaddrIn}
    (named : Named log sid addr) : Named (log ++ events) sid addr := by
  obtain ⟨now, member⟩ := named
  exact ⟨now, List.mem_append_left _ member⟩

/-- A session that is created once has one address. -/
theorem Named.unique {log : List Event} (once : (log.filterMap Event.creates).Nodup) {sid : Nat}
    {addr addr' : SockaddrIn} (first : Named log sid addr) (second : Named log sid addr') :
    addr = addr' := by
  obtain ⟨now, first⟩ := first
  obtain ⟨now', second⟩ := second
  induction log with
  | nil => contradiction
  | cons event rest ih =>
    have tail : (rest.filterMap Event.creates).Nodup :=
      once.sublist ((List.sublist_cons_self event rest).filterMap _)
    have again (here : event.creates = some sid) (a : SockaddrIn) (t : Int)
        (later : Event.created sid a t ∈ rest) : False := by
      rw [List.filterMap_cons_some here, List.nodup_cons] at once
      exact once.1 (List.mem_filterMap.mpr ⟨_, later, rfl⟩)
    rcases List.mem_cons.mp first with here | first <;>
      rcases List.mem_cons.mp second with there | second
    · exact (Event.created.inj (here.trans there.symm)).2.1
    · exact (again (here ▸ rfl) _ _ second).elim
    · exact (again (there ▸ rfl) _ _ first).elim
    · exact ih tail first second

/-- The call that an event begins. -/
def Event.begins : Event → Option (Nat × Call)
  | .called session call => some (session, call)
  | _ => none

/-- The latest call. -/
def lastCall (log : List Event) : Option (Nat × Call) := (log.filterMap Event.begins).getLast?

/-- Events that begin no call. -/
theorem lastCall_append {log events : List Event} (silent : events.filterMap Event.begins = []) :
    lastCall (log ++ events) = lastCall log := by
  rw [lastCall, List.filterMap_append, silent, List.append_nil, lastCall]

/-- A call begins. -/
theorem lastCall_called {log events : List Event} {sid : Nat} {call : Call}
    (begun : events.filterMap Event.begins = [(sid, call)]) :
    lastCall (log ++ events) = some (sid, call) := by
  rw [lastCall, List.filterMap_append, begun, List.getLast?_concat]

/-- Every write answers the plaintext that was read from the same session just before. -/
def Answered (e : Endian) (log : List Event) : Prop :=
  ∀ before sid bytes after, log = before ++ .called sid (.write bytes) :: after →
    ∃ earlier len plaintext,
      before = earlier ++ [.returned sid (.read len) .ok, .plaintext sid plaintext] ∧
        bytes = replyTo e plaintext

/-- An event of a longer record is one of the shorter record, or one of those added. -/
theorem split_append {log events before after : List Event} {event : Event}
    (split : log ++ events = before ++ event :: after) :
    (∃ rest, log = before ++ event :: rest) ∨
      ∃ gap, before = log ++ gap ∧ events = gap ++ event :: after := by
  rcases List.append_eq_append_iff.mp split with ⟨gap, head, tail⟩ | ⟨gap, head, tail⟩
  · exact .inr ⟨gap, head, tail⟩
  · cases gap with
    | nil => exact .inr ⟨[], by rw [head, List.append_nil, List.append_nil], tail.symm⟩
    | cons first gap =>
      obtain ⟨rfl, -⟩ := List.cons.inj tail
      exact .inl ⟨gap, head⟩

/-- Events that begin no write. -/
theorem Answered.append {e : Endian} {log events : List Event} (answered : Answered e log)
    (silent : ∀ sid bytes, (sid, Call.write bytes) ∉ events.filterMap Event.begins) :
    Answered e (log ++ events) := by
  intro before sid bytes after split
  rcases split_append split with ⟨rest, old⟩ | ⟨gap, -, new⟩
  · exact answered before sid bytes rest old
  · have member : Event.called sid (.write bytes) ∈ events := by
      rw [new]
      exact List.mem_append_right gap List.mem_cons_self
    exact (silent sid bytes (List.mem_filterMap.mpr ⟨_, member, rfl⟩)).elim

/-- Events that begin no call. -/
theorem Answered.idle {e : Endian} {log events : List Event} (answered : Answered e log)
    (silent : events.filterMap Event.begins = []) : Answered e (log ++ events) :=
  answered.append fun sid bytes member => by rw [silent] at member; contradiction

/-- A reply is written. -/
theorem Answered.reply {e : Endian} {earlier : List Event} {sid len : Nat} {plaintext : Bytes}
    (answered : Answered e (earlier ++ [.returned sid (.read len) .ok])) :
    Answered e (earlier ++ [.returned sid (.read len) .ok] ++
      [.plaintext sid plaintext, .called sid (.write (replyTo e plaintext))]) := by
  intro before sid' bytes after split
  rcases split_append split with ⟨rest, old⟩ | ⟨gap, head, new⟩
  · exact answered before sid' bytes rest old
  · -- The write is the second of the two events that are added.
    cases gap with
    | nil => simp at new
    | cons first gap =>
      rw [List.cons_append] at new
      obtain ⟨rfl, last⟩ := List.cons.inj new
      cases gap with
      | nil =>
        obtain ⟨rfl, written⟩ := Event.called.inj (List.cons.inj last).1
        obtain rfl := Call.write.inj written
        exact ⟨earlier, len, plaintext, by rw [head]; simp, rfl⟩
      | cons second gap => simp at last

/-- The record says that no session had to do with two addresses. -/
structure Delivery (H : Host ρ) (s : State ρ) (l : List Entry) : Prop where
  /-- A client has the address for which its session was created. -/
  listed : ∀ e ∈ l, ∀ sid, e.2.dtlsSession = some sid → Named s.log sid e.2.addr
  /-- A session is handed datagrams of its address. -/
  handed : ∀ sid d, Event.handed sid d ∈ s.log → Named s.log sid d.src.sockaddr
  /-- A session sends to its address. -/
  sent : ∀ sid dest bytes outcome, Event.sent sid dest bytes outcome ∈ s.log →
    Named s.log sid dest
  /-- A call is for the session of the client that the server works on, and gets its bytes from
  datagrams handed to that session. -/
  fed : ∀ left client call seen c sid, s.pc = .engine left client call seen → (client, c) ∈ l →
    c.dtlsSession = some sid → lastCall s.log = some (sid, call) ∧
      ∀ bytes, Seen.received (.ok bytes) ∈ seen →
        ∃ d, Event.handed sid d ∈ s.log ∧ bytes <+: d.bytes
  /-- Every write is a reply. -/
  answered : Answered H.endian s.log

section Invariant

variable {H : Host ρ} {s s' : State ρ} {l l' : List Entry} {events : List Event}

/-- A step adds events of sessions with their addresses. -/
theorem Delivery.extend (delivery : Delivery H s l) (log : s'.log = s.log ++ events)
    (listed : ∀ e ∈ l', ∀ sid, e.2.dtlsSession = some sid → Named s'.log sid e.2.addr)
    (handed : ∀ sid d, Event.handed sid d ∈ events → Named s.log sid d.src.sockaddr)
    (sent : ∀ sid dest bytes outcome, Event.sent sid dest bytes outcome ∈ events →
      Named s.log sid dest)
    (fed : ∀ left client call seen c sid, s'.pc = .engine left client call seen →
      (client, c) ∈ l' → c.dtlsSession = some sid → lastCall s'.log = some (sid, call) ∧
        ∀ bytes, Seen.received (.ok bytes) ∈ seen →
          ∃ d, Event.handed sid d ∈ s'.log ∧ bytes <+: d.bytes)
    (answered : Answered H.endian s'.log) : Delivery H s' l' where
  listed := listed
  handed sid d member := by
    rw [log] at member ⊢
    rcases List.mem_append.mp member with old | new
    · exact (delivery.handed sid d old).mono
    · exact (handed sid d new).mono
  sent sid dest bytes outcome member := by
    rw [log] at member ⊢
    rcases List.mem_append.mp member with old | new
    · exact (delivery.sent sid dest bytes outcome old).mono
    · exact (sent sid dest bytes outcome new).mono
  fed := fed
  answered := answered

/-- Clients with the addresses and sessions of clients of the list keep their addresses. -/
theorem Delivery.keep (delivery : Delivery H s l) (log : s'.log = s.log ++ events)
    (same : ∀ e ∈ l', ∃ d ∈ l, d.2.dtlsSession = e.2.dtlsSession ∧ d.2.addr = e.2.addr) :
    ∀ e ∈ l', ∀ sid, e.2.dtlsSession = some sid → Named s'.log sid e.2.addr := by
  intro e member sid owns
  obtain ⟨d, entry, session, addr⟩ := same e member
  rw [log, ← addr]
  exact (delivery.listed d entry sid (session.trans owns)).mono

/-- A step that hands nothing to the library, sends nothing and begins no call, to a place
outside the library. -/
theorem Delivery.outside (delivery : Delivery H s l) (log : s'.log = s.log ++ events)
    (listed : ∀ e ∈ l', ∀ sid, e.2.dtlsSession = some sid → Named s'.log sid e.2.addr)
    (handed : ∀ sid d, Event.handed sid d ∉ events)
    (sent : ∀ sid dest bytes outcome, Event.sent sid dest bytes outcome ∈ events →
      Named s.log sid dest)
    (called : events.filterMap Event.begins = [])
    (idle : ∀ left client call seen, s'.pc ≠ .engine left client call seen) :
    Delivery H s' l' := by
  refine delivery.extend log listed (fun sid d member => absurd member (handed sid d)) sent ?_ ?_
  · exact fun left client call seen c sid here => absurd here (idle left client call seen)
  · rw [log]
    exact delivery.answered.idle called

/-- A step that leaves the record as it is, to a place outside the library. -/
theorem Delivery.silent (delivery : Delivery H s l) (log : s'.log = s.log)
    (same : ∀ e ∈ l', ∃ d ∈ l, d.2.dtlsSession = e.2.dtlsSession ∧ d.2.addr = e.2.addr)
    (idle : ∀ left client call seen, s'.pc ≠ .engine left client call seen) :
    Delivery H s' l' := by
  have extended : s'.log = s.log ++ [] := log.trans (List.append_nil _).symm
  exact delivery.outside extended (delivery.keep extended same) nofun nofun rfl idle

/-- The ends of some sessions hand over nothing and begin no call, and their packets go where the
sessions send. -/
theorem ends_mem {closed : List Closed} {event : Event}
    (member : event ∈ closed.flatMap Closed.events) :
    ∃ d ∈ closed, (∃ bytes outcome, event = .sent d.session d.dest bytes outcome) ∨
      event = .closed d.session ∨ event = .destroyed d.session := by
  obtain ⟨d, entry, inside⟩ := List.mem_flatMap.mp member
  refine ⟨d, entry, ?_⟩
  rcases List.mem_append.mp inside with sends | ends
  · obtain ⟨packet, -, rfl⟩ := List.mem_map.mp sends
    exact .inl ⟨_, _, rfl⟩
  · rw [List.mem_cons, List.mem_singleton] at ends
    exact .inr ends

/-- Sessions of the list are closed, towards their addresses, and their clients removed. -/
theorem Delivery.release {closed : List Closed} (delivery : Delivery H s l) (sweeps : List Int)
    (log : s'.log = s.log ++ (closed.flatMap Closed.events ++ sweeps.map Event.swept))
    (owned : ∀ d ∈ closed, ∃ e ∈ l, e.2.dtlsSession = some d.session ∧ e.2.addr = d.dest)
    (left : ∀ e ∈ l', e ∈ l)
    (idle : ∀ left client call seen, s'.pc ≠ .engine left client call seen) :
    Delivery H s' l' := by
  refine delivery.outside log (delivery.keep log fun e entry => ⟨e, left e entry, rfl, rfl⟩)
    ?_ ?_ ?_ idle
  · intro sid d member
    rcases List.mem_append.mp member with ends | last
    · obtain ⟨_, _, ⟨_, _, same⟩ | same | same⟩ := ends_mem ends <;> contradiction
    · simp at last
  · intro sid dest bytes outcome member
    rcases List.mem_append.mp member with ends | last
    · obtain ⟨d, entry, ⟨_, _, same⟩ | same | same⟩ := ends_mem ends
      · obtain ⟨rfl, rfl, -⟩ := Event.sent.inj same
        obtain ⟨e, listed, owns, addr⟩ := owned d entry
        rw [← addr]
        exact delivery.listed e listed _ owns
      · contradiction
      · contradiction
    · simp at last
  · rw [List.filterMap_append, ends_filterMap Event.begins (fun _ _ _ _ => rfl),
      List.append_eq_nil_iff]
    exact ⟨List.flatMap_eq_nil_iff.mpr fun _ _ => rfl, by simp [Event.begins]⟩

/-- A client is removed. -/
theorem Delivery.removal {client : Nat} {closed : Closed} (delivery : Delivery H s l)
    (removal : Removal s.registry l client s'.registry closed)
    (log : s'.log = s.log ++ closed.events)
    (idle : ∀ left client call seen, s'.pc ≠ .engine left client call seen) :
    Delivery H s' (dropClient client l) := by
  have ends : s'.log = s.log ++ ([closed].flatMap Closed.events ++ [].map Event.swept) := by
    simpa using log
  refine delivery.release [] ends ?_ (fun e entry => (mem_dropClient.mp entry).1) idle
  intro d member
  obtain rfl := List.mem_singleton.mp member
  obtain ⟨c, entry, owns, dest⟩ := removal.client
  exact ⟨_, entry, owns, dest.symm⟩

/-- Edited clients keep their addresses and sessions. -/
theorem editClient_same {client : Nat} (edit : Client → Client)
    (owns : ∀ c, (edit c).dtlsSession = c.dtlsSession) (addr : ∀ c, (edit c).addr = c.addr) :
    ∀ e ∈ editClient client edit l, ∃ d ∈ l, d.2.dtlsSession = e.2.dtlsSession ∧
      d.2.addr = e.2.addr := by
  intro e member
  obtain ⟨d, entry, rfl⟩ := mem_editClient.mp member
  refine ⟨d, entry, ?_⟩
  split
  · exact ⟨(owns d.2).symm, (addr d.2).symm⟩
  · exact ⟨rfl, rfl⟩

/-- What the server makes of the result of a call keeps the addresses apart. -/
theorem Settled.delivery {left client sid : Nat} {call : Call} {result : DtlsResult}
    {data : Bytes} {c : Client} (delivery : Delivery H s l) (intact : Intact s.registry l)
    (member : (client, c) ∈ l) (owns : c.dtlsSession = some sid) {earlier : List Event}
    (returned : s.log = earlier ++ [.returned sid call result])
    (settled : Settled H s l left client sid call result data s' l') : Delivery H s' l' := by
  have unchanged : ∀ e ∈ l, ∃ d ∈ l, d.2.dtlsSession = e.2.dtlsSession ∧ d.2.addr = e.2.addr :=
    fun e entry => ⟨e, entry, rfl, rfl⟩
  cases settled with
  | completed =>
    exact delivery.silent rfl (editClient_same complete (fun _ => rfl) fun _ => rfl) nofun
  | pending | nothing | written | failed | broken => exact delivery.silent rfl unchanged nofun
  | answered len data buffer nonempty size =>
    refine delivery.extend rfl (delivery.keep rfl unchanged) (by simp) (by simp) ?_ ?_
    · intro left' client' call seen c' sid' here member' owns'
      obtain ⟨rfl, rfl, rfl, rfl⟩ := Pc.engine.inj here
      obtain rfl := intact.same member member'
      obtain rfl := Option.some.inj (owns.symm.trans owns')
      exact ⟨lastCall_called rfl, nofun⟩
    · have before := delivery.answered
      change Answered H.endian (s.log ++ _)
      rw [returned] at before ⊢
      exact before.reply
  | peerClosed _ _ _ _ removal => exact delivery.removal removal rfl nofun
  | unwritten _ _ _ _ _ _ _ removal => exact delivery.removal removal rfl nofun

/-- A step that hands nothing to the library, sends nothing and begins no call, and leaves the
server where it is. -/
theorem Delivery.still (delivery : Delivery H s l) (log : s'.log = s.log ++ events)
    (pc : s'.pc = s.pc) (handed : ∀ sid d, Event.handed sid d ∉ events)
    (sent : ∀ sid dest bytes outcome, Event.sent sid dest bytes outcome ∉ events)
    (called : events.filterMap Event.begins = []) : Delivery H s' l := by
  refine delivery.extend log (delivery.keep log fun e entry => ⟨e, entry, rfl, rfl⟩)
    (fun sid d member => absurd member (handed sid d))
    (fun sid dest bytes outcome member => absurd member (sent sid dest bytes outcome)) ?_ ?_
  · intro left client call seen c sid here member owns
    obtain ⟨latest, fed⟩ := delivery.fed left client call seen c sid (pc ▸ here) member owns
    rw [log, lastCall_append called]
    refine ⟨latest, fun bytes received => ?_⟩
    obtain ⟨d, given, part⟩ := fed bytes received
    exact ⟨d, List.mem_append_left _ given, part⟩
  · rw [log]
    exact delivery.answered.idle called

/-- The explicit `recvfrom` keeps the addresses apart. -/
theorem Consumed.delivery {why : Discard} {failed : Bool} (delivery : Delivery H s l)
    (consumed : Consumed s why failed s') : Delivery H s' l := by
  cases consumed with
  | nothing => exact delivery
  | taken d rest => exact delivery.still rfl rfl (by simp) (by simp) rfl

/-- A sweep closes sessions of the list, towards their addresses. -/
theorem Swept.closed_mem {r r' : Registry ρ} {now : Int} {closed : List Closed}
    (swept : Swept r r' now l closed) {d : Closed} (member : d ∈ closed) :
    ∃ e ∈ l, e.2.dtlsSession = some d.session ∧ e.2.addr = d.dest := by
  have listed : (some d.session, d.dest) ∈ closed.map fun d => (some d.session, d.dest) :=
    List.mem_map_of_mem member
  rw [swept.sessions] at listed
  obtain ⟨e, entry, same⟩ := List.mem_map.mp listed
  obtain ⟨owns, addr⟩ := Prod.mk.inj same
  exact ⟨e, (List.mem_filter.mp entry).1, owns, addr⟩

/-- One more answer of a callback, in a call for the session of a client of the list. -/
theorem Delivery.inside {left client sid : Nat} {call : Call} {seen : List Seen} {c : Client}
    {session : Session ρ} (delivery : Delivery H s l) (intact : Intact s.registry l)
    (inside : InCall s l left client call seen c sid session) {answer : Seen}
    (log : s'.log = s.log ++ events) (pc : s'.pc = .engine left client call (seen ++ [answer]))
    (handed : ∀ sid' d, Event.handed sid' d ∈ events → sid' = sid ∧ d.src.sockaddr = c.addr)
    (sent : ∀ sid' dest bytes outcome, Event.sent sid' dest bytes outcome ∈ events →
      sid' = sid ∧ dest = c.addr)
    (called : events.filterMap Event.begins = [])
    (fed : ∀ bytes, answer = .received (.ok bytes) →
      ∃ d, Event.handed sid d ∈ events ∧ bytes <+: d.bytes) : Delivery H s' l := by
  have named : Named s.log sid c.addr := delivery.listed _ inside.member sid inside.owns
  refine delivery.extend log (delivery.keep log fun e entry => ⟨e, entry, rfl, rfl⟩) ?_ ?_ ?_ ?_
  · intro sid' d member
    obtain ⟨rfl, addr⟩ := handed sid' d member
    rw [addr]
    exact named
  · intro sid' dest bytes outcome member
    obtain ⟨rfl, rfl⟩ := sent sid' dest bytes outcome member
    exact named
  · intro left' client' call' seen' c' sid' here member owns
    rw [pc] at here
    obtain ⟨rfl, rfl, rfl, rfl⟩ := Pc.engine.inj here
    obtain rfl := intact.same inside.member member
    obtain rfl := Option.some.inj (inside.owns.symm.trans owns)
    obtain ⟨latest, before⟩ :=
      delivery.fed _ _ _ _ _ _ inside.at_pc inside.member inside.owns
    rw [log, lastCall_append called]
    refine ⟨latest, fun bytes received => ?_⟩
    rcases List.mem_append.mp received with old | new
    · obtain ⟨d, given, part⟩ := before bytes old
      exact ⟨d, List.mem_append_left _ given, part⟩
    · obtain ⟨d, given, part⟩ := fed bytes (List.mem_singleton.mp new).symm
      exact ⟨d, List.mem_append_right _ given, part⟩
  · rw [log]
    exact delivery.answered.idle called

/-- Every move keeps the addresses apart. -/
theorem Move.delivery {input : Input ρ} (sound : Sound H s l) (delivery : Delivery H s l)
    (move : Move H s l input s' l') : Delivery H s' l' := by
  have intact := sound.intact
  have unchanged : ∀ e ∈ l, ∃ d ∈ l, d.2.dtlsSession = e.2.dtlsSession ∧ d.2.addr = e.2.addr :=
    fun e entry => ⟨e, entry, rfl, rfl⟩
  cases move with
  | arrive d => exact delivery.still rfl rfl (by simp) (by simp) rfl
  | signal => exact delivery.still (List.append_nil _).symm rfl nofun nofun rfl
  | interrupted => exact delivery
  | dispatch | leave | lastEvent | nextEvent | drained | halt =>
    exact delivery.silent rfl unchanged nofun
  | sweep nfds now sweepNow outcomes registry closed _ _ _ _ swept =>
    exact delivery.release [sweepNow] (List.append_assoc _ _ _)
      (fun d member => swept.closed_mem member) (fun e entry => (List.mem_filter.mp entry).1) nofun
  | known left add now d rest client c sid registry _ _ member _ owns edited =>
    refine delivery.extend rfl (delivery.keep rfl (editClient_same (stamp now) (fun _ => rfl)
      fun _ => rfl)) (by simp) (by simp) ?_ (delivery.answered.append ?_)
    · intro left' client' call seen c' sid' here member' owns'
      obtain ⟨rfl, rfl, rfl, rfl⟩ := Pc.engine.inj here
      have entry : (client, stamp now c) ∈ editClient client (stamp now) l :=
        mem_editClient.mpr ⟨_, member, by simp⟩
      obtain rfl := edited.same entry member'
      obtain rfl := Option.some.inj (owns.symm.trans owns')
      exact ⟨lastCall_called rfl, nofun⟩
    · intro sid' bytes member'
      have same := (Prod.mk.inj (List.mem_singleton.mp member')).2
      unfold firstCall at same
      split at same <;> contradiction
  | refused left add now d rest registry =>
    exact delivery.outside rfl (delivery.keep rfl unchanged) (by simp) (by simp) rfl nofun
  | admitted left add now d rest client registry _ _ _ _ grown =>
    refine delivery.extend rfl ?_ (by simp) (by simp) ?_ (delivery.answered.append ?_)
    · intro e member sid owns
      rcases List.mem_cons.mp member with rfl | member
      · obtain rfl := Option.some.inj owns
        exact ⟨add.now, List.mem_append_right _ List.mem_cons_self⟩
      · exact delivery.keep rfl unchanged e member sid owns
    · intro left' client' call seen c' sid' here member' owns'
      obtain ⟨rfl, rfl, rfl, rfl⟩ := Pc.engine.inj here
      obtain rfl := grown.same List.mem_cons_self member'
      obtain rfl := Option.some.inj owns'
      exact ⟨lastCall_called rfl, nofun⟩
    · intro sid' bytes member'
      have same := (Prod.mk.inj (List.mem_singleton.mp member')).2
      contradiction
  | send left client call seen c sid session bytes outcome inside =>
    refine delivery.inside intact inside rfl rfl (by simp) ?_ rfl nofun
    intro sid' dest bytes' outcome' member
    obtain ⟨rfl, rfl, -⟩ := Event.sent.inj (List.mem_singleton.mp member)
    exact ⟨rfl, inside.peer⟩
  | recv left client call seen c sid session len timeout select outcome received inside moves
      answer =>
    have answers := answer ▸ udpRecvTimeout_answer session len select outcome s.sock
    cases answers with
    | code code => exact delivery.inside intact inside rfl rfl nofun nofun rfl nofun
    | ignored d rest =>
      exact delivery.inside intact inside rfl rfl (by simp [Fate.events])
        (by simp [Fate.events]) rfl nofun
    | handed d rest at_sock peer =>
      refine delivery.inside intact inside rfl rfl ?_ (by simp [Fate.events]) rfl ?_
      · intro sid' d' member
        obtain ⟨rfl, rfl⟩ := Event.handed.inj (List.mem_singleton.mp member)
        exact ⟨rfl, (peer inside.role).trans inside.peer⟩
      · intro bytes given
        obtain rfl := Except.ok.inj (Seen.received.inj given)
        exact ⟨d, List.mem_singleton_self _, List.take_prefix _ _⟩
  | finish left client call seen c sid session ret ssl accepted _ sessions _ _ inside moves stored
      size settled =>
    refine settled.delivery ?_ stored inside.member inside.owns rfl
    refine delivery.still (List.append_assoc _ _ _) rfl ?_ ?_ ?_
    · cases accepted <;> simp
    · cases accepted <;> simp
    · cases accepted <;> rfl
  | consume left why failed outcomes s₁ at_pc consumed =>
    exact (consumed.delivery delivery).silent rfl unchanged nofun
  | discard left why client failed outcomes s₁ registry closed at_pc consumed removal =>
    exact (consumed.delivery delivery).removal (consumed.kept.1 ▸ removal) rfl nofun
  | shutdown outcomes client registry closed _ removal =>
    exact delivery.removal removal rfl nofun

/-- At first nothing has been delivered. -/
theorem Starts.delivery (starts : Starts H s) : Delivery H s [] := by
  obtain ⟨-, buffer, now, -, rfl⟩ := starts
  exact ⟨nofun, nofun, nofun, nofun, fun before sid bytes after split => by simp [start] at split⟩

end Invariant

/-- What one client sends never reaches another. -/
structure Separate (H : Host ρ) (s : State ρ) : Prop where
  /-- A session is created for one address. -/
  created : ∀ sid addr addr', Named s.log sid addr → Named s.log sid addr' → addr = addr'
  /-- Until it is destroyed, `find_client` returns the client of the session for that address. -/
  registered : ∀ sid addr, Named s.log sid addr → Event.destroyed sid ∉ s.log →
    ∃ client c, findClient s.registry addr = .ok (some client) ∧
      s.registry.clients.get? client = some c ∧ c.dtlsSession = some sid
  /-- The receive callback of a session hands over datagrams from that address only. -/
  handed : ∀ sid d, Event.handed sid d ∈ s.log → Named s.log sid d.src.sockaddr
  /-- Every byte that a call got so far is from a datagram handed to its session. -/
  fed : ∀ left client call seen, s.pc = .engine left client call seen →
    ∃ c sid, s.registry.clients.get? client = some c ∧ c.dtlsSession = some sid ∧
      lastCall s.log = some (sid, call) ∧
      ∀ bytes, Seen.received (.ok bytes) ∈ seen →
        ∃ d, Event.handed sid d ∈ s.log ∧ bytes <+: d.bytes
  /-- Every write on a session answers the plaintext that was read from the same session just
  before. -/
  answered : Answered H.endian s.log
  /-- Every packet of a session is sent to its address. -/
  sent : ∀ sid dest bytes outcome, Event.sent sid dest bytes outcome ∈ s.log →
    Named s.log sid dest

/-- A session that was created and not destroyed belongs to a client of the list, under the
address it was created for. -/
theorem Delivery.registered {H : Host ρ} {s : State ρ} {l : List Entry} (delivery : Delivery H s l)
    (ledger : Ledger s l) {sid : Nat} {addr : SockaddrIn} (named : Named s.log sid addr)
    (alive : Event.destroyed sid ∉ s.log) :
    ∃ e ∈ l, e.2.dtlsSession = some sid ∧ e.2.addr = addr := by
  have made : sid ∈ s.log.filterMap Event.creates := by
    obtain ⟨now, member⟩ := named
    exact List.mem_filterMap.mpr ⟨_, member, rfl⟩
  have kept : sid ∉ s.log.filterMap Event.destroys := by
    intro gone
    obtain ⟨event, entry, destroys⟩ := List.mem_filterMap.mp gone
    cases event with
    | destroyed session => exact alive (Option.some.inj destroys ▸ entry)
    | _ => contradiction
  have once := ledger.lifetime.held_once made kept
  have held : sid ∈ sessionsOf l := List.count_pos_iff.mp (by omega)
  obtain ⟨e, entry, owns⟩ := List.mem_filterMap.mp held
  have address := delivery.listed e entry sid owns
  exact ⟨e, entry, owns, address.unique ledger.lifetime.unique named⟩

/-- Whatever arrives from whomever, and whatever the library does between two callbacks, nothing
is delivered across clients. -/
theorem no_cross_delivery {H : Host ρ} {s : State ρ} (reached : Reachable H anything s) :
    Separate H s := by
  obtain ⟨l, sound, ledger, delivery⟩ := Reachable.listed
    (I := fun s l => Ledger s l ∧ Delivery H s l)
    (fun _ starts => ⟨starts.ledger, starts.delivery⟩)
    (fun _ _ _ _ _ sound before _ move =>
      ⟨move.ledger sound before.1, move.delivery sound before.2⟩) reached
  refine {
    created := fun sid addr addr' first second => first.unique ledger.lifetime.unique second
    registered := ?_
    handed := delivery.handed
    fed := ?_
    answered := delivery.answered
    sent := delivery.sent }
  · intro sid addr named alive
    obtain ⟨e, entry, owns, rfl⟩ := delivery.registered ledger named alive
    obtain ⟨n, live, fields⟩ := sound.intact.node entry
    exact ⟨e.1, n, findClient_some sound.intact entry, live, by rw [fields, owns]⟩
  · intro left client call seen at_pc
    obtain ⟨c, sid, session, inside⟩ := sound.inCall at_pc
    obtain ⟨n, live, fields⟩ := sound.intact.node inside.member
    obtain ⟨latest, fed⟩ := delivery.fed left client call seen c sid at_pc inside.member inside.owns
    exact ⟨n, sid, live, by rw [fields, inside.owns], latest, fed⟩

/-- Two clients finish their handshakes, and then each sends data and is answered. -/
def twoClients : List (Input Unit) :=
  [.arrive ⟨⟨1, 1⟩, [1]⟩, .poll (some 1) 0 0 (fun _ => []), .event,
    .peek false (addSucceeds 0 ()) 0, .recv .ready .normal, .finish [], .consume false [],
    .arrive ⟨⟨2, 2⟩, [2]⟩,
    .peek false (addSucceeds 0 ()) 0, .recv .ready .normal, .finish [], .consume false [],
    .arrive ⟨⟨1, 1⟩, [104, 105]⟩, .arrive ⟨⟨2, 2⟩, [121, 111]⟩,
    .peek false (addSucceeds 0 ()) 0, .recv .ready .normal, .finish [], .send .sent, .finish [],
    .peek false (addSucceeds 0 ()) 0, .recv .ready .normal, .finish [], .send .sent, .finish []]

/-- After that run the second client's bytes went back to the second client. -/
theorem no_cross_delivery_twoClients :
    ∃ s, runGuarded (advance ⟨plain, .little, serverContext, 3⟩) anything startZero
        twoClients = some s ∧
      lastCall s.log = some (1, .write [121, 111]) ∧
      Separate ⟨plain, .little, serverContext, 3⟩ s := by
  have ran : ((runGuarded (advance ⟨plain, .little, serverContext, 3⟩) anything startZero
      twoClients).map fun s => lastCall s.log) = some (some (1, .write [121, 111])) := by
    decide +kernel
  obtain ⟨s, executed, last⟩ := Option.map_eq_some_iff.mp ran
  exact ⟨s, executed, last, no_cross_delivery
    (reach_of_runGuarded twoClients (.start (starts_startZero plain .little 3)) executed)⟩

end SpaceCaptain.Server
