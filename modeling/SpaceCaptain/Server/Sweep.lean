import SpaceCaptain.Server.Registry

/-!
# Removing clients from a linked list

`Linked` is all that the removal of clients needs of the memory: the nodes from `g_clients` on
carry a list, and the DTLS sessions they own are alive and not shared. `remove_client` walks the
list a second time through a pointer to a link, and `check_client_timeouts` calls it while it
walks the list itself. On a linked list neither touches freed memory; the one takes out its node
and the other every expired node, and nothing else changes.
-/
namespace SpaceCaptain.Server

open SpaceCaptain.Dtls SpaceCaptain.Library

variable {ρ : Type}

/-- A client with the address of its node. -/
abbrev Entry := Nat × Client

/-- The link through which the chain leaves a list of nodes that starts at `pp`. -/
def lastLink (pp : Link) (front : List Entry) : Link := front.foldl (fun _ e => .next e.1) pp

/-- The loop of `remove_client` stops at the link to its node. -/
theorem unlinkLoop_segment {r : Registry ρ} {client : Nat} {head : Option Nat}
    {front : List Entry} {pp : Link} {fuel : Nat}
    (segment : Segment ClientSession.toClient ClientSession.next r.clients.get? head front
      (some client))
    (start : r.deref pp = .ok head) (absent : client ∉ front.map Prod.fst)
    (enough : front.length < fuel) : unlinkLoop r client fuel pp = .ok (lastLink pp front) := by
  induction front generalizing head pp fuel with
  | nil =>
    obtain rfl : head = some client := segment
    cases fuel with
    | zero => simp at enough
    | succ fuel => simp [unlinkLoop, start, lastLink]
  | cons e rest ih =>
    obtain ⟨rfl, n, found, -, later⟩ := segment
    rw [List.map_cons, List.mem_cons, not_or] at absent
    cases fuel with
    | zero => simp at enough
    | succ fuel =>
      have onward : r.deref (.next e.1) = .ok n.next := by
        simp only [Registry.deref, Heap.load_ok found, ok_bind, pure_ok]
      simp only [unlinkLoop, start, ok_bind, if_neg (Ne.symm absent.1)]
      exact ih later onward absent.2 (by simpa using enough)

/-- Redirecting the link to a node takes the node out of the chain and writes no node but one in
front of it. -/
theorem unlink_chain {r : Registry ρ} {client : Nat} {n : ClientSession} {front back : List Entry}
    (chain : Chain ClientSession.toClient ClientSession.next r.clients.get? r.gClients
      (front ++ (client, n.toClient) :: back))
    (found : r.clients.get? client = some n) :
    r.deref (lastLink .head front) = .ok (some client) ∧
      ∃ r', r.assign (lastLink .head front) n.next = .ok r' ∧
        Chain ClientSession.toClient ClientSession.next r'.clients.get? r'.gClients
          (front ++ back) ∧
        r'.clients.get? client = some n ∧ r'.sessions = r.sessions ∧
        r'.clients.size = r.clients.size ∧
        ∀ q, q ∉ front.map Prod.fst → r'.clients.get? q = r.clients.get? q := by
  have nodup := chain.nodup
  obtain ⟨middle, first, start, m, here, -, later⟩ := segment_append.mp chain
  subst start
  rw [found] at here
  obtain rfl := Option.some.inj here
  rcases List.eq_nil_or_concat front with rfl | ⟨before, e, rfl⟩
  · have start : r.gClients = some client := first
    refine ⟨by simp only [lastLink, List.foldl_nil, Registry.deref, start],
      { r with gClients := n.next }, rfl, later, found, rfl, rfl, fun q _ => rfl⟩
  · -- The link lies in the node before.
    obtain ⟨p, d⟩ := e
    simp only [List.concat_eq_append] at *
    obtain ⟨link, -, at_link, k, previous, fields, next⟩ := segment_append.mp first
    have place : lastLink .head (before ++ [(p, d)]) = .next p := by simp [lastLink]
    simp only [List.map_append, List.map_cons, List.map_nil, List.nodup_append, List.nodup_cons,
      List.mem_append, List.mem_cons] at nodup
    have apart : client ≠ p := fun same => nodup.2.2 p (.inr (.inl rfl)) client (.inl rfl) same.symm
    have fresh : p ∉ before.map Prod.fst := fun again => nodup.1.2.2 p again p (.inl rfl) rfl
    have behind : p ∉ back.map Prod.fst := fun again =>
      nodup.2.2 p (.inr (.inl rfl)) p (.inr again) rfl
    obtain ⟨clients, stored, size, cells⟩ := Heap.store_ok ⟨k.toClient, n.next⟩ previous
    have others (q : Nat) (other : q ≠ p) : clients.get? q = r.clients.get? q :=
      (cells q).trans (if_neg other)
    rw [place]
    refine ⟨?_, { r with clients }, ?_, ?_, ?_, rfl, size, ?_⟩
    · have target : k.next = some client := next
      simp only [Registry.deref, Heap.load_ok previous, ok_bind, pure_ok, target]
    · simp only [Registry.assign, Heap.load_ok previous, ok_bind, pure_ok, stored]
    · have written : clients.get? p = some ⟨k.toClient, n.next⟩ := (cells p).trans (if_pos rfl)
      have content : ClientSession.toClient ⟨k.toClient, n.next⟩ = d := fields
      refine segment_append.mpr ⟨n.next, first.redirect fresh content rfl written others, ?_⟩
      refine later.frame fun q member => others q ?_
      rintro rfl
      exact behind member
    · exact (others client apart).trans found
    · intro q away
      refine others q ?_
      rintro rfl
      exact away (by simp)

/-- The list without one client. -/
def dropClient (client : Nat) (l : List Entry) : List Entry := l.filter fun e => e.1 ≠ client

/-- Dropping the client in the middle of a list without repetition. -/
theorem drop_middle {client : Nat} {c : Client} {front back : List Entry}
    (nodup : ((front ++ (client, c) :: back).map Prod.fst).Nodup) :
    client ∉ front.map Prod.fst ∧
      dropClient client (front ++ (client, c) :: back) = front ++ back := by
  simp only [List.map_append, List.map_cons, List.nodup_append, List.nodup_cons,
    List.mem_cons] at nodup
  have absent : client ∉ front.map Prod.fst := fun again =>
    nodup.2.2 client again client (.inl rfl) rfl
  have keep (part : List Entry) (apart : client ∉ part.map Prod.fst) :
      part.filter (fun e => e.1 ≠ client) = part := by
    refine List.filter_eq_self.mpr fun e entry => ?_
    simp only [ne_eq, decide_eq_true_eq]
    rintro rfl
    exact apart (List.mem_map_of_mem entry)
  refine ⟨absent, ?_⟩
  rw [dropClient, List.filter_append, List.filter_cons_of_neg (by simp), keep front absent,
    keep back nodup.2.1.1]

/-- The clients that remain. -/
theorem mem_dropClient {client : Nat} {l : List Entry} {e : Entry} :
    e ∈ dropClient client l ↔ e ∈ l ∧ e.1 ≠ client := by
  simp [dropClient]

/-- The other clients of a list that one client has left. -/
theorem dropClient_rest {l : List Entry} {client p : Nat} (away : p ≠ client) (d : Client) :
    (p, d) ∈ dropClient client l ↔ (p, d) ∈ l := by
  simp [mem_dropClient, away]

/-- The memory carries a list of clients, whose DTLS sessions are alive and not shared. -/
structure Linked (r : Registry ρ) (l : List Entry) : Prop where
  /-- Following `next` from `g_clients` visits the clients in order and ends. -/
  chain : Chain ClientSession.toClient ClientSession.next r.clients.get? r.gClients l
  /-- A client that has a session has a live one. -/
  session : ∀ e ∈ l, ∀ sid, e.2.dtlsSession = some sid → ∃ s, r.sessions.get? sid = some s
  /-- No two clients have the same session. -/
  apart : l.Pairwise fun d e => ∀ sid, d.2.dtlsSession = some sid → e.2.dtlsSession ≠ some sid

/-- What `remove_client` closes and destroys: the session of the client, if it has one. -/
def closing (E : Engine ρ) (r : Registry ρ) (outcomes : List SendOutcome) (c : Client) :
    Option Closed :=
  c.dtlsSession.bind fun sid => (r.sessions.get? sid).map fun s =>
    ⟨sid, s.clientAddr,
      (E.close s.ssl outcomes).mapIdx fun i bytes => (bytes, outcomes.getD i .sent)⟩

/-- What the removal of one client does to the memory. -/
structure Removed (r r' : Registry ρ) (l : List Entry) (client : Nat) (c : Client) : Prop where
  /-- The other clients are linked as before. -/
  linked : Linked r' (dropClient client l)
  /-- The node was freed. -/
  freed : r'.clients.get? client = none
  /-- The nodes outside the list are as they were. -/
  outside : ∀ q, q ∉ l.map Prod.fst → r'.clients.get? q = r.clients.get? q
  /-- The session was destroyed. -/
  destroyed : ∀ sid, c.dtlsSession = some sid → r'.sessions.get? sid = none
  /-- The other sessions are as they were. -/
  sessions : ∀ sid, c.dtlsSession ≠ some sid → r'.sessions.get? sid = r.sessions.get? sid
  /-- No node was allocated. -/
  clients_size : r'.clients.size = r.clients.size
  /-- No session was created. -/
  sessions_size : r'.sessions.size = r.sessions.size

/-- Clients of a linked list with one session are the same. -/
theorem Linked.of_session {r : Registry ρ} {l : List Entry} (linked : Linked r l) {d e : Entry}
    {sid : Nat} (first : d ∈ l) (second : e ∈ l) (mine : d.2.dtlsSession = some sid)
    (yours : e.2.dtlsSession = some sid) : d = e := by
  by_contra differ
  have symmetric : Std.Symm fun d e : Entry =>
      ∀ sid, d.2.dtlsSession = some sid → e.2.dtlsSession ≠ some sid :=
    ⟨fun d e apart sid mine yours => apart sid yours mine⟩
  exact linked.apart.forall first second differ sid mine yours

/-- Without one client's node and session the memory carries the other clients. -/
theorem drop_linked {r r' : Registry ρ} {l : List Entry} {client : Nat} {c : Client}
    (linked : Linked r l) (member : (client, c) ∈ l)
    (chain : Chain ClientSession.toClient ClientSession.next r'.clients.get? r'.gClients
      (dropClient client l))
    (sessions : ∀ sid, c.dtlsSession ≠ some sid → r'.sessions.get? sid = r.sessions.get? sid) :
    Linked r' (dropClient client l) where
  chain := chain
  session e entry sid owns := by
    obtain ⟨entry, other⟩ := mem_dropClient.mp entry
    rw [sessions sid fun mine =>
      other (congrArg Prod.fst (linked.of_session entry member owns mine))]
    exact linked.session e entry sid owns
  apart := linked.apart.sublist List.filter_sublist

/-- `remove_client` of a client of a linked list succeeds: it takes out and frees that node, and
closes and destroys its session. -/
theorem removeClient_linked {r : Registry ρ} {l : List Entry} {client : Nat} {c : Client}
    (E : Engine ρ) (linked : Linked r l) (member : (client, c) ∈ l)
    (outcomes : List SendOutcome) :
    ∃ r', removeClient E r client outcomes = .ok (r', closing E r outcomes c) ∧
      Removed r r' l client c := by
  obtain ⟨n, found, rfl⟩ := Segment.node linked.chain member
  obtain ⟨front, back, split⟩ := List.append_of_mem member
  obtain ⟨absent, remaining⟩ := drop_middle (split ▸ linked.chain.nodup)
  rw [← split] at remaining
  have whole := split ▸ linked.chain
  -- The loop finds the link, and the link is redirected.
  obtain ⟨middle, first, start, -⟩ := segment_append.mp whole
  subst start
  have short : front.length < r.clients.size + 1 := by
    have bounded := linked.chain.length_le fun _ _ live => Heap.lt_size live
    rw [split, List.length_append, List.length_cons] at bounded
    omega
  have walked : unlinkLoop r client (r.clients.size + 1) .head = .ok (lastLink .head front) :=
    unlinkLoop_segment first rfl absent short
  obtain ⟨target, r₁, assigned, chain, still, same, size, others⟩ := unlink_chain whole found
  -- The node is freed, whether or not there is a session to destroy.
  obtain ⟨clients, freed, kept, cells⟩ := Heap.free_ok still
  have later : Chain ClientSession.toClient ClientSession.next clients.get? r₁.gClients
      (dropClient client l) := by
    rw [remaining]
    refine chain.frame fun q entry => (cells q).trans (if_neg ?_)
    rintro rfl
    obtain ⟨e, entry, here⟩ := List.mem_map.mp entry
    exact (mem_dropClient.mp (remaining ▸ entry)).2 here
  have outside (q : Nat) (away : q ∉ l.map Prod.fst) : clients.get? q = r.clients.get? q := by
    rw [split, List.map_append, List.mem_append, List.map_cons, List.mem_cons] at away
    rw [cells, if_neg fun here => away (.inr (.inl here)), others q fun here => away (.inl here)]
  cases owns : n.dtlsSession with
  | none =>
    refine ⟨{ r₁ with clients }, ?_, ?_⟩
    · simp only [removeClient, Heap.load_ok found, ok_bind, walked, target, assigned,
        Heap.load_ok still, owns, freed, pure_ok, closing, Option.bind_none]
    · have untouched (sid : Nat) : r₁.sessions.get? sid = r.sessions.get? sid := by rw [same]
      refine ⟨drop_linked linked member later fun sid _ => untouched sid,
        (cells client).trans (if_pos rfl), outside, fun sid mine => ?_, fun sid _ => untouched sid,
        kept.trans size, congrArg Heap.size same⟩
      rw [owns] at mine
      contradiction
  | some sid =>
    obtain ⟨session, live⟩ := linked.session _ member sid owns
    have open_session : r₁.sessions.get? sid = some session := by rw [same, live]
    obtain ⟨sessions, dropped, many, sessionCells⟩ := Heap.free_ok open_session
    have destroyed (q : Nat) : sessions.get? q = if q = sid then none else r.sessions.get? q := by
      rw [sessionCells, same]
    have rest (q : Nat) (other : n.dtlsSession ≠ some q) :
        sessions.get? q = r.sessions.get? q := by
      rw [destroyed, if_neg]
      rintro rfl
      exact other owns
    refine ⟨{ r₁ with clients, sessions }, ?_, ?_⟩
    · simp only [removeClient, Heap.load_ok found, ok_bind, walked, target, assigned,
        Heap.load_ok still, owns, Heap.load_ok open_session, dropped, freed, pure_ok, closing,
        Option.bind_some, live, Option.map_some]
    · refine ⟨drop_linked linked member later rest, (cells client).trans (if_pos rfl), outside,
        fun q mine => ?_, rest, kept.trans size, many.trans (congrArg Heap.size same)⟩
      have here : sid = q := Option.some.inj (owns.symm.trans mine)
      exact (destroyed q).trans (if_pos here.symm)

/-- The test of `check_client_timeouts`. -/
def expired (now : Int) (e : Entry) : Bool := clientTimeoutSeconds < now - e.2.lastActivity

/-- What a sweep closes and destroys: the sessions of the expired clients, in list order. -/
def closings (E : Engine ρ) (r : Registry ρ) (now : Int) (outcomes : Nat → List SendOutcome)
    (l : List Entry) : List Closed :=
  (l.filter (expired now)).filterMap fun e => closing E r (outcomes e.1) e.2

/-- What a sweep over the rest of a list does to the memory. -/
structure Filtered (r r' : Registry ρ) (now : Int) (kept rest : List Entry) : Prop where
  /-- The clients that are not expired are linked, in order and with their fields as before. -/
  linked : Linked r' (kept ++ rest.filter fun e => !expired now e)
  /-- The nodes of the expired ones were freed. -/
  freed : ∀ e ∈ rest, expired now e = true → r'.clients.get? e.1 = none
  /-- The nodes outside the list are as they were. -/
  outside : ∀ q, q ∉ (kept ++ rest).map Prod.fst → r'.clients.get? q = r.clients.get? q
  /-- The sessions of the expired ones were destroyed. -/
  destroyed : ∀ e ∈ rest, expired now e = true → ∀ sid, e.2.dtlsSession = some sid →
    r'.sessions.get? sid = none
  /-- The other sessions are as they were. -/
  sessions : ∀ sid, (∀ e ∈ rest, expired now e = true → e.2.dtlsSession ≠ some sid) →
    r'.sessions.get? sid = r.sessions.get? sid
  /-- No node was allocated. -/
  clients_size : r'.clients.size = r.clients.size
  /-- No session was created. -/
  sessions_size : r'.sessions.size = r.sessions.size

/-- A removal leaves what the others will close as it was. -/
theorem Removed.closings {r r' : Registry ρ} {l rest : List Entry} {client : Nat} {c : Client}
    (E : Engine ρ) (removed : Removed r r' l client c)
    (others : ∀ e ∈ rest, ∀ sid, e.2.dtlsSession = some sid → c.dtlsSession ≠ some sid)
    (now : Int) (outcomes : Nat → List SendOutcome) :
    closings E r' now outcomes rest = closings E r now outcomes rest := by
  refine List.filterMap_congr fun e entry => ?_
  have member := List.mem_of_mem_filter entry
  unfold closing
  cases owns : e.2.dtlsSession with
  | none => rfl
  | some sid => simp only [Option.bind_some, removed.sessions sid (others e member sid owns)]

/-- The sweep of an expired client and then of the rest. -/
theorem Filtered.after_removal {r r₁ r' : Registry ρ} {now : Int} {kept rest : List Entry}
    {client : Nat} {c : Client} (filtered : Filtered r₁ r' now kept rest)
    (due : expired now (client, c) = true)
    (nodup : ((kept ++ (client, c) :: rest).map Prod.fst).Nodup)
    (removed : Removed r r₁ (kept ++ (client, c) :: rest) client c)
    (others : ∀ e ∈ rest, ∀ sid, e.2.dtlsSession = some sid → c.dtlsSession ≠ some sid) :
    Filtered r r' now kept ((client, c) :: rest) where
  linked := by simpa [due] using filtered.linked
  freed e entry late := by
    rcases List.mem_cons.mp entry with rfl | entry
    · have away : client ∉ (kept ++ rest).map Prod.fst := by
        rw [List.map_append, List.map_cons, List.nodup_middle, List.nodup_cons] at nodup
        rw [List.map_append]
        exact nodup.1
      rw [filtered.outside client away, removed.freed]
    · exact filtered.freed e entry late
  outside q away := by
    simp only [List.map_append, List.map_cons, List.mem_append, List.mem_cons, not_or] at away
    rw [filtered.outside q (by simp only [List.map_append, List.mem_append, not_or]; tauto),
      removed.outside q (by simp only [List.map_append, List.map_cons, List.mem_append,
        List.mem_cons, not_or]; tauto)]
  destroyed e entry late sid owns := by
    rcases List.mem_cons.mp entry with rfl | entry
    · rw [filtered.sessions sid fun d other _ yours => others d other sid yours owns,
        removed.destroyed sid owns]
    · exact filtered.destroyed e entry late sid owns
  sessions sid away := by
    rw [filtered.sessions sid fun e entry => away e (List.mem_cons_of_mem _ entry),
      removed.sessions sid (away _ List.mem_cons_self due)]
  clients_size := filtered.clients_size.trans removed.clients_size
  sessions_size := filtered.sessions_size.trans removed.sessions_size

/-- The sweep of a client that is not expired and then of the rest. -/
theorem Filtered.after_pass {r r' : Registry ρ} {now : Int} {kept rest : List Entry} {e : Entry}
    (filtered : Filtered r r' now (kept ++ [e]) rest) (fresh : expired now e = false) :
    Filtered r r' now kept (e :: rest) where
  linked := by simpa [fresh] using filtered.linked
  freed d entry late := by
    rcases List.mem_cons.mp entry with rfl | entry
    · simp [fresh] at late
    · exact filtered.freed d entry late
  outside q away := filtered.outside q (by simpa using away)
  destroyed d entry late sid owns := by
    rcases List.mem_cons.mp entry with rfl | entry
    · simp [fresh] at late
    · exact filtered.destroyed d entry late sid owns
  sessions sid away := filtered.sessions sid fun d entry => away d (List.mem_cons_of_mem _ entry)
  clients_size := filtered.clients_size
  sessions_size := filtered.sessions_size

/-- The loop of `check_client_timeouts` keeps what it passed and filters what is to come. The
induction is on what is to come; a removal takes its first client out of the middle of the list. -/
theorem sweepLoop_linked {r : Registry ρ} {kept rest : List Entry} {fuel : Nat} (E : Engine ρ)
    (linked : Linked r (kept ++ rest)) (enough : rest.length ≤ fuel) (now : Int)
    (outcomes : Nat → List SendOutcome) :
    ∃ r', sweepLoop E now outcomes fuel r (rest.head?.map Prod.fst) =
        .ok (r', closings E r now outcomes rest) ∧
      Filtered r r' now kept rest := by
  induction rest generalizing r kept fuel with
  | nil =>
    refine ⟨r, ?_, ?_⟩
    · cases fuel <;> rfl
    · refine ⟨by simpa using linked, ?_, fun q _ => rfl, ?_, fun sid _ => rfl, rfl, rfl⟩ <;>
        intro e entry <;> contradiction
  | cons e rest ih =>
    obtain ⟨client, c⟩ := e
    have member : (client, c) ∈ kept ++ (client, c) :: rest :=
      List.mem_append_right kept List.mem_cons_self
    obtain ⟨-, -, -, n, found, rfl, later⟩ := segment_append.mp linked.chain
    have next : n.next = rest.head?.map Prod.fst := Chain.head_eq later
    cases fuel with
    | zero => simp at enough
    | succ fuel =>
      have shorter : rest.length ≤ fuel := by simpa using enough
      simp only [List.head?_cons, Option.map_some, sweepLoop, Heap.load_ok found, ok_bind, next]
      by_cases late : clientTimeoutSeconds < now - n.lastActivity
      · have due : expired now (client, n.toClient) = true := by simpa [expired] using late
        obtain ⟨r₁, ran, removed⟩ := removeClient_linked E linked member (outcomes client)
        have linked₁ := removed.linked
        obtain ⟨-, without⟩ := drop_middle linked.chain.nodup
        rw [without] at linked₁
        obtain ⟨r', swept, filtered⟩ := ih linked₁ shorter
        have others : ∀ e ∈ rest, ∀ sid, e.2.dtlsSession = some sid →
            n.toClient.dtlsSession ≠ some sid := by
          intro e entry sid owns mine
          have heads := (List.pairwise_append.mp linked.apart).2.1
          exact (List.pairwise_cons.mp heads).1 e entry sid mine owns
        refine ⟨r', ?_, ?_⟩
        · simp only [if_pos late, ran, ok_bind, swept, pure_ok,
            removed.closings E others now outcomes]
          cases first : closing E r (outcomes client) n.toClient <;>
            simp [closings, due, first]
        · exact filtered.after_removal due linked.chain.nodup removed others
      · have fresh : expired now (client, n.toClient) = false := by simpa [expired] using late
        have regrouped : kept ++ (client, n.toClient) :: rest =
          (kept ++ [(client, n.toClient)]) ++ rest := by simp
        obtain ⟨r', swept, filtered⟩ := ih (regrouped ▸ linked) shorter
        refine ⟨r', ?_, ?_⟩
        · simp only [if_neg late, swept]
          simp [closings, fresh]
        · exact filtered.after_pass fresh

/-- `check_client_timeouts` on a linked list. -/
theorem checkClientTimeouts_linked {r : Registry ρ} {l : List Entry} (E : Engine ρ)
    (linked : Linked r l) (now : Int) (outcomes : Nat → List SendOutcome) :
    ∃ r', checkClientTimeouts E r now outcomes = .ok (r', closings E r now outcomes l) ∧
      Filtered r r' now [] l := by
  have bounded := linked.chain.length_le fun _ _ live => Heap.lt_size live
  unfold checkClientTimeouts
  rw [linked.chain.head_eq]
  exact sweepLoop_linked E (show Linked r ([] ++ l) from linked) bounded now outcomes

/-- No session is closed twice. -/
theorem closings_nodup {r : Registry ρ} {l : List Entry} (E : Engine ρ) (linked : Linked r l)
    (now : Int) (outcomes : Nat → List SendOutcome) :
    ((closings E r now outcomes l).map Closed.session).Nodup := by
  have named (e : Entry) (d : Closed) (closed : closing E r (outcomes e.1) e.2 = some d) :
      e.2.dtlsSession = some d.session := by
    obtain ⟨sid, owns, given⟩ := Option.bind_eq_some_iff.mp closed
    obtain ⟨s, -, rfl⟩ := Option.map_eq_some_iff.mp given
    exact owns
  rw [List.Nodup, List.pairwise_map, closings, List.pairwise_filterMap]
  refine (linked.apart.sublist List.filter_sublist).imp fun {d e} apart x closed y other same => ?_
  exact apart x.session (named d x closed) (same ▸ named e y other)

/-- On a linked list of clients the sweep is a filter: it ends, and nothing on the way touches freed
memory; it keeps the clients that were active in the last 30 seconds, in order and with their
fields, and takes out, closes and destroys every other client once. `remove_client` of any client
takes out that client alone. -/
theorem sweep_filters {r : Registry ρ} {l : List Entry} (E : Engine ρ) (linked : Linked r l)
    (now : Int) (outcomes : Nat → List SendOutcome) :
    (∃ r', checkClientTimeouts E r now outcomes = .ok (r', closings E r now outcomes l) ∧
      Chain ClientSession.toClient ClientSession.next r'.clients.get? r'.gClients
        (l.filter fun e => now - e.2.lastActivity ≤ clientTimeoutSeconds) ∧
      Filtered r r' now [] l) ∧
    ((closings E r now outcomes l).map Closed.session).Nodup ∧
    ∀ client c, (client, c) ∈ l → ∀ sends, ∃ r',
      removeClient E r client sends = .ok (r', closing E r sends c) ∧ Removed r r' l client c := by
  obtain ⟨r', swept, filtered⟩ := checkClientTimeouts_linked E linked now outcomes
  have stays : (fun e : Entry => !expired now e) =
      fun e => decide (now - e.2.lastActivity ≤ clientTimeoutSeconds) := by
    funext e
    simp [expired, ← decide_not]
  refine ⟨⟨r', swept, ?_, filtered⟩, closings_nodup E linked now outcomes, ?_⟩
  · rw [← stays]
    exact filtered.linked.chain
  · exact fun client c member sends => removeClient_linked E linked member sends

/-- A node with a time of last activity, an optional session and a link. -/
def nodeAt (lastActivity : Int) (dtlsSession next : Option Nat) : ClientSession :=
  ⟨⟨.blank, 0, dtlsSession, lastActivity, false⟩, next⟩

/-- Three clients, of which the first and the last of the list have not been active for long. -/
def threeClients : Registry Unit where
  clients := ⟨[.live (nodeAt 5 (some 0) none), .live (nodeAt 40 none (some 0)),
    .live (nodeAt 10 (some 1) (some 1))]⟩
  sessions := ⟨[.live ⟨⟨.server, .none, none, 0, 30000⟩, (), false, .blank, 0, true⟩,
    .live ⟨⟨.server, .none, none, 0, 30000⟩, (), false, .blank, 0, true⟩]⟩
  gClients := some 2

/-- The head and the last node go, each with its session. -/
theorem sweep_filters_threeClients :
    ∃ r', checkClientTimeouts ⟨fun _ ssl _ => .finish (.error (.other 0)) ssl false, fun _ _ => []⟩
        threeClients 41 (fun _ => []) = .ok (r', [⟨1, .blank, []⟩, ⟨0, .blank, []⟩]) ∧
      r'.gClients = some 1 ∧ r'.clients.get? 0 = none ∧ r'.clients.get? 2 = none := by
  have linked : Linked threeClients [(2, (nodeAt 10 (some 1) (some 1)).toClient),
      (1, (nodeAt 40 none (some 0)).toClient), (0, (nodeAt 5 (some 0) none).toClient)] := by
    refine ⟨⟨rfl, _, rfl, rfl, rfl, _, rfl, rfl, rfl, _, rfl, rfl, rfl⟩, ?_, ?_⟩
    · intro e member sid owns
      simp only [List.mem_cons, List.not_mem_nil, or_false] at member
      rcases member with rfl | rfl | rfl
      · obtain rfl : 1 = sid := Option.some.inj owns
        exact ⟨_, rfl⟩
      · contradiction
      · obtain rfl : 0 = sid := Option.some.inj owns
        exact ⟨_, rfl⟩
    · simp [nodeAt]
  obtain ⟨⟨r', swept, chain, filtered⟩, -⟩ := sweep_filters
    ⟨fun _ ssl _ => .finish (.error (.other 0)) ssl false, fun _ _ => []⟩ linked 41 fun _ => []
  refine ⟨r', swept, chain.head_eq, ?_, ?_⟩
  · exact filtered.freed (0, (nodeAt 5 (some 0) none).toClient) (by simp) rfl
  · exact filtered.freed (2, (nodeAt 10 (some 1) (some 1)).toClient) (by simp) rfl

end SpaceCaptain.Server
