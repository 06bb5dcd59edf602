import SpaceCaptain.Server.Sweep

/-!
# The client registry as a list

`Intact` connects the memory of the registry to the list of clients it stands for: the chain of
nodes carries exactly these clients, no other node and no other session is alive, and no two
clients share an address or a session. Every operation of the registry succeeds on an intact
registry and has its meaning as an operation on that list: `find_client` searches it,
`add_client` puts a client in front or leaves it alone, `remove_client` and
`check_client_timeouts` filter it.
-/
namespace SpaceCaptain.Server

open SpaceCaptain.Dtls SpaceCaptain.Library

variable {ρ : Type}

/-- The memory stands for the list of clients. -/
structure Intact (r : Registry ρ) (l : List Entry) : Prop where
  /-- Following `next` from `g_clients` visits the clients in order and ends. -/
  chain : Chain ClientSession.toClient ClientSession.next r.clients.get? r.gClients l
  /-- No other node is alive. -/
  nodes : ∀ p c, r.clients.get? p = some c → p ∈ l.map Prod.fst
  /-- No two clients have the same address. -/
  keys : (l.map fun e => e.2.addr.key).Nodup
  /-- Every client has the address of a datagram's source, and a live session for it. -/
  session : ∀ e ∈ l, ∃ (source : Endpoint) (sid : Nat) (s : Session ρ),
    e.2.addr = source.sockaddr ∧ e.2.dtlsSession = some sid ∧ r.sessions.get? sid = some s ∧
      s.ctx.role = .server ∧ s.clientAddr = source.sockaddr ∧ s.addrLen = sockaddrLen
  /-- No other session is alive. -/
  owned : ∀ sid s, r.sessions.get? sid = some s → ∃ e ∈ l, e.2.dtlsSession = some sid
  /-- No two clients share a session. -/
  distinct : (l.map fun e => e.2.dtlsSession).Nodup

/-- The empty registry stands for the empty list. -/
theorem empty_intact : Intact (Registry.empty : Registry ρ) [] where
  chain := rfl
  nodes p c found := by simp [Registry.empty] at found
  keys := List.nodup_nil
  session _ member := nomatch member
  owned sid s found := by simp [Registry.empty] at found
  distinct := List.nodup_nil

section Facts

variable {r : Registry ρ} {l : List Entry} {client : Nat} {c : Client}

/-- A client of the list is a live node with its fields. -/
theorem Intact.node (intact : Intact r l) (member : (client, c) ∈ l) :
    ∃ n, r.clients.get? client = some n ∧ n.toClient = c :=
  Segment.node intact.chain member

/-- A node of the list has one set of fields. -/
theorem Intact.same (intact : Intact r l) {d : Client} (first : (client, c) ∈ l)
    (second : (client, d) ∈ l) : c = d := by
  obtain ⟨n, found, rfl⟩ := intact.node first
  obtain ⟨n', found', rfl⟩ := intact.node second
  rw [found] at found'
  rw [Option.some.inj found']

/-- The head of the list is a client of it. -/
theorem Intact.first (intact : Intact r l) (head : r.gClients = some client) :
    ∃ c, (client, c) ∈ l := by
  have first := intact.chain.head_eq
  rw [head] at first
  cases l with
  | nil => simp at first
  | cons e rest =>
    obtain rfl : client = e.1 := by simpa using first
    exact ⟨e.2, List.mem_cons_self⟩

/-- The list is no longer than the memory. -/
theorem Intact.length_le (intact : Intact r l) : l.length ≤ r.clients.size :=
  intact.chain.length_le fun _ _ found => Heap.lt_size found

/-- Clients with the same address are the same. -/
theorem Intact.of_key (intact : Intact r l) {e e' : Entry} (first : e ∈ l) (second : e' ∈ l)
    (same : e.2.addr.key = e'.2.addr.key) : e = e' :=
  List.inj_on_of_nodup_map intact.keys first second same

/-- Clients with the same session are the same. -/
theorem Intact.of_session (intact : Intact r l) {e e' : Entry} (first : e ∈ l) (second : e' ∈ l)
    (same : e.2.dtlsSession = e'.2.dtlsSession) : e = e' :=
  List.inj_on_of_nodup_map intact.distinct first second same

end Facts

/-- The loop of `find_client` finds the first entry of the chain that matches. -/
theorem findLoop_chain {clients : Heap ClientSession} {addr : SockaddrIn} {head : Option Nat}
    {l : List Entry} {fuel : Nat}
    (chain : Chain ClientSession.toClient ClientSession.next clients.get? head l)
    (enough : l.length ≤ fuel) :
    findLoop clients addr fuel head =
      .ok ((l.find? fun e => e.2.addr.key = addr.key).map Prod.fst) := by
  induction l generalizing head fuel with
  | nil =>
    obtain rfl : head = none := chain
    cases fuel <;> rfl
  | cons e rest ih =>
    obtain ⟨rfl, n, found, seen, later⟩ := chain
    cases fuel with
    | zero => simp at enough
    | succ fuel =>
      have fields : n.addr = e.2.addr := by rw [← seen]
      simp only [findLoop, Heap.load_ok found, ok_bind, fields]
      by_cases hit : e.2.addr.key = addr.key
      · simp [hit]
      · have shorter : rest.length ≤ fuel := by simpa using enough
        simp only [List.find?_cons, hit, decide_false]
        exact ih later shorter

/-- `find_client` searches the list by address. -/
theorem findClient_intact {r : Registry ρ} {l : List Entry} (intact : Intact r l)
    (addr : SockaddrIn) :
    findClient r addr = .ok ((l.find? fun e => e.2.addr.key = addr.key).map Prod.fst) :=
  findLoop_chain intact.chain intact.length_le

/-- `find_client` returns a client of the list for its address. -/
theorem findClient_some {r : Registry ρ} {l : List Entry} (intact : Intact r l) {e : Entry}
    (entry : e ∈ l) : findClient r e.2.addr = .ok (some e.1) := by
  rw [findClient_intact intact]
  cases search : l.find? fun other => other.2.addr.key = e.2.addr.key with
  | none =>
    have missed := List.find?_eq_none.mp search e entry
    simp at missed
  | some other =>
    have hit := List.find?_some search
    rw [decide_eq_true_eq] at hit
    rw [intact.of_key (List.mem_of_find?_eq_some search) entry hit]
    rfl

/-- For the source of a datagram `find_client` returns the client of the list with that address,
or nothing when there is none. -/
theorem findClient_cases {r : Registry ρ} {l : List Entry} (intact : Intact r l)
    (source : Endpoint) :
    (∃ client c, findClient r source.sockaddr = .ok (some client) ∧ (client, c) ∈ l ∧
      c.addr = source.sockaddr) ∨
    findClient r source.sockaddr = .ok none ∧ ∀ e ∈ l, e.2.addr.key ≠ source.sockaddr.key := by
  rw [findClient_intact intact]
  cases search : l.find? fun e => e.2.addr.key = source.sockaddr.key with
  | none =>
    refine .inr ⟨rfl, fun e entry => ?_⟩
    simpa using List.find?_eq_none.mp search e entry
  | some e =>
    have member := List.mem_of_find?_eq_some search
    obtain ⟨source', -, -, addr, -⟩ := intact.session e member
    have hit := List.find?_some search
    rw [decide_eq_true_eq, addr] at hit
    obtain rfl := Endpoint.key_inj hit
    exact .inl ⟨e.1, e.2, rfl, member, addr⟩

/-- Live cells that are the same stand for the same clients. -/
theorem Intact.congr {r r' : Registry ρ} {l : List Entry} (intact : Intact r l)
    (head : r'.gClients = r.gClients) (clients : ∀ q, r'.clients.get? q = r.clients.get? q)
    (sessions : ∀ q, r'.sessions.get? q = r.sessions.get? q) : Intact r' l := by
  have sameClients : r'.clients.get? = r.clients.get? := funext clients
  have sameSessions : r'.sessions.get? = r.sessions.get? := funext sessions
  exact ⟨by rw [head, sameClients]; exact intact.chain, by rw [sameClients]; exact intact.nodes,
    intact.keys, by rw [sameSessions]; exact intact.session,
    by rw [sameSessions]; exact intact.owned, intact.distinct⟩

/-- A server's session is created for the address it is given, with no handshake done. -/
theorem sessionCreate_server {ctx : Context} {fd : Int} {source : Endpoint}
    {env : SessionEnv ρ} {session : Session ρ}
    (created : sessionCreate (some ctx) fd (some source.sockaddr) sockaddrLen env =
      .created session) :
    session.ctx = ctx ∧ session.ssl = env.ssl ∧ session.clientAddr = source.sockaddr ∧
      session.addrLen = sockaddrLen ∧ session.handshakeComplete = false := by
  rw [sessionCreate_created created]
  exact ⟨rfl, rfl, rfl, rfl, rfl⟩

/-- A node and a session for a new address, linked in at the head. -/
theorem link_intact {r r' : Registry ρ} {l : List Entry} {source : Endpoint} {now : Int}
    {session : Session ρ} (intact : Intact r l)
    (absent : ∀ e ∈ l, e.2.addr.key ≠ source.sockaddr.key)
    (server : session.ctx.role = .server) (addr : session.clientAddr = source.sockaddr)
    (len : session.addrLen = sockaddrLen) {node : ClientSession}
    (fields : node.toClient =
      ⟨source.sockaddr, sockaddrLen, some r.sessions.size, now, false⟩)
    (next : node.next = r.gClients) (head : r'.gClients = some r.clients.size)
    (clients : ∀ q, r'.clients.get? q =
      if q = r.clients.size then some node else r.clients.get? q)
    (sessions : ∀ q, r'.sessions.get? q =
      if q = r.sessions.size then some session else r.sessions.get? q) :
    Intact r' ((r.clients.size,
      ⟨source.sockaddr, sockaddrLen, some r.sessions.size, now, false⟩) :: l) := by
  have old_node (e : Entry) (member : e ∈ l) : e.1 ≠ r.clients.size := by
    obtain ⟨n, found, -⟩ := intact.node member
    exact Nat.ne_of_lt (Heap.lt_size found)
  have old_session (e : Entry) (member : e ∈ l) : ∃ sid s, e.2.dtlsSession = some sid ∧
      r.sessions.get? sid = some s ∧ sid ≠ r.sessions.size := by
    obtain ⟨-, sid, s, -, owns, found, -⟩ := intact.session e member
    exact ⟨sid, s, owns, found, Nat.ne_of_lt (Heap.lt_size found)⟩
  constructor
  · refine ⟨head, node, by rw [clients, if_pos rfl], fields, ?_⟩
    rw [next]
    refine intact.chain.frame fun q member => ?_
    obtain ⟨e, entry, rfl⟩ := List.mem_map.mp member
    rw [clients, if_neg (old_node e entry)]
  · intro q c found
    rw [clients] at found
    split at found
    · rename_i fresh
      simp [fresh]
    · simp only [List.map_cons, List.mem_cons]
      exact .inr (intact.nodes q c found)
  · rw [List.map_cons, List.nodup_cons]
    refine ⟨fun again => ?_, intact.keys⟩
    obtain ⟨e, member, same⟩ := List.mem_map.mp again
    exact absent e member same
  · intro e member
    rcases List.mem_cons.mp member with rfl | member
    · exact ⟨source, r.sessions.size, session, rfl, rfl, by rw [sessions, if_pos rfl], server,
        addr, len⟩
    · obtain ⟨source', sid, s, address, owns, found, rest⟩ := intact.session e member
      refine ⟨source', sid, s, address, owns, ?_, rest⟩
      rw [sessions, if_neg (Nat.ne_of_lt (Heap.lt_size found)), found]
  · intro sid s found
    rw [sessions] at found
    split at found
    · rename_i fresh
      exact ⟨_, List.mem_cons_self, congrArg some fresh.symm⟩
    · obtain ⟨e, member, owns⟩ := intact.owned sid s found
      exact ⟨e, List.mem_cons_of_mem _ member, owns⟩
  · rw [List.map_cons, List.nodup_cons]
    refine ⟨fun again => ?_, intact.distinct⟩
    obtain ⟨e, member, same⟩ := List.mem_map.mp again
    obtain ⟨sid, s, owns, -, other⟩ := old_session e member
    exact other (Option.some.inj (owns.symm.trans same))

/-- The client that `add_client` makes of a source. -/
def newClient (source : Endpoint) (dtlsSession : Nat) (now : Int) : Client :=
  ⟨source.sockaddr, sockaddrLen, some dtlsSession, now, false⟩

/-- What `add_client` does with a new source: it fails and leaves the clients as they were, or it
puts one client with a fresh session in front. -/
inductive Added (r : Registry ρ) (l : List Entry) (source : Endpoint) (env : AddEnv ρ) :
    Registry ρ × Option Nat → Prop
  | failed (r' : Registry ρ) (intact : Intact r' l) (head : r'.gClients = r.gClients)
      (sessions : ∀ q, r'.sessions.get? q = r.sessions.get? q)
      (grown : r.sessions.size ≤ r'.sessions.size) : Added r l source env (r', none)
  | added (r' : Registry ρ) (session : Session ρ)
      (intact : Intact r' ((r.clients.size, newClient source r.sessions.size env.now) :: l))
      (ssl : session.ssl = env.session.ssl) (before : session.handshakeComplete = false)
      (sessions : ∀ q, r'.sessions.get? q =
        if q = r.sessions.size then some session else r.sessions.get? q)
      (grown : r'.sessions.size = r.sessions.size + 1) :
      Added r l source env (r', some r.clients.size)

/-- `add_client` of a source without a client. -/
theorem addClient_intact {r : Registry ρ} {l : List Entry} {ctx : Context} {source : Endpoint}
    (intact : Intact r l) (server : ctx.role = .server)
    (absent : ∀ e ∈ l, e.2.addr.key ≠ source.sockaddr.key) (fd : Int) (env : AddEnv ρ) :
    ∃ result, addClient r ctx source.sockaddr sockaddrLen fd env = .ok result ∧
      Added r l source env result := by
  unfold addClient
  cases allocated : env.allocated with
  | false => exact ⟨_, rfl, .failed r intact rfl (fun _ => rfl) (Nat.le_refl _)⟩
  | true =>
    simp only [Bool.not_true, Bool.false_eq_true, ↓reduceIte, Heap.alloc_address]
    cases creation : sessionCreate (some ctx) fd (some source.sockaddr) sockaddrLen
        env.session with
    | refused =>
      obtain ⟨clients, freed, -, cells⟩ := Heap.alloc_free r.clients
        ⟨⟨source.sockaddr, sockaddrLen, none, env.now, false⟩, none⟩
      refine ⟨({ r with clients }, none), ?_, .failed _ ?_ rfl (fun _ => rfl) (Nat.le_refl _)⟩
      · simp only [freed, ok_bind, pure_ok]
      · exact intact.congr rfl cells fun _ => rfl
    | destroyed session =>
      obtain ⟨clients, freed, -, cells⟩ := Heap.alloc_free r.clients
        ⟨⟨source.sockaddr, sockaddrLen, none, env.now, false⟩, none⟩
      obtain ⟨sessions, dropped, grown, others⟩ := Heap.alloc_free r.sessions session
      refine ⟨({ r with clients, sessions }, none), ?_, .failed _ ?_ rfl others ?_⟩
      · simp only [freed, dropped, ok_bind, pure_ok]
      · exact intact.congr rfl cells others
      · exact Nat.le.intro grown.symm
    | created session =>
      obtain ⟨same, ssl, addr, len, before⟩ := sessionCreate_server creation
      obtain ⟨clients, stored, -, cells⟩ := Heap.alloc_store r.clients
        ⟨⟨source.sockaddr, sockaddrLen, none, env.now, false⟩, none⟩
        ⟨newClient source r.sessions.size env.now, r.gClients⟩
      refine ⟨(⟨clients, (r.sessions.alloc session).1, some r.clients.size⟩,
        some r.clients.size), ?_, .added _ session ?_ ssl before ?_ ?_⟩
      · exact stored ▸ rfl
      · exact link_intact intact absent (by rw [same, server]) addr len rfl rfl rfl cells
          fun q => Heap.get?_alloc q
      · exact fun q => Heap.get?_alloc q
      · exact Heap.alloc_size

/-- The list with one client's fields edited. -/
def editClient (client : Nat) (edit : Client → Client) (l : List Entry) : List Entry :=
  l.map fun e => if e.1 = client then (e.1, edit e.2) else e

/-- An edit that keeps a value in every client keeps the values of the list. -/
theorem editClient_map {β : Type} {client : Nat} {edit : Client → Client} (value : Entry → β)
    (same : ∀ e : Entry, value (e.1, edit e.2) = value e) (l : List Entry) :
    (editClient client edit l).map value = l.map value := by
  rw [editClient, List.map_map]
  refine List.map_congr_left fun e _ => ?_
  simp only [Function.comp_apply]
  split
  · exact same e
  · rfl

/-- The clients of an edited list. -/
theorem mem_editClient {client : Nat} {edit : Client → Client} {l : List Entry} {e : Entry} :
    e ∈ editClient client edit l ↔
      ∃ d ∈ l, e = if d.1 = client then (d.1, edit d.2) else d := by
  simp [editClient, eq_comm]

/-- The edited client of a list. -/
theorem editClient_alone {r : Registry ρ} {l : List Entry} {client : Nat} {c : Client}
    (intact : Intact r l) (member : (client, c) ∈ l) (edit : Client → Client) (d : Client) :
    (client, d) ∈ editClient client edit l ↔ d = edit c := by
  rw [mem_editClient]
  constructor
  · rintro ⟨⟨p, d'⟩, entry, same⟩
    by_cases here : p = client
    · subst here
      rw [if_pos rfl] at same
      rw [(Prod.mk.inj same).2, intact.same entry member]
    · rw [if_neg here] at same
      exact absurd (Prod.mk.inj same).1.symm here
  · rintro rfl
    exact ⟨_, member, (if_pos rfl).symm⟩

/-- The other clients of an edited list. -/
theorem editClient_rest {l : List Entry} {client p : Nat} (away : p ≠ client)
    (edit : Client → Client) (d : Client) :
    (p, d) ∈ editClient client edit l ↔ (p, d) ∈ l := by
  rw [mem_editClient]
  constructor
  · rintro ⟨⟨p', d'⟩, entry, same⟩
    by_cases here : p' = client
    · rw [if_pos here] at same
      exact absurd ((Prod.mk.inj same).1.trans here) away
    · rw [if_neg here] at same
      rw [same]
      exact entry
  · intro entry
    exact ⟨_, entry, (if_neg away).symm⟩

/-- Writing fields of a client other than its address and its session. -/
theorem modify_intact {r : Registry ρ} {l : List Entry} {client : Nat} {c : Client}
    {edit : Client → Client} (intact : Intact r l) (member : (client, c) ∈ l)
    (addr : ∀ d, (edit d).addr = d.addr) (owns : ∀ d, (edit d).dtlsSession = d.dtlsSession) :
    ∃ r', r.modify client edit = .ok r' ∧ Intact r' (editClient client edit l) ∧
      r'.sessions = r.sessions := by
  obtain ⟨n, found, fields⟩ := intact.node member
  obtain ⟨clients, stored, -, cells⟩ :=
    Heap.store_ok ⟨edit n.toClient, n.next⟩ found
  refine ⟨{ r with clients }, ?_, ?_, rfl⟩
  · simp only [Registry.modify, Heap.load_ok found, stored, ok_bind, pure_ok]
  · have edited : (l.map fun e => if e.1 = client then (client, edit n.toClient) else e) =
        editClient client edit l := by
      refine List.map_congr_left fun e entry => ?_
      split
      · rename_i here
        obtain ⟨p, d⟩ := e
        obtain rfl : p = client := here
        rw [fields, intact.same entry member]
      · rfl
    refine ⟨?_, ?_, ?_, ?_, ?_, ?_⟩
    · have pointer : ClientSession.next ⟨edit n.toClient, n.next⟩ = n.next := rfl
      have written := intact.chain.write intact.chain.nodup found pointer
        ((cells client).trans (if_pos rfl)) fun q other => (cells q).trans (if_neg other)
      rw [← edited]
      exact written
    · intro p d live
      rw [editClient_map Prod.fst fun _ => rfl]
      rw [cells] at live
      split at live
      · rename_i here
        exact here ▸ List.mem_map_of_mem member
      · exact intact.nodes p d live
    · rw [editClient_map (fun e => e.2.addr.key) fun e => by rw [addr]]
      exact intact.keys
    · intro e entry
      obtain ⟨d, old, rfl⟩ := mem_editClient.mp entry
      obtain ⟨source, sid, s, address, own, rest⟩ := intact.session d old
      refine ⟨source, sid, s, ?_, ?_, rest⟩ <;> split <;> simp_all
    · intro sid s live
      obtain ⟨d, entry, own⟩ := intact.owned sid s live
      refine ⟨_, mem_editClient.mpr ⟨d, entry, rfl⟩, ?_⟩
      split <;> simp_all
    · rw [editClient_map (fun e => e.2.dtlsSession) fun e => owns e.2]
      exact intact.distinct

/-- Writing a session that keeps its context and its address. -/
theorem store_intact {r : Registry ρ} {l : List Entry} {sid : Nat} {s s' : Session ρ}
    (intact : Intact r l) (live : r.sessions.get? sid = some s) (ctx : s'.ctx = s.ctx)
    (addr : s'.clientAddr = s.clientAddr) (len : s'.addrLen = s.addrLen) :
    ∃ sessions, r.sessions.store sid s' = .ok sessions ∧ Intact { r with sessions } l ∧
      (∀ q, sessions.get? q = if q = sid then some s' else r.sessions.get? q) ∧
      sessions.size = r.sessions.size := by
  obtain ⟨sessions, stored, same, cells⟩ := Heap.store_ok s' live
  refine ⟨sessions, stored, ⟨intact.chain, intact.nodes, intact.keys, ?_, ?_, intact.distinct⟩,
    cells, same⟩
  · intro e entry
    obtain ⟨source, own, t, address, owns, found, role, peer, length⟩ := intact.session e entry
    by_cases here : own = sid
    · subst here
      rw [live] at found
      obtain rfl := Option.some.inj found
      exact ⟨source, own, s', address, owns, by rw [cells, if_pos rfl], by rw [ctx, role],
        by rw [addr, peer], by rw [len, length]⟩
    · exact ⟨source, own, t, address, owns, by rw [cells, if_neg here, found], role, peer, length⟩
  · intro q t found
    rw [cells] at found
    split at found
    · rename_i here
      exact here ▸ intact.owned sid s live
    · exact intact.owned q t found

/-- The memory of an intact registry is linked. -/
theorem Intact.linked {r : Registry ρ} {l : List Entry} (intact : Intact r l) : Linked r l where
  chain := intact.chain
  session e member sid owns := by
    obtain ⟨-, own, s, -, mine, live, -⟩ := intact.session e member
    obtain rfl : own = sid := Option.some.inj (mine.symm.trans owns)
    exact ⟨s, live⟩
  apart := (List.pairwise_map.mp intact.distinct).imp fun differ _ mine yours =>
    differ (mine.trans yours.symm)

/-- Without the nodes and the sessions of some clients, the memory stands for the others. -/
theorem filter_intact {r r' : Registry ρ} {l : List Entry} (keep : Entry → Bool)
    (intact : Intact r l)
    (chain : Chain ClientSession.toClient ClientSession.next r'.clients.get? r'.gClients
      (l.filter keep))
    (freed : ∀ e ∈ l, keep e = false → r'.clients.get? e.1 = none)
    (outside : ∀ q, q ∉ l.map Prod.fst → r'.clients.get? q = r.clients.get? q)
    (destroyed : ∀ e ∈ l, keep e = false → ∀ sid, e.2.dtlsSession = some sid →
      r'.sessions.get? sid = none)
    (sessions : ∀ sid, (∀ e ∈ l, keep e = false → e.2.dtlsSession ≠ some sid) →
      r'.sessions.get? sid = r.sessions.get? sid) :
    Intact r' (l.filter keep) := by
  have sublist : List.Sublist (l.filter keep) l := List.filter_sublist
  have stays (e : Entry) (entry : e ∈ l) (lives : keep e ≠ false) : e ∈ l.filter keep :=
    List.mem_filter.mpr ⟨entry, by simpa using lives⟩
  refine ⟨chain, ?_, intact.keys.sublist (sublist.map _), ?_, ?_,
    intact.distinct.sublist (sublist.map _)⟩
  · intro q d found
    have inside : q ∈ l.map Prod.fst := by
      by_contra away
      exact away (intact.nodes q d ((outside q away).symm.trans found))
    obtain ⟨e, entry, rfl⟩ := List.mem_map.mp inside
    refine List.mem_map_of_mem (stays e entry fun gone => ?_)
    rw [freed e entry gone] at found
    contradiction
  · intro e entry
    obtain ⟨entry, kept⟩ := List.mem_filter.mp entry
    obtain ⟨source, own, s, address, owned, live, rest⟩ := intact.session e entry
    refine ⟨source, own, s, address, owned, ?_, rest⟩
    rw [sessions own fun d other gone yours => ?_, live]
    have same : d = e := intact.of_session other entry (yours.trans owned.symm)
    rw [same, kept] at gone
    contradiction
  · intro q s found
    have untouched : ∀ e ∈ l, keep e = false → e.2.dtlsSession ≠ some q := by
      intro e entry gone owned
      rw [destroyed e entry gone q owned] at found
      contradiction
    obtain ⟨e, entry, owned⟩ := intact.owned q s ((sessions q untouched).symm.trans found)
    exact ⟨e, stays e entry fun gone => untouched e entry gone owned, owned⟩

/-- A client of an intact registry has a session to close, for its own address. -/
theorem Intact.closing {r : Registry ρ} {l : List Entry} {e : Entry} (E : Engine ρ)
    (intact : Intact r l) (member : e ∈ l) (outcomes : List SendOutcome) :
    ∃ closed, closing E r outcomes e.2 = some closed ∧ e.2.dtlsSession = some closed.session ∧
      closed.dest = e.2.addr := by
  obtain ⟨source, sid, s, address, owns, live, -, peer, -⟩ := intact.session e member
  exact ⟨_, by rw [Server.closing, owns, Option.bind_some, live, Option.map_some], owns,
    peer.trans address.symm⟩

/-- `remove_client` of a client of the list closes and destroys its session, and leaves the
others. -/
theorem removeClient_intact {r : Registry ρ} {l : List Entry} {client : Nat} {c : Client}
    (E : Engine ρ) (intact : Intact r l) (member : (client, c) ∈ l)
    (outcomes : List SendOutcome) :
    ∃ r' closed, removeClient E r client outcomes = .ok (r', some closed) ∧
      Intact r' (dropClient client l) ∧ c.dtlsSession = some closed.session ∧
      closed.dest = c.addr ∧ r'.sessions.size = r.sessions.size ∧
      ∀ q, r'.sessions.get? q = if q = closed.session then none else r.sessions.get? q := by
  obtain ⟨r', ran, removed⟩ := removeClient_linked E intact.linked member outcomes
  obtain ⟨closed, given, owns, dest⟩ := intact.closing E member outcomes
  have only (e : Entry) (entry : e ∈ l) (gone : decide (e.1 ≠ client) = false) : e.2 = c := by
    obtain ⟨p, d⟩ := e
    obtain rfl : p = client := by simpa using gone
    exact intact.same entry member
  refine ⟨r', closed, by rw [ran, given], ?_, owns, dest, removed.sessions_size, fun q => ?_⟩
  · refine filter_intact _ intact removed.linked.chain ?_ removed.outside ?_ ?_
    · intro e entry gone
      have here : e.1 = client := by simpa using gone
      rw [here, removed.freed]
    · intro e entry gone sid mine
      exact removed.destroyed sid (only e entry gone ▸ mine)
    · exact fun sid away => removed.sessions sid (away _ member (by simp))
  · by_cases here : q = closed.session
    · rw [if_pos here, here, removed.destroyed _ owns]
    · rw [if_neg here, removed.sessions q]
      intro mine
      exact here (Option.some.inj (mine.symm.trans owns))

/-- What a sweep from one registry to another did to the clients it visited. -/
structure Swept (r r' : Registry ρ) (now : Int) (visited : List Entry) (closed : List Closed) :
    Prop where
  /-- The expired clients' sessions were closed, in list order, towards their own addresses. -/
  sessions : closed.map (fun d => (some d.session, d.dest)) =
    (visited.filter (expired now)).map fun e => (e.2.dtlsSession, e.2.addr)
  /-- These sessions are gone, and the others as they were. -/
  cells : ∀ q, r'.sessions.get? q =
    if q ∈ closed.map Closed.session then none else r.sessions.get? q
  /-- No session was created. -/
  size : r'.sessions.size = r.sessions.size

/-- `check_client_timeouts` keeps the clients whose last activity is recent enough. -/
theorem checkClientTimeouts_intact {r : Registry ρ} {l : List Entry} (E : Engine ρ)
    (intact : Intact r l) (now : Int) (outcomes : Nat → List SendOutcome) :
    ∃ r' closed, checkClientTimeouts E r now outcomes = .ok (r', closed) ∧
      Intact r' (l.filter fun e => !expired now e) ∧ Swept r r' now l closed := by
  obtain ⟨r', swept, filtered⟩ := checkClientTimeouts_linked E intact.linked now outcomes
  have late (e : Entry) (gone : (!expired now e) = false) : expired now e = true := by
    simpa using gone
  have closed : (closings E r now outcomes l).map (fun d => (some d.session, d.dest)) =
      (l.filter (expired now)).map fun e => (e.2.dtlsSession, e.2.addr) := by
    rw [closings, List.map_filterMap, ← List.filterMap_eq_map]
    refine List.filterMap_congr fun e entry => ?_
    obtain ⟨d, given, owns, dest⟩ :=
      intact.closing E (List.mem_of_mem_filter entry) (outcomes e.1)
    rw [given, Option.map_some, ← owns, dest]
    rfl
  have owned (q : Nat) : q ∈ (closings E r now outcomes l).map Closed.session ↔
      ∃ e ∈ l, expired now e = true ∧ e.2.dtlsSession = some q := by
    have firsts := congrArg (List.map Prod.fst) closed
    rw [List.map_map, List.map_map] at firsts
    have somes : some q ∈ (closings E r now outcomes l).map (fun d => some d.session) ↔
        q ∈ (closings E r now outcomes l).map Closed.session := by simp
    rw [← somes, show (closings E r now outcomes l).map (fun d => some d.session) = _ from firsts]
    simp [and_assoc]
  refine ⟨r', _, swept, ?_, closed, fun q => ?_, filtered.sessions_size⟩
  · refine filter_intact _ intact filtered.linked.chain ?_ filtered.outside ?_ ?_
    · exact fun e entry gone => filtered.freed e entry (late e gone)
    · exact fun e entry gone => filtered.destroyed e entry (late e gone)
    · exact fun sid away => filtered.sessions sid fun e entry gone =>
        away e entry (by simp [gone])
  · by_cases gone : q ∈ (closings E r now outcomes l).map Closed.session
    · obtain ⟨e, entry, due, owns⟩ := (owned q).mp gone
      rw [if_pos gone, filtered.destroyed e entry due q owns]
    · rw [if_neg gone, filtered.sessions q]
      exact fun e entry due owns => gone ((owned q).mpr ⟨e, entry, due, owns⟩)

end SpaceCaptain.Server
