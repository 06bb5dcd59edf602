import SpaceCaptain.Dtls.Lifecycle
import SpaceCaptain.Server.Integrity
import SpaceCaptain.Server.Sessions

/-!
# The resources of the event loop

Between its start and its end the server makes client nodes and sessions in `add_client` and gives
them up in `remove_client`. Both are written down here call by call, with every place at which
`add_client` can fail and what it has made and takes back by then. An observer beside a run keeps
the account of what they did. In every run the account is in order, a failed `add_client` leaves
what is in use as it was, and what is in use is what lives in the memory of the registry.
-/
namespace SpaceCaptain.Server

open SpaceCaptain.Dtls SpaceCaptain.Library

/-- The resources of the process. -/
inductive Resource where
  /-- Those that `dtls.c` deals with; the socket is one of them. -/
  | dtls (r : Dtls.Resource)
  /-- `epoll_fd`. -/
  | epoll
  /-- The client node that is made for a session. -/
  | client (session : Nat)
  deriving DecidableEq, Repr

/-- What happens to the resources of `dtls.c`. -/
def dtls (uses : List (Use Dtls.Resource)) : List (Use Resource) :=
  uses.map (Use.rename Resource.dtls)

/-- `add_client` — what it does with the node and the session that get this number, and whether it
returns a client. -/
def addClientUses {ρ : Type} (id : Nat) (role : Role) (fd : Int) (addr : SockaddrIn)
    (env : AddEnv ρ) : List (Use Resource) × Bool :=
  if !env.allocated then ([], false)
  else
    let session := sessionCreateUses id role fd (some addr) env.session
    let uses := [.create (.client id) []] ++ dtls session.1
    if !session.2 then (uses ++ [.release (.client id)], false) else (uses, true)

/-- `remove_client`. -/
def removeClientUses (id : Nat) : List (Use Resource) :=
  dtls (sessionDestroyUses id) ++ [.release (.client id)]

section Account

variable {ρ : Type}

/-- The call of `add_client` in a step, for a datagram that comes from no client. -/
def addedIn (H : Host ρ) (s : State ρ) : Input ρ → List (Use Resource)
  | .peek false add _ =>
    match s.pc, s.sock with
    | .peek _, d :: _ =>
      match findClient s.registry d.src.sockaddr with
      | .ok none =>
        (addClientUses s.registry.sessions.size H.ctx.role H.fd d.src.sockaddr add).1
      | _ => []
    | _, _ => []
  | _ => []

/-- The calls of `remove_client` in a step, by the sessions that they destroy. -/
def removedIn (H : Host ρ) (s : State ρ) (input : Input ρ) : List Nat :=
  match advance H s input with
  | some s' => (s'.log.drop s.log.length).filterMap Event.destroys
  | none => []

/-- What a step does with the resources. -/
def stepUses (H : Host ρ) (s : State ρ) (input : Input ρ) : List (Use Resource) :=
  addedIn H s input ++ (removedIn H s input).flatMap removeClientUses

/-- The account of a run that begins with some uses. -/
abbrev Accounted (H : Host ρ) (uses : List (Use Resource)) :
    State ρ × List (Use Resource) → Prop :=
  Watched H (fun _ => uses) (fun s input account => account ++ stepUses H s input)
    fun _ _ => true

end Account

/-- Resources that have nothing to do with `dtls.c`. -/
def Foreign (frame : Held Resource) : Prop := ∀ h ∈ frame, (∀ r, h.1 ≠ .dtls r) ∧ h.2 = []

/-- What is in order for `dtls.c` is in order in the process. -/
theorem watch_dtls {held held' : Held Dtls.Resource} {frame : Held Resource}
    {uses : List (Use Dtls.Resource)} (foreign : Foreign frame)
    (accepted : watch Use.next held uses = some held') :
    watch Use.next (held.rename .dtls ++ frame) (dtls uses) =
      some (held'.rename .dtls ++ frame) := by
  have injective : Function.Injective Resource.dtls := fun _ _ same => Resource.dtls.inj same
  refine watch_frame ?_ (watch_rename injective accepted)
  intro use member
  obtain ⟨original, -, rfl⟩ := List.mem_map.mp member
  have subject : (original.rename Resource.dtls).subject = .dtls original.subject := by
    cases original <;> rfl
  rw [Apart, subject]
  constructor
  · intro named
    obtain ⟨h, inside, same⟩ := List.mem_map.mp named
    exact (foreign h inside).1 _ same
  · intro _ h inside used
    rw [(foreign h inside).2] at used
    contradiction

/-- What `dtls.c` holds in the event loop beside some sessions. -/
def hosted (live : List Nat) : Held Dtls.Resource :=
  live.flatMap sessionParts ++ ((.socket, []) :: (contextParts .server false ++ ready))

/-- What the process holds besides. -/
def own (live : List Nat) : Held Resource :=
  live.map (fun sid => (.client sid, [])) ++ [(.epoll, [])]

/-- What the process holds in the event loop. -/
def inUse (live : List Nat) : Held Resource := (hosted live).rename .dtls ++ own live

/-- The clients and the epoll instance have nothing to do with `dtls.c`. -/
theorem own_foreign (live : List Nat) : Foreign (own live) := by
  intro h member
  rcases List.mem_append.mp member with client | epoll
  · obtain ⟨sid, -, rfl⟩ := List.mem_map.mp client
    refine ⟨?_, rfl⟩
    intro r same
    cases same
  · obtain rfl := List.mem_singleton.mp epoll
    refine ⟨?_, rfl⟩
    intro r same
    cases same

/-- The names of what `dtls.c` holds. -/
theorem hosted_names (live : List Nat) : (hosted live).names =
    live.flatMap (fun sid => [.ssl sid, .session sid]) ++ (hosted []).names := by
  simp [hosted, Held.names, sessionParts, List.map_flatMap]

/-- A session exists when it is one of the live ones, and so does its object. -/
theorem mem_hosted (live : List Nat) (sid : Nat) :
    (.session sid ∈ (hosted live).names ↔ sid ∈ live) ∧
      (.ssl sid ∈ (hosted live).names ↔ sid ∈ live) := by
  rw [hosted_names]
  constructor <;> simp [hosted, Held.names, contextParts, ready]

/-- What a session uses exists. -/
theorem hosted_base (live : List Nat) {r : Dtls.Resource} (member : r ∈ (hosted []).names) :
    r ∈ (hosted live).names := by
  rw [hosted_names]
  exact List.mem_append_right _ member

/-- Everything in the event loop uses what exists. -/
theorem hosted_closed (live : List Nat) : (hosted live).Closed := by
  intro h member k used
  rcases List.mem_append.mp member with session | base
  · obtain ⟨sid, alive, part⟩ := List.mem_flatMap.mp session
    rcases List.mem_cons.mp part with rfl | part
    · have known : k = .context .conf ∨ k = .session sid := by simpa using used
      rcases known with rfl | rfl
      · exact hosted_base live (by decide)
      · exact (mem_hosted live sid).1.mpr alive
    · obtain rfl := List.mem_singleton.mp part
      have known : k = .context .memory ∨ k = .socket := by simpa using used
      rcases known with rfl | rfl <;> exact hosted_base live (by decide)
  · have closed : ∀ h ∈ hosted [], ∀ k ∈ h.2, k ∈ (hosted []).names := by decide
    exact hosted_base live (closed h base k used)

/-- A new session can be created beside the others. -/
theorem hosts_hosted {live : List Nat} {sid : Nat} (fresh : sid ∉ live) :
    Hosts (hosted live) sid where
  closed := hosted_closed live
  memory := hosted_base live (by decide)
  conf := hosted_base live (by decide)
  socket := hosted_base live (by decide)
  session := fresh ∘ (mem_hosted live sid).1.mp
  ssl := fresh ∘ (mem_hosted live sid).2.mp

/-- Everything in the process uses what exists. -/
theorem inUse_closed (live : List Nat) : (inUse live).Closed := by
  intro h member k used
  rcases List.mem_append.mp member with session | client
  · obtain ⟨original, inside, rfl⟩ := List.mem_map.mp session
    obtain ⟨r, needed, rfl⟩ := List.mem_map.mp used
    have exists_r := hosted_closed live original inside r needed
    have renamed : .dtls r ∈ ((hosted live).rename Resource.dtls).names := by
      rw [Held.names_rename]
      exact List.mem_map_of_mem exists_r
    rw [inUse, Held.names, List.map_append]
    exact List.mem_append_left _ renamed
  · rw [(own_foreign live h client).2] at used
    contradiction

/-- What is in use does not depend on the order of the sessions. -/
theorem inUse_perm {live live' : List Nat} (same : live.Perm live') :
    (inUse live).Perm (inUse live') :=
  (((same.flatMap_right sessionParts).append_right _).map _).append
    ((same.map _).append_right _)

/-- A session and a client node are in use for the live sessions. -/
theorem mem_inUse (live : List Nat) (sid : Nat) :
    (.dtls (.session sid) ∈ (inUse live).names ↔ sid ∈ live) ∧
      (.client sid ∈ (inUse live).names ↔ sid ∈ live) := by
  constructor
  · rw [← (mem_hosted live sid).1]
    simp [inUse, own, Held.rename, Held.names]
  · simp [inUse, own, Held.rename, Held.names]

/-- `add_client` makes a node and a session, or leaves everything in use as it was. -/
theorem watch_added {ρ : Type} {live : List Nat} {held : Held Resource} {sid : Nat}
    (fresh : sid ∉ live) (perm : held.Perm (inUse live)) (role : Role) (fd : Int)
    (addr : SockaddrIn) (env : AddEnv ρ) :
    ∃ held', watch Use.next held (addClientUses sid role fd addr env).1 = some held' ∧
      held'.Perm (inUse
        (if (addClientUses sid role fd addr env).2 then sid :: live else live)) := by
  have absent : .client sid ∉ held.names := by
    rw [Held.names, (perm.map Prod.fst).mem_iff]
    exact fresh ∘ (mem_inUse live sid).2.mp
  have created : Use.next held (.create (.client sid) []) = some ((.client sid, []) :: held) :=
    if_pos ⟨absent, fun k member => absurd member List.not_mem_nil⟩
  have middle : ((hosted live).rename Resource.dtls ++ own (sid :: live)).Perm
      ((.client sid, []) :: held) :=
    List.perm_middle.trans (perm.symm.cons _)
  -- the session is created whole or not at all, beside the new node
  have session := watch_dtls (own_foreign (sid :: live))
    (sessionCreateUses_made (hosts_hosted fresh) role fd (some addr) env.session)
  obtain ⟨after, accepted, perm'⟩ := watch_perm middle session
  have began : watch Use.next held
      ([.create (.client sid) []] ++
        dtls (sessionCreateUses sid role fd (some addr) env.session).1) = some after := by
    rw [watch_append, watch_cons, created]
    exact accepted
  cases allocated : env.allocated with
  | false =>
    have nothing : addClientUses sid role fd addr env = ([], false) := by
      simp [addClientUses, allocated]
    rw [nothing]
    exact ⟨held, rfl, perm⟩
  | true =>
    cases outcome : (sessionCreateUses sid role fd (some addr) env.session).2 with
    | true =>
      have whole : addClientUses sid role fd addr env = ([.create (.client sid) []] ++
          dtls (sessionCreateUses sid role fd (some addr) env.session).1, true) := by
        simp [addClientUses, allocated, outcome]
      simp only [outcome, if_true] at perm'
      rw [whole]
      exact ⟨after, began, perm'.symm⟩
    | false =>
      have partway : addClientUses sid role fd addr env = ([.create (.client sid) []] ++
          dtls (sessionCreateUses sid role fd (some addr) env.session).1 ++
            [.release (.client sid)], false) := by
        simp [addClientUses, allocated, outcome]
      simp only [outcome, Bool.false_eq_true, if_false] at perm'
      have undone := Use.next_undo (inUse_closed live) (fresh ∘ (mem_inUse live sid).2.mp) []
      obtain ⟨held', released, perm''⟩ :=
        Use.next_perm (List.perm_middle.symm.trans perm') undone
      rw [partway]
      refine ⟨held', ?_, perm''.symm⟩
      rw [watch_append, began, Option.bind_some, watch_cons, released]
      rfl

/-- `remove_client` releases a session and its client. -/
theorem watch_removed {live : List Nat} {held : Held Resource} {sid : Nat} (gone : sid ∉ live)
    (perm : held.Perm (inUse (sid :: live))) :
    ∃ held', watch Use.next held (removeClientUses sid) = some held' ∧
      held'.Perm (inUse live) := by
  have destroyed := watch_dtls (own_foreign (sid :: live))
    ((hosts_hosted gone).destroyed [.context .conf, .session sid])
  obtain ⟨middle, accepted, perm'⟩ := watch_perm perm.symm destroyed
  have second : ((.client sid, []) :: inUse live).Perm middle :=
    List.perm_middle.symm.trans perm'
  have undone := Use.next_undo (inUse_closed live) (gone ∘ (mem_inUse live sid).2.mp) []
  obtain ⟨held', released, perm''⟩ := Use.next_perm second undone
  refine ⟨held', ?_, perm''.symm⟩
  rw [removeClientUses, watch_append, accepted, Option.bind_some, watch_cons, released]
  rfl

/-- Some clients are removed one after the other. -/
theorem watch_removals {gone live : List Nat} {held : Held Resource}
    (unique : (gone ++ live).Nodup) (perm : held.Perm (inUse (gone ++ live))) :
    ∃ held', watch Use.next held (gone.flatMap removeClientUses) = some held' ∧
      held'.Perm (inUse live) := by
  induction gone generalizing held with
  | nil => exact ⟨held, rfl, perm⟩
  | cons sid rest ih =>
    obtain ⟨absent, unique'⟩ := List.nodup_cons.mp unique
    obtain ⟨middle, first, perm'⟩ := watch_removed absent perm
    obtain ⟨held', later, perm''⟩ := ih unique' perm'
    refine ⟨held', ?_, perm''⟩
    rw [List.flatMap_cons, watch_append, first]
    exact later

section Run

variable {ρ : Type} {H : Host ρ} {s s' : State ρ} {l l' : List Entry} {input : Input ρ}

/-- `add_client` returns a client when all its calls succeed. -/
theorem addClient_uses {r r' : Registry ρ} {ctx : Context} {addr : SockaddrIn} {addrLen : Nat}
    {fd : Int} {env : AddEnv ρ} {client : Option Nat} (id : Nat)
    (added : addClient r ctx addr addrLen fd env = .ok (r', client)) :
    client.isSome = (addClientUses id ctx.role fd addr env).2 := by
  have agreement : (∃ session, sessionCreate (some ctx) fd (some addr) addrLen env.session =
      .created session) ↔
        (sessionCreateUses id ctx.role fd (some addr) env.session).2 = true :=
    sessionCreate_uses ctx fd (some addr) addrLen env.session
  unfold addClient at added
  unfold addClientUses
  cases allocated : env.allocated with
  | false =>
    simp only [allocated, Bool.not_false, if_true] at added
    obtain ⟨-, rfl⟩ := Prod.mk.inj (Except.ok.inj added)
    rfl
  | true =>
    simp only [allocated, Bool.not_true, Bool.false_eq_true, ↓reduceIte] at added ⊢
    cases creation : sessionCreate (some ctx) fd (some addr) addrLen env.session with
    | refused =>
      have failed : (sessionCreateUses id ctx.role fd (some addr) env.session).2 = false := by
        simpa [creation] using agreement
      simp only [creation] at added
      obtain ⟨clients, -, rest⟩ := bind_ok added
      obtain ⟨-, rfl⟩ := Prod.mk.inj (Except.ok.inj rest)
      simp [failed]
    | destroyed session =>
      have failed : (sessionCreateUses id ctx.role fd (some addr) env.session).2 = false := by
        simpa [creation] using agreement
      simp only [creation] at added
      obtain ⟨sessions, -, rest⟩ := bind_ok added
      obtain ⟨clients, -, rest⟩ := bind_ok rest
      obtain ⟨-, rfl⟩ := Prod.mk.inj (Except.ok.inj rest)
      simp [failed]
    | created session =>
      have made : (sessionCreateUses id ctx.role fd (some addr) env.session).2 = true := by
        simpa [creation] using agreement
      simp only [creation] at added
      obtain ⟨clients, -, rest⟩ := bind_ok added
      obtain ⟨-, rfl⟩ := Prod.mk.inj (Except.ok.inj rest)
      simp [made]

/-- After a datagram from no client the server is inside a call when `add_client` returned one. -/
theorem recognize_adds {left : Nat} {d : Datagram} {add : AddEnv ρ} {now : Int} (id : Nat)
    (missing : findClient s.registry d.src.sockaddr = .ok none)
    (recognized : recognize H s left d add now = .ok s') :
    (addClientUses id H.ctx.role H.fd d.src.sockaddr add).2 = true ↔
      s'.pc ≠ .consume left .addFailed none := by
  simp only [recognize, missing, ok_bind] at recognized
  obtain ⟨⟨registry, client⟩, added, rest⟩ := bind_ok recognized
  rw [← addClient_uses id added]
  cases client with
  | none =>
    obtain rfl := Except.ok.inj rest
    simp
  | some client =>
    obtain ⟨c, -, met⟩ := bind_ok rest
    obtain ⟨registry', -, met⟩ := bind_ok met
    obtain ⟨c', -, began⟩ := bind_ok met
    obtain ⟨c'', -, last⟩ := bind_ok began
    obtain rfl := Except.ok.inj last
    simp

/-- What the server makes of a result creates no session. -/
theorem Settled.creates {left client sid : Nat} {call : Call} {result : DtlsResult}
    {data : Bytes} (settled : Settled H s l left client sid call result data s' l') :
    ∃ events, s'.log = s.log ++ events ∧ events.filterMap Event.creates = [] := by
  have ends (closed : Closed) : closed.events.filterMap Event.creates = [] := by
    simpa using ends_creates [closed]
  cases settled with
  | completed | pending | failed | nothing | broken | written =>
    exact ⟨[], (List.append_nil _).symm, rfl⟩
  | answered => exact ⟨_, rfl, rfl⟩
  | peerClosed _ _ _ closed => exact ⟨_, rfl, ends closed⟩
  | unwritten _ _ _ _ closed => exact ⟨_, rfl, ends closed⟩

/-- The explicit `recvfrom` creates no session. -/
theorem Consumed.creates {why : Discard} {failed : Bool} (consumed : Consumed s why failed s') :
    ∃ events, s'.log = s.log ++ events ∧ events.filterMap Event.creates = [] := by
  cases consumed with
  | nothing => exact ⟨[], (List.append_nil _).symm, rfl⟩
  | taken d rest => exact ⟨_, rfl, rfl⟩

/-- What a step creates is what `add_client` makes in it. -/
theorem Move.creates (sound : Sound H s l) (taken : advance H s input = some s')
    (move : Move H s l input s' l') :
    ∃ events, s'.log = s.log ++ events ∧
      (addedIn H s input = [] ∧ events.filterMap Event.creates = [] ∨
        ∃ addr, ∃ add : AddEnv ρ, addedIn H s input =
            (addClientUses s.registry.sessions.size H.ctx.role H.fd addr add).1 ∧
          events.filterMap Event.creates =
            if (addClientUses s.registry.sessions.size H.ctx.role H.fd addr add).2 then
              [s.registry.sessions.size] else []) := by
  have ends (closed : Closed) : closed.events.filterMap Event.creates = [] := by
    simpa using ends_creates [closed]
  have silent : s.log = s.log ++ [] := (List.append_nil _).symm
  -- a datagram of a source that has no client
  have unknown {left : Nat} {add : AddEnv ρ} {now : Int} {d : Datagram} {rest : List Datagram}
      (at_pc : s.pc = .peek left) (at_sock : s.sock = d :: rest)
      (absent : ∀ e ∈ l, e.2.addr.key ≠ d.src.sockaddr.key)
      (taken : advance H s (.peek false add now) = some s') :
      addedIn H s (.peek false add now) =
          (addClientUses s.registry.sessions.size H.ctx.role H.fd d.src.sockaddr add).1 ∧
        ((addClientUses s.registry.sessions.size H.ctx.role H.fd d.src.sockaddr add).2 = true ↔
          s'.pc ≠ .consume left .addFailed none) := by
    rcases findClient_cases sound.intact d.src with ⟨client, c, -, member, addr⟩ | ⟨missing, -⟩
    · exact absurd (congrArg SockaddrIn.key addr) (absent _ member)
    · have stepped := advance_eq_some.mp taken
      simp only [step, at_pc, peekStep, at_sock] at stepped
      obtain ⟨after, recognized, same⟩ := bind_ok stepped
      obtain rfl := Option.some.inj (Except.ok.inj same)
      refine ⟨?_, recognize_adds _ missing recognized⟩
      simp only [addedIn, at_pc, at_sock, missing]
  cases move with
  | arrive | send => exact ⟨_, rfl, .inl ⟨rfl, rfl⟩⟩
  | signal | interrupted | dispatch | leave | lastEvent | nextEvent | halt =>
    exact ⟨[], silent, .inl ⟨rfl, rfl⟩⟩
  | drained left failed add now at_pc idle =>
    refine ⟨[], silent, .inl ⟨?_, rfl⟩⟩
    rcases idle with rfl | empty
    · rfl
    · cases failed <;> simp [addedIn, empty]
  | sweep => exact ⟨_, List.append_assoc _ _ _, .inl ⟨rfl, by simp [Event.creates]⟩⟩
  | known left add now d rest client c sid registry at_pc at_sock member addr =>
    refine ⟨_, rfl, .inl ⟨?_, rfl⟩⟩
    rcases findClient_cases sound.intact d.src with ⟨client, c, found, -⟩ | ⟨-, absent⟩
    · simp only [addedIn, at_pc, at_sock, found]
    · exact absurd (congrArg SockaddrIn.key addr) (absent _ member)
  | refused left add now d rest registry at_pc at_sock absent =>
    obtain ⟨called, outcome⟩ := unknown at_pc at_sock absent taken
    refine ⟨_, rfl, .inr ⟨_, add, called, ?_⟩⟩
    rw [if_neg (fun made => outcome.mp made rfl)]
    rfl
  | admitted left add now d rest client registry at_pc at_sock absent =>
    obtain ⟨called, outcome⟩ := unknown at_pc at_sock absent taken
    refine ⟨_, rfl, .inr ⟨_, add, called, ?_⟩⟩
    have inside : Pc.engine left client .handshake [] ≠ .consume left .addFailed none := by simp
    rw [if_pos (outcome.mpr inside)]
    rfl
  | recv left client call seen c sid session len timeout select outcome received =>
    exact ⟨_, rfl, .inl ⟨rfl, (Fate.quiet sid received.fate).creates⟩⟩
  | finish left client call seen c sid session ret ssl accepted _ sessions _ _ _ _ _ _ settled =>
    obtain ⟨events, log, mute⟩ := settled.creates
    refine ⟨(if accepted then [.accepted sid c.lastActivity] else []) ++
      ([.returned sid call (callResult session ssl call ret).2.1] ++ events), ?_, .inl ⟨rfl, ?_⟩⟩
    · rw [log, List.append_assoc, List.append_assoc]
    · rw [List.filterMap_append, List.filterMap_append, mute]
      cases accepted <;> rfl
  | consume left why failed outcomes s₁ _ consumed =>
    obtain ⟨events, log, mute⟩ := consumed.creates
    exact ⟨events, log, .inl ⟨rfl, mute⟩⟩
  | discard left why client failed outcomes s₁ registry closed _ consumed =>
    obtain ⟨events, log, mute⟩ := consumed.creates
    refine ⟨events ++ closed.events, ?_, .inl ⟨rfl, ?_⟩⟩
    · rw [← List.append_assoc, ← log]
    · rw [List.filterMap_append, mute, ends]
      rfl
  | shutdown outcomes client registry closed => exact ⟨_, rfl, .inl ⟨rfl, ends closed⟩⟩

/-- The sessions of a step: those before and those created are those destroyed and those after. -/
theorem Ledger.exchange {events : List Event} (ledger : Ledger s l) (after : Ledger s' l')
    (log : s'.log = s.log ++ events) :
    (events.filterMap Event.creates ++ sessionsOf l).Perm
      (events.filterMap Event.destroys ++ sessionsOf l') := by
  have later := after.lifetime.balance
  rw [log, List.filterMap_append, List.filterMap_append, List.append_assoc] at later
  refine (List.perm_append_left_iff (s.log.filterMap Event.destroys)).mp ?_
  refine List.Perm.trans ?_ later
  refine (List.perm_append_comm.append_left _).trans ?_
  rw [← List.append_assoc]
  exact ledger.lifetime.balance.symm.append_right _

/-- The next session is none of the existing ones. -/
theorem Ledger.fresh (ledger : Ledger s l) : s.registry.sessions.size ∉ sessionsOf l := by
  intro member
  have created := (ledger.lifetime.mem_held.mp member).1
  exact Nat.lt_irrefl _ (ledger.lifetime.below _ created)

/-- A step uses the resources in order, and those in use are the ones of the clients. -/
theorem watch_step {held : Held Resource} (sound : Sound H s l) (ledger : Ledger s l)
    (taken : advance H s input = some s') (move : Move H s l input s' l')
    (perm : held.Perm (inUse (sessionsOf l))) :
    ∃ held', watch Use.next held (stepUses H s input) = some held' ∧
      held'.Perm (inUse (sessionsOf l')) := by
  have after := move.ledger sound ledger
  obtain ⟨events, log, creates⟩ := move.creates sound taken
  have exchange := ledger.exchange after log
  have removed : removedIn H s input = events.filterMap Event.destroys := by
    simp [removedIn, taken, log]
  have unique : (events.filterMap Event.destroys ++ sessionsOf l').Nodup := by
    have whole := after.lifetime.nodup
    rw [log, List.filterMap_append, List.append_assoc] at whole
    exact (List.nodup_append.mp whole).2.1
  -- first the call of `add_client`, if there is one
  obtain ⟨middle, first, perm'⟩ : ∃ middle, watch Use.next held (addedIn H s input) = some middle ∧
      middle.Perm (inUse (events.filterMap Event.creates ++ sessionsOf l)) := by
    rcases creates with ⟨nothing, none_created⟩ | ⟨addr, add, called, created⟩
    · rw [nothing, none_created]
      exact ⟨held, rfl, perm⟩
    · obtain ⟨middle, accepted, perm'⟩ := watch_added ledger.fresh perm H.ctx.role H.fd addr add
      rw [called, created]
      refine ⟨middle, accepted, ?_⟩
      split at perm' <;> rename_i outcome <;> simpa [outcome] using perm'
  -- then the removals
  obtain ⟨held', last, perm''⟩ := watch_removals unique (perm'.trans (inUse_perm exchange))
  refine ⟨held', ?_, perm''⟩
  rw [stepUses, watch_append, first, Option.bind_some, removed]
  exact last

/-- What an account says is in use, and that it is what there is in memory. -/
structure Balances (s : State ρ) (account : List (Use Resource)) (live : List Nat)
    (held : Held Resource) : Prop where
  /-- Everything has been used in order. -/
  accepted : watch Use.next [] account = some held
  /-- The library, the context, the socket and the epoll instance are in use, and a node and a
  session for each live session. -/
  inUse : held.Perm (inUse live)
  /-- No session is live twice. -/
  unique : live.Nodup
  /-- The live sessions are those in memory. -/
  sessions : ∀ sid, sid ∈ live ↔ (s.registry.sessions.get? sid).isSome = true
  /-- The live sessions are those of the nodes in memory. -/
  nodes : ∀ sid, sid ∈ live ↔
    ∃ p c, s.registry.clients.get? p = some c ∧ c.dtlsSession = some sid
  /-- The live sessions are those that were created and not destroyed. -/
  recorded : ∀ sid, sid ∈ live ↔
    sid ∈ s.log.filterMap Event.creates ∧ sid ∉ s.log.filterMap Event.destroys

/-- The sessions of the clients are those in memory. -/
theorem Ledger.balances {account : List (Use Resource)} {held : Held Resource}
    (sound : Sound H s l) (ledger : Ledger s l) (accepted : watch Use.next [] account = some held)
    (perm : held.Perm (inUse (sessionsOf l))) : Balances s account (sessionsOf l) held where
  accepted := accepted
  inUse := perm
  unique := (List.nodup_append.mp ledger.lifetime.nodup).2.1
  sessions sid := by
    rw [sessionsOf, List.mem_filterMap]
    constructor
    · rintro ⟨e, entry, owns⟩
      obtain ⟨-, sid', session, -, owns', live, -⟩ := sound.intact.session e entry
      obtain rfl := Option.some.inj (owns.symm.trans owns')
      rw [live]
      rfl
    · intro live
      obtain ⟨session, found⟩ := Option.isSome_iff_exists.mp live
      exact sound.intact.owned sid session found
  nodes sid := by
    rw [sessionsOf, List.mem_filterMap]
    constructor
    · rintro ⟨⟨p, c⟩, entry, owns⟩
      obtain ⟨n, found, rfl⟩ := sound.intact.node entry
      exact ⟨p, n, found, owns⟩
    · rintro ⟨p, n, found, owns⟩
      obtain ⟨⟨p, c⟩, entry, rfl⟩ := List.mem_map.mp (sound.intact.nodes p n found)
      obtain ⟨n', found', rfl⟩ := sound.intact.node entry
      obtain rfl := Option.some.inj (found.symm.trans found')
      exact ⟨_, entry, owns⟩
  recorded sid := ledger.lifetime.mem_held

/-- In every run the account is in order and agrees with the memory. -/
theorem Accounted.balances {uses account : List (Use Resource)} {held : Held Resource}
    (made : watch Use.next [] uses = some held) (perm : held.Perm (inUse []))
    (reached : Accounted H uses (s, account)) :
    ∃ l held', Sound H s l ∧ Ledger s l ∧ Balances s account (sessionsOf l) held' := by
  obtain ⟨l, sound, ledger, held', accepted, perm'⟩ : ∃ l, Sound H s l ∧ Ledger s l ∧
      ∃ held', watch Use.next [] account = some held' ∧
        held'.Perm (inUse (sessionsOf l)) := by
    refine Observed.invariant (I := fun s account => ∃ l, Sound H s l ∧ Ledger s l ∧
      ∃ held', watch Use.next [] account = some held' ∧ held'.Perm (inUse (sessionsOf l)))
      (fun s starts => ⟨[], starts.sound, starts.ledger, held, made, perm⟩) ?_ reached
    intro s account input s' ⟨l, sound, ledger, held', accepted, perm'⟩ _ taken
    obtain ⟨l', move, sound', -⟩ := sound.advance taken
    obtain ⟨after, stepped, perm''⟩ := watch_step sound ledger taken move perm'
    refine ⟨l', sound', move.ledger sound ledger, after, ?_, perm''⟩
    rw [watch_append, accepted]
    exact stepped
  exact ⟨l, held', sound, ledger, ledger.balances sound accepted perm'⟩

/-- A step in which `add_client` fails leaves what is in use as it was. -/
theorem watch_refused {account : List (Use Resource)} {held : Held Resource} {d : Datagram}
    (sound : Sound H s l) (ledger : Ledger s l)
    (balances : Balances s account (sessionsOf l) held) (taken : advance H s input = some s')
    (log : s'.log = s.log ++ [.refused d]) :
    ∃ held', watch Use.next held (stepUses H s input) = some held' ∧ held'.Perm held := by
  obtain ⟨l', move, -⟩ := sound.advance taken
  obtain ⟨held', stepped, perm⟩ := watch_step sound ledger taken move balances.inUse
  have same : (sessionsOf l).Perm (sessionsOf l') :=
    ledger.exchange (move.ledger sound ledger) log
  exact ⟨held', stepped, perm.trans ((inUse_perm same.symm).trans balances.inUse.symm)⟩

end Run

end SpaceCaptain.Server
