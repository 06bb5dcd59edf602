import SpaceCaptain.Dtls.Engine
import SpaceCaptain.Library.Chain
import SpaceCaptain.Library.Heap

/-!
# The client registry: data and operations

The server keeps its clients in a singly linked list of heap nodes, each of which owns a DTLS
session. The operations of `server.c` on that list are written here pointer by pointer: every
read and write of a node goes through the heap, every loop follows `next`, and freed memory
stays recognizable. What the operations do to the list of clients is the subject of
`SpaceCaptain.Server.Intact`.
-/
namespace SpaceCaptain.Server

open SpaceCaptain.Dtls SpaceCaptain.Library

/-- `CLIENT_TIMEOUT_SECONDS`. -/
def clientTimeoutSeconds : Int := 30

/-- The fields of `client_session_t` other than its link. -/
structure Client where
  /-- The address of the client. -/
  addr : SockaddrIn
  /-- The length of that address. -/
  addrLen : Nat
  /-- The DTLS session; `none` is NULL. -/
  dtlsSession : Option Nat
  /-- When the client was created or last sent a datagram. -/
  lastActivity : Int
  /-- The handshake of the client has been completed. -/
  handshakeComplete : Bool
  deriving DecidableEq, Repr

/-- `client_session_t`. -/
structure ClientSession extends Client where
  /-- The next node of the list. -/
  next : Option Nat
  deriving DecidableEq, Repr

/-- The memory of the registry and its head pointer. -/
structure Registry (ρ : Type) where
  /-- The nodes. -/
  clients : Heap ClientSession
  /-- The DTLS sessions. -/
  sessions : Heap (Session ρ)
  /-- `g_clients`. -/
  gClients : Option Nat

variable {ρ : Type}

/-- The registry before the first client. -/
def Registry.empty : Registry ρ := ⟨.empty, .empty, none⟩

/-- The loop of `find_client`. -/
def findLoop (clients : Heap ClientSession) (addr : SockaddrIn) :
    Nat → Option Nat → Except Fault (Option Nat)
  | _, none => .ok none
  | 0, some _ => .error .diverges
  | fuel + 1, some client => do
    let c ← clients.load client
    if c.addr.key = addr.key then return some client
    else findLoop clients addr fuel c.next

/-- `find_client` — the first client with the IPv4 address and port. -/
def findClient (r : Registry ρ) (addr : SockaddrIn) : Except Fault (Option Nat) :=
  findLoop r.clients addr r.clients.size r.gClients

/-- What the calls inside `add_client` do. -/
structure AddEnv (ρ : Type) where
  /-- `calloc` of the node succeeds. -/
  allocated : Bool
  /-- `time(NULL)`. -/
  now : Int
  /-- The creation of the DTLS session. -/
  session : SessionEnv ρ

/-- `add_client` — the new client, or `none` for NULL. -/
def addClient (r : Registry ρ) (ctx : Context) (addr : SockaddrIn) (addrLen : Nat) (fd : Int)
    (env : AddEnv ρ) : Except Fault (Registry ρ × Option Nat) := do
  if !env.allocated then return (r, none)
  let node : ClientSession :=
    { addr, addrLen, dtlsSession := none, lastActivity := env.now, handshakeComplete := false
      next := none }
  let (clients, client) := r.clients.alloc node
  match sessionCreate (some ctx) fd (some addr) addrLen env.session with
  | .refused =>
    let clients ← clients.free client
    return ({ r with clients }, none)
  | .destroyed session =>
    let (sessions, partway) := r.sessions.alloc session
    let sessions ← sessions.free partway
    let clients ← clients.free client
    return ({ r with clients, sessions }, none)
  | .created session =>
    let (sessions, dtlsSession) := r.sessions.alloc session
    let clients ←
      clients.store client { node with dtlsSession := some dtlsSession, next := r.gClients }
    return ({ clients, sessions, gClients := some client }, some client)

/-- A `client_session_t **`: the head pointer or the link of a node. -/
inductive Link where
  | head
  | next (client : Nat)
  deriving DecidableEq, Repr

/-- `*pp`. -/
def Registry.deref (r : Registry ρ) : Link → Except Fault (Option Nat)
  | .head => .ok r.gClients
  | .next client => do return (← r.clients.load client).next

/-- `*pp = value`. -/
def Registry.assign (r : Registry ρ) (pp : Link) (value : Option Nat) :
    Except Fault (Registry ρ) :=
  match pp with
  | .head => .ok { r with gClients := value }
  | .next client => do
    let c ← r.clients.load client
    let clients ← r.clients.store client { c with next := value }
    return { r with clients }

/-- The loop of `remove_client` that looks for the link to a node. -/
def unlinkLoop (r : Registry ρ) (client : Nat) : Nat → Link → Except Fault Link
  | 0, _ => .error .diverges
  | fuel + 1, pp => do
    match ← r.deref pp with
    | none => return pp
    | some p => if p = client then return pp else unlinkLoop r client fuel (.next p)

/-- A DTLS session that was closed and destroyed, with the packets of its closing. -/
structure Closed where
  /-- The session. -/
  session : Nat
  /-- The address its packets went to. -/
  dest : SockaddrIn
  /-- The packets handed to `udp_send`, and what `sendto` did. -/
  sends : List (Bytes × SendOutcome)
  deriving DecidableEq, Repr

/-- `remove_client` — unlink the node, close and destroy its session, and free the node. -/
def removeClient (E : Engine ρ) (r : Registry ρ) (client : Nat) (outcomes : List SendOutcome) :
    Except Fault (Registry ρ × Option Closed) := do
  let _ ← r.clients.load client
  let pp ← unlinkLoop r client (r.clients.size + 1) .head
  let r ← match ← r.deref pp with
    | some _ => do
      let c ← r.clients.load client
      r.assign pp c.next
    | none => pure r
  let c ← r.clients.load client
  match c.dtlsSession with
  | some dtlsSession =>
    let session ← r.sessions.load dtlsSession
    let packets := E.close session.ssl outcomes
    let sessions ← r.sessions.free dtlsSession
    let clients ← r.clients.free client
    return ({ r with clients, sessions },
      some ⟨dtlsSession, session.clientAddr,
        packets.mapIdx fun i bytes => (bytes, outcomes.getD i .sent)⟩)
  | none =>
    let clients ← r.clients.free client
    return ({ r with clients }, none)

/-- The loop of `check_client_timeouts`. -/
def sweepLoop (E : Engine ρ) (now : Int) (outcomes : Nat → List SendOutcome) :
    Nat → Registry ρ → Option Nat → Except Fault (Registry ρ × List Closed)
  | _, r, none => .ok (r, [])
  | 0, _, some _ => .error .diverges
  | fuel + 1, r, some client => do
    let c ← r.clients.load client
    if clientTimeoutSeconds < now - c.lastActivity then
      let (r, closed) ← removeClient E r client (outcomes client)
      let (r, rest) ← sweepLoop E now outcomes fuel r c.next
      return (r, closed.toList ++ rest)
    else sweepLoop E now outcomes fuel r c.next

/-- `check_client_timeouts` — `outcomes` is what `sendto` does while each client is closed. -/
def checkClientTimeouts (E : Engine ρ) (r : Registry ρ) (now : Int)
    (outcomes : Nat → List SendOutcome) : Except Fault (Registry ρ × List Closed) :=
  sweepLoop E now outcomes r.clients.size r r.gClients

/-- Write some fields of a node. -/
def Registry.modify (r : Registry ρ) (client : Nat) (edit : Client → Client) :
    Except Fault (Registry ρ) := do
  let c ← r.clients.load client
  let clients ← r.clients.store client { edit c.toClient with next := c.next }
  return { r with clients }

end SpaceCaptain.Server
