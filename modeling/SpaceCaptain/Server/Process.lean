import SpaceCaptain.Server.Account

/-!
# The server process from its start to its end

`main` initialises the DTLS library, creates the context, the epoll instance and the socket, runs
the event loop, and takes everything back. This module writes the two ends of it down statement by
statement, with every place at which the start can fail, and joins them to the account of the loop
in between.
-/
namespace SpaceCaptain.Server

open SpaceCaptain.Dtls SpaceCaptain.Library

/-- The paths of the certificate and of the key that `main` uses: from the environment, below
`/etc/space-captain`, or below the working directory. `found` says which files `stat` finds. -/
def certificatePaths (crt key : Option String) (found : String → Bool) : String × String :=
  match crt, key with
  | some crt, some key => (crt, key)
  | _, _ =>
    let certPath := crt.getD "/etc/space-captain/server.crt"
    let keyPath := key.getD "/etc/space-captain/server.key"
    if !found certPath || !found keyPath then
      (".secrets/certs/server.crt", ".secrets/certs/server.key")
    else (certPath, keyPath)

/-- `set_nonblocking` — the results of the two calls of `fcntl` are given. -/
def setNonblocking (getFlags setFlags : Int) : Int := if getFlags = -1 then -1 else setFlags

/-- The results of the calls inside `create_udp_socket`. -/
structure SocketEnv where
  socket : Int
  /-- `setsockopt` of `SO_REUSEADDR`. -/
  reuseAddr : Int
  inetPton : Int
  bind : Int
  /-- `fcntl` with `F_GETFL`. -/
  getFlags : Int
  /-- `fcntl` with `F_SETFL`. -/
  setFlags : Int
  deriving DecidableEq, Repr

/-- The socket is opened. -/
def opened : List (Use Resource) := [.create (.dtls .socket) []]

/-- The socket is closed. -/
def closed : List (Use Resource) := [.release (.dtls .socket)]

/-- `create_udp_socket` — what it does with the socket, and the descriptor or -1. -/
def createUdpSocket (env : SocketEnv) : List (Use Resource) × Int :=
  if env.socket < 0 then ([], -1)
  else if env.reuseAddr < 0 then (opened ++ closed, -1)
  else if env.inetPton ≤ 0 then (opened ++ closed, -1)
  else if env.bind < 0 then (opened ++ closed, -1)
  else if setNonblocking env.getFlags env.setFlags < 0 then (opened ++ closed, -1)
  else (opened, env.socket)

/-- The results of the calls that `main` makes before its event loop. -/
structure SetupEnv where
  /-- `getenv` of `SC_SERVER_CRT`. -/
  crt : Option String
  /-- `getenv` of `SC_SERVER_KEY`. -/
  key : Option String
  /-- The files that `stat` finds. -/
  found : String → Bool
  context : ContextEnv
  /-- `sigaction` of `SIGINT`. -/
  sigint : Int
  /-- `sigaction` of `SIGTERM`. -/
  sigterm : Int
  /-- `epoll_create1`. -/
  epoll : Int
  socket : SocketEnv
  /-- `epoll_ctl`. -/
  epollCtl : Int

/-- What the event loop starts with. -/
structure Setup where
  /-- `g_dtls_ctx`. -/
  ctx : Context
  /-- Its flags. -/
  flags : Flags
  /-- `sock`. -/
  fd : Int

/-- The middle of `main`, from `sigaction` to `epoll_ctl`, on a context. -/
def setupSocket (env : SetupEnv) (ctx : Context) (flags : Flags) (uses : List (Use Resource)) :
    List (Use Resource) × Option Setup :=
  if env.sigint < 0 ∨ env.sigterm < 0 then
    (uses ++ dtls (contextDestroyUses flags) ++ dtls (cleanupLibrary true).1, none)
  else if env.epoll < 0 then (uses, none)
  else
    let uses := uses ++ [.create .epoll []]
    let sock := createUdpSocket env.socket
    let uses := uses ++ sock.1
    if sock.2 < 0 then (uses ++ [.release .epoll], none)
    else if env.epollCtl < 0 then (uses ++ closed ++ [.release .epoll], none)
    else (uses, some ⟨ctx, flags, sock.2⟩)

/-- What `sc_dtls_context_create` does with the parts of the context that `main` asks for. -/
def SetupEnv.made (env : SetupEnv) : List (Use Dtls.Resource) × Option Flags :=
  let paths := certificatePaths env.crt env.key env.found
  contextCreateUses true .server (some paths.1) (some paths.2) none 0 env.context

/-- The context that it returns. -/
def SetupEnv.ctx (env : SetupEnv) : Option Context :=
  let paths := certificatePaths env.crt env.key env.found
  contextCreate true .server (some paths.1) (some paths.2) none 0 env.context

/-- `main` before its event loop — what it does with the resources, and what the loop starts with,
or `none` when the process exits with 1. -/
def setup (env : SetupEnv) : List (Use Resource) × Option Setup :=
  let uses := dtls (initLibrary false).1 ++ dtls env.made.1
  match env.made.2, env.ctx with
  | some flags, some ctx => setupSocket env ctx flags uses
  | _, _ => (uses ++ dtls (cleanupLibrary true).1, none)

/-- `main` after its shutdown loop. -/
def teardown (flags : Flags) : List (Use Resource) :=
  closed ++ [.release .epoll] ++ dtls (contextDestroyUses flags) ++ dtls (cleanupLibrary true).1

/-- The library and the context. -/
def contextHeld : Held Resource := (contextParts .server false ++ ready).rename .dtls

/-- The context is created and the signal handlers are set. -/
def SetupEnv.late (env : SetupEnv) : Bool := env.ctx.isSome && 0 ≤ env.sigint && 0 ≤ env.sigterm

/-- How `main` comes to its event loop. -/
inductive Begun (env : SetupEnv) : List (Use Resource) × Option Setup → Prop
  /-- It exits, and has taken everything back. -/
  | undone (uses : List (Use Resource)) (clean : watch Use.next [] uses = some [])
      (early : env.late = false) : Begun env (uses, none)
  /-- It exits, and the library and the context stay. -/
  | left (uses : List (Use Resource)) (stays : watch Use.next [] uses = some contextHeld)
      (late : env.late = true) : Begun env (uses, none)
  /-- It enters the event loop. -/
  | serves (uses : List (Use Resource)) (held : Held Resource) (ctx : Context) (fd : Int)
      (made : watch Use.next [] uses = some held) (perm : held.Perm (inUse []))
      (same : env.ctx = some ctx) (valid : 0 ≤ fd) :
      Begun env (uses, some ⟨ctx, contextFlags .server false, fd⟩)

/-- `create_udp_socket` leaves a socket when it returns its descriptor, and none otherwise. -/
theorem createUdpSocket_cases (env : SocketEnv) :
    (∃ uses, createUdpSocket env = (uses, -1) ∧ (uses = [] ∨ uses = opened ++ closed)) ∨
      0 ≤ env.socket ∧ createUdpSocket env = (opened, env.socket) := by
  unfold createUdpSocket
  split
  · exact .inl ⟨_, rfl, .inl rfl⟩
  rename_i valid
  split
  · exact .inl ⟨_, rfl, .inr rfl⟩
  split
  · exact .inl ⟨_, rfl, .inr rfl⟩
  split
  · exact .inl ⟨_, rfl, .inr rfl⟩
  split
  · exact .inl ⟨_, rfl, .inr rfl⟩
  · exact .inr ⟨Int.not_lt.mp valid, rfl⟩

/-- The part of `main` after the creation of the context. -/
theorem setupSocket_begun {env : SetupEnv} {ctx : Context} {uses : List (Use Resource)}
    (same : env.ctx = some ctx) (reached : watch Use.next [] uses = some contextHeld) :
    Begun env (setupSocket env ctx (contextFlags .server false) uses) := by
  have after (rest : List (Use Resource)) : watch Use.next [] (uses ++ rest) =
      watch Use.next contextHeld rest := by rw [watch_append, reached, Option.bind_some]
  unfold setupSocket
  split
  · rename_i failed
    refine .undone _ ?_ ?_
    · rw [List.append_assoc, after]
      decide
    · simp only [SetupEnv.late, Bool.and_assoc, Bool.and_eq_false_iff, decide_eq_false_iff_not]
      exact .inr (by omega)
  rename_i handled
  have late : env.late = true := by
    simp only [SetupEnv.late, same, Option.isSome_some, Bool.true_and, Bool.and_eq_true,
      decide_eq_true_eq]
    omega
  split
  · exact .left _ reached late
  rcases createUdpSocket_cases env.socket with ⟨sock, failed, known⟩ | ⟨valid, opened_socket⟩
  · rw [failed]
    refine .left _ ?_ late
    rw [List.append_assoc, List.append_assoc, after]
    rcases known with rfl | rfl <;> decide
  · rw [opened_socket, if_neg (Int.not_lt.mpr valid)]
    split
    · refine .left _ ?_ late
      rw [List.append_assoc, List.append_assoc, List.append_assoc, after]
      dsimp only
      decide
    · refine .serves _ ((.dtls .socket, []) :: (.epoll, []) :: contextHeld) ctx _ ?_ ?_ same valid
      · rw [List.append_assoc, after]
        dsimp only
        decide
      · decide

/-- `main` before its event loop. -/
theorem setup_begun (env : SetupEnv) : Begun env (setup env) := by
  have made := contextCreateUses_made (some (certificatePaths env.crt env.key env.found).1)
    (some (certificatePaths env.crt env.key env.found).2) none 0 env.context .server
  have agreement := contextCreate_flags (some (certificatePaths env.crt env.key env.found).1)
    (some (certificatePaths env.crt env.key env.found).2) none 0 env.context .server
  change Made .server env.made at made
  change env.ctx.map _ = env.made.2.map _ at agreement
  have foreign : Foreign [] := fun h member => absurd member List.not_mem_nil
  have first : watch Use.next [] (dtls (initLibrary false).1) = some (ready.rename .dtls) := by
    decide
  unfold setup
  generalize env.made = result at made agreement ⊢
  cases made with
  | nothing uses undone inside =>
    have absent : env.ctx = none := by simpa using agreement
    have whole := watch_dtls foreign undone
    rw [List.append_nil] at whole
    rw [absent]
    refine .undone _ ?_ ?_
    · rw [List.append_assoc, watch_append, first, Option.bind_some, watch_append, whole]
      decide
    · simp [SetupEnv.late, absent]
  | all uses pinned complete inside =>
    obtain ⟨ctx, same, -⟩ := Option.map_eq_some_iff.mp agreement
    have whole := watch_dtls foreign complete
    rw [List.append_nil, List.append_nil] at whole
    have flags : contextFlags .server pinned = contextFlags .server false := rfl
    rw [same, flags]
    refine setupSocket_begun same ?_
    rw [watch_append, first, Option.bind_some, whole]
    rfl

/-- The event loop after a start, whatever the library is. -/
structure Serves {ρ : Type} (H : Host ρ) (uses : List (Use Resource)) (flags : Flags) : Prop where
  /-- `main` enters the loop in a state where its runs start. -/
  starts : ∀ buffer now, buffer.length = socketBufferSize → Starts H (start buffer now)
  /-- In every state of every run the account is in order and agrees with the memory. -/
  running : ∀ s account, Accounted H uses (s, account) →
    ∃ live held, Balances s account live held
  /-- A failed `add_client` leaves everything in use as it was. -/
  refused : ∀ s account, Accounted H uses (s, account) → ∀ input s' d,
    advance H s input = some s' → s'.log = s.log ++ [.refused d] →
      ∃ held held', watch Use.next [] account = some held ∧
        watch Use.next held (stepUses H s input) = some held' ∧ held'.Perm held
  /-- After the shutdown loop the rest of `main` releases everything in order. -/
  ended : ∀ s account, Accounted H uses (s, account) → s.pc = .halted →
    watch Use.next [] (account ++ teardown flags) = some []
  /-- In the whole life of the process every resource is released as often as it was created. -/
  once : ∀ s account, Accounted H uses (s, account) → s.pc = .halted → ∀ r,
    (account ++ teardown flags).countP (Use.releases r) =
      (account ++ teardown flags).countP (Use.creates r)

/-- After a start the event loop and the end of the process are in order. -/
theorem serves {ρ : Type} {H : Host ρ} {uses : List (Use Resource)} {held : Held Resource}
    (made : watch Use.next [] uses = some held) (perm : held.Perm (inUse []))
    (begins : ∀ buffer now, buffer.length = socketBufferSize → Starts H (start buffer now)) :
    Serves H uses (contextFlags .server false) := by
  have ended (s : State ρ) (account : List (Use Resource))
      (reached : Accounted H uses (s, account)) (halted : s.pc = .halted) :
      watch Use.next [] (account ++ teardown (contextFlags .server false)) = some [] := by
    obtain ⟨l, held', -, ledger, balances⟩ := reached.balances made perm
    obtain rfl := ledger.halted halted
    have released : watch Use.next (inUse []) (teardown (contextFlags .server false)) =
        some [] := by decide
    obtain ⟨rest, last, empty⟩ := watch_perm balances.inUse.symm released
    rw [watch_append, balances.accepted, Option.bind_some, last, List.nil_perm.mp empty]
  refine ⟨begins, ?_, ?_, ended, ?_⟩
  · intro s account reached
    obtain ⟨l, held', -, -, balances⟩ := reached.balances made perm
    exact ⟨_, held', balances⟩
  · intro s account reached input s' d taken log
    obtain ⟨l, held', sound, ledger, balances⟩ := reached.balances made perm
    obtain ⟨after, stepped, same⟩ := watch_refused sound ledger balances taken log
    exact ⟨held', after, balances.accepted, stepped, same⟩
  · intro s account reached halted
    exact watch_released (ended s account reached halted)

/-- Whatever the calls of `main` return before its event loop: either it exits with 1 and has taken
everything back, except the context and the library when the signal handlers were set; or it enters
the loop, and then, whatever happens there, everything is used in order, also where `add_client`
fails partway, and in the end everything is released once. -/
theorem process_lifecycle {ρ : Type} (env : SetupEnv) (engine : Engine ρ) (endian : Endian) :
    ((setup env).2 = none →
        watch Use.next [] (setup env).1 = some (if env.late then contextHeld else [])) ∧
      ∀ begun, (setup env).2 = some begun →
        Serves ⟨engine, endian, begun.ctx, begun.fd⟩ (setup env).1 begun.flags := by
  have begins := setup_begun env
  generalize setup env = result at begins ⊢
  cases begins with
  | undone uses clean early =>
    rw [early]
    refine ⟨fun _ => clean, ?_⟩
    intro begun entered
    cases entered
  | left uses stays late =>
    rw [late]
    refine ⟨fun _ => stays, ?_⟩
    intro begun entered
    cases entered
  | serves uses held ctx fd made perm same valid =>
    constructor
    · intro exits
      cases exits
    · intro begun entered
      obtain rfl := Option.some.inj entered
      refine serves made perm fun buffer now whole => ⟨⟨_, _, _, same⟩, buffer, now, whole, rfl⟩

/-- The environment of a start in which only `epoll_ctl` fails. -/
def unregistered : SetupEnv where
  crt := none
  key := none
  found _ := false
  context := ⟨true, true, true, true, true, true, true, true⟩
  sigint := 0
  sigterm := 0
  epoll := 4
  socket := ⟨3, 0, 1, 0, 2, 0⟩
  epollCtl := -1

/-- The environment of a start in which every call succeeds. -/
def registered : SetupEnv := { unregistered with epollCtl := 0 }

/-- The first `add_client` fails when its session is almost made. The client comes again, completes
its handshake, sends a message and gets its reply; then the server is told to shut down. -/
def refuseThenServe : List (Input Unit) :=
  [.arrive ⟨⟨1, 1⟩, [1]⟩, .poll (some 1) 0 0 (fun _ => []), .event,
    .peek false ⟨true, 0, ⟨true, (), true, false, true⟩⟩ 0, .consume false [],
    .arrive ⟨⟨1, 1⟩, [1]⟩, .peek false (addSucceeds 0 ()) 0, .recv .ready .normal, .finish [],
    .consume false [], .arrive ⟨⟨1, 1⟩, [9]⟩, .peek false (addSucceeds 0 ()) 0,
    .recv .ready .normal, .finish [], .send .sent, .finish [], .peek false (addSucceeds 0 ()) 0,
    .event, .signal, .leave, .shutdown [], .shutdown []]

/-- The host of a start. -/
def Setup.host (begun : Setup) : Host Unit := ⟨plain, .little, begun.ctx, begun.fd⟩

/-- The server has left its shutdown loop. -/
def Pc.ended : Pc → Bool
  | .halted => true
  | _ => false

/-- Then it has halted. -/
theorem Pc.halted_of_ended {pc : Pc} (ended : pc.ended = true) : pc = .halted := by
  cases pc with
  | halted => rfl
  | _ => contradiction

/-- In that run the descriptors, the context, the session that was almost made and the one that was
served are all released in the end. A start in which only `epoll_ctl` fails leaves the context. -/
theorem process_lifecycle_refuseThenServe :
    (∃ begun s account, (setup registered).2 = some begun ∧
      runGuarded (observe (advance begun.host) fun s input account =>
          account ++ stepUses begun.host s input) (fun _ _ => true)
        (startZero, (setup registered).1) refuseThenServe = some (s, account) ∧
      s.pc = .halted ∧ s.log.count (.refused ⟨⟨1, 1⟩, [1]⟩) = 1 ∧
      s.log.count (.returned 1 (.write [9]) .ok) = 1 ∧
      account.countP (Use.creates (.dtls (.session 0))) = 1 ∧
      watch Use.next [] (account ++ teardown begun.flags) = some []) ∧
    (setup unregistered).2.isNone = true ∧
    watch Use.next [] (setup unregistered).1 = some contextHeld := by
  constructor
  · obtain ⟨begun, entered, same⟩ : ∃ begun, (setup registered).2 = some begun ∧
        begun = ⟨serverContext, contextFlags .server false, 3⟩ := ⟨_, rfl, rfl⟩
    have ran : (runGuarded (observe (advance begun.host) fun s input account =>
          account ++ stepUses begun.host s input) (fun _ _ => true)
        (startZero, (setup registered).1) refuseThenServe).map (fun x =>
          (x.1.pc.ended, x.1.log.count (.refused ⟨⟨1, 1⟩, [1]⟩),
            x.1.log.count (.returned 1 (.write [9]) .ok),
            x.2.countP (Use.creates (.dtls (.session 0))))) = some (true, 1, 1, 1) := by
      subst same
      decide +kernel
    obtain ⟨⟨s, account⟩, executed, facts⟩ := Option.map_eq_some_iff.mp ran
    simp only [Prod.mk.injEq] at facts
    obtain ⟨ended, refused, replied, made⟩ := facts
    have serves := (process_lifecycle registered plain .little).2 begun entered
    have starts : Starts begun.host startZero := serves.starts _ 0 List.length_replicate
    have reached : Accounted begun.host (setup registered).1 (s, account) :=
      reach_of_runGuarded _ (.start ⟨starts, rfl⟩) executed
    have halted := Pc.halted_of_ended ended
    exact ⟨begun, s, account, entered, executed, halted, refused, replied, made,
      serves.ended s account reached halted⟩
  · have exits : (setup unregistered).2 = none := rfl
    exact ⟨by rw [exits]; rfl, (process_lifecycle unregistered plain .little).1 exits⟩

end SpaceCaptain.Server
