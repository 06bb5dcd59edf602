import SpaceCaptain.Dtls.Session
import SpaceCaptain.Library.Resource

/-!
# The parts of contexts and sessions from their creation to their destruction

A DTLS context consists of its structure, seven objects of the library, and for a client the copy
of the pinned hash; a session of its structure and one object. The creations are written down here
statement by statement with what they create, the flags they set, and what `goto error` takes back,
and the destructions with what the flags let them release. An object uses what it keeps a pointer
to until its own release: the configuration points to the random numbers, the certificate, the key
and the cookies, and a session to the configuration, the context and the caller's socket.
-/
namespace SpaceCaptain.Dtls

open SpaceCaptain.Library

/-- The parts of `dtls_context`. -/
inductive ContextPart where
  /-- The structure itself. -/
  | memory
  | entropy
  | ctrDrbg
  | conf
  | cert
  | pkey
  | cookieCtx
  /-- The copy of the pinned hash. -/
  | pinnedCertHash
  deriving DecidableEq, Repr

/-- The resources that `dtls.c` deals with. -/
inductive Resource where
  /-- The initialised library: `g_dtls_initialized`. -/
  | library
  /-- The context. -/
  | context (part : ContextPart)
  /-- The structure of a session. -/
  | session (id : Nat)
  /-- The `mbedtls_ssl_context` inside a session. -/
  | ssl (id : Nat)
  /-- The caller's socket. -/
  | socket
  deriving DecidableEq, Repr

/-- The flags and the pointer of a context that say what exists. -/
structure Flags where
  rngInitialized : Bool
  configInitialized : Bool
  certInitialized : Bool
  pkeyInitialized : Bool
  cookieInitialized : Bool
  /-- `pinned_cert_hash` is not NULL. -/
  pinned : Bool
  deriving DecidableEq, Repr

/-- The flags after `calloc`. -/
def Flags.zero : Flags := ⟨false, false, false, false, false, false⟩

/-- `sc_dtls_init` — what it does with the library, and `g_dtls_initialized` after it. -/
def initLibrary (initialized : Bool) : List (Use Resource) × Bool :=
  (if initialized then [] else [.create .library []], true)

/-- `sc_dtls_cleanup`. -/
def cleanupLibrary (initialized : Bool) : List (Use Resource) × Bool :=
  (if initialized then [.release .library] else [], false)

/-- The release of a part when its flag is set. -/
def releaseIf (flag : Bool) (part : ContextPart) : List (Use Resource) :=
  if flag then [.release (.context part)] else []

/-- `sc_dtls_context_destroy`. -/
def contextDestroyUses (flags : Flags) : List (Use Resource) :=
  releaseIf flags.configInitialized .conf ++ releaseIf flags.certInitialized .cert ++
    releaseIf flags.pkeyInitialized .pkey ++ releaseIf flags.cookieInitialized .cookieCtx ++
    releaseIf flags.rngInitialized .ctrDrbg ++ releaseIf flags.rngInitialized .entropy ++
    releaseIf flags.pinned .pinnedCertHash ++ [.release (.context .memory)]

/-- A part is initialised inside the context. -/
def part (p : ContextPart) : Use Resource := .create (.context p) [.context .memory]

/-- A part of the context keeps a pointer to another one. -/
def points (p target : ContextPart) : Use Resource := .refer (.context p) (.context target)

/-- `goto error`. -/
def contextFails (uses : List (Use Resource)) (flags : Flags) :
    List (Use Resource) × Option Flags :=
  (uses ++ contextDestroyUses flags, none)

/-- The last part of `sc_dtls_context_create`, which stores the pinned hash of a client. -/
def contextPin (role : Role) (pinnedCertHash : Option Bytes) (pinnedCertHashLen : Nat)
    (env : ContextEnv) (uses : List (Use Resource)) (flags : Flags) :
    List (Use Resource) × Option Flags :=
  if role = .client ∧ pinnedCertHash.isSome ∧ pinnedCertHashLen = 32 then
    if !env.pinAllocated then contextFails uses flags
    else (uses ++ [part .pinnedCertHash], some { flags with pinned := true })
  else (uses, some flags)

/-- The middle part of `sc_dtls_context_create`, which loads the certificate of a server and sets
up its cookies. -/
def contextServer (certPath keyPath : Option String) (env : ContextEnv)
    (uses : List (Use Resource)) (flags : Flags) :
    List (Use Resource) × Option Flags :=
  if certPath = none ∨ keyPath = none then contextFails uses flags
  else
    let uses := uses ++ [part .cert, part .pkey]
    let flags := { flags with certInitialized := true, pkeyInitialized := true }
    if !env.certParsed then contextFails uses flags
    else if !env.keyParsed then contextFails uses flags
    else if !env.ownCert then contextFails uses flags
    else
      let uses := uses ++ [points .conf .cert, points .conf .pkey, part .cookieCtx]
      let flags := { flags with cookieInitialized := true }
      if !env.cookieSetup then contextFails uses flags
      else (uses ++ [points .conf .cookieCtx], some flags)

/-- `sc_dtls_context_create` — what it does with the parts, and the flags of the new context, or
`none` for NULL. -/
def contextCreateUses (initialized : Bool) (role : Role) (certPath keyPath : Option String)
    (pinnedCertHash : Option Bytes) (pinnedCertHashLen : Nat) (env : ContextEnv) :
    List (Use Resource) × Option Flags :=
  if !initialized then ([], none)
  else if !env.allocated then ([], none)
  else
    let uses : List (Use Resource) :=
      [.create (.context .memory) [.library], part .entropy, part .ctrDrbg]
    let flags := { Flags.zero with rngInitialized := true }
    if !env.seeded then contextFails uses flags
    else
      let uses := uses ++ [points .ctrDrbg .entropy, part .conf]
      let flags := { flags with configInitialized := true }
      if !env.defaults then contextFails uses flags
      else
        let uses := uses ++ [points .conf .ctrDrbg]
        match role with
        | .client => contextPin role pinnedCertHash pinnedCertHashLen env uses flags
        | .server =>
          match contextServer certPath keyPath env uses flags with
          | (uses, none) => (uses, none)
          | (uses, some flags) => contextPin role pinnedCertHash pinnedCertHashLen env uses flags

/-- `sc_dtls_session_destroy`. -/
def sessionDestroyUses (id : Nat) : List (Use Resource) :=
  [.release (.ssl id), .release (.session id)]

/-- `sc_dtls_session_create` on a context — what it does with the session, and whether it returns
one. -/
def sessionCreateUses {ρ : Type*} (id : Nat) (role : Role) (fd : Int)
    (clientAddr : Option SockaddrIn) (env : SessionEnv ρ) : List (Use Resource) × Bool :=
  if fd < 0 then ([], false)
  else if !env.allocated then ([], false)
  else
    let uses : List (Use Resource) :=
      [.create (.session id) [.context .memory, .socket], .create (.ssl id) [.session id]]
    if !env.setup then (uses ++ sessionDestroyUses id, false)
    else
      let uses := uses ++ [.refer (.ssl id) (.context .conf)]
      if role = .server ∧ clientAddr.isSome ∧ !env.transportId then
        (uses ++ sessionDestroyUses id, false)
      else if !env.nonblocking then (uses ++ sessionDestroyUses id, false)
      else (uses, true)

/-- The parts of a complete context, the latest first, each with those it uses. -/
def contextParts : Role → Bool → Held Resource
  | .server, _ =>
    [(.context .cookieCtx, [.context .memory]),
      (.context .pkey, [.context .memory]), (.context .cert, [.context .memory]),
      (.context .conf, [.context .cookieCtx, .context .pkey, .context .cert, .context .ctrDrbg,
        .context .memory]),
      (.context .ctrDrbg, [.context .entropy, .context .memory]),
      (.context .entropy, [.context .memory]), (.context .memory, [.library])]
  | .client, pinned =>
    (if pinned then [(.context .pinnedCertHash, [.context .memory])] else []) ++
      [(.context .conf, [.context .ctrDrbg, .context .memory]),
        (.context .ctrDrbg, [.context .entropy, .context .memory]),
        (.context .entropy, [.context .memory]), (.context .memory, [.library])]

/-- The flags of a complete context. -/
def contextFlags (role : Role) (pinned : Bool) : Flags :=
  ⟨true, true, role = .server, role = .server, role = .server, role = .client && pinned⟩

/-- The initialised library and nothing else. -/
def ready : Held Resource := [(.library, [])]

/-- The resource is a part of the context. -/
def Resource.inContext : Resource → Bool
  | .context _ => true
  | .library | .session _ | .ssl _ | .socket => false

/-- Only parts of the context are touched. -/
abbrev Inside (uses : List (Use Resource)) : Prop := ∀ use ∈ uses, use.subject.inContext = true

/-- How a creation on the initialised library ends. -/
inductive Made (role : Role) : List (Use Resource) × Option Flags → Prop
  /-- Everything that was made is released again. -/
  | nothing (uses : List (Use Resource)) (undone : watch Use.next ready uses = some ready)
      (inside : Inside uses) : Made role (uses, none)
  /-- The context is complete. -/
  | all (uses : List (Use Resource)) (pinned : Bool)
      (made : watch Use.next ready uses = some (contextParts role pinned ++ ready))
      (inside : Inside uses) : Made role (uses, some (contextFlags role pinned))

section Creation

variable (certPath keyPath : Option String) (pinnedCertHash : Option Bytes)
  (pinnedCertHashLen : Nat) (env : ContextEnv)

/-- What every creation that gets so far has done: random numbers and a configuration. -/
def configured : List (Use Resource) :=
  [.create (.context .memory) [.library], part .entropy, part .ctrDrbg] ++
    [points .ctrDrbg .entropy, part .conf] ++ [points .conf .ctrDrbg]

/-- The flags there. -/
def configuredFlags : Flags := ⟨true, true, false, false, false, false⟩

/-- A client's context is all or nothing. -/
theorem contextPin_made : Made .client
    (contextPin .client pinnedCertHash pinnedCertHashLen env configured configuredFlags) := by
  unfold contextPin
  split
  · split
    · exact .nothing _ (by decide) (by decide)
    · exact .all _ true (by decide) (by decide)
  · exact .all _ false (by decide) (by decide)

/-- A server's context is all or nothing. -/
theorem contextServer_made :
    Made .server (contextServer certPath keyPath env configured configuredFlags) := by
  unfold contextServer
  split
  · exact .nothing _ (by decide) (by decide)
  split
  · exact .nothing _ (by decide) (by decide)
  split
  · exact .nothing _ (by decide) (by decide)
  split
  · exact .nothing _ (by decide) (by decide)
  split
  · exact .nothing _ (by decide) (by decide)
  · exact .all _ false (by decide) (by decide)

/-- A creation of a context is all or nothing. -/
theorem contextCreateUses_made (role : Role) :
    Made role (contextCreateUses true role certPath keyPath pinnedCertHash
      pinnedCertHashLen env) := by
  unfold contextCreateUses
  split
  · exact .nothing _ (by decide) (by decide)
  split
  · exact .nothing _ (by decide) (by decide)
  split
  · exact .nothing _ (by decide) (by decide)
  split
  · exact .nothing _ (by decide) (by decide)
  cases role with
  | client => exact contextPin_made pinnedCertHash pinnedCertHashLen env
  | server =>
    have server := contextServer_made certPath keyPath env
    change Made .server (match contextServer certPath keyPath env configured configuredFlags with
      | (uses, none) => (uses, none)
      | (uses, some flags) => (uses, some flags))
    generalize contextServer certPath keyPath env configured configuredFlags = result at server ⊢
    cases server with
    | nothing uses undone inside => exact .nothing uses undone inside
    | all uses pinned made inside => exact .all uses pinned made inside

/-- The creation by its parts ends as the creation by its data. -/
theorem contextCreate_flags (role : Role) :
    (contextCreate true role certPath keyPath pinnedCertHash pinnedCertHashLen env).map
        (fun ctx => ctx.pinnedCertHash.isSome) =
      (contextCreateUses true role certPath keyPath pinnedCertHash pinnedCertHashLen env).2.map
        Flags.pinned := by
  obtain ⟨allocated, seeded, defaults, certParsed, keyParsed, ownCert, cookieSetup,
    pinAllocated⟩ := env
  cases allocated
  · rfl
  cases seeded
  · rfl
  cases defaults
  · rfl
  cases role with
  | client =>
    cases pinnedCertHash with
    | none => rfl
    | some hash =>
      by_cases whole : pinnedCertHashLen = 32
      · subst whole
        cases pinAllocated <;> rfl
      · simp [contextCreate, contextCreateUses, contextPin, whole, Flags.zero]
  | server =>
    cases certPath with
    | none => rfl
    | some certPath =>
      cases keyPath with
      | none => rfl
      | some keyPath =>
        cases certParsed
        · rfl
        cases keyParsed
        · rfl
        cases ownCert
        · rfl
        cases cookieSetup
        · rfl
        · cases pinnedCertHash <;> rfl

end Creation

/-- A complete context is destroyed whole. -/
theorem contextDestroyUses_whole (role : Role) (pinned : Bool) :
    watch Use.next (contextParts role pinned ++ ready)
        (contextDestroyUses (contextFlags role pinned)) = some ready ∧
      Inside (contextDestroyUses (contextFlags role pinned)) := by
  cases role <;> cases pinned <;> exact ⟨by decide, by decide⟩

/-- The structure of a context is one of its parts, and uses the library. -/
theorem memory_held (role : Role) (pinned : Bool) :
    (.context .memory, [.library]) ∈ contextParts role pinned := by
  cases role <;> cases pinned <;> decide

/-- The parts of a session, the latest first, each with those it uses. -/
def sessionParts (id : Nat) : Held Resource :=
  [(.ssl id, [.context .conf, .session id]), (.session id, [.context .memory, .socket])]

/-- What a session can be created beside: its context and socket exist, and it does not. -/
structure Hosts (held : Held Resource) (id : Nat) : Prop where
  closed : held.Closed
  memory : .context .memory ∈ held.names
  conf : .context .conf ∈ held.names
  socket : .socket ∈ held.names
  session : .session id ∉ held.names
  ssl : .ssl id ∉ held.names

section Sessions

variable {held : Held Resource} {id : Nat}

/-- The two parts of a session are created. -/
theorem Hosts.created (hosts : Hosts held id) :
    watch Use.next held
        [.create (.session id) [.context .memory, .socket], .create (.ssl id) [.session id]] =
      some ((.ssl id, [.session id]) :: (.session id, [.context .memory, .socket]) :: held) := by
  have memory := hosts.memory
  have socket := hosts.socket
  have session := hosts.session
  have ssl := hosts.ssl
  simp_all [Use.next, Held.names]

/-- The object of a session is new beside its structure. -/
theorem Hosts.fresh (hosts : Hosts held id) :
    .ssl id ∉ Held.names ((.session id, [.context .memory, .socket]) :: held) := by
  have distinct : Resource.ssl id ≠ .session id := nofun
  exact List.not_mem_cons_of_ne_of_not_mem distinct hosts.ssl

/-- A session is destroyed whole, whatever its object used. -/
theorem Hosts.destroyed (hosts : Hosts held id) (needs : List Resource) :
    watch Use.next
        ((.ssl id, needs) :: (.session id, [.context .memory, .socket]) :: held)
        (sessionDestroyUses id) = some held := by
  have closed : Held.Closed ((.session id, [.context .memory, .socket]) :: held) := by
    intro h member k used
    rcases List.mem_cons.mp member with rfl | old
    · have known : k = .context .memory ∨ k = .socket := by simpa using used
      rcases known with rfl | rfl
      · exact List.mem_cons_of_mem _ hosts.memory
      · exact List.mem_cons_of_mem _ hosts.socket
    · exact List.mem_cons_of_mem _ (hosts.closed h old k used)
  have first := Use.next_undo closed hosts.fresh needs
  have second := Use.next_undo hosts.closed hosts.session [.context .memory, .socket]
  rw [sessionDestroyUses, watch_cons, first, Option.bind_some, watch_cons, second]
  rfl

/-- The configuration is linked to a new session. -/
theorem Hosts.linked (hosts : Hosts held id) :
    Use.next ((.ssl id, [.session id]) :: (.session id, [.context .memory, .socket]) :: held)
        (.refer (.ssl id) (.context .conf)) = some (sessionParts id ++ held) := by
  have rest : Held.link ((.session id, [.context .memory, .socket]) :: held) (.ssl id)
      (.context .conf) = (.session id, [.context .memory, .socket]) :: held :=
    Held.link_absent hosts.fresh _
  have present : .ssl id ∈ Held.names
      ((.ssl id, [.session id]) :: (.session id, [.context .memory, .socket]) :: held) :=
    List.mem_cons_self
  have known : .context .conf ∈ Held.names
      ((.ssl id, [.session id]) :: (.session id, [.context .memory, .socket]) :: held) :=
    List.mem_cons_of_mem _ (List.mem_cons_of_mem _ hosts.conf)
  rw [Use.next, if_pos ⟨present, known⟩]
  refine congrArg some ?_
  rw [Held.link, List.map_cons, if_pos rfl]
  exact congrArg _ rest

/-- What a creation of a session does that returns one. -/
def sessionMade (id : Nat) : List (Use Resource) :=
  [.create (.session id) [.context .memory, .socket], .create (.ssl id) [.session id]] ++
    [.refer (.ssl id) (.context .conf)]

/-- A creation of a session that returns one has gone all the way. -/
theorem sessionCreateUses_complete {ρ : Type*} {role : Role} {fd : Int}
    {clientAddr : Option SockaddrIn} {env : SessionEnv ρ}
    (created : (sessionCreateUses id role fd clientAddr env).2 = true) :
    (sessionCreateUses id role fd clientAddr env).1 = sessionMade id := by
  revert created
  unfold sessionCreateUses
  split
  · intro failed
    cases failed
  split
  · intro failed
    cases failed
  split
  · intro failed
    cases failed
  split
  · intro failed
    cases failed
  split
  · intro failed
    cases failed
  · exact fun _ => rfl

/-- A session is created whole. -/
theorem Hosts.made (hosts : Hosts held id) :
    watch Use.next held (sessionMade id) = some (sessionParts id ++ held) := by
  rw [sessionMade, watch_append, hosts.created, Option.bind_some, watch_cons, hosts.linked]
  rfl

/-- A creation of a session is all or nothing. -/
theorem sessionCreateUses_made {ρ : Type*} (hosts : Hosts held id) (role : Role) (fd : Int)
    (clientAddr : Option SockaddrIn) (env : SessionEnv ρ) :
    watch Use.next held (sessionCreateUses id role fd clientAddr env).1 =
      some (if (sessionCreateUses id role fd clientAddr env).2 then sessionParts id ++ held
        else held) := by
  have undone := hosts.destroyed [.session id]
  have undone_later := hosts.destroyed [.context .conf, .session id]
  unfold sessionCreateUses
  split
  · rfl
  split
  · rfl
  split
  · rw [watch_append, hosts.created]
    exact undone
  have made : watch Use.next held
      ([.create (.session id) [.context .memory, .socket], .create (.ssl id) [.session id]] ++
        [.refer (.ssl id) (.context .conf)]) = some (sessionParts id ++ held) := hosts.made
  split
  · rw [watch_append, made]
    exact undone_later
  split
  · rw [watch_append, made]
    exact undone_later
  · exact made

/-- While a session uses the configuration, the context cannot be destroyed in order. -/
theorem context_in_use (used : (.ssl id, [.context .conf, .session id]) ∈ held)
    (role : Role) (pinned : Bool) :
    watch Use.next held (contextDestroyUses (contextFlags role pinned)) = none := by
  have refused : Use.next held (.release (.context .conf)) = none :=
    Use.next_busy used nofun List.mem_cons_self
  have first : contextDestroyUses (contextFlags role pinned) =
      .release (.context .conf) :: (contextDestroyUses (contextFlags role pinned)).tail := by
    cases role <;> cases pinned <;> rfl
  rw [first, watch_cons, refused]
  rfl

/-- The creation by its parts ends as the creation by its data. -/
theorem sessionCreate_uses {ρ : Type*} (ctx : Context) (fd : Int)
    (clientAddr : Option SockaddrIn) (addrLen : Nat) (env : SessionEnv ρ) :
    (∃ session, sessionCreate (some ctx) fd clientAddr addrLen env = .created session) ↔
      (sessionCreateUses id ctx.role fd clientAddr env).2 = true := by
  simp only [sessionCreate, sessionCreateUses]
  repeat' split
  all_goals simp

end Sessions

/-- Nothing of the context is used from outside. -/
structure Unrelated (others : Held Resource) : Prop where
  /-- They are no parts of the context. -/
  names : ∀ r ∈ others.names, r.inContext = false
  /-- They use no part of it. -/
  uses : ∀ h ∈ others, ∀ r ∈ h.2, r.inContext = false

/-- What touches the context only leaves the unrelated alone. -/
theorem Unrelated.apart {others : Held Resource} (unrelated : Unrelated others)
    {uses : List (Use Resource)} (inside : Inside uses) : ∀ use ∈ uses, Apart others use := by
  intro use member
  have own := inside use member
  refine ⟨fun named => ?_, fun _ h held used => ?_⟩
  · simp [unrelated.names _ named] at own
  · simp [unrelated.uses h held _ used] at own

/-- The life of a context that was created beside other resources. -/
structure Life (ρ : Type) (role : Role) (base : Held Resource) (uses : List (Use Resource))
    (flags : Flags) : Prop where
  /-- It is created whole. -/
  created : watch Use.next base uses = some (contextParts role flags.pinned ++ base)
  /-- It is destroyed whole. -/
  destroyed : watch Use.next (contextParts role flags.pinned ++ base) (contextDestroyUses flags) =
    some base
  /-- Every part is released as often as it was created. -/
  once : ∀ r, (uses ++ contextDestroyUses flags).countP (Use.releases r) =
    (uses ++ contextDestroyUses flags).countP (Use.creates r)
  /-- The library is not cleaned up in order before the context is gone. -/
  library : Use.next (contextParts role flags.pinned ++ base) (.release .library) = none
  /-- A session on it is created whole or not at all, and destroyed whole. -/
  session : ∀ (id : Nat) (fd : Int) (clientAddr : Option SockaddrIn) (env : SessionEnv ρ),
    Hosts (contextParts role flags.pinned ++ base) id →
      watch Use.next (contextParts role flags.pinned ++ base)
          (sessionCreateUses id role fd clientAddr env).1 =
        some ((if (sessionCreateUses id role fd clientAddr env).2 then sessionParts id else []) ++
          (contextParts role flags.pinned ++ base)) ∧
      watch Use.next (sessionParts id ++ (contextParts role flags.pinned ++ base))
          (sessionDestroyUses id) = some (contextParts role flags.pinned ++ base)
  /-- A session that is returned has gone all the way. -/
  returned : ∀ (id : Nat) (ctx : Context) (fd : Int) (clientAddr : Option SockaddrIn)
    (addrLen : Nat) (env : SessionEnv ρ), ctx.role = role →
      ((∃ session, sessionCreate (some ctx) fd clientAddr addrLen env = .created session) ↔
        (sessionCreateUses id role fd clientAddr env).2 = true) ∧
      ((sessionCreateUses id role fd clientAddr env).2 = true →
        (sessionCreateUses id role fd clientAddr env).1 = sessionMade id)
  /-- The context is not destroyed in order before its sessions are gone. -/
  order : ∀ id, watch Use.next (sessionParts id ++ (contextParts role flags.pinned ++ base))
    (contextDestroyUses flags) = none

/-- Beside unrelated resources a context that was created lives its whole life in order. -/
theorem Unrelated.life {ρ : Type} {role : Role} {others : Held Resource}
    (unrelated : Unrelated others) (distinct : (ready ++ others).names.Nodup)
    {uses : List (Use Resource)} {pinned : Bool}
    (made : watch Use.next ready uses = some (contextParts role pinned ++ ready))
    (inside : Inside uses) :
    Life ρ role (ready ++ others) uses (contextFlags role pinned) := by
  have same : contextParts role (contextFlags role pinned).pinned = contextParts role pinned := by
    cases role <;> cases pinned <;> rfl
  obtain ⟨whole, inside_destroy⟩ := contextDestroyUses_whole role pinned
  have created := watch_frame (unrelated.apart inside) made
  have destroyed := watch_frame (unrelated.apart inside_destroy) whole
  rw [List.append_assoc] at created destroyed
  have both : watch Use.next (ready ++ others)
      (uses ++ contextDestroyUses (contextFlags role pinned)) = some (ready ++ others) := by
    rw [watch_append, created]
    exact destroyed
  constructor
  · rw [same]
    exact created
  · rw [same]
    exact destroyed
  · intro r
    have balance := (watch_balance distinct both r).1
    omega
  · have used := List.mem_append_left (ready ++ others)
      (memory_held role (contextFlags role pinned).pinned)
    exact Use.next_busy used nofun List.mem_cons_self
  · intro id fd clientAddr env hosts
    have whole := sessionCreateUses_made hosts role fd clientAddr env
    refine ⟨?_, hosts.destroyed _⟩
    rw [whole]
    split <;> rfl
  · rintro id ctx fd clientAddr addrLen env rfl
    exact ⟨sessionCreate_uses ctx fd clientAddr addrLen env, sessionCreateUses_complete⟩
  · intro id
    exact context_in_use (List.mem_append_left _ List.mem_cons_self) role pinned

/-- Beside anything unrelated to it, a context is created whole or not at all, and lives in order:
it is destroyed whole, and so are its sessions, which must be gone before. -/
theorem dtls_lifecycle {ρ : Type} (role : Role) (certPath keyPath : Option String)
    (pinnedCertHash : Option Bytes) (pinnedCertHashLen : Nat) (env : ContextEnv)
    {others : Held Resource} (unrelated : Unrelated others)
    (distinct : (ready ++ others).names.Nodup) {uses : List (Use Resource)}
    {result : Option Flags}
    (called : contextCreateUses true role certPath keyPath pinnedCertHash pinnedCertHashLen env =
      (uses, result)) :
    (contextCreate true role certPath keyPath pinnedCertHash pinnedCertHashLen env).map
        (fun ctx => ctx.pinnedCertHash.isSome) = result.map Flags.pinned ∧
      (result = none → watch Use.next (ready ++ others) uses = some (ready ++ others)) ∧
      ∀ flags, result = some flags → Life ρ role (ready ++ others) uses flags := by
  have agreement :=
    contextCreate_flags certPath keyPath pinnedCertHash pinnedCertHashLen env role
  have made := contextCreateUses_made certPath keyPath pinnedCertHash pinnedCertHashLen env role
  rw [called] at agreement made
  refine ⟨agreement, ?_⟩
  cases made with
  | nothing _ undone inside =>
    refine ⟨fun _ => watch_frame (unrelated.apart inside) undone, ?_⟩
    intro flags created
    cases created
  | all _ pinned made inside =>
    constructor
    · intro failed
      cases failed
    · intro flags created
      obtain rfl := Option.some.inj created
      exact unrelated.life distinct made inside

/-- A server whose socket is open, and every step of whose creation succeeds. -/
theorem dtls_lifecycle_server :
    Life Unit .server (ready ++ [(.socket, [])])
      (contextCreateUses true .server (some "server.crt") (some "server.key") none 0
        ⟨true, true, true, true, true, true, true, true⟩).1
      (contextFlags .server false) :=
  (dtls_lifecycle .server (some "server.crt") (some "server.key") none 0
    ⟨true, true, true, true, true, true, true, true⟩ ⟨by decide, by decide⟩ (by decide)
    rfl).2.2 _ rfl

end SpaceCaptain.Dtls
