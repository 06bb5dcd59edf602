import SpaceCaptain.Dtls.Socket

/-!
# DTLS contexts and sessions

`dtls.c` wraps one mbedTLS context per process and one mbedTLS session per peer. This module
owns their data, their creation, the callbacks that the library calls, and the mapping of the
library's results to the program's. The state of the library inside a session has an
arbitrary type; what the library does with it is the subject of `SpaceCaptain.Dtls.Engine`.
-/
namespace SpaceCaptain.Dtls

/-- `dtls_role_t`. -/
inductive Role where
  | client
  | server
  deriving DecidableEq, Repr

/-- `MBEDTLS_SSL_VERIFY_NONE` and its two siblings. -/
inductive Authmode where
  | none
  | optional
  | required
  deriving DecidableEq, Repr

/-- `dtls_result_t`. -/
inductive DtlsResult where
  | ok
  | errorInit
  | errorHandshake
  | errorHandshakeTimeout
  | errorRead
  | errorWrite
  | errorWouldBlock
  | errorPeerClosed
  | errorInvalidParams
  | errorMemory
  | errorCertVerify
  deriving DecidableEq, Repr

/-- `dtls_context` — the fields that sessions read. -/
structure Context where
  /-- Which side of the protocol the sessions play. -/
  role : Role
  /-- The verification mode of the library's configuration. -/
  authmode : Authmode
  /-- The copy of the expected certificate hash; `none` is NULL. -/
  pinnedCertHash : Option Bytes
  /-- The length of that copy. -/
  pinnedCertHashLen : Nat
  /-- The read timeout of the library's configuration, in milliseconds. -/
  readTimeout : Nat
  deriving DecidableEq, Repr

/-- What the calls inside `sc_dtls_context_create` do; a field is true when the call succeeds. -/
structure ContextEnv where
  /-- `calloc` of the context. -/
  allocated : Bool
  /-- `mbedtls_ctr_drbg_seed`. -/
  seeded : Bool
  /-- `mbedtls_ssl_config_defaults`. -/
  defaults : Bool
  /-- `mbedtls_x509_crt_parse_file`. -/
  certParsed : Bool
  /-- `mbedtls_pk_parse_keyfile`. -/
  keyParsed : Bool
  /-- `mbedtls_ssl_conf_own_cert`. -/
  ownCert : Bool
  /-- `mbedtls_ssl_cookie_setup`. -/
  cookieSetup : Bool
  /-- `malloc` of the copy of the pinned hash. -/
  pinAllocated : Bool
  deriving DecidableEq, Repr

/-- `sc_dtls_context_create` — the new context, or `none` for NULL. The first argument is
`g_dtls_initialized`; a caller without a pin passes `none` and a length of 0. -/
def contextCreate (initialized : Bool) (role : Role) (certPath keyPath : Option String)
    (pinnedCertHash : Option Bytes) (pinnedCertHashLen : Nat) (env : ContextEnv) :
    Option Context :=
  if !initialized then none
  else if !env.allocated then none
  else if !env.seeded then none
  else if !env.defaults then none
  else if role = .server ∧ (certPath = none ∨ keyPath = none) then none
  else if role = .server ∧ (!env.certParsed || !env.keyParsed) then none
  else if role = .server ∧ (!env.ownCert || !env.cookieSetup) then none
  else
    match role, pinnedCertHash with
    | .client, some hash =>
      if pinnedCertHashLen = 32 then
        if !env.pinAllocated then none
        else some ⟨role, .optional, some (hash.take 32), 32, 30000⟩
      else some ⟨role, .none, none, 0, 30000⟩
    | _, _ => some ⟨role, .none, none, 0, 30000⟩

/-- `dtls_session`. -/
structure Session (ρ : Type*) where
  /-- The context the session was created from. -/
  ctx : Context
  /-- The state of the library. -/
  ssl : ρ
  /-- `cert_verify_callback` is installed. -/
  verify : Bool
  /-- The address of the peer. -/
  clientAddr : SockaddrIn
  /-- The length of that address. -/
  addrLen : Nat
  /-- A handshake on this session has returned success. -/
  handshakeComplete : Bool
  deriving DecidableEq, Repr

/-- What the calls inside `sc_dtls_session_create` do. -/
structure SessionEnv (ρ : Type*) where
  /-- `calloc` of the session succeeds. -/
  allocated : Bool
  /-- The library's state after `mbedtls_ssl_setup`. -/
  ssl : ρ
  /-- `mbedtls_ssl_setup` succeeds. -/
  setup : Bool
  /-- `mbedtls_ssl_set_client_transport_id` succeeds. -/
  transportId : Bool
  /-- Both calls of `fcntl` succeed. -/
  nonblocking : Bool
  deriving DecidableEq, Repr

/-- How `sc_dtls_session_create` ends. -/
inductive Creation (ρ : Type*) where
  /-- NULL, before anything was allocated. -/
  | refused
  /-- NULL, after the session was allocated and destroyed again. -/
  | destroyed (session : Session ρ)
  /-- The new session. -/
  | created (session : Session ρ)
  deriving DecidableEq, Repr

/-- `sc_dtls_session_create` — the address is copied whole, since its callers pass its full
length or none. -/
def sessionCreate {ρ : Type*} (ctx : Option Context) (fd : Int) (clientAddr : Option SockaddrIn)
    (addrLen : Nat) (env : SessionEnv ρ) : Creation ρ :=
  match ctx with
  | none => .refused
  | some ctx =>
    if fd < 0 then .refused
    else if !env.allocated then .refused
    else
      let stored := if 0 < addrLen then clientAddr else none
      let session : Session ρ :=
        { ctx
          ssl := env.ssl
          verify := ctx.role == .client && ctx.pinnedCertHash.isSome
          clientAddr := stored.getD .blank
          addrLen := if stored.isSome then addrLen else 0
          handshakeComplete := false }
      if !env.setup then .destroyed session
      else if ctx.role = .server ∧ clientAddr.isSome ∧ !env.transportId then .destroyed session
      else if !env.nonblocking then .destroyed session
      else .created session

/-- What a created session holds. -/
theorem sessionCreate_created {ρ : Type*} {ctx : Context} {fd : Int}
    {clientAddr : Option SockaddrIn} {addrLen : Nat} {env : SessionEnv ρ} {session : Session ρ}
    (created : sessionCreate (some ctx) fd clientAddr addrLen env = .created session) :
    session =
      { ctx
        ssl := env.ssl
        verify := ctx.role == .client && ctx.pinnedCertHash.isSome
        clientAddr := (if 0 < addrLen then clientAddr else none).getD .blank
        addrLen := if (if 0 < addrLen then clientAddr else none).isSome then addrLen else 0
        handshakeComplete := false } := by
  simp only [sessionCreate, ite_eq_iff, reduceCtorEq, and_false, false_or] at created
  obtain ⟨-, -, -, -, -, built⟩ := created
  exact (Creation.created.inj built).symm

/-- `udp_send` — what the library is told after `sendto` to the session's peer. -/
def udpSend (bytes : Bytes) : SendOutcome → Except MbedErr Nat
  | .sent => .ok bytes.length
  | .again => .error .wantWrite
  | .failed => .error .netSendFailed

/-- What a receive callback did to the first datagram of the socket. -/
inductive Fate where
  /-- Nothing was taken. -/
  | kept
  /-- Taken and given to the library. -/
  | handed (d : Datagram)
  /-- Taken and dropped, because it is not from the session's peer. -/
  | ignored (d : Datagram)
  deriving DecidableEq, Repr

/-- A receive callback's result, the socket after it, and the fate of the first datagram. -/
structure Received where
  /-- What the library is told: a code, or the bytes it gets. -/
  result : Except MbedErr Bytes
  /-- The socket afterwards. -/
  sock : List Datagram
  /-- What became of the first datagram. -/
  fate : Fate

/-- `udp_recv` — a server drops a datagram whose reported address differs from the session's in
any byte or in length. -/
def udpRecv {ρ : Type*} (session : Session ρ) (len : Nat) (outcome : RecvOutcome)
    (sock : List Datagram) : Received :=
  match outcome, sock with
  | .failed, sock => ⟨.error .netRecvFailed, sock, .kept⟩
  | .normal, [] => ⟨.error .wantRead, [], .kept⟩
  | .normal, d :: rest =>
    if session.ctx.role = .server ∧
        (sockaddrLen ≠ session.addrLen ∨ d.src.sockaddr ≠ session.clientAddr) then
      ⟨.error .wantRead, rest, .ignored d⟩
    else ⟨.ok (d.bytes.take len), rest, .handed d⟩

/-- `udp_recv_timeout`, after `select` returned. -/
def udpRecvTimeout {ρ : Type*} (session : Session ρ) (len : Nat) (select : SelectOutcome)
    (outcome : RecvOutcome) (sock : List Datagram) : Received :=
  match select with
  | .failed => ⟨.error .netRecvFailed, sock, .kept⟩
  | .waits =>
    match sock with
    | [] => ⟨.error .timeout, [], .kept⟩
    | sock => udpRecv session len outcome sock
  | .ready => udpRecv session len outcome sock

/-- What a receive callback can answer. -/
inductive Answer {ρ : Type*} (session : Session ρ) (len : Nat) (select : SelectOutcome)
    (outcome : RecvOutcome) (sock : List Datagram) : Received → Prop
  /-- A code, and no datagram taken. -/
  | code (code : MbedErr) (idle : select = .failed ∨ outcome = .failed ∨ sock = []) :
      Answer session len select outcome sock ⟨.error code, sock, .kept⟩
  /-- The first datagram; a server takes it from its peer only. -/
  | handed (d : Datagram) (rest : List Datagram) (at_sock : sock = d :: rest)
      (peer : session.ctx.role = .server → d.src.sockaddr = session.clientAddr) :
      Answer session len select outcome sock ⟨.ok (d.bytes.take len), rest, .handed d⟩
  /-- The first datagram is not from the server's peer, and is lost. -/
  | ignored (d : Datagram) (rest : List Datagram) (at_sock : sock = d :: rest)
      (taken : select ≠ .failed ∧ outcome = .normal)
      (stranger : sockaddrLen ≠ session.addrLen ∨ d.src.sockaddr ≠ session.clientAddr) :
      Answer session len select outcome sock ⟨.error .wantRead, rest, .ignored d⟩

/-- The answers of `udp_recv`. -/
theorem udpRecv_answer {ρ : Type*} (session : Session ρ) (len : Nat)
    (select : SelectOutcome) (ready : select ≠ .failed) (outcome : RecvOutcome)
    (sock : List Datagram) :
    Answer session len select outcome sock (udpRecv session len outcome sock) := by
  unfold udpRecv
  split
  · exact .code _ (.inr (.inl rfl))
  · exact .code _ (.inr (.inr rfl))
  · rename_i d rest
    split
    · rename_i stranger
      exact .ignored d rest rfl ⟨ready, rfl⟩ stranger.2
    · rename_i friend
      refine .handed d rest rfl fun server => ?_
      exact not_not.mp fun other => friend ⟨server, .inr other⟩

/-- The answers of `udp_recv_timeout`. -/
theorem udpRecvTimeout_answer {ρ : Type*} (session : Session ρ) (len : Nat)
    (select : SelectOutcome) (outcome : RecvOutcome) (sock : List Datagram) :
    Answer session len select outcome sock
      (udpRecvTimeout session len select outcome sock) := by
  cases select with
  | failed => exact .code _ (.inl rfl)
  | ready => exact udpRecv_answer session len .ready nofun outcome sock
  | waits =>
    cases sock with
    | nil => exact .code _ (.inr (.inr rfl))
    | cons d rest => exact udpRecv_answer session len .waits nofun outcome (d :: rest)

variable {ρ : Type*}

/-- `sc_dtls_handshake`, after `mbedtls_ssl_handshake` returned. -/
def handshakeResult (session : Session ρ) : Except MbedErr Unit → Session ρ × DtlsResult
  | .ok () => ({ session with handshakeComplete := true }, .ok)
  | .error .wantRead | .error .wantWrite => (session, .errorWouldBlock)
  | .error .timeout => (session, .errorHandshakeTimeout)
  | .error .certVerifyFailed => (session, .errorCertVerify)
  | .error _ => (session, .errorHandshake)

/-- `sc_dtls_read`, after `mbedtls_ssl_read` returned: the result and the bytes behind
`*bytes_read`. A return value of 0 is the empty byte string. -/
def readResult : Except MbedErr Bytes → DtlsResult × Bytes
  | .ok [] => (.errorRead, [])
  | .ok data => (.ok, data)
  | .error .wantRead | .error .wantWrite => (.errorWouldBlock, [])
  | .error .peerCloseNotify => (.errorPeerClosed, [])
  | .error _ => (.errorRead, [])

/-- A read that succeeds gives some bytes. -/
theorem readResult_nonempty {ret : Except MbedErr Bytes} {data : Bytes}
    (ok : readResult ret = (.ok, data)) : 0 < data.length := by
  unfold readResult at ok
  split at ok
  case h_2 bytes nonempty =>
    obtain ⟨-, rfl⟩ := Prod.mk.inj ok
    exact List.length_pos_iff.mpr nonempty
  all_goals simp at ok

/-- `sc_dtls_write`, after `mbedtls_ssl_write` returned. -/
def writeResult : Except MbedErr Nat → DtlsResult × Nat
  | .ok 0 => (.errorWrite, 0)
  | .ok n => (.ok, n)
  | .error .wantRead | .error .wantWrite => (.errorWouldBlock, 0)
  | .error _ => (.errorWrite, 0)

end SpaceCaptain.Dtls
