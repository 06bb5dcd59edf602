import SpaceCaptain.Dtls.Pinning

/-!
# Pinning the certificate in a file

A client that knows the server's certificate file pins the hash that `sc_dtls_cert_hash` computes
of it. The hash always has the length that a pin needs. A client with such a pin accepts a server
exactly when `sc_dtls_cert_hash` says the same of the file that the server runs with, whatever
else the library thinks of the certificates in it. Which chain the library presents for the
certificates of a file, if it presents one at all, is a parameter; `LeafFirst` is what it documents.
-/
namespace SpaceCaptain.Dtls

/-- What `mbedtls_x509_crt_parse_file` makes of a path: the raw certificates of the file, the first
one and the others. It is `none` when the function does not return 0. -/
abbrev CertFiles := String → Option (Bytes × List Bytes)

/-- `sc_dtls_cert_hash` — the result and the bytes behind `hash`; `none` is NULL. -/
def certHash (sha256 : Bytes → Digest) (files : CertFiles) (certPath : Option String)
    (hash : Option Digest) : DtlsResult × Option Digest :=
  match certPath, hash with
  | some path, some before =>
    match files path with
    | none => (.errorInit, some before)
    | some (cert, _) => (.ok, some (sha256 cert))
  | _, hash => (.errorInvalidParams, hash)

/-- The chain that a server's library presents in its handshakes for the certificates that
`mbedtls_ssl_conf_own_cert` was given; `none` when it fails to present one. -/
abbrev CertChain := Bytes × List Bytes → Option (List Bytes)

/-- What the library documents about its own chain: the certificate of the server comes first. -/
def LeafFirst (chainOf : CertChain) : Prop :=
  ∀ certs chain, chainOf certs = some chain → ∃ rest, chain = certs.1 :: rest

/-- A server runs with a certificate file and presents a chain. -/
structure Runs (files : CertFiles) (chainOf : CertChain) (path : String) (chain : List Bytes) :
    Prop where
  /-- Its context was created with the file, which the library parses or not. -/
  created : ∃ keyPath pin pinLen env ctx,
    contextCreate true .server (some path) (some keyPath) pin pinLen env = some ctx ∧
      env.certParsed = (files path).isSome
  /-- It presents what the library makes of the certificates in the file. -/
  presents : ∀ certs, files path = some certs → chainOf certs = some chain

/-- What the library documents about `MBEDTLS_SSL_VERIFY_OPTIONAL`: the handshake goes on when the
callback returns 0 for every certificate of the chain, whatever the flags say. -/
def Tolerates (handshake : SslHandshake) : Prop :=
  ∀ callback leaf rest,
    (∀ depth raw flags, (leaf :: rest)[depth]? = some raw → (callback raw depth flags).1 = none) →
      handshake .optional (some callback) (leaf :: rest) = .ok ()

/-- A computed hash is that of the first certificate in the file. -/
theorem certHash_ok {sha256 : Bytes → Digest} {files : CertFiles} {path : String}
    {before digest : Digest} :
    certHash sha256 files (some path) (some before) = (.ok, some digest) ↔
      ∃ certs, files path = some certs ∧ sha256 certs.1 = digest := by
  cases parsed : files path with
  | none => simp [certHash, parsed]
  | some certs => simp [certHash, parsed]

/-- The callback of a client with a pin of full length accepts a certificate unless it is a leaf
with another hash. -/
theorem certVerifyCallback_ok_iff {sha256 : Bytes → Digest} {pin : Digest} {mode : Authmode}
    {timeout depth flags : Nat} {raw : Bytes} :
    (certVerifyCallback sha256 ⟨.client, mode, some pin.val, 32, timeout⟩ raw depth flags).1 =
      none ↔ (depth = 0 → sha256 raw = pin) := by
  cases depth with
  | succ depth => simp [certVerifyCallback]
  | zero =>
    have whole : (sha256 raw).val.take 32 = (sha256 raw).val :=
      List.take_of_length_le (Nat.le_of_eq (sha256 raw).property)
    have pinned : pin.val.take 32 = pin.val :=
      List.take_of_length_le (Nat.le_of_eq pin.property)
    simp only [certVerifyCallback, whole, pinned, forall_const, Subtype.ext_iff]
    split <;> simp_all

/-- A session's handshake succeeds when the library's does. -/
theorem handshakeResult_ok_iff {ρ : Type*} {session : Session ρ} {ret : Except MbedErr Unit} :
    (handshakeResult session ret).2 = .ok ↔ ret = .ok () := by
  constructor
  · exact handshakeResult_ok
  · intro returned
    rw [returned]
    rfl

/-- A client that pins a hash with the parameters of `sizeof` gets a context with the pin. -/
theorem contextCreate_pinned {initialized : Bool} {certPath keyPath : Option String} {pin : Digest}
    {env : ContextEnv} {ctx : Context}
    (created : contextCreate initialized .client certPath keyPath (some pin.val) 32 env =
      some ctx) : ctx = ⟨.client, .optional, some pin.val, 32, 30000⟩ := by
  obtain ⟨pin, full⟩ := pin
  have whole : contextCreate initialized .client certPath keyPath (some pin) pin.length env =
      some ctx := by
    rw [full]
    exact created
  have stored := contextCreate_client whole
  rwa [if_pos full] at stored

/-- A server has a context only if its certificate file was parsed. -/
theorem contextCreate_parsed {initialized : Bool} {certPath keyPath : Option String}
    {pin : Option Bytes} {pinLen : Nat} {env : ContextEnv} {ctx : Context}
    (created : contextCreate initialized .server certPath keyPath pin pinLen env = some ctx) :
    env.certParsed = true := by
  simp only [contextCreate, Option.ite_none_left_eq_some] at created
  obtain ⟨-, -, -, -, -, parsed, -⟩ := created
  cases parsing : env.certParsed with
  | true => rfl
  | false => exact absurd ⟨trivial, by simp [parsing]⟩ parsed

/-- The chain that a server presents begins with the first certificate of its file. -/
theorem Runs.leaf {files : CertFiles} {chainOf : CertChain} {path : String} {chain : List Bytes}
    (leafFirst : LeafFirst chainOf) (runs : Runs files chainOf path chain) :
    ∃ certs rest, files path = some certs ∧ chain = certs.1 :: rest := by
  obtain ⟨keyPath, pin, pinLen, env, ctx, created, parsing⟩ := runs.created
  have parsed : (files path).isSome = true := parsing ▸ contextCreate_parsed created
  obtain ⟨certs, found⟩ := Option.isSome_iff_exists.mp parsed
  obtain ⟨rest, split⟩ := leafFirst certs chain (runs.presents certs found)
  exact ⟨certs, rest, found, split⟩

/-- What a client that pins a certificate file accepts. -/
structure Pins {ρ : Type} (sha256 : Bytes → Digest) (files : CertFiles) (chainOf : CertChain)
    (handshake : SslHandshake) (session : Session ρ) (path : String) (digest : Digest) : Prop where
  /-- Exactly the chains whose leaf has the pinned hash. -/
  chains : ∀ chain, handshakeWith sha256 handshake session chain = .ok ↔
    ∃ leaf rest, chain = leaf :: rest ∧ sha256 leaf = digest
  /-- Exactly the servers that run with a file of the same hash. -/
  servers : ∀ other before chain, Runs files chainOf other chain →
    (handshakeWith sha256 handshake session chain = .ok ↔
      certHash sha256 files (some other) (some before) = (.ok, some digest))
  /-- The servers that run with the pinned file. -/
  same : ∀ chain, Runs files chainOf path chain →
    handshakeWith sha256 handshake session chain = .ok

/-- A client that pins the hash of a certificate file accepts exactly the chains whose leaf
certificate has that hash, and so exactly the servers whose own file has it, those that run with the
pinned file included. -/
theorem pin_of_file {ρ : Type} {sha256 : Bytes → Digest} {files : CertFiles} {path : String}
    {before digest : Digest} {handshake : SslHandshake} {chainOf : CertChain} {initialized : Bool}
    {certPath keyPath : Option String} {env : ContextEnv} {ctx : Context} {fd : Int}
    {serverAddr : Option SockaddrIn} {addrLen : Nat} {sessionEnv : SessionEnv ρ}
    {session : Session ρ} (honours : Honours handshake) (tolerates : Tolerates handshake)
    (leafFirst : LeafFirst chainOf)
    (hashed : certHash sha256 files (some path) (some before) = (.ok, some digest))
    (created : contextCreate initialized .client certPath keyPath (some digest.val) 32 env =
      some ctx)
    (opened : sessionCreate (some ctx) fd serverAddr addrLen sessionEnv = .created session) :
    Pins sha256 files chainOf handshake session path digest := by
  obtain rfl := contextCreate_pinned created
  obtain ⟨same, installed⟩ := sessionCreate_client opened
  have chains : ∀ chain, handshakeWith sha256 handshake session chain = .ok ↔
      ∃ leaf rest, chain = leaf :: rest ∧ sha256 leaf = digest := by
    intro chain
    rw [handshakeWith, handshakeResult_ok_iff, installed, same]
    constructor
    · intro returned
      obtain ⟨leaf, rest, flags, presented, accepted⟩ :=
        honours.consulted _ _ chain (by exact Authmode.noConfusion) returned
      exact ⟨leaf, rest, presented, certVerifyCallback_ok_iff.mp accepted rfl⟩
    · rintro ⟨leaf, rest, rfl, matching⟩
      refine tolerates _ leaf rest fun depth raw flags at_depth => ?_
      refine certVerifyCallback_ok_iff.mpr fun first => ?_
      subst first
      obtain rfl := Option.some.inj at_depth
      exact matching
  have servers : ∀ other before chain, Runs files chainOf other chain →
      (handshakeWith sha256 handshake session chain = .ok ↔
        certHash sha256 files (some other) (some before) = (.ok, some digest)) := by
    intro other before chain runs
    obtain ⟨certs, rest, found, rfl⟩ := runs.leaf leafFirst
    rw [chains, certHash_ok, found]
    constructor
    · rintro ⟨leaf, rest, split, matching⟩
      obtain ⟨rfl, -⟩ := List.cons.inj split
      exact ⟨certs, rfl, matching⟩
    · rintro ⟨certs', parsed, matching⟩
      obtain rfl := Option.some.inj parsed
      exact ⟨certs.1, rest, rfl, matching⟩
  exact ⟨chains, servers, fun chain runs => (servers path before chain runs).mpr hashed⟩

/-- A library that asks the callback about the leaf alone goes on when the callback agrees. -/
theorem obliging_tolerates : Tolerates obliging := by
  intro callback leaf rest accepts
  have leaf_accepted : (callback leaf 0 0).1 = none := accepts 0 leaf 0 rfl
  simp [obliging, leaf_accepted]

/-- SHA-256 of the three bytes `abc` and of the empty string, which stands for all others. -/
def sha256Abc (raw : Bytes) : Digest :=
  if raw = [0x61, 0x62, 0x63] then
    ⟨[0xba, 0x78, 0x16, 0xbf, 0x8f, 0x01, 0xcf, 0xea, 0x41, 0x41, 0x40, 0xde, 0x5d, 0xae, 0x22,
      0x23, 0xb0, 0x03, 0x61, 0xa3, 0x96, 0x17, 0x7a, 0x9c, 0xb4, 0x10, 0xff, 0x61, 0xf2, 0x00,
      0x15, 0xad], rfl⟩
  else
    ⟨[0xe3, 0xb0, 0xc4, 0x42, 0x98, 0xfc, 0x1c, 0x14, 0x9a, 0xfb, 0xf4, 0xc8, 0x99, 0x6f, 0xb9,
      0x24, 0x27, 0xae, 0x41, 0xe4, 0x64, 0x9b, 0x93, 0x4c, 0xa4, 0x95, 0x99, 0x1b, 0x78, 0x52,
      0xb8, 0x55], rfl⟩

/-- A directory with one certificate file. -/
def oneFile : CertFiles := fun path =>
  if path = "server.crt" then some ([0x61, 0x62, 0x63], []) else none

/-- A library that presents all certificates of a file in their order, if they fit into a record. -/
def wholeChain : CertChain := fun certs =>
  if (certs.1 :: certs.2).flatten.length < 16384 then some (certs.1 :: certs.2) else none

/-- It presents the server's certificate first. -/
theorem wholeChain_leafFirst : LeafFirst wholeChain := by
  intro certs chain presented
  obtain ⟨-, built⟩ := Option.ite_none_right_eq_some.mp presented
  exact ⟨certs.2, (Option.some.inj built).symm⟩

/-- A client that pins the one certificate file accepts the server that runs with it. -/
theorem pin_of_file_abc :
    ∃ (ctx : Context) (session : Session Unit),
      sessionCreate (some ctx) 3 none 0 ⟨true, (), true, true, true⟩ = .created session ∧
      Pins sha256Abc oneFile wholeChain obliging session "server.crt"
        (sha256Abc [0x61, 0x62, 0x63]) ∧
      Runs oneFile wholeChain "server.crt" [[0x61, 0x62, 0x63]] ∧
      handshakeWith sha256Abc obliging session [[0x61, 0x62, 0x63]] = .ok := by
  have hashed : certHash sha256Abc oneFile (some "server.crt") (some (sha256Abc [])) =
      (.ok, some (sha256Abc [0x61, 0x62, 0x63])) := rfl
  have created : contextCreate true .client none none (some (sha256Abc [0x61, 0x62, 0x63]).val) 32
      ⟨true, true, true, true, true, true, true, true⟩ =
      some ⟨.client, .optional, some (sha256Abc [0x61, 0x62, 0x63]).val, 32, 30000⟩ := rfl
  obtain ⟨session, opened⟩ : ∃ session : Session Unit,
      sessionCreate (some ⟨.client, .optional, some (sha256Abc [0x61, 0x62, 0x63]).val, 32, 30000⟩)
        3 none 0 ⟨true, (), true, true, true⟩ = .created session := ⟨_, rfl⟩
  have pins := pin_of_file obliging_honours obliging_tolerates wholeChain_leafFirst hashed created
    opened
  have runs : Runs oneFile wholeChain "server.crt" [[0x61, 0x62, 0x63]] := by
    refine ⟨⟨"server.key", none, 0, ⟨true, true, true, true, true, true, true, true⟩, _, rfl, rfl⟩,
      fun certs found => ?_⟩
    obtain rfl := Option.some.inj found
    rfl
  exact ⟨_, session, opened, pins, runs, pins.same _ runs⟩

end SpaceCaptain.Dtls
