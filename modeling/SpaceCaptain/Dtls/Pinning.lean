import SpaceCaptain.Dtls.Session

/-!
# Certificate pinning

A client pins the hash of the server's certificate. Three functions have to agree on it: the
creation of the context stores the pin and chooses the verification mode, the creation of the
session installs the verify callback, and the callback compares. A pin of 32 bytes is enforced
on every handshake. A pin of any other length is dropped without an error, with the
verification mode that consults nothing, so that any certificate is accepted.

The library is a function from the mode, the installed callback and the peer's certificate
chain to the return code of `mbedtls_ssl_handshake`; `Honours` is what it documents.
-/
namespace SpaceCaptain.Dtls

/-- A byte string of the length of a SHA-256 hash. -/
abbrev Digest := { hash : Bytes // hash.length = 32 }

/-- `MBEDTLS_X509_BADCERT_NOT_TRUSTED`. -/
def badcertNotTrusted : Nat := 0x08

/-- A verify callback: the raw certificate, its depth and the flags give a return code, where
`none` is 0, and the new flags. -/
abbrev VerifyCallback := Bytes → Nat → Nat → Option MbedErr × Nat

/-- `cert_verify_callback` of a session of a context. -/
def certVerifyCallback (sha256 : Bytes → Digest) (ctx : Context) : VerifyCallback :=
  fun raw depth flags =>
    match ctx.role, ctx.pinnedCertHash, depth with
    | .client, some pinned, 0 =>
      let certHash := (sha256 raw).val
      if certHash.take ctx.pinnedCertHashLen ≠ pinned.take ctx.pinnedCertHashLen then
        (some .certVerifyFailed, flags ||| badcertNotTrusted)
      else (none, 0)
    | _, _, _ => (none, flags)

/-- `mbedtls_ssl_handshake` as far as certificates matter: the verification mode, the installed
callback and the peer's chain, leaf first, give the return code. -/
abbrev SslHandshake := Authmode → Option VerifyCallback → List Bytes → Except MbedErr Unit

/-- What the library documents about verification. -/
structure Honours (handshake : SslHandshake) : Prop where
  /-- With a mode other than `VERIFY_NONE` and a callback, success means that the callback
  returned 0 for the certificate at depth 0. -/
  consulted : ∀ mode callback chain, mode ≠ .none →
    handshake mode (some callback) chain = .ok () →
      ∃ leaf rest flags, chain = leaf :: rest ∧ (callback leaf 0 flags).1 = none
  /-- With `VERIFY_NONE` the callback makes no difference. -/
  ignored : ∀ callback chain,
    handshake .none (some callback) chain = handshake .none none chain

/-- The handshake of a session with a peer that presents a chain: `mbedtls_ssl_handshake` runs
with the context's mode and the callback that `sc_dtls_session_create` installed. -/
def handshakeWith {ρ : Type*} (sha256 : Bytes → Digest) (handshake : SslHandshake)
    (session : Session ρ) (chain : List Bytes) : DtlsResult :=
  let callback := if session.verify then some (certVerifyCallback sha256 session.ctx) else none
  (handshakeResult session (handshake session.ctx.authmode callback chain)).2

/-- Only a return code of 0 becomes `DTLS_OK`. -/
theorem handshakeResult_ok {ρ : Type*} {session : Session ρ} {ret : Except MbedErr Unit}
    (success : (handshakeResult session ret).2 = .ok) : ret = .ok () := by
  cases ret with
  | ok value => rfl
  | error e => cases e <;> contradiction

/-- A client's context with a pin of the right length keeps a copy and asks the callback; with a
pin of any other length it keeps nothing and asks nobody. -/
theorem contextCreate_client {initialized : Bool} {certPath keyPath : Option String} {pin : Bytes}
    {env : ContextEnv} {ctx : Context}
    (created : contextCreate initialized .client certPath keyPath (some pin) pin.length env =
      some ctx) :
    ctx = if pin.length = 32 then ⟨.client, .optional, some pin, 32, 30000⟩
      else ⟨.client, .none, none, 0, 30000⟩ := by
  simp only [contextCreate, Option.ite_none_left_eq_some] at created
  obtain ⟨-, -, -, -, -, -, -, created⟩ := created
  split at created
  · rename_i same
    obtain ⟨-, built⟩ := Option.ite_none_left_eq_some.mp created
    obtain rfl := Option.some.inj built
    rw [if_pos same, List.take_of_length_le (Nat.le_of_eq same)]
  · rename_i other
    obtain rfl := Option.some.inj created
    rw [if_neg other]

/-- A session inherits its context, and a client's session with a stored pin has the callback
installed. -/
theorem sessionCreate_client {ρ : Type*} {ctx : Context} {fd : Int}
    {clientAddr : Option SockaddrIn} {addrLen : Nat} {env : SessionEnv ρ} {session : Session ρ}
    (created : sessionCreate (some ctx) fd clientAddr addrLen env = .created session) :
    session.ctx = ctx ∧ session.verify = (ctx.role == .client && ctx.pinnedCertHash.isSome) := by
  rw [sessionCreate_created created]
  exact ⟨rfl, rfl⟩

/-- The pin is enforced: whatever chain a peer presents, a handshake that returns `DTLS_OK`
found a leaf with the pinned hash. -/
def Enforced (sha256 : Bytes → Digest) (ctx : Context) (pin : Bytes) : Prop :=
  ∀ (ρ : Type) (fd : Int) (clientAddr : Option SockaddrIn) (addrLen : Nat) (env : SessionEnv ρ)
    (session : Session ρ) (handshake : SslHandshake) (chain : List Bytes),
    sessionCreate (some ctx) fd clientAddr addrLen env = .created session →
      Honours handshake → handshakeWith sha256 handshake session chain = .ok →
        ∃ leaf rest, chain = leaf :: rest ∧ (sha256 leaf).val = pin

/-- The callback of a client with a pin of full length accepts a leaf only by its hash. -/
theorem certVerifyCallback_ok {sha256 : Bytes → Digest} {pin raw : Bytes} {flags : Nat}
    {mode : Authmode} {timeout : Nat} (full : pin.length = 32)
    (accepted : (certVerifyCallback sha256 ⟨.client, mode, some pin, 32, timeout⟩ raw 0 flags).1 =
      none) : (sha256 raw).val = pin := by
  simp only [certVerifyCallback] at accepted
  split at accepted
  · contradiction
  · rename_i same
    rw [not_not, List.take_of_length_le (Nat.le_of_eq (sha256 raw).property),
      List.take_of_length_le (Nat.le_of_eq full)] at same
    exact same

/-- A library that does what it documents and checks nothing else. -/
def obliging : SslHandshake := fun mode callback chain =>
  match mode, callback, chain with
  | .none, _, _ => .ok ()
  | _, some callback, leaf :: _ =>
    match (callback leaf 0 0).1 with
    | none => .ok ()
    | some e => .error e
  | _, _, _ => .error (.other 0)

/-- It honours its documentation. -/
theorem obliging_honours : Honours obliging where
  consulted mode callback chain asked success := by
    cases chain with
    | nil => cases mode <;> contradiction
    | cons leaf rest =>
      refine ⟨leaf, rest, 0, rfl, ?_⟩
      cases verdict : (callback leaf 0 0).1 with
      | none => rfl
      | some e => cases mode <;> simp_all [obliging]
  ignored _ _ := rfl

/-- A client's pin is enforced exactly when it has the 32 bytes of a SHA-256 hash. -/
theorem pin_enforced_iff {sha256 : Bytes → Digest} {initialized : Bool}
    {certPath keyPath : Option String} {pin : Bytes} {env : ContextEnv} {ctx : Context}
    (created : contextCreate initialized .client certPath keyPath (some pin) pin.length env =
      some ctx) :
    Enforced sha256 ctx pin ↔ pin.length = 32 := by
  have stored := contextCreate_client created
  constructor
  · intro enforced
    by_contra other
    rw [if_neg other] at stored
    subst stored
    -- Without a pin in the context the mode asks nobody, and any leaf is accepted.
    obtain ⟨leaf, rest, -, same⟩ := enforced Unit 0 none 0 ⟨true, (), true, true, true⟩ _ obliging
      [[]] rfl obliging_honours rfl
    exact other (same ▸ (sha256 leaf).property)
  · intro full ρ fd clientAddr addrLen env session handshake chain create honours success
    rw [if_pos full] at stored
    subst stored
    obtain ⟨same, installed⟩ := sessionCreate_client create
    have returned := handshakeResult_ok success
    rw [installed, same] at returned
    obtain ⟨leaf, rest, flags, presented, accepted⟩ :=
      honours.consulted _ _ chain (by exact Authmode.noConfusion) returned
    exact ⟨leaf, rest, presented, certVerifyCallback_ok full accepted⟩

/-- A pin of 32 bytes is enforced. -/
theorem pin_enforced_full :
    ∃ ctx, contextCreate true .client none none (some (List.replicate 32 7)) 32
        ⟨true, true, true, true, true, true, true, true⟩ = some ctx ∧
      Enforced (fun _ => ⟨List.replicate 32 0, rfl⟩) ctx (List.replicate 32 7) := by
  have created : contextCreate true .client none none (some (List.replicate 32 7))
      (List.replicate 32 (7 : UInt8)).length ⟨true, true, true, true, true, true, true, true⟩ =
      some ⟨.client, .optional, some (List.replicate 32 7), 32, 30000⟩ := rfl
  exact ⟨_, created, (pin_enforced_iff created).mpr rfl⟩

/-- A pin of 20 bytes, the length of a SHA-1 hash, is accepted by the creation of the context and
then not enforced. -/
theorem short_pin_unenforced :
    ∃ ctx, contextCreate true .client none none (some (List.replicate 20 7)) 20
        ⟨true, true, true, true, true, true, true, true⟩ = some ctx ∧
      ¬ Enforced (fun _ => ⟨List.replicate 32 0, rfl⟩) ctx (List.replicate 20 7) := by
  refine ⟨_, rfl, fun enforced => ?_⟩
  obtain ⟨leaf, rest, -, same⟩ := enforced Unit 0 none 0 ⟨true, (), true, true, true⟩ _ obliging
    [[]] rfl obliging_honours rfl
  have lengths : 32 = 20 := congrArg List.length same
  contradiction

end SpaceCaptain.Dtls
