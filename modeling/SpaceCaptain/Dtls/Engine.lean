import SpaceCaptain.Dtls.Session

/-!
# The DTLS library as a partner

mbedTLS runs between two calls of the program's callbacks, and decides from its state and
from what the callbacks have returned so far what it does next: send a packet, ask for a
datagram, or come back with a result. An `Engine` is any such behaviour. It may call the
callbacks any number of times, in any order, and the states of two sessions have nothing to do
with each other. What a call accepted as authentic is part of its result.
-/
namespace SpaceCaptain.Dtls

/-- A call into the library. -/
inductive Call where
  /-- `mbedtls_ssl_handshake`. -/
  | handshake
  /-- `mbedtls_ssl_read` with room for that many bytes. -/
  | read (len : Nat)
  /-- `mbedtls_ssl_write` of those bytes. -/
  | write (bytes : Bytes)
  deriving DecidableEq, Repr

/-- What a call returns when it succeeds; a negative return code is the error. -/
abbrev Call.Value : Call → Type
  | .handshake => Unit
  | .read _ => Bytes
  | .write _ => Nat

/-- What a callback returned during the current call. -/
inductive Seen where
  /-- `udp_send`. -/
  | sent (result : Except MbedErr Nat)
  /-- `udp_recv_timeout`. -/
  | received (result : Except MbedErr Bytes)
  deriving Repr

/-- What the library does next. -/
inductive Move (ρ : Type*) (ret : Type) where
  /-- Call `udp_send`. -/
  | send (bytes : Bytes)
  /-- Call `udp_recv_timeout` with room for `len` bytes and a timeout in milliseconds. -/
  | recv (len timeout : Nat)
  /-- Return, in a new state; the flag says that the call accepted a record as authentic. -/
  | finish (result : Except MbedErr ret) (ssl : ρ) (accepted : Bool)

/-- A behaviour of the library. -/
structure Engine (ρ : Type*) where
  /-- The next move of a call, given the state at its start and what the callbacks returned. -/
  move : (call : Call) → ρ → List Seen → Move ρ call.Value
  /-- The packets `mbedtls_ssl_close_notify` hands to `udp_send`, given what `sendto` does. -/
  close : ρ → List SendOutcome → List Bytes

/-- The wrapper around a call, after the library returned in a new state: the session, the result
and, for a read, the bytes put into the caller's buffer. -/
def callResult {ρ : Type*} (session : Session ρ) (ssl : ρ) :
    (call : Call) → Except MbedErr call.Value → Session ρ × DtlsResult × Bytes
  | .handshake, ret =>
    let (session, result) := handshakeResult { session with ssl } ret
    (session, result, [])
  | .read len, ret => ({ session with ssl }, readResult (ret.map fun data => data.take len))
  | .write _, ret => ({ session with ssl }, (writeResult ret).1, [])

/-- A read that returned 0 fails. -/
theorem readResult_zero (len : Nat) :
    readResult ((Except.ok [] : Except MbedErr Bytes).map fun data => data.take len) =
      (.errorRead, []) := by
  have nothing : (Except.ok [] : Except MbedErr Bytes).map (fun data => data.take len) = .ok [] :=
    congrArg Except.ok List.take_nil
  rw [nothing, readResult]

/-- A read whose result is "ok" has returned some bytes. -/
theorem readResult_ok {len : Nat} {ret : Except MbedErr Bytes} {data : Bytes}
    (ok : readResult (ret.map fun bytes => bytes.take len) = (.ok, data)) :
    ∃ bytes, ret = .ok bytes ∧ bytes ≠ [] := by
  cases ret with
  | ok bytes =>
    refine ⟨bytes, rfl, ?_⟩
    rintro rfl
    rw [readResult_zero] at ok
    exact nomatch congrArg Prod.fst ok
  | error code => cases code <;> exact nomatch congrArg Prod.fst ok

end SpaceCaptain.Dtls
