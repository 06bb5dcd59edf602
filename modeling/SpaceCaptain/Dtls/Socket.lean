import Mathlib.Data.List.Basic

/-!
# The UDP socket

Every session reads from one unconnected IPv4 socket, which the kernel keeps as a queue of
datagrams. This module owns the addresses as `recvfrom` reports them, the queue, and what the
operating system may answer to the three system calls that the DTLS callbacks make.
-/
namespace SpaceCaptain.Dtls

/-- A byte string. -/
abbrev Bytes := List UInt8

/-- The source of a datagram. -/
structure Endpoint where
  /-- IPv4 address. -/
  addr : UInt32
  /-- UDP port. -/
  port : UInt16
  deriving DecidableEq, Repr

/-- `struct sockaddr_in`, all 16 bytes of it. -/
structure SockaddrIn where
  /-- `sin_family`. -/
  family : UInt16
  /-- `sin_port`. -/
  port : UInt16
  /-- `sin_addr.s_addr`. -/
  addr : UInt32
  /-- `sin_zero`. -/
  zero : Bytes
  deriving DecidableEq, Repr

/-- The address of all zero bytes that `calloc` leaves. -/
def SockaddrIn.blank : SockaddrIn := ⟨0, 0, 0, List.replicate 8 0⟩

/-- `AF_INET`. -/
def afInet : UInt16 := 2

/-- `sizeof(struct sockaddr_in)`, the length `recvfrom` reports for every source. -/
def sockaddrLen : Nat := 16

/-- What `recvfrom` stores for a source: the kernel fills `sin_zero` with zeros. -/
def Endpoint.sockaddr (e : Endpoint) : SockaddrIn := ⟨afInet, e.port, e.addr, List.replicate 8 0⟩

/-- The two fields by which the server tells its clients apart. -/
def SockaddrIn.key (a : SockaddrIn) : UInt32 × UInt16 := (a.addr, a.port)

/-- Sources that agree on address and port are the same source. -/
theorem Endpoint.key_inj {e e' : Endpoint} (same : e.sockaddr.key = e'.sockaddr.key) : e = e' := by
  obtain ⟨addr, port⟩ := e
  obtain ⟨addr', port'⟩ := e'
  simp only [SockaddrIn.key, Endpoint.sockaddr, Prod.mk.injEq] at same
  rw [same.1, same.2]

/-- A datagram in the socket. -/
structure Datagram where
  /-- Where it came from. -/
  src : Endpoint
  /-- Its payload, which may be empty. -/
  bytes : Bytes
  deriving DecidableEq, Repr

/-- The codes of the library that the program tells apart. -/
inductive MbedErr where
  /-- `MBEDTLS_ERR_SSL_WANT_READ`. -/
  | wantRead
  /-- `MBEDTLS_ERR_SSL_WANT_WRITE`. -/
  | wantWrite
  /-- `MBEDTLS_ERR_SSL_TIMEOUT`. -/
  | timeout
  /-- `MBEDTLS_ERR_NET_SEND_FAILED`. -/
  | netSendFailed
  /-- `MBEDTLS_ERR_NET_RECV_FAILED`. -/
  | netRecvFailed
  /-- `MBEDTLS_ERR_SSL_PEER_CLOSE_NOTIFY`. -/
  | peerCloseNotify
  /-- `MBEDTLS_ERR_SSL_HELLO_VERIFY_REQUIRED`. -/
  | helloVerifyRequired
  /-- `MBEDTLS_ERR_X509_CERT_VERIFY_FAILED`. -/
  | certVerifyFailed
  /-- Any other code. -/
  | other (code : Nat)
  deriving DecidableEq, Repr

/-- What `sendto` does. -/
inductive SendOutcome where
  | sent
  /-- `EAGAIN` or `EWOULDBLOCK`. -/
  | again
  | failed
  deriving DecidableEq, Repr

/-- What `select` does with the session's descriptor and a timeout. -/
inductive SelectOutcome where
  /-- It returns when there is a datagram, or with 0 when the time is over and there is none. -/
  | waits
  /-- It reports the socket readable, whether or not there is a datagram. -/
  | ready
  /-- It returns a negative number. -/
  | failed
  deriving DecidableEq, Repr

/-- What `recvfrom` does on the non-blocking socket. -/
inductive RecvOutcome where
  /-- It takes the first datagram, or says `EAGAIN` when there is none. -/
  | normal
  /-- It fails with another error and takes nothing. -/
  | failed
  deriving DecidableEq, Repr

/-- Copy received bytes to the start of a buffer of fixed size. -/
def overwrite (buffer data : Bytes) : Bytes := data.take buffer.length ++ buffer.drop data.length

/-- A buffer keeps its size. -/
@[simp] theorem overwrite_length (buffer data : Bytes) :
    (overwrite buffer data).length = buffer.length := by
  simp [overwrite]
  omega

/-- Bytes that fit into the first part of a buffer leave the rest alone. -/
theorem overwrite_append {first data : Bytes} (rest : Bytes) (fits : data.length ≤ first.length) :
    overwrite (first ++ rest) data = overwrite first data ++ rest := by
  rw [overwrite, overwrite, List.take_of_length_le (by simp; omega), List.take_of_length_le fits,
    List.drop_append_of_le_length fits, List.append_assoc]

end SpaceCaptain.Dtls
