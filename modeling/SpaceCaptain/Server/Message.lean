import SpaceCaptain.Dtls.Socket

/-!
# The protocol message

A message starts with a packed header of 18 bytes whose numbers are big-endian on the wire. The
server lays the header over the bytes it read, so every number it sees is in the byte order of
the host, and `ntohs` and `htons` convert. `respond` is what the server does to its buffer
between the read and the write; each of its results is written back with the length that was
read.
-/
namespace SpaceCaptain.Server

open SpaceCaptain.Dtls

/-- The byte order of the host. -/
inductive Endian where
  | little
  | big
  deriving DecidableEq, Repr

/-- The number a host sees in some bytes. -/
def loadUint : Endian → Bytes → Nat
  | .little, bytes => bytes.foldr (fun b n => b.toNat + 256 * n) 0
  | .big, bytes => bytes.foldl (fun n b => 256 * n + b.toNat) 0

/-- The bytes of a number in little-endian order. -/
def littleBytes : Nat → Nat → Bytes
  | 0, _ => []
  | width + 1, n => UInt8.ofNat n :: littleBytes width (n / 256)

/-- The bytes in which a host stores a number. -/
def storeUint : Endian → Nat → Nat → Bytes
  | .little, width, n => littleBytes width n
  | .big, width, n => (littleBytes width n).reverse

/-- `ntohs` — the number whose big-endian bytes the host sees as `n`. -/
def ntohs (e : Endian) (n : Nat) : Nat := loadUint .big (storeUint e 2 n)

/-- `htons` — the number the host sees in the big-endian bytes of `n`. -/
def htons (e : Endian) (n : Nat) : Nat := loadUint e (storeUint .big 2 n)

/-- `message_header_t` — its numbers as the host sees them. -/
structure MessageHeader where
  /-- Protocol version. -/
  protocolVersion : Nat
  /-- Message type. -/
  messageType : Nat
  /-- For ordering and acknowledgment. -/
  sequenceNumber : Nat
  /-- Unix timestamp in milliseconds. -/
  timestamp : Nat
  /-- Size of the message payload. -/
  payloadLength : Nat
  deriving DecidableEq, Repr

/-- `sizeof(message_header_t)`. -/
def headerSize : Nat := 18

/-- `SOCKET_BUFFER_SIZE`. -/
def socketBufferSize : Nat := 4096

/-- `MSG_PING`. -/
def msgPing : Nat := 0x0006

/-- `MSG_PONG`. -/
def msgPong : Nat := 0x1005

/-- The protocol version that the server speaks. -/
def protocolVersion : Nat := 0x0001

/-- The number in the field of `width` bytes at an offset. -/
def loadField (e : Endian) (buffer : Bytes) (offset width : Nat) : Nat :=
  loadUint e ((buffer.drop offset).take width)

/-- The header laid over the start of a buffer. -/
def MessageHeader.load (e : Endian) (buffer : Bytes) : MessageHeader where
  protocolVersion := loadField e buffer 0 2
  messageType := loadField e buffer 2 2
  sequenceNumber := loadField e buffer 4 4
  timestamp := loadField e buffer 8 8
  payloadLength := loadField e buffer 16 2

/-- The bytes of a header in memory. -/
def MessageHeader.store (e : Endian) (h : MessageHeader) : Bytes :=
  storeUint e 2 h.protocolVersion ++ storeUint e 2 h.messageType ++
    storeUint e 4 h.sequenceNumber ++ storeUint e 8 h.timestamp ++ storeUint e 2 h.payloadLength

/-- What the server makes of the first bytes of a message. -/
inductive Kind where
  /-- Too short for a header. -/
  | raw
  /-- Another protocol version. -/
  | foreign
  /-- A declared payload that no buffer holds. -/
  | oversized
  /-- A PING. -/
  | ping
  /-- Any other message. -/
  | echo
  deriving DecidableEq, Repr

/-- The tests of the message handling, in their order. -/
def classify (e : Endian) (buffer : Bytes) (bytesRead : Nat) : Kind :=
  if headerSize ≤ bytesRead then
    let header := MessageHeader.load e buffer
    if ntohs e header.protocolVersion ≠ protocolVersion then .foreign
    else if socketBufferSize - headerSize < ntohs e header.payloadLength then .oversized
    else if ntohs e header.messageType = msgPing then .ping
    else .echo
  else .raw

/-- The header of the answer to a PING. -/
def pong (e : Endian) (header : MessageHeader) : MessageHeader where
  protocolVersion := htons e protocolVersion
  messageType := htons e msgPong
  sequenceNumber := header.sequenceNumber
  timestamp := header.timestamp
  payloadLength := header.payloadLength

/-- The buffer when the reply is written: a PING gets its header replaced, and everything else
is echoed. -/
def respond (e : Endian) (buffer : Bytes) (bytesRead : Nat) : Bytes :=
  match classify e buffer bytesRead with
  | .ping => overwrite buffer ((pong e (MessageHeader.load e buffer)).store e)
  | .raw | .foreign | .oversized | .echo => buffer

/-- The reply to a plaintext: the bytes that are written back. -/
def replyTo (e : Endian) (plaintext : Bytes) : Bytes :=
  (respond e plaintext plaintext.length).take plaintext.length

/-- A field inside the plaintext does not see what follows it. -/
theorem loadField_append (e : Endian) {plaintext : Bytes} (rest : Bytes) {offset width : Nat}
    (inside : offset + width ≤ plaintext.length) :
    loadField e (plaintext ++ rest) offset width = loadField e plaintext offset width := by
  unfold loadField
  rw [List.drop_append_of_le_length (by omega), List.take_append_of_le_length (by simp; omega)]

/-- A header inside the plaintext does not see what follows it. -/
theorem load_append (e : Endian) {plaintext : Bytes} (rest : Bytes)
    (long : headerSize ≤ plaintext.length) :
    MessageHeader.load e (plaintext ++ rest) = MessageHeader.load e plaintext := by
  have fields (offset width : Nat) (inside : offset + width ≤ 18) :
      loadField e (plaintext ++ rest) offset width = loadField e plaintext offset width :=
    loadField_append e rest (Nat.le_trans inside long)
  simp [MessageHeader.load, fields]

/-- A stored number has the width asked for. -/
@[simp] theorem littleBytes_length (width n : Nat) : (littleBytes width n).length = width := by
  induction width generalizing n with
  | zero => rfl
  | succ width ih => simp [littleBytes, ih]

/-- A stored number has the width asked for, in either byte order. -/
@[simp] theorem storeUint_length (e : Endian) (width n : Nat) :
    (storeUint e width n).length = width := by
  cases e <;> simp [storeUint]

/-- A header occupies 18 bytes. -/
@[simp] theorem store_length (e : Endian) (h : MessageHeader) :
    (h.store e).length = headerSize := by
  simp [MessageHeader.store, headerSize]

/-- The reply depends on the plaintext only, not on what the buffer held behind it. -/
theorem respond_append (e : Endian) (plaintext rest : Bytes) :
    (respond e (plaintext ++ rest) plaintext.length).take plaintext.length =
      replyTo e plaintext := by
  by_cases long : headerSize ≤ plaintext.length
  · have header := load_append e rest long
    have kind : classify e (plaintext ++ rest) plaintext.length =
        classify e plaintext plaintext.length := by
      simp only [classify, header]
    unfold replyTo respond
    rw [kind, header]
    cases classify e plaintext plaintext.length with
    | ping =>
      have fits :
          ((pong e (MessageHeader.load e plaintext)).store e).length ≤ plaintext.length := by
        rw [store_length]
        exact long
      simp only [overwrite_append rest fits]
      rw [List.take_left' (overwrite_length _ _), List.take_of_length_le (by simp)]
    | raw | foreign | oversized | echo => simp
  · simp [replyTo, respond, classify, if_neg long]

/-- The message handling keeps the size of the buffer. -/
@[simp] theorem respond_length (e : Endian) (buffer : Bytes) (bytesRead : Nat) :
    (respond e buffer bytesRead).length = buffer.length := by
  unfold respond
  cases classify e buffer bytesRead <;> simp

/-- A reply is as long as the plaintext it answers. -/
theorem replyTo_length (e : Endian) (plaintext : Bytes) :
    (replyTo e plaintext).length = plaintext.length := by
  simp [replyTo]

/-- What is written back of a buffer into which a plaintext was read is the reply to it. -/
theorem respond_overwrite (e : Endian) {buffer plaintext : Bytes}
    (fits : plaintext.length ≤ buffer.length) :
    (respond e (overwrite buffer plaintext) plaintext.length).take plaintext.length =
      replyTo e plaintext := by
  rw [overwrite, List.take_of_length_le fits]
  exact respond_append e plaintext _

end SpaceCaptain.Server
