import SpaceCaptain.Server.Moves

/-!
# The reply law

Every plaintext is written back with its own length, and only a PING of the server's version is
changed on the way: its type becomes PONG. This module says so in terms of the bytes on the
wire, for both byte orders: storing a number is the inverse of loading it, so the conversions
of the header cancel. The declared payload length of a PING is compared with the size of the
buffer only, and is copied into the PONG.
-/
namespace SpaceCaptain.Server

open SpaceCaptain.Dtls SpaceCaptain.Library

/-- Storing the number that a little-endian host sees gives its bytes back. -/
theorem littleBytes_load (bytes : Bytes) :
    littleBytes bytes.length (loadUint .little bytes) = bytes := by
  induction bytes with
  | nil => rfl
  | cons b rest ih =>
    have tail : loadUint .little (b :: rest) = b.toNat + 256 * loadUint .little rest := rfl
    have small : b.toNat < 256 := b.toNat_lt
    have low : UInt8.ofNat (b.toNat + 256 * loadUint .little rest) = b := by
      apply UInt8.toNat_inj.mp
      rw [UInt8.toNat_ofNat']
      omega
    have high : (b.toNat + 256 * loadUint .little rest) / 256 = loadUint .little rest := by omega
    rw [List.length_cons, littleBytes, tail, low, high, ih]

/-- A big-endian host sees the number that a little-endian one sees in the reversed bytes. -/
theorem loadUint_big (bytes : Bytes) : loadUint .big bytes = loadUint .little bytes.reverse := by
  simp only [loadUint, List.foldr_reverse]
  congr 1
  funext n b
  omega

/-- Storing the number that a host sees gives its bytes back. -/
theorem storeUint_load (e : Endian) {width : Nat} {bytes : Bytes} (size : bytes.length = width) :
    storeUint e width (loadUint e bytes) = bytes := by
  subst size
  cases e with
  | little => exact littleBytes_load bytes
  | big =>
    have back := littleBytes_load bytes.reverse
    rw [List.length_reverse] at back
    rw [storeUint, loadUint_big, back, List.reverse_reverse]

/-- Bytes of the same number and size are the same. -/
theorem loadUint_inj (e : Endian) {left right : Bytes} (size : left.length = right.length)
    (same : loadUint e left = loadUint e right) : left = right := by
  have stored : storeUint e right.length (loadUint e left) = left := storeUint_load e size
  rw [← stored, same]
  exact storeUint_load e rfl

/-- `ntohs` of the number that a host sees is the number on the wire. -/
theorem ntohs_load (e : Endian) {bytes : Bytes} (size : bytes.length = 2) :
    ntohs e (loadUint e bytes) = loadUint .big bytes := by
  rw [ntohs, storeUint_load e size]

/-- A number converted by `htons` is stored as its bytes on the wire. -/
theorem store_htons (e : Endian) (n : Nat) : storeUint e 2 (htons e n) = storeUint .big 2 n :=
  storeUint_load e (storeUint_length .big 2 n)

/-- The bytes of a field. -/
def field (p : Bytes) (offset width : Nat) : Bytes := (p.drop offset).take width

/-- The payload length that a message declares on the wire. -/
def declaredLength (p : Bytes) : Nat := loadUint .big (field p 16 2)

/-- The plaintext is a PING that the server answers: a header of version 1 and type PING, whose
declared payload fits into the buffer. -/
def isPing (p : Bytes) : Bool :=
  decide (18 ≤ p.length) && field p 0 2 == [0x00, 0x01] && field p 2 2 == [0x00, 0x06] &&
    decide (declaredLength p ≤ 4078)

/-- The reply to a plaintext: a PING becomes a PONG, and everything else is echoed. -/
def pongReply (p : Bytes) : Bytes :=
  if isPing p then p.take 2 ++ [0x10, 0x05] ++ p.drop 4 else p

/-- A field inside the plaintext has its width. -/
theorem field_length {p : Bytes} {offset width : Nat} (inside : offset + width ≤ p.length) :
    (field p offset width).length = width := by
  simp [field]
  omega

/-- A field followed by what is behind it. -/
theorem field_append_drop (p : Bytes) (offset width : Nat) :
    field p offset width ++ p.drop (offset + width) = p.drop offset := by
  rw [← List.drop_drop]
  exact List.take_append_drop width (p.drop offset)

/-- The four conditions on a PING. -/
theorem isPing_iff {p : Bytes} : isPing p = true ↔
    18 ≤ p.length ∧ field p 0 2 = [0x00, 0x01] ∧ field p 2 2 = [0x00, 0x06] ∧
      declaredLength p ≤ 4078 := by
  simp [isPing, and_assoc]

/-- The reply has the length of the plaintext. -/
theorem pongReply_length (p : Bytes) : (pongReply p).length = p.length := by
  unfold pongReply
  split
  · rename_i ping
    have ⟨long, _⟩ := isPing_iff.mp ping
    simp
    omega
  · rfl

/-- What the server compares with is the number on the wire. -/
theorem ntohs_field (e : Endian) {p : Bytes} {offset : Nat} (inside : offset + 2 ≤ p.length) :
    ntohs e (loadField e p offset 2) = loadUint .big (field p offset 2) :=
  ntohs_load e (field_length inside)

/-- A field of two bytes holds a number when it holds its two bytes. -/
theorem field_eq_iff {p : Bytes} {offset : Nat} (inside : offset + 2 ≤ p.length)
    (high low : UInt8) :
    loadUint .big (field p offset 2) = loadUint .big [high, low] ↔
      field p offset 2 = [high, low] := by
  constructor
  · exact loadUint_inj .big (field_length inside)
  · intro same
    rw [same]

/-- The tests of the message handling recognize the PINGs on the wire. -/
theorem classify_ping (e : Endian) (p : Bytes) :
    classify e p p.length = .ping ↔ isPing p = true := by
  rw [isPing_iff]
  unfold classify
  by_cases long : headerSize ≤ p.length
  case neg =>
    have short : ¬18 ≤ p.length := long
    simp [long, short]
  have inside : 18 ≤ p.length := long
  have version : ntohs e (MessageHeader.load e p).protocolVersion = protocolVersion ↔
      field p 0 2 = [0x00, 0x01] := by
    rw [← field_eq_iff (by omega), ← ntohs_field e (by omega)]
    rfl
  have type : ntohs e (MessageHeader.load e p).messageType = msgPing ↔
      field p 2 2 = [0x00, 0x06] := by
    rw [← field_eq_iff (by omega), ← ntohs_field e (by omega)]
    rfl
  have length : ntohs e (MessageHeader.load e p).payloadLength = declaredLength p :=
    ntohs_field e (by omega)
  have most : socketBufferSize - headerSize = 4078 := rfl
  simp only [if_pos long, ne_eq, version, type, length, most]
  by_cases one : field p 0 2 = [0x00, 0x01]
  · by_cases fits : declaredLength p ≤ 4078
    · have small : ¬4078 < declaredLength p := Nat.not_lt.mpr fits
      by_cases ping : field p 2 2 = [0x00, 0x06] <;> simp [one, ping, fits, small, inside]
    · simp [one, fits, Nat.lt_of_not_le fits]
  · simp [one]

/-- The header of the answer to a PING, in bytes. -/
theorem pong_store (e : Endian) {p : Bytes} (long : headerSize ≤ p.length) :
    (pong e (MessageHeader.load e p)).store e =
      [0x00, 0x01] ++ [0x10, 0x05] ++ field p 4 4 ++ field p 8 8 ++ field p 16 2 := by
  have inside : 18 ≤ p.length := long
  have version : storeUint e 2 (htons e protocolVersion) = [0x00, 0x01] := store_htons e _
  have type : storeUint e 2 (htons e msgPong) = [0x10, 0x05] := store_htons e _
  have kept (offset width : Nat) (fits : offset + width ≤ p.length) :
      storeUint e width (loadField e p offset width) = field p offset width :=
    storeUint_load e (field_length fits)
  simp only [MessageHeader.store, pong, MessageHeader.load, version, type]
  rw [kept 4 4 (by omega), kept 8 8 (by omega), kept 16 2 (by omega)]

/-- What the server writes back is the reply. -/
theorem replyTo_eq (e : Endian) (p : Bytes) : replyTo e p = pongReply p := by
  unfold replyTo respond pongReply
  by_cases ping : isPing p = true
  · have kind := (classify_ping e p).mpr ping
    have ⟨long, version, _, _⟩ := isPing_iff.mp ping
    have first : p.take 2 = [0x00, 0x01] := version
    have rest : field p 4 4 ++ (field p 8 8 ++ (field p 16 2 ++ p.drop 18)) = p.drop 4 := by
      rw [field_append_drop p 16 2, field_append_drop p 8 8, field_append_drop p 4 4]
    have stored : overwrite p ((pong e (MessageHeader.load e p)).store e) =
        p.take 2 ++ [0x10, 0x05] ++ p.drop 4 := by
      rw [overwrite, store_length, List.take_of_length_le (by rw [store_length]; exact long),
        pong_store e long, first, ← rest]
      simp [headerSize]
    simp only [kind, if_pos ping, stored]
    exact List.take_of_length_le (by simp; omega)
  · have kind : classify e p p.length ≠ .ping := fun kind => ping ((classify_ping e p).mp kind)
    rw [if_neg ping]
    cases same : classify e p p.length <;> first | contradiction | simp

variable {ρ : Type} {H : Host ρ} {s : State ρ} {left client : Nat} {p : Bytes}

/-- The server is in the `sc_dtls_read` of a client, and the call is about to succeed with a
plaintext. -/
def ReadGives (H : Host ρ) (s : State ρ) (left client : Nat) (p : Bytes) : Prop :=
  ∃ seen c sid session ret ssl accepted,
    s.pc = .engine left client (.read socketBufferSize) seen ∧
    s.registry.clients.get? client = some c ∧ c.dtlsSession = some sid ∧
    s.registry.sessions.get? sid = some session ∧
    H.engine.move (.read socketBufferSize) session.ssl seen = .finish ret ssl accepted ∧
    (callResult session ssl (.read socketBufferSize) ret).2 = (.ok, p)

/-- A plaintext has 1 to 4096 bytes. -/
theorem ReadGives.length (gives : ReadGives H s left client p) :
    0 < p.length ∧ p.length ≤ socketBufferSize := by
  obtain ⟨_, _, _, session, ret, ssl, _, _, _, _, _, _, result⟩ := gives
  have fits := callResult_length session ssl (.read socketBufferSize) ret
    fun len reads => (Call.read.inj reads).symm
  rw [result] at fits
  exact ⟨readResult_nonempty result, fits⟩

/-- What the server makes of a plaintext, whatever its buffer held before. -/
theorem settle_plaintext {c : ClientSession} (found : s.registry.clients.get? client = some c)
    (buffer : s.buffer.length = socketBufferSize) (nonempty : 0 < p.length)
    (fits : p.length ≤ socketBufferSize) (len : Nat) (session : Option Nat)
    (outcomes : List SendOutcome) :
    ∃ s', settle H s left client (.read len) session .ok p outcomes = .ok s' ∧
      s'.pc = .engine left client (.write (pongReply p)) [] := by
  have written : (respond H.endian (overwrite s.buffer p) p.length).take p.length =
      pongReply p := by
    rw [respond_overwrite H.endian (by omega), replyTo_eq]
  simp only [settle, nonempty, and_self, ↓reduceIte, begin, Heap.load_ok found, ok_bind, pure_ok,
    written]
  exact ⟨_, rfl, rfl⟩

/-- A plaintext is written back as its reply, whatever the buffer held. -/
theorem ReadGives.answered (gives : ReadGives H s left client p)
    (buffer : s.buffer.length = socketBufferSize) (outcomes : List SendOutcome) :
    ∃ s', advance H s (.finish outcomes) = some s' ∧
      s'.pc = .engine left client (.write (pongReply p)) [] := by
  obtain ⟨nonempty, fits⟩ := gives.length
  obtain ⟨seen, c, sid, session, ret, ssl, accepted, at_pc, found, owns, live, moves, result⟩ :=
    gives
  obtain ⟨sessions, stored, -⟩ :=
    Heap.store_ok (callResult session ssl (.read socketBufferSize) ret).1 live
  obtain ⟨s', settled, written⟩ := settle_plaintext (H := H) (s := { s with
    registry := { s.registry with sessions }
    log := s.log ++ (if accepted then [.accepted sid c.lastActivity] else []) ++
      [.returned sid (.read socketBufferSize) .ok] })
    found buffer nonempty fits socketBufferSize (some sid) outcomes
  refine ⟨s', advance_eq_some.mpr ?_, written⟩
  rw [at_pc] at settled
  simp only [step, at_pc, engineStep, Heap.load_ok found, ok_bind, owns, Heap.load_ok live, moves,
    stored, result]
  exact congrArg (· >>= fun s' => pure (some s')) settled

/-- The reply to a plaintext depends on the plaintext alone. -/
theorem reply_law (gives : ReadGives H s left client p)
    (buffer : s.buffer.length = socketBufferSize) (outcomes : List SendOutcome) :
    ∃ s' reply, advance H s (.finish outcomes) = some s' ∧
      s'.pc = .engine left client (.write reply) [] ∧ reply.length = p.length ∧
      reply = if 18 ≤ p.length ∧ p.take 2 = [0x00, 0x01] ∧ (p.drop 2).take 2 = [0x00, 0x06] ∧
          loadUint .big ((p.drop 16).take 2) ≤ 4078
        then p.take 2 ++ [0x10, 0x05] ++ p.drop 4 else p := by
  obtain ⟨s', taken, written⟩ := gives.answered buffer outcomes
  refine ⟨s', pongReply p, taken, written, pongReply_length p, ?_⟩
  unfold pongReply
  exact if_congr isPing_iff rfl rfl

/-- A PING of 18 bytes that declares a payload. -/
def pingOf (high low : UInt8) : Bytes :=
  [0x00, 0x01, 0x00, 0x06] ++ List.replicate 12 0 ++ [high, low]

/-- The server at the end of a read of one client, with old bytes in its buffer. -/
def midRead (p : Bytes) (old : UInt8) : State Unit where
  pc := .engine 0 0 (.read socketBufferSize) [.received (.ok p)]
  running := true
  registry :=
    { clients := (Heap.empty.alloc ⟨⟨.blank, sockaddrLen, some 0, 0, true⟩, none⟩).1
      sessions := (Heap.empty.alloc
        ⟨serverContext, (), false, .blank, sockaddrLen, true⟩).1
      gClients := some 0 }
  sock := []
  buffer := List.replicate socketBufferSize old
  lastTimeoutCheck := 0
  log := []

/-- The read of that state gives the plaintext. -/
theorem midRead_gives {p : Bytes} (nonempty : p ≠ []) (fits : p.length ≤ socketBufferSize)
    (old : UInt8) : ReadGives ⟨plain, .little, serverContext, 3⟩ (midRead p old) 0 0 p := by
  refine ⟨_, _, 0, _, .ok p, (), true, rfl, rfl, rfl, rfl, rfl, ?_⟩
  have whole : p.take socketBufferSize = p := List.take_of_length_le fits
  cases p with
  | nil => contradiction
  | cons b rest => simp [callResult, Except.map, whole, readResult]

/-- A PING that declares 4078 bytes it does not have is answered with its own 18 bytes, although
the buffer is full of others. -/
theorem reply_law_overlong :
    ∃ s' reply, advance ⟨plain, .little, serverContext, 3⟩ (midRead (pingOf 0x0F 0xEE) 0xAA)
        (.finish []) = some s' ∧
      s'.pc = .engine 0 0 (.write reply) [] ∧
      reply = [0x00, 0x01, 0x10, 0x05] ++ List.replicate 12 0 ++ [0x0F, 0xEE] := by
  obtain ⟨s', reply, taken, written, -, law⟩ :=
    reply_law (midRead_gives (p := pingOf 0x0F 0xEE) (by decide) (by decide) 0xAA)
      List.length_replicate []
  exact ⟨s', reply, taken, written, law⟩

/-- The type of the plaintext is PING and the type of the reply is PONG. -/
def Ponged (p reply : Bytes) : Prop := field p 2 2 = [0x00, 0x06] ∧ field reply 2 2 = [0x10, 0x05]

/-- A PING is answered with a well-formed PONG, or not with a PONG. -/
structure PongSound (p reply : Bytes) : Prop where
  /-- A PONG declares the bytes that follow its header. -/
  wellFormed : Ponged p reply → 18 + declaredLength reply = reply.length
  /-- A PING that declares another number of bytes than it has is not answered with a PONG. -/
  mismatch : 18 + declaredLength p ≠ p.length → ¬Ponged p reply

/-- The reply declares the length that the plaintext declares. -/
theorem pongReply_declared (p : Bytes) : declaredLength (pongReply p) = declaredLength p := by
  unfold pongReply
  split
  · rename_i ping
    have ⟨long, _⟩ := isPing_iff.mp ping
    have head : (p.take 2 ++ [0x10, 0x05]).length = 4 := by simp; omega
    have tail : (p.take 2 ++ [0x10, 0x05] ++ p.drop 4).drop 16 = p.drop 16 := by
      rw [List.drop_append, List.drop_eq_nil_of_le (by omega), head, List.drop_drop,
        List.nil_append]
    rw [declaredLength, field, tail]
    rfl
  · rfl

/-- A PING is answered with a PONG when the server recognizes it, and only then. -/
theorem ponged_iff (p : Bytes) : Ponged p (pongReply p) ↔ isPing p = true := by
  unfold Ponged pongReply
  split
  · rename_i ping
    have ⟨long, _, type, _⟩ := isPing_iff.mp ping
    have head : (p.take 2).length = 2 := by simp; omega
    have pong : field (p.take 2 ++ [0x10, 0x05] ++ p.drop 4) 2 2 = [0x10, 0x05] := by
      rw [field, List.append_assoc, List.drop_left' head]
      rfl
    exact iff_of_true ⟨type, pong⟩ ping
  · rename_i other
    refine iff_of_false ?_ other
    rintro ⟨ping, pong⟩
    rw [ping] at pong
    exact absurd pong (by decide)

/-- The server answers PINGs with well-formed PONGs only, exactly when every PING that it
recognizes declares its own length. -/
theorem pong_sound (gives : ReadGives H s left client p)
    (buffer : s.buffer.length = socketBufferSize) (outcomes : List SendOutcome) :
    ∃ s' reply, advance H s (.finish outcomes) = some s' ∧
      s'.pc = .engine left client (.write reply) [] ∧
      (PongSound p reply ↔ (isPing p = true → 18 + declaredLength p = p.length)) := by
  obtain ⟨s', taken, written⟩ := gives.answered buffer outcomes
  refine ⟨s', pongReply p, taken, written, fun sound ping => ?_, fun honest => ⟨?_, ?_⟩⟩
  · have equal := sound.wellFormed ((ponged_iff p).mpr ping)
    rwa [pongReply_declared, pongReply_length] at equal
  · intro ponged
    rw [pongReply_declared, pongReply_length]
    exact honest ((ponged_iff p).mp ponged)
  · intro other ponged
    exact other (honest ((ponged_iff p).mp ponged))

/-- A PING without payload that says so gets a well-formed PONG. -/
theorem pong_sound_honest :
    ∃ s' reply, advance ⟨plain, .little, serverContext, 3⟩ (midRead (pingOf 0 0) 0xAA)
        (.finish []) = some s' ∧
      s'.pc = .engine 0 0 (.write reply) [] ∧ PongSound (pingOf 0 0) reply := by
  obtain ⟨s', reply, taken, written, exactly⟩ :=
    pong_sound (midRead_gives (p := pingOf 0 0) (by decide) (by decide) 0xAA)
      List.length_replicate []
  exact ⟨s', reply, taken, written, exactly.mpr fun _ => rfl⟩

/-- A client completes its handshake and sends a PING of 18 bytes that declares 4078 more. -/
def overlongPing : List (Input Unit) :=
  [.arrive ⟨⟨1, 1⟩, [1]⟩, .poll (some 1) 0 0 (fun _ => []), .event,
    .peek false (addSucceeds 0 ()) 0, .recv .ready .normal, .finish [], .consume false [],
    .arrive ⟨⟨1, 1⟩, pingOf 0x0F 0xEE⟩, .peek false (addSucceeds 0 ()) 0, .recv .ready .normal,
    .finish []]

/-- The reply the server is writing. -/
def Pc.writing : Pc → Option Bytes
  | .engine _ _ (.write bytes) _ => some bytes
  | _ => none

/-- In that run the server answers with a PONG that declares 4078 bytes and has none. -/
theorem pong_overread :
    ∃ s reply, Reachable ⟨plain, .little, serverContext, 3⟩ anything s ∧
      .plaintext 0 (pingOf 0x0F 0xEE) ∈ s.log ∧ s.pc.writing = some reply ∧
      ¬PongSound (pingOf 0x0F 0xEE) reply := by
  have ran : ((runGuarded (advance ⟨plain, .little, serverContext, 3⟩) anything startZero
      overlongPing).map fun s => (s.log.contains (.plaintext 0 (pingOf 0x0F 0xEE)),
        s.pc.writing)) =
      some (true, some ([0x00, 0x01, 0x10, 0x05] ++ List.replicate 12 0 ++ [0x0F, 0xEE])) := by
    decide +kernel
  obtain ⟨s, executed, result⟩ := Option.map_eq_some_iff.mp ran
  obtain ⟨logged, written⟩ := Prod.mk.inj result
  refine ⟨s, _, reach_of_runGuarded overlongPing (.start (starts_startZero plain .little 3))
    executed, List.contains_iff_mem.mp logged, written, fun sound => ?_⟩
  exact sound.mismatch (by decide) ⟨by decide, by decide⟩

end SpaceCaptain.Server
