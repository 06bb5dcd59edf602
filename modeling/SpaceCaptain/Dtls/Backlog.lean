import SpaceCaptain.Dtls.Engine

/-!
# Records that wait to be sent

When the socket takes no packet, the library has encoded its record already and keeps it. The next
`mbedtls_ssl_write` sends that record, ignores its own data and returns their length; but every
`mbedtls_ssl_read` on a datagram transport sends it first, before it looks at any datagram. A
`Backlog` reads the waiting record off the library's state; its laws are this behaviour.
-/
namespace SpaceCaptain.Dtls

/-- What the states of the library say about records to be sent. -/
structure Backlog (ρ : Type*) where
  /-- The record that waits to be sent: its plaintext, if it is an application record, or nothing,
  if it is an alert or belongs to a handshake. -/
  pending : ρ → Option (Option Bytes)
  /-- The plaintext that a packet carries as an application record, if it is one. -/
  opens : ρ → Bytes → Option Bytes

/-- How the calls treat the waiting record. -/
structure Backlog.Laws {ρ : Type*} (B : Backlog ρ) (E : Engine ρ) : Prop where
  /-- A write sends one packet: the waiting record, or else the record of its own data. -/
  sends : ∀ reply ssl seen bytes, E.move (.write reply) ssl seen = .send bytes →
    seen = [] ∧ B.opens ssl bytes = (B.pending ssl).getD (some reply)
  /-- A write succeeds when its packet was sent, and then nothing waits. -/
  succeeds : ∀ reply ssl seen n ssl' accepted,
    E.move (.write reply) ssl seen = .finish (.ok n) ssl' accepted →
    (∃ m rest, seen = .sent (.ok m) :: rest) ∧ B.pending ssl' = none
  /-- A write that blocks keeps its record. -/
  blocks : ∀ reply ssl seen ssl' accepted,
    E.move (.write reply) ssl seen = .finish (.error .wantWrite) ssl' accepted →
    B.pending ssl' = some ((B.pending ssl).getD (some reply))
  /-- A read sends what waits before it does anything else. When this callback returns a code, the
  read returns it and keeps the record. Otherwise nothing waits after the read, unless it fails
  over an alert of its own. -/
  flushes : ∀ len ssl seen ret ssl' accepted,
    E.move (.read len) ssl seen = .finish ret ssl' accepted →
    (∃ code rest, seen = .sent (.error code) :: rest ∧ ret = .error code ∧
      B.pending ssl' = B.pending ssl) ∨
    (B.pending ssl = none ∨ ∃ n rest, seen = .sent (.ok n) :: rest) ∧
      (B.pending ssl' = none ∨ B.pending ssl' = some none ∧ ∃ code, ret = .error code)
  /-- The calls other than a write send no application record but the waiting one. -/
  others : ∀ call ssl seen bytes, (∀ reply, call ≠ .write reply) →
    E.move call ssl seen = .send bytes →
    B.opens ssl bytes = none ∨ ∃ x, B.pending ssl = some (some x) ∧ B.opens ssl bytes = some x
  /-- They leave no application record waiting that did not wait before. -/
  clears : ∀ call ssl seen ret ssl' accepted x, (∀ reply, call ≠ .write reply) →
    E.move call ssl seen = .finish ret ssl' accepted →
    B.pending ssl' = some (some x) → B.pending ssl = some (some x)

/-- A read that gives bytes leaves nothing waiting. -/
theorem Backlog.Laws.read_clears {ρ : Type*} {B : Backlog ρ} {E : Engine ρ} (laws : B.Laws E)
    {len : Nat} {ssl ssl' : ρ} {seen : List Seen} {bytes : Bytes} {accepted : Bool}
    (moves : E.move (.read len) ssl seen = .finish (.ok bytes) ssl' accepted) :
    B.pending ssl' = none := by
  rcases laws.flushes len ssl seen (.ok bytes) ssl' accepted moves with
    ⟨code, rest, -, failed, -⟩ | ⟨-, clear | ⟨-, code, failed⟩⟩
  · contradiction
  · exact clear
  · contradiction

/-- A call sends the waiting record, if there is one, and goes on. -/
def flush {α : Type} (waiting : Option Bytes) (seen : List Seen)
    (goOn : List Seen → Move (Option Bytes) α) : Move (Option Bytes) α :=
  match waiting with
  | none => goOn seen
  | some record =>
    match seen with
    | .sent (.ok _) :: rest => goOn rest
    | .sent (.error code) :: _ => .finish (.error code) (some record) false
    | _ => .send record

/-- A call takes one datagram as it is, and leaves nothing waiting. -/
def take {α : Type} (value : Bytes → α) (seen : List Seen) : Move (Option Bytes) α :=
  match seen with
  | [] => .recv 65536 0
  | .received (.ok bytes) :: _ => .finish (.ok (value bytes)) none true
  | _ => .finish (.error .wantRead) none false

/-- A library whose state is the waiting record: a handshake and a read send it, and then take one
datagram; a record is its plaintext. -/
def retaining : Engine (Option Bytes) where
  move
    | .handshake, waiting, seen => flush waiting seen (take fun _ => ())
    | .read _, waiting, seen => flush waiting seen (take fun bytes => bytes)
    | .write reply, waiting, seen =>
      match seen with
      | [] => .send (waiting.getD reply)
      | .sent (.ok _) :: _ => .finish (.ok reply.length) none false
      | .sent (.error code) :: _ => .finish (.error code) (some (waiting.getD reply)) false
      | _ => .finish (.error (.other 0)) waiting false
  close _ _ := []

/-- What waits in that library, and what its packets carry. -/
def retainingBacklog : Backlog (Option Bytes) where
  pending waiting := waiting.map some
  opens _ bytes := some bytes

/-- A call that takes a datagram sends nothing itself, and leaves nothing waiting. -/
theorem take_cases {α : Type} (value : Bytes → α) (seen : List Seen) :
    take value seen = .recv 65536 0 ∨
      ∃ ret accepted, take value seen = .finish ret none accepted := by
  unfold take
  split
  · exact .inl rfl
  · exact .inr ⟨_, _, rfl⟩
  · exact .inr ⟨_, _, rfl⟩

/-- What such a call sends is what waits. -/
theorem flush_send {α : Type} {value : Bytes → α} {waiting : Option Bytes} {seen : List Seen}
    {bytes : Bytes} (moves : flush waiting seen (take value) = .send bytes) :
    waiting = some bytes := by
  have silent (seen : List Seen) : take value seen ≠ .send bytes := by
    rcases take_cases value seen with asks | ⟨ret, accepted, returns⟩
    · rw [asks]
      exact nofun
    · rw [returns]
      exact nofun
  unfold flush at moves
  split at moves
  · exact absurd moves (silent seen)
  · split at moves
    · exact absurd moves (silent _)
    · contradiction
    · exact congrArg some (Move.send.inj moves)

/-- When such a call returns, it has sent what waits, or keeps it and returns the callback's
code. -/
theorem flush_finish {α : Type} {value : Bytes → α} {waiting waiting' : Option Bytes}
    {seen : List Seen} {ret : Except MbedErr α} {accepted : Bool}
    (moves : flush waiting seen (take value) = .finish ret waiting' accepted) :
    (∃ code rest, seen = .sent (.error code) :: rest ∧ ret = .error code ∧ waiting' = waiting) ∨
      (waiting = none ∨ ∃ n rest, seen = .sent (.ok n) :: rest) ∧ waiting' = none := by
  have clear (seen : List Seen) (moves : take value seen = .finish ret waiting' accepted) :
      waiting' = none := by
    rcases take_cases value seen with asks | ⟨ret', accepted', returns⟩
    · exact nomatch asks.symm.trans moves
    · exact (Move.finish.inj (returns.symm.trans moves)).2.1.symm
  unfold flush at moves
  split at moves
  · exact .inr ⟨.inl rfl, clear seen moves⟩
  · split at moves
    · rename_i n rest
      exact .inr ⟨.inr ⟨n, rest, rfl⟩, clear _ moves⟩
    · rename_i code rest
      obtain ⟨rfl, rfl, -⟩ := Move.finish.inj moves
      exact .inl ⟨code, rest, rfl, rfl, rfl⟩
    · contradiction

/-- That library treats the waiting record as it should. -/
theorem retaining_laws : retainingBacklog.Laws retaining where
  sends reply waiting seen bytes moves := by
    simp only [retaining] at moves
    split at moves
    · obtain rfl := Move.send.inj moves
      refine ⟨rfl, ?_⟩
      cases waiting <;> rfl
    all_goals contradiction
  succeeds reply waiting seen n waiting' accepted moves := by
    simp only [retaining] at moves
    split at moves
    · contradiction
    · rename_i m rest
      obtain ⟨-, rfl, -⟩ := Move.finish.inj moves
      exact ⟨⟨m, rest, rfl⟩, rfl⟩
    all_goals simp at moves
  blocks reply waiting seen waiting' accepted moves := by
    simp only [retaining] at moves
    split at moves
    · contradiction
    · simp at moves
    · obtain ⟨-, rfl, -⟩ := Move.finish.inj moves
      cases waiting <;> rfl
    · simp at moves
  flushes len waiting seen ret waiting' accepted moves := by
    rcases flush_finish moves with ⟨code, rest, first, failed, rfl⟩ | ⟨sent, rfl⟩
    · exact .inl ⟨code, rest, first, failed, rfl⟩
    · refine .inr ⟨sent.imp_left fun nothing => ?_, .inl rfl⟩
      rw [nothing]
      rfl
  others call waiting seen bytes other moves := by
    have waits : waiting = some bytes := by
      cases call with
      | write reply => exact absurd rfl (other reply)
      | handshake | read => exact flush_send moves
    exact .inr ⟨bytes, congrArg (Option.map some) waits, rfl⟩
  clears call waiting seen ret waiting' accepted x other moves waits := by
    have same : waiting' = waiting ∨ waiting' = none := by
      cases call with
      | write reply => exact absurd rfl (other reply)
      | handshake | read =>
        exact (flush_finish moves).imp (fun ⟨_, _, _, _, kept⟩ => kept) fun clear => clear.2
    rcases same with rfl | rfl
    · exact waits
    · contradiction

end SpaceCaptain.Dtls
