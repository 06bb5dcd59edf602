import SpaceCaptain.Dtls.Engine

/-!
# Application data inside the library

A datagram may carry several records, and a record may be longer than the buffer of a read. What
the library has accepted and the program has not read stays in the library's state. An `Intake`
reads it off that state; its laws say how much of it each call takes away.
-/
namespace SpaceCaptain.Dtls

/-- What the states of the library say about application data. -/
structure Intake (ρ : Type*) where
  /-- The records that were accepted and not read yet, oldest first; the first of them may be the
  rest of a record. -/
  held : ρ → List Bytes
  /-- The first of them is the rest of a record. -/
  partway : ρ → Bool
  /-- The records that a call accepts from the datagrams it was given. -/
  arriving : Call → ρ → List Seen → List Bytes

/-- What is left of some records after a read with room for `len` bytes: a read takes bytes of the
first record only. -/
def leftover (len : Nat) : List Bytes → List Bytes
  | [] => []
  | record :: rest => if record.length ≤ len then rest else record.drop len :: rest

/-- All records that a call can take bytes from. -/
def Intake.available {ρ : Type*} (B : Intake ρ) (call : Call) (ssl : ρ) (seen : List Seen) :
    List Bytes :=
  B.held ssl ++ B.arriving call ssl seen

/-- How the calls treat application data. -/
structure Intake.Laws {ρ : Type*} (B : Intake ρ) (E : Engine ρ) : Prop where
  /-- A read that succeeds copies at most `len` bytes of the first record, and keeps the rest. -/
  reads : ∀ len ssl seen data ssl' accepted,
    E.move (.read len) ssl seen = .finish (.ok data) ssl' accepted →
    ∃ record rest, B.available (.read len) ssl seen = record :: rest ∧ data = record.take len ∧
      B.held ssl' = leftover len (record :: rest) ∧ B.partway ssl' = decide (len < record.length)
  /-- A read that fails takes nothing away. -/
  fails : ∀ len ssl seen code ssl' accepted,
    E.move (.read len) ssl seen = .finish (.error code) ssl' accepted →
    B.held ssl' = B.held ssl ∧ B.partway ssl' = B.partway ssl
  /-- A write leaves the records alone. -/
  writes : ∀ bytes ssl seen ret ssl' accepted,
    E.move (.write bytes) ssl seen = .finish ret ssl' accepted →
    B.held ssl' = B.held ssl ∧ B.partway ssl' = B.partway ssl
  /-- A handshake keeps what it accepts. -/
  handshakes : ∀ ssl seen ret ssl' accepted,
    E.move .handshake ssl seen = .finish ret ssl' accepted →
    B.held ssl' = B.available .handshake ssl seen ∧ B.partway ssl' = B.partway ssl

/-- The records of a datagram: after a zero each byte is a record, after any other byte the rest
is one record. -/
def recordsIn : Bytes → List Bytes
  | [] => []
  | kind :: rest => if kind = 0 then rest.map fun b => [b] else [rest]

/-- The records of the datagram that a call received. -/
def arrived : List Seen → List Bytes
  | .received (.ok bytes) :: _ => recordsIn bytes
  | _ => []

/-- The state after a read of the first record. -/
def afterRead (len : Nat) (record : Bytes) (rest : List Bytes) : List Bytes × Bool :=
  (leftover len (record :: rest), decide (len < record.length))

/-- A library whose state is what it holds: a handshake takes one datagram as it is, a read takes
one datagram when nothing is held, and a write sends its bytes. -/
def bundled : Engine (List Bytes × Bool) where
  move
    | .handshake, ssl, seen =>
      match seen with
      | [] => .recv 65536 0
      | .received (.ok _) :: _ => .finish (.ok ()) ssl true
      | _ => .finish (.error .wantRead) ssl false
    | .read len, ssl, seen =>
      match ssl.1 ++ arrived seen, seen with
      | record :: rest, _ => .finish (.ok (record.take len)) (afterRead len record rest) true
      | [], [] => .recv 65536 0
      | [], _ => .finish (.error .wantRead) ssl false
    | .write bytes, ssl, seen =>
      match seen with
      | .sent result :: _ => .finish result ssl false
      | _ => .send bytes
  close _ _ := []

/-- What that library holds, and accepts in a read. -/
def bundledIntake : Intake (List Bytes × Bool) where
  held ssl := ssl.1
  partway ssl := ssl.2
  arriving
    | .read _, _, seen => arrived seen
    | _, _, _ => []

/-- That library treats application data as it should. -/
theorem bundled_laws : bundledIntake.Laws bundled where
  reads len ssl seen data ssl' accepted moves := by
    simp only [bundled] at moves
    split at moves
    · rename_i record rest records
      simp only [Move.finish.injEq, Except.ok.injEq] at moves
      obtain ⟨rfl, rfl, -⟩ := moves
      exact ⟨record, rest, records, rfl, rfl, rfl⟩
    · contradiction
    · simp at moves
  fails len ssl seen code ssl' accepted moves := by
    simp only [bundled] at moves
    split at moves
    · simp at moves
    · contradiction
    · obtain ⟨-, rfl, -⟩ := Move.finish.inj moves
      exact ⟨rfl, rfl⟩
  writes bytes ssl seen ret ssl' accepted moves := by
    simp only [bundled] at moves
    split at moves
    · obtain ⟨-, rfl, -⟩ := Move.finish.inj moves
      exact ⟨rfl, rfl⟩
    · contradiction
  handshakes ssl seen ret ssl' accepted moves := by
    have nothing : bundledIntake.available .handshake ssl seen = ssl.1 := List.append_nil _
    simp only [bundled] at moves
    split at moves
    · contradiction
    all_goals
      obtain ⟨-, rfl, -⟩ := Move.finish.inj moves
      exact ⟨nothing.symm, rfl⟩

end SpaceCaptain.Dtls
