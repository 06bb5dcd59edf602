import Mathlib.Data.Finset.Card
import SpaceCaptain.Server.Sessions

/-!
# State for addresses that have not been verified

The server's context asks for cookies, so that a source has to prove that it receives what is
sent to its address. Whether the handshake of a session is past that check is known inside the
library only; `verified` reads it off the library's state. An observer collects the addresses
whose handshakes got past the check. The server keeps a session whose handshake would block, and
the check may still be ahead of it; in the runs where that does not happen every session that is
kept belongs to a collected address.
-/
namespace SpaceCaptain.Server

open SpaceCaptain.Dtls SpaceCaptain.Library

variable {ρ : Type}

/-- What a library that checks cookies does to the states that are past the check. -/
structure CookieLaws (E : Engine ρ) (verified : ρ → Bool) : Prop where
  /-- A handshake that succeeds is past the check. -/
  succeeds : ∀ ssl seen ssl' accepted,
    E.move .handshake ssl seen = .finish (.ok ()) ssl' accepted → verified ssl' = true
  /-- No call goes back behind the check. -/
  kept : ∀ call ssl seen ret ssl' accepted,
    E.move call ssl seen = .finish ret ssl' accepted → verified ssl = true → verified ssl' = true

/-- A handshake that has to wait for the socket. -/
def stalls : (call : Call) → Except MbedErr call.Value → Bool
  | .handshake, .error .wantRead | .handshake, .error .wantWrite => true
  | _, _ => false

/-- No handshake stalls before the cookie check. -/
def stallsVerified {τ : Type} (H : Host ρ) (verified : ρ → Bool) (x : State ρ × τ)
    (input : Input ρ) : Bool :=
  match returning H x.1 input with
  | some r => !stalls r.call r.ret || verified r.ssl
  | none => true

/-- The addresses whose handshakes got past the cookie check so far. -/
def provenAddresses (H : Host ρ) (verified : ρ → Bool) (s : State ρ) (input : Input ρ)
    (proven : Finset (UInt32 × UInt16)) : Finset (UInt32 × UInt16) :=
  match returning H s input with
  | some r => if verified r.ssl then insert r.client.addr.key proven else proven
  | none => proven

/-- A client whose session is past the check, at a collected address. -/
def PastCheck (verified : ρ → Bool) (s : State ρ) (proven : Finset (UInt32 × UInt16))
    (e : Entry) : Prop :=
  ∃ sid session, e.2.dtlsSession = some sid ∧ s.registry.sessions.get? sid = some session ∧
    verified session.ssl = true ∧ e.2.addr.key ∈ proven

/-- When no client's datagram is being processed, the server keeps sessions for addresses only
that got past the check, and no more sessions than such addresses. -/
def OnlyVerifiedKept (verified : ρ → Bool) (s : State ρ)
    (proven : Finset (UInt32 × UInt16)) : Prop :=
  s.pc.client = none → ∃ l, Intact s.registry l ∧ (∀ e ∈ l, PastCheck verified s proven e) ∧
    l.length ≤ proven.card

/-- The server is in the handshake of a client, or about to remove it. -/
def Pc.greets (pc : Pc) (client : Nat) : Prop :=
  pc.client = some client ∧ (pc.call = none ∨ pc.call = some .handshake)

/-- Every client but the one in its handshake is past the check. -/
def OthersPastCheck (verified : ρ → Bool) (s : State ρ) (proven : Finset (UInt32 × UInt16))
    (l : List Entry) : Prop :=
  ∀ e ∈ l, ¬s.pc.greets e.1 → PastCheck verified s proven e

section Steps

variable {H : Host ρ} {verified : ρ → Bool} {s s' : State ρ} {l l' : List Entry}
  {proven : Finset (UInt32 × UInt16)}

/-- The collection only grows. -/
theorem provenAddresses_mono (H : Host ρ) (verified : ρ → Bool) (s : State ρ)
    (input : Input ρ) (proven : Finset (UInt32 × UInt16)) :
    proven ⊆ provenAddresses H verified s input proven := by
  unfold provenAddresses
  split
  · split
    · exact Finset.subset_insert _ _
    · exact Finset.Subset.refl _
  · exact Finset.Subset.refl _

/-- A call that returns past the check, unless the client is about to be removed. -/
theorem Settled.pastCheck (laws : CookieLaws H.engine verified) {left client sid : Nat}
    {call : Call} {seen : List Seen} {session : Session ρ} {ret : Except MbedErr call.Value}
    {ssl : ρ} {accepted : Bool}
    (moves : H.engine.move call session.ssl seen = .finish ret ssl accepted)
    (before : call ≠ .handshake → verified session.ssl = true)
    (checked : stalls call ret = true → verified ssl = true)
    (settled : Settled H s l left client sid call (callResult session ssl call ret).2.1
      (callResult session ssl call ret).2.2 s' l')
    (stays : ¬s'.pc.greets client) : verified ssl = true := by
  cases call with
  | read len | write bytes => exact laws.kept _ _ _ _ _ _ moves (before nofun)
  | handshake =>
    cases ret with
    | ok done => exact laws.succeeds _ _ _ _ moves
    | error code =>
      by_cases waits : code = .wantRead ∨ code = .wantWrite
      · exact checked (by rcases waits with rfl | rfl <;> rfl)
      · -- Every other code is an error, and the client is removed.
        refine absurd ?_ stays
        generalize result : (callResult session ssl .handshake (.error code)).2.1 = r at settled
        cases settled with
        | failed => exact ⟨rfl, .inl rfl⟩
        | completed => cases code <;> simp [callResult, handshakeResult] at result
        | pending =>
          cases code <;> first
            | exact absurd (.inl rfl) waits
            | exact absurd (.inr rfl) waits
            | simp [callResult, handshakeResult] at result

/-- Every move in which no handshake stalls before the check keeps the clients past it. -/
theorem Move.pastCheck {τ : Type} {t : τ} {input : Input ρ} (laws : CookieLaws H.engine verified)
    (sound : Sound H s l) (past : OthersPastCheck verified s proven l)
    (checked : stallsVerified H verified (s, t) input = true) (move : Move H s l input s' l')
    (sound' : Sound H s' l') (origins : ∀ q session',
      s'.registry.sessions.get? q = some session' → Origin s l H q session' input) :
    OthersPastCheck verified s' (provenAddresses H verified s input proven) l' := by
  intro e entry apart
  obtain ⟨sid, session', owns, live, descent⟩ := move.descent sound sound' origins entry
  cases descent with
  | kept _ c old addr _ owned alive goesOn =>
    have before : ¬s.pc.greets e.1 := by
      rintro ⟨here, call⟩
      obtain ⟨still, same⟩ := goesOn here
      exact apart ⟨still, same ▸ call⟩
    obtain ⟨sid', session, owned', alive', holds, member⟩ := past (e.1, c) old before
    obtain rfl := Option.some.inj (owned.symm.trans owned')
    obtain rfl := Option.some.inj (alive.symm.trans alive')
    exact ⟨sid, session', owns, live, holds,
      provenAddresses_mono H verified s input proven (addr ▸ member)⟩
  | created _ _ _ _ _ place => exact absurd ⟨place.1, .inr place.2⟩ apart
  | returned left call seen c session ret ssl accepted outcomes inside moves content addr _ _
      settled =>
    have back := inside.returning sound.intact moves outcomes
    have before (other : call ≠ .handshake) : verified session.ssl = true := by
      have away : ¬s.pc.greets e.1 := by
        rw [inside.at_pc]
        rintro ⟨-, nothing | greets⟩
        · contradiction
        · exact other (Option.some.inj greets)
      obtain ⟨sid', session₀, owned, alive, holds, -⟩ := past (e.1, c) inside.member away
      obtain rfl := Option.some.inj (inside.owns.symm.trans owned)
      obtain rfl := Option.some.inj (inside.live.symm.trans alive)
      exact holds
    have stalled (waits : stalls call ret = true) : verified ssl = true := by
      simpa [stallsVerified, back, waits] using checked
    have holds := settled.pastCheck laws moves before stalled apart
    refine ⟨sid, session', owns, live, ?_, ?_⟩
    · rw [content, callResult_ssl]
      exact holds
    · rw [provenAddresses, back, addr]
      simp only [holds, if_true]
      exact Finset.mem_insert_self _ _

/-- Clients at collected addresses are no more than these. -/
theorem length_le_proven (intact : Intact s.registry l)
    (member : ∀ e ∈ l, e.2.addr.key ∈ proven) : l.length ≤ proven.card := by
  have distinct : (l.map fun e => e.2.addr.key).toFinset.card = l.length := by
    rw [List.toFinset_card_of_nodup intact.keys, List.length_map]
  rw [← distinct]
  refine Finset.card_le_card fun key listed => ?_
  obtain ⟨e, entry, rfl⟩ := List.mem_map.mp (List.mem_toFinset.mp listed)
  exact member e entry

end Steps

/-- In every run in which no handshake stalls before the cookie check, the server keeps state for
verified addresses only. -/
theorem only_verified_kept {H : Host ρ} {verified : ρ → Bool}
    (laws : CookieLaws H.engine verified) {s : State ρ} {proven : Finset (UInt32 × UInt16)}
    (reached : Watched H (fun _ => ∅) (provenAddresses H verified) (stallsVerified H verified)
      (s, proven)) : OnlyVerifiedKept verified s proven := by
  obtain ⟨l, sound, past⟩ := Watched.listed_sessions (I := OthersPastCheck verified)
    (fun _ _ _ entry => absurd entry List.not_mem_nil)
    (fun _ _ _ _ _ _ sound past checked move sound' origins =>
      move.pastCheck laws sound past checked sound' origins) reached
  intro nobody
  have all (e : Entry) (entry : e ∈ l) : PastCheck verified s proven e := by
    refine past e entry ?_
    rintro ⟨here, -⟩
    rw [nobody] at here
    contradiction
  refine ⟨l, sound.intact, all, length_le_proven sound.intact fun e entry => ?_⟩
  obtain ⟨-, -, -, -, -, member⟩ := all e entry
  exact member

/-- A library that knows of a session only whether it is past the cookie check. A ClientHello
starts with 22, and its next byte is 1 when it has a valid cookie; whatever is no ClientHello is
dropped. -/
def careful : Engine Bool where
  move
    | .handshake, past, seen =>
      match seen with
      | [] => .recv socketBufferSize 0
      | .received (.ok (22 :: cookie :: _)) :: _ =>
        if past || cookie == 1 then .finish (.ok ()) true true
        else .finish (.error .helloVerifyRequired) past false
      | .received (.error code) :: _ => .finish (.error code) past false
      | _ => .finish (.error .wantRead) past false
    | .read _, past, _ => .finish (.error .wantRead) past false
    | .write _, past, _ => .finish (.error .wantWrite) past false
  close _ _ := []

/-- That library checks cookies. -/
theorem careful_laws : CookieLaws careful id where
  succeeds past seen ssl' accepted moves := by
    simp only [careful] at moves
    split at moves
    · contradiction
    · split at moves
      · obtain ⟨-, rfl, -⟩ := Move.finish.inj moves
        rfl
      · simp at moves
    all_goals simp at moves
  kept call past seen ret ssl' accepted moves before := by
    cases call with
    | read | write =>
      obtain ⟨-, rfl, -⟩ := Move.finish.inj moves
      exact before
    | handshake =>
      simp only [careful] at moves
      split at moves
      · contradiction
      · split at moves
        · obtain ⟨-, rfl, -⟩ := Move.finish.inj moves
          rfl
        · obtain ⟨-, rfl, -⟩ := Move.finish.inj moves
          exact before
      all_goals
        obtain ⟨-, rfl, -⟩ := Move.finish.inj moves
        exact before

/-- A source sends a ClientHello without a cookie, and then one with a valid cookie. -/
def helloTwice : List (Input Bool) :=
  [.arrive ⟨⟨1, 1⟩, [22, 0]⟩, .poll (some 1) 0 0 (fun _ => []), .event,
    .peek false (addSucceeds 0 false) 0, .recv .ready .normal, .finish [], .consume false [],
    .arrive ⟨⟨1, 1⟩, [22, 1]⟩, .peek false (addSucceeds 0 false) 0, .recv .ready .normal,
    .finish [], .consume false []]

/-- The first session is removed and the second is kept, for the address that is verified. -/
theorem only_verified_kept_helloTwice :
    ∃ s, runGuarded (observe (advance ⟨careful, .little, serverContext, 3⟩)
        (provenAddresses ⟨careful, .little, serverContext, 3⟩ id))
        (stallsVerified ⟨careful, .little, serverContext, 3⟩ id) (startZero, ∅) helloTwice =
          some (s, {(1, 1)}) ∧
      s.registry.gClients = some 1 ∧ s.pc.client = none ∧ OnlyVerifiedKept id s {(1, 1)} := by
  have ran : (runGuarded (observe (advance ⟨careful, .little, serverContext, 3⟩)
      (provenAddresses ⟨careful, .little, serverContext, 3⟩ id))
      (stallsVerified ⟨careful, .little, serverContext, 3⟩ id) (startZero, ∅) helloTwice).map
        (fun x => (x.2, x.1.registry.gClients, x.1.pc.client)) =
      some ({(1, 1)}, some 1, none) := by
    decide +kernel
  obtain ⟨⟨s, proven⟩, executed, facts⟩ := Option.map_eq_some_iff.mp ran
  simp only [Prod.mk.injEq] at facts
  obtain ⟨rfl, head, nobody⟩ := facts
  refine ⟨s, executed, head, nobody, ?_⟩
  exact only_verified_kept careful_laws
    (reach_of_runGuarded helloTwice (.start ⟨starts_startZero careful .little 3, rfl⟩) executed)

/-- Two sources send a byte that is no handshake record. -/
def spoofedTwice : List (Input Bool) :=
  [.arrive ⟨⟨1, 1⟩, [0]⟩, .arrive ⟨⟨2, 1⟩, [0]⟩, .poll (some 1) 0 0 (fun _ => []), .event,
    .peek false (addSucceeds 0 false) 0, .recv .ready .normal, .finish [], .consume false [],
    .arrive ⟨⟨2, 1⟩, [0]⟩, .peek false (addSucceeds 0 false) 0, .recv .ready .normal,
    .finish [], .consume false []]

/-- The server keeps a session although no source has returned a cookie. -/
theorem spoofed_kept :
    CookieLaws careful id ∧
    (∀ past, careful.move .handshake past [.received (.ok [0])] =
      .finish (.error .wantRead) past false) ∧
    ∃ s, runGuarded (observe (advance ⟨careful, .little, serverContext, 3⟩)
        (provenAddresses ⟨careful, .little, serverContext, 3⟩ id)) (fun _ _ => true)
        (startZero, ∅) spoofedTwice = some (s, ∅) ∧ ¬OnlyVerifiedKept id s ∅ := by
  have ran : (runGuarded (observe (advance ⟨careful, .little, serverContext, 3⟩)
      (provenAddresses ⟨careful, .little, serverContext, 3⟩ id)) (fun _ _ => true)
      (startZero, ∅) spoofedTwice).map (fun x => (x.2, x.1.registry.gClients, x.1.pc.client)) =
      some (∅, some 1, none) := by
    decide +kernel
  obtain ⟨⟨s, proven⟩, executed, facts⟩ := Option.map_eq_some_iff.mp ran
  simp only [Prod.mk.injEq] at facts
  obtain ⟨rfl, head, nobody⟩ := facts
  refine ⟨careful_laws, fun _ => rfl, s, executed, fun only => ?_⟩
  obtain ⟨l, intact, past, -⟩ := only nobody
  obtain ⟨c, member⟩ := intact.first head
  obtain ⟨-, -, -, -, -, absent⟩ := past _ member
  exact absurd absent (Finset.notMem_empty _)

end SpaceCaptain.Server
