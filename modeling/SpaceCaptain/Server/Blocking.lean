import SpaceCaptain.Dtls.Reading
import SpaceCaptain.Server.Sessions

/-!
# The server inside a read

The steps of the server inside a call are the callbacks of that call, one by one. So what is known
of a read alone is known of the server: after a read that finds nothing the client is still there
if nothing has stopped the read, and otherwise the server has removed it, for no reason of the
client's making.
-/
namespace SpaceCaptain.Server

open SpaceCaptain.Dtls SpaceCaptain.Library

variable {ρ : Type} {H : Host ρ} {s : State ρ} {l : List Entry} {left client sid : Nat}
  {call : Call} {seen : List Seen} {c : Client} {session : Session ρ}

/-- What the operating system does in a callback, as an input of the server. -/
def served : OsReply → Input ρ
  | .sendto outcome => .send outcome
  | .receive select outcome => .recv select outcome

/-- A callback of a call is a step of the server. -/
theorem callback_advance (sound : Sound H s l)
    (inside : InCall s l left client call seen c sid session) {waited : Bool} {reply : OsReply}
    {p' : Progress} (next : callback H.engine session call ⟨seen, s.sock, waited⟩ reply = some p') :
    ∃ s', advance H s (served reply) = some s' ∧ Sound H s' l ∧ s'.sock = p'.sock ∧
      InCall s' l left client call p'.seen c sid session := by
  obtain ⟨n, found, fields⟩ := sound.intact.node inside.member
  have pointer : n.dtlsSession = some sid := by rw [← inside.owns, ← fields]
  obtain ⟨bytes, outcome, moves, rfl, rfl⟩ |
    ⟨len, timeout, select, outcome, moves, rfl, rfl⟩ := callback_cases next
  · have taken : advance H s (.send outcome) = some { s with
        pc := .engine left client call (seen ++ [.sent (udpSend bytes outcome)])
        log := s.log ++ [.sent sid session.clientAddr bytes outcome] } := by
      rw [advance_eq_some]
      simp only [step, inside.at_pc, engineStep, Heap.load_ok found, ok_bind, pointer,
        Heap.load_ok inside.live]
      rw [moves]
      rfl
    have move : Move H s l (.send outcome) _ l :=
      .send left client call seen c sid session bytes outcome inside moves
    exact ⟨_, taken, move.sound sound, rfl, { inside with at_pc := rfl }⟩
  · have taken : advance H s (.recv select outcome) = some { s with
        pc := .engine left client call (seen ++
          [.received (udpRecvTimeout session len select outcome s.sock).result])
        sock := (udpRecvTimeout session len select outcome s.sock).sock
        log := s.log ++
          Fate.events sid (udpRecvTimeout session len select outcome s.sock).fate } := by
      rw [advance_eq_some]
      simp only [step, inside.at_pc, engineStep, Heap.load_ok found, ok_bind, pointer,
        Heap.load_ok inside.live]
      rw [moves]
      rfl
    have move : Move H s l (.recv select outcome) _ l :=
      .recv left client call seen c sid session len timeout select outcome _ inside moves rfl
    exact ⟨_, taken, move.sound sound, rfl, { inside with at_pc := rfl }⟩

/-- The return of a call is a step of the server. -/
theorem finish_advance (sound : Sound H s l)
    (inside : InCall s l left client call seen c sid session) {ret : Except MbedErr call.Value}
    {ssl : ρ} {accepted : Bool}
    (moves : H.engine.move call session.ssl seen = .finish ret ssl accepted)
    (outcomes : List SendOutcome) :
    ∃ s₁ s' l', advance H s (.finish outcomes) = some s' ∧ Sound H s' l' ∧
      Settled H s₁ l left client sid call (callResult session ssl call ret).2.1
        (callResult session ssl call ret).2.2 s' l' := by
  obtain ⟨n, found, fields⟩ := sound.intact.node inside.member
  have pointer : n.dtlsSession = some sid := by rw [← inside.owns, ← fields]
  obtain ⟨next, outcome, related⟩ := step_move sound (.finish outcomes)
  obtain ⟨s', rfl⟩ : ∃ s', next = some s' := by
    simp only [step, inside.at_pc, engineStep, Heap.load_ok found, ok_bind, pointer,
      Heap.load_ok inside.live] at outcome
    rw [moves] at outcome
    obtain ⟨sessions, -, outcome⟩ := bind_ok outcome
    obtain ⟨s', -, outcome⟩ := bind_ok outcome
    exact ⟨s', (Except.ok.inj outcome).symm⟩
  obtain ⟨l', move⟩ := related s' rfl
  have sound' := move.sound sound
  cases move with
  | finish left' client' call' seen' c' sid' session' ret' ssl' accepted' _ sessions _ _ inside'
      moves' _ _ settled =>
    obtain ⟨rfl, -⟩ := Pc.engine.inj (inside.at_pc.symm.trans inside'.at_pc)
    obtain ⟨rfl, rfl, rfl, rfl, rfl, rfl⟩ := inside.unique sound.intact inside'
    obtain ⟨rfl, rfl, rfl⟩ := Dtls.Move.finish.inj (moves.symm.trans moves')
    exact ⟨_, s', l', advance_eq_some.mpr outcome, sound', settled⟩

/-- A whole read, from any point of it, is a run of the server. -/
theorem resumeRead_advance {len : Nat} {p : Progress} {replies : List OsReply} {r : ReadReturn ρ}
    (sound : Sound H s l) (inside : InCall s l left client (.read len) p.seen c sid session)
    (sock : s.sock = p.sock)
    (returned : resumeRead H.engine session len p replies = some r)
    (outcomes : List SendOutcome) :
    ∃ s₁ s' l', runGuarded (advance H) anything s (replies.map served ++ [.finish outcomes]) =
      some s' ∧ Sound H s' l' ∧
      Settled H s₁ l left client sid (.read len) r.result r.bytes s' l' := by
  induction replies generalizing s p with
  | nil =>
    cases moves : H.engine.move (.read len) session.ssl p.seen with
    | send bytes => simp [resumeRead, runGuarded, returnRead, moves] at returned
    | recv room timeout => simp [resumeRead, runGuarded, returnRead, moves] at returned
    | finish ret ssl accepted =>
      obtain ⟨-, rfl⟩ := (resumeRead_finish moves).mp returned
      obtain ⟨s₁, s', l', taken, sound', settled⟩ := finish_advance sound inside moves outcomes
      refine ⟨s₁, s', l', ?_, sound', settled⟩
      simp only [List.map_nil, List.nil_append, runGuarded, anything, if_true, taken]
  | cons reply rest ih =>
    cases next : callback H.engine session (.read len) p reply with
    | none => simp [resumeRead, runGuarded, next] at returned
    | some p' =>
      rw [resumeRead_callback next] at returned
      obtain ⟨seen, _, waited⟩ := p
      obtain rfl := sock
      obtain ⟨s', taken, sound', sock', inside'⟩ := callback_advance sound inside next
      obtain ⟨s₁, t, l', ran, sound'', settled⟩ := ih sound' inside' sock' returned
      refine ⟨s₁, t, l', ?_, sound'', settled⟩
      simp only [List.map_cons, List.cons_append, runGuarded, anything, if_true, taken]
      exact ran

/-- The nodes in memory are those of the list. -/
theorem Intact.alive_iff {r : Registry ρ} (intact : Intact r l) (p : Nat) :
    (r.clients.get? p).isSome = true ↔ p ∈ l.map Prod.fst := by
  constructor
  · intro alive
    obtain ⟨n, found⟩ := Option.isSome_iff_exists.mp alive
    exact intact.nodes p n found
  · intro listed
    obtain ⟨⟨p, c⟩, member, rfl⟩ := List.mem_map.mp listed
    obtain ⟨n, found, -⟩ := intact.node member
    rw [found]
    rfl

/-- The explicit `recvfrom` after a call leads back to the peek, without the client that was to be
dropped. -/
theorem consume_advance {why : Discard} {dropped : Option Nat} (sound : Sound H s l)
    (at_pc : s.pc = .consume left why dropped) (failed : Bool) (outcomes : List SendOutcome) :
    ∃ t, advance H s (.consume failed outcomes) = some t ∧ t.pc = .peek left ∧
      ∀ p, (t.registry.clients.get? p).isSome = true ↔
        (s.registry.clients.get? p).isSome = true ∧ dropped ≠ some p := by
  obtain ⟨next, outcome, related⟩ := step_move sound (.consume failed outcomes)
  obtain ⟨t, rfl⟩ : ∃ t, next = some t := by
    simp only [step, at_pc] at outcome
    obtain ⟨t, -, outcome⟩ := bind_ok outcome
    exact ⟨t, (Except.ok.inj outcome).symm⟩
  obtain ⟨l', move⟩ := related t rfl
  have intact := (move.sound sound).intact
  refine ⟨t, advance_eq_some.mpr outcome, ?_⟩
  cases move with
  | consume left' why' _ _ s₁ at_pc' =>
    obtain ⟨rfl, -, rfl⟩ := Pc.consume.inj (at_pc.symm.trans at_pc')
    refine ⟨rfl, fun p => ?_⟩
    rw [intact.alive_iff, sound.intact.alive_iff]
    simp
  | discard left' why' gone _ _ s₁ registry closed at_pc' =>
    obtain ⟨rfl, -, rfl⟩ := Pc.consume.inj (at_pc.symm.trans at_pc')
    refine ⟨rfl, fun p => ?_⟩
    have apart : p ≠ gone ↔ some gone ≠ some p := by simp [ne_comm]
    rw [intact.alive_iff, sound.intact.alive_iff, ← apart]
    simp [dropClient]

/-- A client comes, its handshake succeeds, and the server begins to read when a second datagram is
there, which the library will discard. -/
def greetedThenNoise : List (Input Bool) :=
  [.arrive ⟨⟨1, 1⟩, [1]⟩, .poll (some 1) 0 0 (fun _ => []), .event,
    .peek false (addSucceeds 0 false) 0, .finish [], .consume false [], .arrive noise,
    .peek false (addSucceeds 0 false) 0]

/-- The server is then at the beginning of the read. -/
theorem greetedThenNoise_reads : ∃ s n,
    runGuarded (advance ⟨attentive, .little, serverContext, 3⟩) anything startZero
        greetedThenNoise = some s ∧
      s.pc = .engine 0 0 (.read socketBufferSize) [] ∧ s.registry.clients.get? 0 = some n ∧
      n.dtlsSession = some 0 ∧
      s.registry.sessions.get? 0 = some (establishedAs .server false) ∧ s.sock = [noise] :=
  ⟨_, _, rfl, rfl, rfl, rfl, rfl, rfl⟩

end SpaceCaptain.Server
