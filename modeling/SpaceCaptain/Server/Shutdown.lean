import SpaceCaptain.Server.Integrity

/-!
# The server stops when it is told to

Once `g_running` is false and the server is back at its test, only the shutdown loop is left. Each
of its turns removes the first client of the list, so the number of steps to go is known from the
number of clients, whatever `sendto` does while they are closed and whatever still arrives.
-/
namespace SpaceCaptain.Server

open SpaceCaptain.Dtls SpaceCaptain.Library

variable {ρ : Type}

/-- A step that the server takes itself. -/
def Input.own : Input ρ → Bool
  | .arrive _ | .signal => false
  | _ => true

/-- The server was told to stop and has nothing to do but that. -/
structure Stopping (H : Host ρ) (s : State ρ) (l : List Entry) : Prop where
  sound : Sound H s l
  /-- `g_running` is false. -/
  told : s.running = false
  /-- The server is at the test of `g_running` or behind the event loop. -/
  place : s.pc = .poll ∨ s.pc = .shutdown ∨ s.pc = .halted ∧ l = []

/-- The steps that a stopping server has to go. -/
def togo (s : State ρ) (l : List Entry) : Nat :=
  match s.pc with
  | .poll => l.length + 2
  | .shutdown => l.length + 1
  | _ => 0

section Steps

variable {H : Host ρ} {s s' : State ρ} {l : List Entry}

/-- One turn of the shutdown loop ends it, or removes the first client. -/
theorem shutdown_turn (sound : Sound H s l) (at_pc : s.pc = .shutdown)
    (outcomes : List SendOutcome) :
    (l = [] ∧ advance H s (.shutdown outcomes) = some { s with pc := .halted }) ∨
      ∃ (client : Nat) (c : Client) (rest : List Entry) (registry : Registry ρ)
          (closed : Closed), l = (client, c) :: rest ∧
        c.dtlsSession = some closed.session ∧
        Intact registry rest ∧ advance H s (.shutdown outcomes) =
          some { s with registry, pc := .shutdown, log := s.log ++ closed.events } := by
  have head := sound.intact.chain.head_eq
  cases l with
  | nil =>
    refine .inl ⟨rfl, ?_⟩
    have empty : s.registry.gClients = none := head
    rw [advance_eq_some]
    simp only [step, at_pc, empty]
    rfl
  | cons e rest =>
    obtain ⟨client, c⟩ := e
    have first : s.registry.gClients = some client := head
    obtain ⟨registry, closed, dropped, removal⟩ := drop_ok (H := H) sound.intact
      (sound.intact.first first) outcomes .shutdown
    have nodup : ((([] : List Entry) ++ (client, c) :: rest).map Prod.fst).Nodup :=
      sound.intact.chain.nodup
    have alone : dropClient client ((client, c) :: rest) = rest := (drop_middle nodup).2
    obtain ⟨c', member, owns, -⟩ := removal.client
    obtain rfl := sound.intact.same member List.mem_cons_self
    refine .inr ⟨client, c', rest, registry, closed, rfl, owns, alone ▸ removal.intact, ?_⟩
    rw [advance_eq_some]
    simp only [step, at_pc, first, dropped]
    rfl

/-- What a step does to a stopping server. -/
structure Stops (H : Host ρ) (s : State ρ) (l : List Entry) (own : Bool) (s' : State ρ)
    (l' : List Entry) : Prop where
  /-- It goes on stopping. -/
  stopping : Stopping H s' l'
  /-- Each own step is one less to go. -/
  steps : togo s' l' + own.toNat = togo s l
  /-- The sessions of the clients are destroyed in the order of the list. -/
  destroys : s'.log.filterMap Event.destroys ++ sessionsOf l' =
    s.log.filterMap Event.destroys ++ sessionsOf l

/-- A step of a stopping server that is not its own. -/
theorem Stopping.other (stopping : Stopping H s l) (sound' : Sound H s' l)
    (pc : s'.pc = s.pc) (running : s'.running = false) {events : List Event}
    (log : s'.log = s.log ++ events) (quiet : Quiet events) :
    Stops H s l false s' l where
  stopping := ⟨sound', running, pc ▸ stopping.place⟩
  steps := by simp [togo, pc]
  destroys := by rw [log, List.filterMap_append, quiet.destroys, List.append_nil]

/-- A turn of the shutdown loop of a stopping server. -/
theorem Stopping.turn (stopping : Stopping H s l) {outcomes : List SendOutcome}
    (at_pc : s.pc = .shutdown) (taken : advance H s (.shutdown outcomes) = some s') :
    ∃ l', Stops H s l true s' l' := by
  have server := stopping.sound.server
  have buffer := stopping.sound.buffer
  rcases shutdown_turn stopping.sound at_pc outcomes with
    ⟨rfl, halts⟩ | ⟨client, c, rest, registry, closed, rfl, owns, intact, turns⟩
  · obtain rfl := Option.some.inj (halts.symm.trans taken)
    have sound' : Sound H { s with pc := .halted } [] :=
      .idle stopping.sound.intact server buffer rfl
    exact ⟨[], ⟨sound', stopping.told, .inr (.inr ⟨rfl, rfl⟩)⟩, by simp [togo, at_pc], rfl⟩
  · obtain rfl := Option.some.inj (turns.symm.trans taken)
    have sound' : Sound H
        { s with registry, pc := .shutdown, log := s.log ++ closed.events } rest :=
      .idle intact server buffer rfl
    refine ⟨rest, ⟨sound', stopping.told, .inr (.inl rfl)⟩, by simp [togo, at_pc], ?_⟩
    have ended : closed.events.filterMap Event.destroys = [closed.session] := by
      rw [closed.events_filterMap Event.destroys fun _ _ _ _ => rfl]
      rfl
    have first : sessionsOf ((client, c) :: rest) = [closed.session] ++ sessionsOf rest := by
      simp [sessionsOf, owns]
    rw [List.filterMap_append, ended, List.append_assoc, first]

/-- A step of a stopping server. -/
theorem Stopping.step (stopping : Stopping H s l) {input : Input ρ}
    (taken : advance H s input = some s') : ∃ l', Stops H s l input.own s' l' := by
  have sound := stopping.sound
  have told := stopping.told
  obtain ⟨next, outcome, related⟩ := step_move sound input
  have stepped := taken
  rw [advance_eq_some, outcome] at stepped
  obtain ⟨l', move⟩ := related s' (Except.ok.inj stepped)
  have elsewhere (pc : Pc) (here : s.pc = pc) (known : pc ≠ .poll) (later : pc ≠ .shutdown)
      (last : pc ≠ .halted) : False := by
    rcases stopping.place with place | place | ⟨place, -⟩
    · exact known (here.symm.trans place)
    · exact later (here.symm.trans place)
    · exact last (here.symm.trans place)
  have sound' := move.sound sound
  cases move with
  | arrive d => exact ⟨l, stopping.other sound' rfl told rfl ⟨rfl, rfl, rfl⟩⟩
  | signal =>
    exact ⟨l, stopping.other sound' rfl rfl (List.append_nil _).symm ⟨rfl, rfl, rfl⟩⟩
  | leave at_pc stopped =>
    exact ⟨l, ⟨sound', told, .inr (.inl rfl)⟩, by simp [togo, at_pc, Input.own], rfl⟩
  | shutdown outcomes _ _ _ at_pc => exact stopping.turn at_pc taken
  | halt outcomes at_pc => exact stopping.turn at_pc taken
  | interrupted _ _ _ _ alive | dispatch _ _ _ _ _ alive | sweep _ _ _ _ _ _ _ alive =>
    rw [told] at alive
    contradiction
  | lastEvent at_pc | nextEvent _ at_pc | drained _ _ _ _ at_pc
  | known _ _ _ _ _ _ _ _ _ at_pc | refused _ _ _ _ _ _ at_pc | admitted _ _ _ _ _ _ _ at_pc
  | consume _ _ _ _ _ at_pc | discard _ _ _ _ _ _ _ _ at_pc =>
    exact (elsewhere _ at_pc nofun nofun nofun).elim
  | send _ _ _ _ _ _ _ _ _ inside | recv _ _ _ _ _ _ _ _ _ _ _ _ inside
  | finish _ _ _ _ _ _ _ _ _ _ _ _ _ _ inside =>
    exact (elsewhere _ inside.at_pc nofun nofun nofun).elim

/-- A stopping server that has not halted can go on. -/
theorem Stopping.enabled (stopping : Stopping H s l) (running : s.pc ≠ .halted) :
    ∃ input, input.own = true ∧ (advance H s input).isSome = true := by
  rcases stopping.place with at_pc | at_pc | ⟨at_pc, -⟩
  · refine ⟨.leave, rfl, ?_⟩
    have leaves : advance H s .leave = some { s with pc := .shutdown } := by
      rw [advance_eq_some]
      simp only [Server.step, at_pc, stopping.told]
      rfl
    rw [leaves]
    rfl
  · refine ⟨.shutdown [], rfl, ?_⟩
    rcases shutdown_turn stopping.sound at_pc [] with
      ⟨-, halts⟩ | ⟨_, _, _, _, _, _, _, _, turns⟩
    · rw [halts]
      rfl
    · rw [turns]
      rfl
  · exact absurd at_pc running

/-- A run of a stopping server. -/
theorem Stopping.run (stopping : Stopping H s l) {inputs : List (Input ρ)}
    (ran : runGuarded (advance H) anything s inputs = some s') :
    ∃ l', Stopping H s' l' ∧ togo s' l' + inputs.countP Input.own = togo s l ∧
      s'.log.filterMap Event.destroys ++ sessionsOf l' =
        s.log.filterMap Event.destroys ++ sessionsOf l := by
  induction inputs generalizing s l with
  | nil =>
    obtain rfl := Option.some.inj ran
    exact ⟨l, stopping, rfl, rfl⟩
  | cons input rest ih =>
    simp only [runGuarded, anything, if_true] at ran
    cases taken : advance H s input with
    | none => simp [taken] at ran
    | some middle =>
      rw [taken] at ran
      obtain ⟨l₁, stops⟩ := stopping.step taken
      obtain ⟨l', stopping', steps, destroys⟩ := ih stops.stopping ran
      refine ⟨l', stopping', ?_, destroys.trans stops.destroys⟩
      have first := stops.steps
      rw [List.countP_cons]
      cases own : input.own <;> simp only [own, Bool.toNat_true, Bool.toNat_false, if_true,
        Bool.false_eq_true, if_false] at first ⊢ <;> omega

end Steps

/-- What holds of every run from a state in which the server was told to stop. -/
structure Completes (H : Host ρ) (s : State ρ) (l : List Entry) (inputs : List (Input ρ))
    (s' : State ρ) : Prop where
  /-- The server takes no more than one step for each client and two besides. -/
  bounded : inputs.countP Input.own ≤ l.length + 2
  /-- After that many it has halted, and no sooner. -/
  halts : s'.pc = .halted ↔ inputs.countP Input.own = l.length + 2
  /-- Before, it can always go on. -/
  enabled : s'.pc ≠ .halted → ∃ input, input.own = true ∧ (advance H s' input).isSome = true
  /-- The sessions of the clients have then been destroyed in the order of the list. -/
  destroys : s'.pc = .halted → s'.log.filterMap Event.destroys =
    s.log.filterMap Event.destroys ++ sessionsOf l

/-- Whatever still arrives, however often the signal is sent again, and whatever `sendto` does: a
server that was told to stop halts after a number of steps known from its clients. -/
theorem shutdown_completes {H : Host ρ} {s : State ρ} (reached : Reachable H anything s)
    (told : s.running = false) (at_poll : s.pc = .poll) :
    ∃ l, Sound H s l ∧ ∀ inputs s', runGuarded (advance H) anything s inputs = some s' →
      Completes H s l inputs s' := by
  obtain ⟨l, sound, -⟩ := Reachable.listed (I := fun _ _ => True) (fun _ _ => trivial)
    (fun _ _ _ _ _ _ _ _ _ => trivial) reached
  refine ⟨l, sound, fun inputs s' ran => ?_⟩
  have stopping : Stopping H s l := ⟨sound, told, .inl at_poll⟩
  obtain ⟨l', stopping', steps, destroys⟩ := stopping.run ran
  have all : togo s l = l.length + 2 := by rw [togo, at_poll]
  have emptied (halted : s'.pc = .halted) : l' = [] := by
    rcases stopping'.place with place | place | ⟨-, empty⟩
    · exact absurd (place.symm.trans halted) nofun
    · exact absurd (place.symm.trans halted) nofun
    · exact empty
  refine ⟨by omega, ⟨fun halted => ?_, fun taken => ?_⟩, stopping'.enabled, fun halted => ?_⟩
  · have none_left : togo s' l' = 0 := by rw [togo, halted]
    omega
  · have none_left : togo s' l' = 0 := by omega
    rcases stopping'.place with place | place | ⟨place, -⟩
    · simp [togo, place] at none_left
    · simp [togo, place] at none_left
    · exact place
  · obtain rfl := emptied halted
    simpa [sessionsOf] using destroys

/-- A client comes, and the server is told to stop while its handshake is under way. -/
def handshakeThenTold : List (Input Unit) := handshakeThenShutdown.take 10

/-- The server is at its test and was told to stop. -/
def State.leaving (s : State ρ) : Bool :=
  match s.pc with
  | .poll => !s.running
  | _ => false

/-- Three own steps later the server has halted, although a datagram came in between. -/
theorem shutdown_completes_handshake :
    ∃ s, runGuarded (advance ⟨plain, .little, serverContext, 3⟩) anything startZero
        handshakeThenTold = some s ∧
      ∃ s', runGuarded (advance ⟨plain, .little, serverContext, 3⟩) anything s
          [.leave, .arrive ⟨⟨2, 2⟩, [2]⟩, .shutdown [], .shutdown []] = some s' ∧
        s'.log.filterMap Event.destroys = [0] ∧
        ∃ l, Completes ⟨plain, .little, serverContext, 3⟩ s l
          [.leave, .arrive ⟨⟨2, 2⟩, [2]⟩, .shutdown [], .shutdown []] s' := by
  have ran : ((runGuarded (advance ⟨plain, .little, serverContext, 3⟩) anything startZero
      handshakeThenTold).map fun s => (s.leaving, (runGuarded
        (advance ⟨plain, .little, serverContext, 3⟩) anything s
          [.leave, .arrive ⟨⟨2, 2⟩, [2]⟩, .shutdown [], .shutdown []]).map fun s' =>
            s'.log.filterMap Event.destroys)) = some (true, some [0]) := by
    decide +kernel
  obtain ⟨s, executed, result⟩ := Option.map_eq_some_iff.mp ran
  obtain ⟨leaving, later⟩ := Prod.mk.inj result
  obtain ⟨s', stopped, destroys⟩ := Option.map_eq_some_iff.mp later
  have reached : Reachable ⟨plain, .little, serverContext, 3⟩ anything s :=
    reach_of_runGuarded handshakeThenTold (.start (starts_startZero plain .little 3)) executed
  have place : s.pc = .poll ∧ s.running = false := by
    unfold State.leaving at leaving
    split at leaving
    · rename_i at_poll
      exact ⟨at_poll, by simpa using leaving⟩
    · contradiction
  obtain ⟨l, -, completes⟩ := shutdown_completes reached place.2 place.1
  exact ⟨s, executed, s', stopped, destroys, l, completes _ s' stopped⟩

end SpaceCaptain.Server
