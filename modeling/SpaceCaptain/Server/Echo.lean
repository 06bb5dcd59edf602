import SpaceCaptain.Server.Records
import SpaceCaptain.Server.Reply

/-!
# The service that the server gives

The server serves all its clients with one thread and one buffer. What it says is a sequence of
exchanges: it reads a message, and hands `pongReply` of it to `sc_dtls_write` of the same session
before it reads another. So each client sees a function of its own messages, whatever arrives from
others, whichever calls fail and whichever sessions come and go.
-/
namespace SpaceCaptain.Server

open SpaceCaptain.Dtls SpaceCaptain.Library

variable {ρ : Type}

/-- The reading of a message of a session, and its answer. -/
def exchange (asked : Nat × Bytes) : List Event :=
  [.plaintext asked.1 asked.2, .called asked.1 (.write (pongReply asked.2))]

/-- Messages and replies are exchanges, one after the other. -/
def Exchanges (log : List Event) : Prop :=
  ∃ asked : List (Nat × Bytes), log.filter Event.speaks = asked.flatMap exchange

/-- Mute events leave the exchanges as they are. -/
theorem Exchanges.mute {log events : List Event} (exchanges : Exchanges log) (mute : Mute events) :
    Exchanges (log ++ events) := by
  have silent : events.filter Event.speaks = [] := by
    refine List.filter_eq_nil_iff.mpr fun e member => ?_
    simp [mute e member]
  obtain ⟨asked, spoken⟩ := exchanges
  exact ⟨asked, by rw [List.filter_append, silent, List.append_nil, spoken]⟩

/-- A message and its answer are one exchange more. -/
theorem Exchanges.answer {log : List Event} (exchanges : Exchanges log) (sid : Nat)
    (message : Bytes) : Exchanges (log ++ exchange (sid, message)) := by
  obtain ⟨asked, spoken⟩ := exchanges
  have both : (exchange (sid, message)).filter Event.speaks = exchange (sid, message) := rfl
  refine ⟨asked ++ [(sid, message)], ?_⟩
  rw [List.filter_append, both, spoken, List.flatMap_append, List.flatMap_singleton]

/-- The return of a call is mute. -/
theorem returned_mute (accepted : Bool) (sid : Nat) (call : Call) (time : Int)
    (result : DtlsResult) : Mute ((if accepted then [.accepted sid time] else []) ++
      [.returned sid call result]) := by
  intro e member
  cases accepted <;> simp at member <;> rcases member with rfl | rfl <;> rfl

/-- A run keeps its messages and replies to itself: every step adds an exchange or is mute. -/
theorem Move.exchanges {H : Host ρ} {s s' : State ρ} {l l' : List Entry} {input : Input ρ}
    (exchanges : Exchanges s.log) (move : Move H s l input s' l') : Exchanges s'.log := by
  by_cases returns : ∃ outcomes, input = .finish outcomes
  · obtain ⟨outcomes, rfl⟩ := returns
    cases move with
    | finish left client call seen c sid session ret ssl accepted _ sessions _ _ _ _ _ _ settled =>
      have before := exchanges.mute (returned_mute accepted sid call c.lastActivity
        (callResult session ssl call ret).2.1)
      rw [← List.append_assoc] at before
      rcases settled.speaks with ⟨-, -, -, -, log⟩ | ⟨-, events, mute, log⟩
      · rw [log, replyTo_eq]
        exact before.answer sid _
      · rw [log]
        exact before.mute mute
  · obtain ⟨events, mute, log⟩ := move.mute (not_exists.mp returns)
    rw [log]
    exact exchanges.mute mute

/-- What is said in a session is read off the events that speak. -/
theorem filterMap_speaks {α : Type} {read : Event → Option α}
    (silent : ∀ e, e.speaks = false → read e = none) (log : List Event) :
    (log.filter Event.speaks).filterMap read = log.filterMap read := by
  rw [List.filterMap_filter]
  refine List.filterMap_congr fun e _ => ?_
  cases said : e.speaks with
  | true => rfl
  | false => simp [silent e said]

/-- In a sequence of exchanges each session gets the answers to its messages. -/
theorem exchanges_answered (asked : List (Nat × Bytes)) (sid : Nat) :
    replies (asked.flatMap exchange) sid =
      (messages (asked.flatMap exchange) sid).map pongReply := by
  induction asked with
  | nil => rfl
  | cons first rest ih =>
    unfold replies messages at ih ⊢
    rw [List.flatMap_cons, List.filterMap_append, List.filterMap_append, List.map_append, ih]
    congr 1
    by_cases here : first.1 = sid <;>
      simp [exchange, List.filterMap_cons, Event.message, Event.reply, here]

/-- What the clients get from the server for their messages. -/
structure Served (log : List Event) : Prop where
  /-- A message is answered before another one is read. -/
  exchanges : Exchanges log
  /-- A client gets the answers to its own messages, in order. -/
  answers : ∀ sid, replies log sid = (messages log sid).map pongReply
  /-- It gets as many bytes as it sends. -/
  bytes : ∀ sid, (replies log sid).flatten.length = (messages log sid).flatten.length

/-- Exchanges are a service. -/
theorem Exchanges.served {log : List Event} (exchanges : Exchanges log) : Served log := by
  have answers (sid : Nat) : replies log sid = (messages log sid).map pongReply := by
    obtain ⟨asked, spoken⟩ := exchanges
    have same := exchanges_answered asked sid
    rw [← spoken] at same
    unfold replies messages at same ⊢
    rwa [filterMap_speaks Event.reply_mute, filterMap_speaks Event.message_mute] at same
  refine ⟨exchanges, answers, fun sid => ?_⟩
  have lengths : List.length ∘ pongReply = List.length := funext pongReply_length
  rw [List.length_flatten, List.length_flatten, answers sid, List.map_map, lengths]

/-- In every run the server is an echo for each of its clients: whatever arrives and whichever
calls fail, it reads one message at a time and answers it, in its own session and by `pongReply`,
before it reads the next. -/
theorem echo_service {H : Host ρ} {s : State ρ} (reached : Reachable H anything s) :
    Served s.log := by
  obtain ⟨-, -, exchanges⟩ := Reachable.listed (I := fun s _ => Exchanges s.log)
    (fun s starts => by
      obtain ⟨-, buffer, now, -, rfl⟩ := starts
      exact ⟨[], rfl⟩)
    (fun _ _ _ _ _ _ exchanges _ move => move.exchanges exchanges) reached
  exact exchanges.served

/-- A PING that declares more than it has is read and answered once. -/
theorem echo_service_ping :
    ∃ s, runGuarded (advance ⟨plain, .little, serverContext, 3⟩) anything startZero
        overlongPing = some s ∧
      messages s.log 0 = [pingOf 0x0F 0xEE] ∧ Served s.log := by
  have ran : ((runGuarded (advance ⟨plain, .little, serverContext, 3⟩) anything startZero
      overlongPing).map fun s => messages s.log 0) = some [pingOf 0x0F 0xEE] := by
    decide +kernel
  obtain ⟨s, executed, asked⟩ := Option.map_eq_some_iff.mp ran
  have reached : Reachable ⟨plain, .little, serverContext, 3⟩ anything s :=
    reach_of_runGuarded overlongPing (.start (starts_startZero plain .little 3)) executed
  exact ⟨s, executed, asked, echo_service reached⟩

end SpaceCaptain.Server
