import Mathlib.Data.List.Basic

/-!
# Protocols over a record of events

A monitor is a partial transition function: it reads a list of events and stops where an event
is not allowed in the state reached. `watch` runs it. A list that is accepted can be cut at any
event (`watch_split`), and what every transition keeps holds at the end (`watch_invariant`).
-/
namespace SpaceCaptain.Library

variable {τ ε : Type*} {next : τ → ε → Option τ}

/-- The state of a monitor after some events; `none` when one was not allowed. -/
def watch (next : τ → ε → Option τ) (t : τ) : List ε → Option τ
  | [] => some t
  | e :: rest => (next t e).bind fun t' => watch next t' rest

/-- No event changes nothing. -/
@[simp] theorem watch_nil (t : τ) : watch next t [] = some t := rfl

/-- One event is one transition. -/
@[simp] theorem watch_cons (t : τ) (e : ε) (rest : List ε) :
    watch next t (e :: rest) = (next t e).bind fun t' => watch next t' rest := rfl

/-- The events of two lists are watched one after the other. -/
theorem watch_append (t : τ) (first second : List ε) :
    watch next t (first ++ second) =
      (watch next t first).bind fun t' => watch next t' second := by
  induction first generalizing t with
  | nil => rfl
  | cons e rest ih =>
    simp only [List.cons_append, watch_cons, Option.bind_assoc]
    exact Option.bind_congr fun t' _ => ih t'

/-- An accepted list can be cut at each of its events. -/
theorem watch_split {t t' : τ} {before after : List ε} {e : ε}
    (accepted : watch next t (before ++ e :: after) = some t') :
    ∃ t₁ t₂, watch next t before = some t₁ ∧ next t₁ e = some t₂ ∧
      watch next t₂ after = some t' := by
  rw [watch_append] at accepted
  obtain ⟨t₁, first, rest⟩ := Option.bind_eq_some_iff.mp accepted
  obtain ⟨t₂, moved, last⟩ := Option.bind_eq_some_iff.mp rest
  exact ⟨t₁, t₂, first, moved, last⟩

/-- What every transition keeps of the events read so far holds after further events. -/
theorem watch_keeps {P : List ε → τ → Prop}
    (keep : ∀ seen t₁ e t₂, P seen t₁ → next t₁ e = some t₂ → P (seen ++ [e]) t₂)
    {seen events : List ε} {t t' : τ} (before : P seen t)
    (accepted : watch next t events = some t') : P (seen ++ events) t' := by
  induction events generalizing seen t with
  | nil =>
    obtain rfl := Option.some.inj accepted
    simpa using before
  | cons e rest ih =>
    obtain ⟨t₁, moved, later⟩ := Option.bind_eq_some_iff.mp accepted
    have tail := ih (keep seen t e t₁ before moved) later
    simpa using tail

/-- What holds at the start and every transition keeps holds at the end. -/
theorem watch_invariant {P : List ε → τ → Prop} {t t' : τ} {events : List ε} (base : P [] t)
    (keep : ∀ seen t₁ e t₂, P seen t₁ → next t₁ e = some t₂ → P (seen ++ [e]) t₂)
    (accepted : watch next t events = some t') : P events t' :=
  watch_keeps keep base accepted

end SpaceCaptain.Library
