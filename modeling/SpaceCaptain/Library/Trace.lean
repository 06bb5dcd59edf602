import Mathlib.Data.List.Basic

/-!
# The events of an executed run

A machine whose steps give an output executes a list of labels, and `trace` records each step
with the states around it. A property of the recorded steps is proved from what one step does
in a state that meets an invariant: `trace_forall` carries the invariant along the run, and
`trace_iff` compares two properties step by step.
-/
namespace SpaceCaptain.Library

variable {σ ι ο : Type*}

/-- One executed step. -/
structure Event (σ ι ο : Type*) where
  /-- The state before the step. -/
  before : σ
  /-- The label of the step. -/
  label : ι
  /-- The state after the step. -/
  after : σ
  /-- What the step gave. -/
  output : ο

/-- Execute labels in order and record the steps; `none` when a step is disabled. -/
def trace (next : σ → ι → Option (σ × ο)) (s : σ) : List ι → Option (List (Event σ ι ο))
  | [] => some []
  | label :: rest =>
    match next s label with
    | none => none
    | some (after, output) => (trace next after rest).map (⟨s, label, after, output⟩ :: ·)

variable {next : σ → ι → Option (σ × ο)} {I : σ → Prop} {P Q : Event σ ι ο → Prop}

/-- What every step from a state of the invariant has, every event of a run has. -/
theorem trace_forall
    (step : ∀ e : Event σ ι ο, I e.before → next e.before e.label = some (e.after, e.output) →
      I e.after ∧ P e)
    {labels : List ι} {s : σ} {events : List (Event σ ι ο)} (base : I s)
    (executed : trace next s labels = some events) : ∀ e ∈ events, P e := by
  induction labels generalizing s events with
  | nil =>
    obtain rfl := Option.some.inj executed
    simp
  | cons label rest ih =>
    unfold trace at executed
    split at executed
    · contradiction
    · rename_i after output taken
      obtain ⟨tail, later, rfl⟩ := Option.map_eq_some_iff.mp executed
      have ⟨kept, first⟩ := step ⟨s, label, after, output⟩ base taken
      exact List.forall_mem_cons.mpr ⟨first, ih kept later⟩

/-- Two properties that agree at every step from a state of the invariant agree on runs. -/
theorem trace_iff
    (step : ∀ e : Event σ ι ο, I e.before → next e.before e.label = some (e.after, e.output) →
      I e.after ∧ (P e ↔ Q e))
    {labels : List ι} {s : σ} {events : List (Event σ ι ο)} (base : I s)
    (executed : trace next s labels = some events) :
    (∀ e ∈ events, P e) ↔ ∀ e ∈ events, Q e := by
  have agree : ∀ e ∈ events, (P e ↔ Q e) := trace_forall step base executed
  constructor
  · intro all e member
    exact (agree e member).mp (all e member)
  · intro all e member
    exact (agree e member).mpr (all e member)

end SpaceCaptain.Library
