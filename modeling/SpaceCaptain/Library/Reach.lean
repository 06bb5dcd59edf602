import Mathlib.Tactic.Basic

/-!
# Reachable states of a step machine

A machine is a set of start states and a labelled step relation. `Reach` collects the
states of every finite run whose steps all meet a guard on the state before the step and
its label. Safety results are instances of two rules: `Reach.invariant` for a property
that a single step keeps, and `Reach.invariant_under` when the step needs facts already
known of every reachable state. `Reach.exact` turns a guard that is enough for a property of the
history into its exact condition, and `Reach.within_iff` does so for a property of the states.
`runGuarded` executes a list of labels, so that a concrete
run is found reachable by evaluation.
-/
namespace SpaceCaptain.Library

variable {σ ι : Type*} {start : σ → Prop} {step : σ → ι → σ → Prop} {guard : σ → ι → Prop}

/-- The states of the runs from a start state whose steps all meet the guard. -/
inductive Reach (start : σ → Prop) (step : σ → ι → σ → Prop) (guard : σ → ι → Prop) : σ → Prop
  /-- A run of no steps. -/
  | start {s : σ} (initial : start s) : Reach start step guard s
  /-- A run extended by one admitted step. -/
  | step {s : σ} {label : ι} {t : σ} (before : Reach start step guard s)
      (admitted : guard s label) (taken : step s label t) : Reach start step guard t

namespace Reach

/-- A property of the start states that every admitted step keeps holds in every state. -/
theorem invariant {I : σ → Prop} (base : ∀ s, start s → I s)
    (keep : ∀ s label t, I s → guard s label → step s label t → I t) {s : σ}
    (reached : Reach start step guard s) : I s := by
  induction reached with
  | start initial => exact base _ initial
  | step _ admitted taken ih => exact keep _ _ _ ih admitted taken

/-- The invariant rule for a step that may assume a fact known of every reachable state. -/
theorem invariant_under {I K : σ → Prop} (known : ∀ s, Reach start step guard s → K s)
    (base : ∀ s, start s → I s)
    (keep : ∀ s label t, K s → I s → guard s label → step s label t → I t) {s : σ}
    (reached : Reach start step guard s) : I s := by
  induction reached with
  | start initial => exact base _ initial
  | step before admitted taken ih => exact keep _ _ _ (known _ before) ih admitted taken

/-- A weaker guard reaches at least as much. -/
theorem weaken {guard' : σ → ι → Prop} (weaker : ∀ s label, guard s label → guard' s label)
    {s : σ} (reached : Reach start step guard s) : Reach start step guard' s := by
  induction reached with
  | start initial => exact .start initial
  | step _ admitted taken ih => exact .step ih (weaker _ _ admitted) taken

/-- A guard is exact for a property of the history when it is enough for the property, and a step
off the guard leads to a state without it, as does every step from a state without it. -/
theorem exact {free : σ → ι → Prop} {P : σ → Prop}
    (weaker : ∀ s label, guard s label → free s label)
    (enough : ∀ s, Reach start step guard s → P s)
    (needed : ∀ s label t, Reach start step free s → step s label t → P t →
      P s ∧ guard s label) {s : σ} :
    Reach start step guard s ↔ Reach start step free s ∧ P s := by
  constructor
  · intro reached
    exact ⟨reached.weaken weaker, enough s reached⟩
  · rintro ⟨reached, holds⟩
    induction reached with
    | start initial => exact .start initial
    | step before _ taken ih =>
      obtain ⟨held, admitted⟩ := needed _ _ _ before taken holds
      exact .step (ih held) admitted taken

end Reach

/-- The states of the runs all of whose states have a property. -/
abbrev Within (start : σ → Prop) (step : σ → ι → σ → Prop) (P : σ → Prop) : σ → Prop :=
  Reach (fun s => start s ∧ P s) (fun s label t => step s label t ∧ P t) fun _ _ => True

/-- The last state of a run has the property too. -/
theorem Within.holds {P : σ → Prop} {s : σ} (within : Within start step P s) : P s := by
  cases within with
  | start initial => exact initial.2
  | step _ _ taken => exact taken.2

/-- A guard is exact for a property of the states when it admits just the steps that lead to a
state with the property: the runs under the guard are the runs through such states. -/
theorem Reach.within_iff {P : σ → Prop} (base : ∀ s, start s → P s)
    (decided : ∀ s label t, Reach start step guard s → P s → step s label t →
      (P t ↔ guard s label)) {s : σ} :
    Reach start step guard s ↔ Within start step P s := by
  constructor
  · intro reached
    induction reached with
    | start initial => exact .start ⟨initial, base _ initial⟩
    | step before admitted taken ih =>
      exact .step ih trivial ⟨taken, (decided _ _ _ before ih.holds taken).mpr admitted⟩
  · intro within
    induction within with
    | start initial => exact .start initial.1
    | step earlier _ taken ih =>
      exact .step ih ((decided _ _ _ ih (Within.holds earlier) taken.1).mp taken.2) taken.1

/-- Execute labels in order; the run is refused at the first step that is disabled or that
the guard does not admit. -/
def runGuarded (next : σ → ι → Option σ) (guard : σ → ι → Bool) (s : σ) : List ι → Option σ
  | [] => some s
  | label :: rest =>
    if guard s label then
      match next s label with
      | none => none
      | some t => runGuarded next guard t rest
    else none

/-- Two lists of labels are executed one after the other. -/
theorem runGuarded_append {next : σ → ι → Option σ} {admits : σ → ι → Bool} (s : σ)
    (first second : List ι) : runGuarded next admits s (first ++ second) =
      (runGuarded next admits s first).bind fun t => runGuarded next admits t second := by
  induction first generalizing s with
  | nil => rfl
  | cons label rest ih =>
    simp only [List.cons_append, runGuarded]
    split
    · cases next s label with
      | none => rfl
      | some t => exact ih t
    · rfl

/-- An executed run from a reachable state ends in a reachable state. -/
theorem reach_of_runGuarded {next : σ → ι → Option σ} {admits : σ → ι → Bool}
    (labels : List ι) {s t : σ}
    (from_reached : Reach start (fun s label t => next s label = some t)
      (fun s label => admits s label = true) s)
    (executed : runGuarded next admits s labels = some t) :
    Reach start (fun s label t => next s label = some t)
      (fun s label => admits s label = true) t := by
  induction labels generalizing s with
  | nil =>
    obtain rfl := Option.some.inj executed
    exact from_reached
  | cons label rest ih =>
    simp only [runGuarded] at executed
    split at executed
    · rename_i admitted
      cases taken : next s label with
      | none => simp [taken] at executed
      | some middle =>
        simp only [taken] at executed
        exact ih (.step from_reached admitted taken) executed
    · contradiction

end SpaceCaptain.Library
