import SpaceCaptain.Library.Reach

/-!
# An observer beside a machine

Some properties speak of what a run has done so far: the latest reading of a clock, or what came
in since some step. An observer keeps such a value beside the machine. It sees the state before
each step and the label, and never influences the machine; a guard may speak of its value.
`Observed.invariant` is the invariant rule for the pair.
-/
namespace SpaceCaptain.Library

variable {σ τ ι : Type*} {start : σ → Prop} {first : σ → τ} {next : σ → ι → Option σ}
  {note : σ → ι → τ → τ} {guard : σ × τ → ι → Bool}

/-- A step of the machine, and what the observer makes of it. -/
def observe (next : σ → ι → Option σ) (note : σ → ι → τ → τ) (x : σ × τ) (label : ι) :
    Option (σ × τ) :=
  (next x.1 label).map fun s' => (s', note x.1 label x.2)

/-- The machine takes its step, and the observer writes his note. -/
theorem observe_eq_some {x : σ × τ} {label : ι} {s' : σ} {t' : τ} :
    observe next note x label = some (s', t') ↔
      next x.1 label = some s' ∧ note x.1 label x.2 = t' := by
  constructor
  · intro observed
    obtain ⟨s, taken, pair⟩ := Option.map_eq_some_iff.mp observed
    obtain ⟨rfl, noted⟩ := Prod.mk.inj pair
    exact ⟨taken, noted⟩
  · rintro ⟨taken, rfl⟩
    exact Option.map_eq_some_iff.mpr ⟨s', taken, rfl⟩

/-- The states of the observed runs whose steps all meet the guard. -/
abbrev Observed (start : σ → Prop) (first : σ → τ) (next : σ → ι → Option σ)
    (note : σ → ι → τ → τ) (guard : σ × τ → ι → Bool) : σ × τ → Prop :=
  Reach (fun x => start x.1 ∧ first x.1 = x.2)
    (fun x label y => observe next note x label = some y) (fun x label => guard x label = true)

/-- A property that holds at the start and that every admitted step keeps holds in every
observed run. -/
theorem Observed.invariant {I : σ → τ → Prop} (base : ∀ s, start s → I s (first s))
    (keep : ∀ s t label s', I s t → guard (s, t) label = true → next s label = some s' →
      I s' (note s label t)) {s : σ} {t : τ}
    (reached : Observed start first next note guard (s, t)) : I s t := by
  refine Reach.invariant (I := fun x : σ × τ => I x.1 x.2) ?_ ?_ reached
  · rintro ⟨s, t⟩ ⟨starts, initial⟩
    exact initial ▸ base s starts
  · rintro ⟨s, t⟩ label ⟨s', t'⟩ holds admitted observed
    obtain ⟨taken, rfl⟩ := observe_eq_some.mp observed
    exact keep s t label s' holds admitted taken

end SpaceCaptain.Library
