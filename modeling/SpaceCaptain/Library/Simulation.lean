import Mathlib.Algebra.BigOperators.Ring.Finset
import SpaceCaptain.Library.Reach

/-!
# Runs that show events, and simulations between them

A machine is a labelled step relation together with what each step shows to an outside observer:
a list of events, often empty. `Path` is a run with all the events it showed. A relation between
the states of two machines is a simulation when each step of the first is answered by a path of
the second that shows the same; then every path is answered so (`Path.simulate`), and nothing the
first machine shows gives it away. `Path.amortize` bounds the cost of a run by a potential, and
`runGuarded_lockstep` is the simulation of two machines that take the same labels.
-/
namespace SpaceCaptain.Library

variable {σ τ ι κ ε : Type*} {step : σ → ι → σ → Prop} {shown : σ → ι → σ → List ε}
  {step' : τ → κ → τ → Prop} {shown' : τ → κ → τ → List ε}

/-- A run from one state to another, and the events it showed. -/
inductive Path (step : σ → ι → σ → Prop) (shown : σ → ι → σ → List ε) :
    σ → List ε → σ → Prop
  /-- A run of no steps shows nothing. -/
  | refl (s : σ) : Path step shown s [] s
  /-- A run extended by one step. -/
  | tail {s : σ} {events : List ε} {t : σ} {label : ι} {u : σ} (before : Path step shown s events t)
      (taken : step t label u) : Path step shown s (events ++ shown t label u) u

namespace Path

variable {s t u : σ} {first second : List ε}

/-- A run of one step. -/
theorem single {label : ι} (taken : step s label t) : Path step shown s (shown s label t) t := by
  have still : Path step shown s [] s := refl s
  simpa using still.tail taken

/-- One run after another. -/
theorem trans (before : Path step shown s first t) (after : Path step shown t second u) :
    Path step shown s (first ++ second) u := by
  induction after with
  | refl => simpa using before
  | tail _ taken ih =>
    rw [← List.append_assoc]
    exact ih.tail taken

/-- What a step keeps, a run keeps. -/
theorem invariant {I : σ → Prop} (keep : ∀ s label t, I s → step s label t → I t) (holds : I s)
    (path : Path step shown s first t) : I t := by
  induction path with
  | refl => exact holds
  | tail _ taken ih => exact keep _ _ _ ih taken

/-- When no step raises a potential by more than its credit exceeds its cost, the cost of a whole
run is covered by the potential at its start and the credits of the run. -/
theorem amortize {I : σ → Prop} (keep : ∀ s label t, I s → step s label t → I t)
    (potential : σ → Nat) (cost credit : ε → Nat)
    (pays : ∀ s label t, I s → step s label t →
      ((shown s label t).map cost).sum + potential t ≤
        potential s + ((shown s label t).map credit).sum)
    (holds : I s) (path : Path step shown s first t) :
    (first.map cost).sum + potential t ≤ potential s + (first.map credit).sum := by
  induction path with
  | refl => simp
  | tail before taken ih =>
    have last := pays _ _ _ (before.invariant keep holds) taken
    simp only [List.map_append, List.sum_append]
    omega

/-- A relation whose every step is answered by a path that shows the same answers whole runs. -/
theorem simulate {R : σ → τ → Prop}
    (answer : ∀ s label t a, R s a → step s label t →
      ∃ b, Path step' shown' a (shown s label t) b ∧ R t b) {a : τ} (related : R s a)
    (path : Path step shown s first t) : ∃ b, Path step' shown' a first b ∧ R t b := by
  induction path with
  | refl => exact ⟨a, .refl a, related⟩
  | tail _ taken ih =>
    obtain ⟨b, reached, match_before⟩ := ih
    obtain ⟨c, extended, match_after⟩ := answer _ _ _ b match_before taken
    exact ⟨c, reached.trans extended, match_after⟩

end Path

/-- Execute labels and collect what the steps show. -/
def execute (next : σ → ι → Option σ) (shown : σ → ι → σ → List ε) (s : σ) :
    List ι → Option (σ × List ε)
  | [] => some (s, [])
  | label :: rest =>
    match next s label with
    | none => none
    | some t => (execute next shown t rest).map fun (u, events) => (u, shown s label t ++ events)

/-- An executed run is a path of the admitted steps. -/
theorem path_of_execute {next : σ → ι → Option σ} (labels : List ι) {s t : σ} {events : List ε}
    (admitted : ∀ s label t, label ∈ labels → next s label = some t → step s label t)
    (executed : execute next shown s labels = some (t, events)) :
    Path step shown s events t := by
  induction labels generalizing s events with
  | nil =>
    obtain ⟨rfl, rfl⟩ := Prod.mk.inj (Option.some.inj executed)
    exact .refl _
  | cons label rest ih =>
    unfold execute at executed
    split at executed
    · contradiction
    · rename_i middle taken
      obtain ⟨⟨last, later⟩, ran, pair⟩ := Option.map_eq_some_iff.mp executed
      obtain ⟨rfl, rfl⟩ := Prod.mk.inj pair
      have first : Path step shown s (shown s label middle) middle :=
        .single (admitted s label middle List.mem_cons_self taken)
      have rest_admitted := fun s l t member => admitted s l t (List.mem_cons_of_mem label member)
      exact first.trans (ih rest_admitted ran)

/-- Two machines that answer each label in related states by related states execute the same
labels. -/
theorem runGuarded_lockstep {R : σ → τ → Prop} {next : σ → ι → Option σ}
    {next' : τ → ι → Option τ} {guard : σ → ι → Bool} {guard' : τ → ι → Bool}
    (admits : ∀ s a label, R s a → guard' a label = guard s label)
    (answer : ∀ s a label t, R s a → next s label = some t → ∃ b, next' a label = some b ∧ R t b)
    {s t : σ} {a : τ} (related : R s a) {labels : List ι}
    (ran : runGuarded next guard s labels = some t) :
    ∃ b, runGuarded next' guard' a labels = some b ∧ R t b := by
  induction labels generalizing s a with
  | nil =>
    obtain rfl := Option.some.inj ran
    exact ⟨a, rfl, related⟩
  | cons label rest ih =>
    simp only [runGuarded] at ran ⊢
    rw [admits s a label related]
    split at ran
    · rename_i admitted
      cases taken : next s label with
      | none => simp [taken] at ran
      | some middle =>
        obtain ⟨middle', taken', still⟩ := answer s a label middle related taken
        rw [taken] at ran
        rw [if_pos admitted, taken']
        exact ih still ran
    · contradiction

end SpaceCaptain.Library
