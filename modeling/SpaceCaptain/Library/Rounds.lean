import Mathlib.Order.WellFounded

/-!
# Loops that end

A loop is seen from its head: a sequence of states, one for each time the loop comes back there.
When the rounds keep an invariant, and from some round on lower a measure for as long as the loop
comes back to its head, then some round is the last.
-/
namespace SpaceCaptain.Library

variable {σ α : Type*}

/-- A loop whose rounds lower a well-founded measure leaves its head. -/
theorem exists_last_round (head inv : σ → Prop) (lower : α → α → Prop) [IsWellFounded α lower]
    (measure : σ → α) {turn : ℕ → σ} {first : ℕ} (start : head (turn 0)) (base : inv (turn 0))
    (keep : ∀ n, inv (turn n) → head (turn n) → inv (turn (n + 1)))
    (lowers : ∀ n, first ≤ n → inv (turn n) → head (turn n) → head (turn (n + 1)) →
      lower (measure (turn (n + 1))) (measure (turn n))) :
    ∃ n, inv (turn n) ∧ head (turn n) ∧ ¬head (turn (n + 1)) := by
  by_contra endless
  have always (n : ℕ) : inv (turn n) ∧ head (turn n) := by
    induction n with
    | zero => exact ⟨base, start⟩
    | succ n ih =>
      refine ⟨keep n ih.1 ih.2, ?_⟩
      by_contra left_head
      exact endless ⟨n, ih.1, ih.2, left_head⟩
  obtain ⟨n, stuck⟩ := WellFounded.not_rel_apply_succ (r := lower)
    fun n => measure (turn (first + n))
  exact stuck (lowers (first + n) (Nat.le_add_right first n) (always _).1 (always _).2
    (always (first + n + 1)).2)

end SpaceCaptain.Library
