import Mathlib.Algebra.BigOperators.Group.Finset.Basic
import Mathlib.Algebra.Order.BigOperators.Group.Finset
import Mathlib.Data.Fintype.Basic

/-!
# Counting threads by place

`census counts place` is the number of threads at a place that counts. When one thread moves,
the number changes by what its old and its new place are worth, and a positive number names a
thread. The threads are any finite type, the places any type.
-/
namespace SpaceCaptain.Library

variable {T P : Type*} [Fintype T]

/-- The number of threads whose place counts. -/
def census (counts : P → Bool) (place : T → P) : Nat := ∑ u, (counts (place u)).toNat

/-- Nobody counts exactly when the number is zero. -/
theorem census_eq_zero {counts : P → Bool} {place : T → P} :
    census counts place = 0 ↔ ∀ u, counts (place u) = false := by
  simp [census]

/-- A positive number names a thread that counts. -/
theorem census_pos {counts : P → Bool} {place : T → P} :
    0 < census counts place ↔ ∃ u, counts (place u) = true := by
  rw [Nat.pos_iff_ne_zero, ne_eq, census_eq_zero]
  simp

/-- One thread moves from its place to another. -/
theorem census_update [DecidableEq T] (counts : P → Bool) (place : T → P) (t : T) (p : P) :
    census counts (Function.update place t p) + (counts (place t)).toNat =
      census counts place + (counts p).toNat := by
  have rest : ∑ u ∈ Finset.univ.erase t, (counts (Function.update place t p u)).toNat =
      ∑ u ∈ Finset.univ.erase t, (counts (place u)).toNat := by
    refine Finset.sum_congr rfl fun u member => ?_
    rw [Function.update_of_ne (Finset.ne_of_mem_erase member)]
  have split (f : T → Nat) : ∑ u, f u = f t + ∑ u ∈ Finset.univ.erase t, f u :=
    (Finset.add_sum_erase _ _ (Finset.mem_univ t)).symm
  rw [census, census, split, split, rest, Function.update_self]
  omega

end SpaceCaptain.Library
