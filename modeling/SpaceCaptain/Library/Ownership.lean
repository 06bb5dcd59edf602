import Mathlib.Logic.Basic

/-!
# Locks and the threads that hold them

A lock variable names its holder, and every thread is at a place where it does or does not
hold the lock. `Tracks` says that the two agree. It is kept by steps that move no thread
across the boundary, by an acquisition of the free lock, and by a release by its holder;
from it follows that no two threads hold the lock at once.
-/
namespace SpaceCaptain.Library

variable {T : Type*}

/-- The lock variable names exactly the threads whose place holds the lock. -/
def Tracks (holder : Option T) (holds : T → Bool) : Prop :=
  ∀ u, holder = some u ↔ holds u = true

namespace Tracks

variable {holder : Option T} {holds holds' : T → Bool} {t : T}

/-- A free lock that nobody holds is tracked. -/
theorem free (nobody : ∀ u, holds u = false) : Tracks none holds := by
  intro u
  simp [nobody u]

/-- A step that moves no thread across the boundary keeps the lock. -/
theorem keep (tracks : Tracks holder holds) (same : ∀ u, holds' u = holds u) :
    Tracks holder holds' := by
  intro u
  rw [same u]
  exact tracks u

/-- A step of one thread that does not cross the boundary keeps the lock. -/
theorem still (tracks : Tracks holder holds) (own : holds' t = holds t)
    (others : ∀ u, u ≠ t → holds' u = holds u) : Tracks holder holds' := by
  refine tracks.keep fun u => ?_
  by_cases same : u = t
  · rw [same]
    exact own
  · exact others u same

/-- Taking the free lock. -/
theorem acquire (tracks : Tracks none holds) (gains : holds' t = true)
    (others : ∀ u, u ≠ t → holds' u = holds u) : Tracks (some t) holds' := by
  intro u
  by_cases same : u = t
  · subst same
    simp [gains]
  · have apart : ¬t = u := fun h => same h.symm
    have before := tracks u
    simp only [reduceCtorEq, false_iff] at before
    simp [apart, others u same, before]

/-- Leaving the lock one holds. -/
theorem release (tracks : Tracks holder holds) (held : holds t = true)
    (drops : holds' t = false) (others : ∀ u, u ≠ t → holds' u = holds u) :
    Tracks none holds' := by
  have owner : holder = some t := (tracks t).mpr held
  intro u
  by_cases same : u = t
  · subst same
    simp [drops]
  · have before := tracks u
    rw [owner] at before
    have apart : ¬holds u = true := fun h => same (Option.some.inj (before.mpr h)).symm
    simp [others u same, apart]

/-- Two holders are the same thread. -/
theorem unique (tracks : Tracks holder holds) {u v : T} (left : holds u = true)
    (right : holds v = true) : u = v := by
  have first := (tracks u).mpr left
  have second := (tracks v).mpr right
  exact Option.some.inj (first.symm.trans second)

/-- Nobody holds a free lock. -/
theorem nobody (tracks : Tracks none holds) (u : T) : holds u = false := by
  have before := tracks u
  simpa using before

end Tracks

end SpaceCaptain.Library
