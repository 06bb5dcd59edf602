import Mathlib.Data.List.Nodup

/-!
# Resources that are created once and released once

Resources get their names from a counter. `Lifetime` says that the created ones are exactly the
released ones together with the held ones, and that no name is used twice. It is kept by a
creation under the next name and by the release of held resources; from it follows that a
created resource that is not released is held exactly once, and that when nothing is held any
more every created resource was released exactly once.
-/
namespace SpaceCaptain.Library

/-- Every created resource is either released or held, and the names from `next` on are free. -/
structure Lifetime (created released held : List Nat) (next : Nat) : Prop where
  /-- Nothing is lost and nothing is made up. -/
  balance : created.Perm (released ++ held)
  /-- No name is given twice. -/
  unique : created.Nodup
  /-- The names given so far. -/
  below : ∀ id ∈ created, id < next

namespace Lifetime

variable {created released held gone held' : List Nat} {next next' id : Nat}

/-- Before the first creation. -/
theorem empty (next : Nat) : Lifetime [] [] [] next := ⟨.refl _, .nil, nofun⟩

/-- Names may be skipped. -/
theorem skip (lifetime : Lifetime created released held next) (later : next ≤ next') :
    Lifetime created released held next' := by
  refine ⟨lifetime.balance, lifetime.unique, fun id member => ?_⟩
  have given := lifetime.below id member
  omega

/-- A resource is created under the next name. -/
theorem create (lifetime : Lifetime created released held next) :
    Lifetime (created ++ [next]) released (next :: held) (next + 1) := by
  refine ⟨?_, ?_, ?_⟩
  · refine (List.perm_append_singleton next created).trans ?_
    exact (lifetime.balance.cons next).trans List.perm_middle.symm
  · have fresh : next ∉ created := fun member => Nat.lt_irrefl _ (lifetime.below _ member)
    exact (List.perm_append_singleton next created).nodup_iff.mpr
      (List.nodup_cons.mpr ⟨fresh, lifetime.unique⟩)
  · intro id member
    rcases List.mem_append.mp member with old | new
    · exact Nat.lt_succ_of_lt (lifetime.below id old)
    · obtain rfl := List.mem_singleton.mp new
      exact Nat.lt_succ_self _

/-- Held resources are released. -/
theorem release (lifetime : Lifetime created released held next)
    (split : held.Perm (gone ++ held')) : Lifetime created (released ++ gone) held' next := by
  refine ⟨?_, lifetime.unique, lifetime.below⟩
  rw [List.append_assoc]
  exact lifetime.balance.trans (split.append_left released)

/-- The released and the held resources together have no repetition. -/
theorem nodup (lifetime : Lifetime created released held next) : (released ++ held).Nodup :=
  lifetime.balance.nodup_iff.mp lifetime.unique

/-- A created resource that is not released is held exactly once. -/
theorem held_once (lifetime : Lifetime created released held next) (made : id ∈ created)
    (kept : id ∉ released) : held.count id = 1 := by
  refine List.count_eq_one_of_mem (List.nodup_append.mp lifetime.nodup).2.1 ?_
  exact (List.mem_append.mp (lifetime.balance.mem_iff.mp made)).resolve_left kept

/-- The held resources are those that were created and not released. -/
theorem mem_held (lifetime : Lifetime created released held next) :
    id ∈ held ↔ id ∈ created ∧ id ∉ released := by
  have apart := (List.nodup_append.mp lifetime.nodup).2.2
  rw [lifetime.balance.mem_iff, List.mem_append]
  constructor
  · intro kept
    exact ⟨.inr kept, fun gone => apart id gone id kept rfl⟩
  · rintro ⟨gone | kept, still⟩
    · exact absurd gone still
    · exact kept

/-- When nothing is held, every created resource was released exactly once. -/
theorem released_once (lifetime : Lifetime created released [] next) (made : id ∈ created) :
    released.count id = 1 := by
  refine List.count_eq_one_of_mem (List.nodup_append.mp lifetime.nodup).1 ?_
  simpa using lifetime.balance.mem_iff.mp made

end Lifetime

end SpaceCaptain.Library
