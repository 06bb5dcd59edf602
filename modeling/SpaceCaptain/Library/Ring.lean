import Mathlib.Data.List.Basic
import Mathlib.Data.List.Range

/-!
# Windows of a circular store

A circular store of `n` cells keeps a window of `size` cells that starts at `head` and
wraps at `n`. Reading the window gives a list; writing the cell after the window appends
to that list, and moving the head by one drops its first element. Every fact here is about
indices modulo `n`, for any number of cells and any kind of cell.
-/
namespace SpaceCaptain.Library.Ring

variable {β : Type*}

/-- The cells of the window, oldest first. -/
def window (cell : Nat → β) (n head size : Nat) : List β :=
  (List.range size).map fun i => cell ((head + i) % n)

/-- A window has as many cells as its size says. -/
@[simp] theorem window_length (cell : Nat → β) (n head size : Nat) :
    (window cell n head size).length = size := by
  simp [window]

/-- The element at a place is the cell at that distance from the head, modulo the store. -/
theorem window_getElem? (cell : Nat → β) (n head size : Nat) {i : Nat} (inside : i < size) :
    (window cell n head size)[i]? = some (cell ((head + i) % n)) := by
  simp [window, inside]

/-- Two places less than a turn apart lie in different cells. -/
theorem place_ne {n head i j : Nat} (order : i < j) (turn : j < i + n) :
    (head + i) % n ≠ (head + j) % n := by
  intro same
  have divides : n ∣ (head + j) - (head + i) :=
    Nat.dvd_of_mod_eq_zero (Nat.sub_mod_eq_zero_of_mod_eq same.symm)
  have gap : (head + j) - (head + i) = j - i := by omega
  rw [gap] at divides
  have far : n ≤ j - i := Nat.le_of_dvd (by omega) divides
  omega

/-- Writing the first free cell appends to the window and leaves its elements alone. -/
theorem window_push (cell : Nat → β) {n head size : Nat} (value : β) (room : size < n) :
    window (fun i => if i = (head + size) % n then value else cell i) n head (size + 1) =
      window cell n head size ++ [value] := by
  rw [window, List.range_succ, List.map_append]
  simp only [List.map_cons, List.map_nil, ↓reduceIte]
  congr 1
  apply List.map_congr_left
  intro i member
  have inside : i < size := List.mem_range.mp member
  rw [if_neg (place_ne inside (by omega))]

/-- A non-empty window is its head cell followed by the window one place on. -/
theorem window_pop (cell : Nat → β) {n head : Nat} (size : Nat) (inside : head < n) :
    window cell n head (size + 1) = cell head :: window cell n ((head + 1) % n) size := by
  rw [window, List.range_succ_eq_map, List.map_cons, List.map_map]
  congr 1
  · simp [Nat.mod_eq_of_lt inside]
  · apply List.map_congr_left
    intro i _
    simp [Nat.add_right_comm, Nat.add_assoc]

/-- The place after the window moves by one with the window's end. -/
theorem end_push {n head size : Nat} : ((head + size) % n + 1) % n = (head + (size + 1)) % n := by
  simp [Nat.add_assoc]

/-- Moving the head and shrinking the window leaves its end in place. -/
theorem end_pop {n head size : Nat} : ((head + 1) % n + size) % n = (head + (size + 1)) % n := by
  simp [Nat.add_assoc, Nat.add_comm 1 size]

end SpaceCaptain.Library.Ring
