import Mathlib.Data.List.ReduceOption
import SpaceCaptain.Library.Ring
import SpaceCaptain.Queue.Generic

/-!
# The circular buffer and its list

`Queue.WellFormed` is the invariant of the buffer and its indices, and `Queue.contents` the
list that the buffer stands for. An insertion with room and a removal from a non-empty queue
keep the invariant and are an append and a split of the list; nothing else about the buffer
is used by the sequential or the interleaved results.
-/
namespace SpaceCaptain.GenericQueue

open SpaceCaptain.Library

variable {α : Type*}

namespace Queue

/-- A buffer cell, with NULL outside the buffer. -/
def cell (q : Queue α) (i : Nat) : Option α := q.buffer.getD i none

/-- The occupied cells, oldest first. -/
def cells (q : Queue α) : List (Option α) := Ring.window q.cell q.capacity q.head q.size

/-- The abstraction: the items in the buffer, oldest first. -/
def contents (q : Queue α) : List α := q.cells.reduceOption

/-- The invariant of the buffer and its indices. -/
structure WellFormed (q : Queue α) : Prop where
  /-- An accepted capacity is positive. -/
  positive : 0 < q.capacity
  /-- The buffer has one cell for each item it may hold. -/
  allocated : q.buffer.length = q.capacity
  /-- The queue never holds more than its capacity. -/
  bounded : q.size ≤ q.capacity
  /-- The head is a cell of the buffer. -/
  head_lt : q.head < q.capacity
  /-- The tail is a cell of the buffer. -/
  tail_lt : q.tail < q.capacity
  /-- The tail is the place after the last item. -/
  tail_eq : q.tail = (q.head + q.size) % q.capacity
  /-- An occupied cell holds an item. -/
  occupied : ∀ c ∈ q.cells, c.isSome

/-- The empty test compares the size with zero. -/
@[simp] theorem empty_iff (q : Queue α) : q.empty = true ↔ q.size = 0 := by
  simp [empty]

/-- A new queue satisfies the invariant. -/
theorem fresh_wellFormed {capacity : Nat} (positive : 0 < capacity) :
    (fresh capacity : Queue α).WellFormed where
  positive := positive
  allocated := by simp [fresh]
  bounded := Nat.zero_le _
  head_lt := positive
  tail_lt := positive
  tail_eq := by simp [fresh]
  occupied := by simp [cells, fresh, Ring.window]

/-- A new queue holds nothing. -/
@[simp] theorem fresh_contents (capacity : Nat) : (fresh capacity : Queue α).contents = [] := by
  simp [contents, cells, fresh, Ring.window]

/-- Writing the tail cell changes that cell alone. -/
theorem enqueue_cell {q : Queue α} (wf : q.WellFormed) (item : α) :
    (q.enqueue item).cell =
      fun i => if i = (q.head + q.size) % q.capacity then some item else q.cell i := by
  funext i
  have inside : q.tail < q.buffer.length := wf.allocated ▸ wf.tail_lt
  rw [← wf.tail_eq]
  by_cases written : i = q.tail
  · subst written
    simp [cell, enqueue, inside]
  · have other : ¬q.tail = i := fun same => written same.symm
    simp [cell, enqueue, written, other]

/-- The occupied cells after an insertion are the old ones and the new item. -/
theorem enqueue_cells {q : Queue α} (wf : q.WellFormed) (room : q.size < q.capacity) (item : α) :
    (q.enqueue item).cells = q.cells ++ [some item] := by
  rw [cells, enqueue_cell wf]
  exact Ring.window_push q.cell (some item) room

/-- An insertion into a queue with room keeps the invariant. -/
theorem enqueue_wellFormed {q : Queue α} (wf : q.WellFormed) (room : q.size < q.capacity)
    (item : α) : (q.enqueue item).WellFormed where
  positive := wf.positive
  allocated := by simpa [enqueue] using wf.allocated
  bounded := room
  head_lt := wf.head_lt
  tail_lt := Nat.mod_lt _ wf.positive
  tail_eq := by
    change (q.tail + 1) % q.capacity = (q.head + (q.size + 1)) % q.capacity
    rw [wf.tail_eq, Ring.end_push]
  occupied := by
    rw [enqueue_cells wf room]
    intro c member
    rcases List.mem_append.mp member with old | new
    · exact wf.occupied c old
    · simp [List.mem_singleton.mp new]

/-- An insertion appends its item. -/
theorem enqueue_contents {q : Queue α} (wf : q.WellFormed) (room : q.size < q.capacity)
    (item : α) : (q.enqueue item).contents = q.contents ++ [item] := by
  simp [contents, enqueue_cells wf room, List.reduceOption_append]

/-- The occupied cells of a non-empty queue are the front and the cells after a removal. -/
theorem dequeue_cells {q : Queue α} (wf : q.WellFormed) (some_left : 0 < q.size) :
    q.cells = q.front :: q.dequeue.cells := by
  obtain ⟨size, grown⟩ : ∃ size, q.size = size + 1 := ⟨q.size - 1, by omega⟩
  have popped := Ring.window_pop q.cell size wf.head_lt
  rw [cells, grown, popped]
  simp [cells, front, dequeue, cell, grown]
  rfl

/-- The front of a non-empty queue is an item. -/
theorem front_isSome {q : Queue α} (wf : q.WellFormed) (some_left : 0 < q.size) :
    q.front.isSome := by
  apply wf.occupied
  rw [dequeue_cells wf some_left]
  exact List.mem_cons_self

/-- A removal from a non-empty queue keeps the invariant. -/
theorem dequeue_wellFormed {q : Queue α} (wf : q.WellFormed) (some_left : 0 < q.size) :
    q.dequeue.WellFormed where
  positive := wf.positive
  allocated := wf.allocated
  bounded := Nat.le_trans (Nat.sub_le _ _) wf.bounded
  head_lt := Nat.mod_lt _ wf.positive
  tail_lt := wf.tail_lt
  tail_eq := by
    change q.tail = ((q.head + 1) % q.capacity + (q.size - 1)) % q.capacity
    rw [Ring.end_pop, wf.tail_eq, Nat.sub_add_cancel some_left]
  occupied := by
    intro c member
    apply wf.occupied
    rw [dequeue_cells wf some_left]
    exact List.mem_cons_of_mem _ member

/-- A removal takes the oldest item. -/
theorem dequeue_contents {q : Queue α} (wf : q.WellFormed) (some_left : 0 < q.size) :
    ∃ item, q.front = some item ∧ q.contents = item :: q.dequeue.contents := by
  obtain ⟨item, holds⟩ := Option.isSome_iff_exists.mp (front_isSome wf some_left)
  refine ⟨item, holds, ?_⟩
  rw [contents, dequeue_cells wf some_left, holds, List.reduceOption_cons_of_some]
  rfl

/-- The number of items is the size field. -/
theorem contents_length {q : Queue α} (wf : q.WellFormed) : q.contents.length = q.size := by
  have all : q.contents.length = q.cells.length :=
    List.reduceOption_length_eq_iff.mpr wf.occupied
  rw [all, cells, Ring.window_length]

/-- The item at a place of the abstraction is the cell at that distance from the head. -/
theorem contents_getElem? {q : Queue α} (wf : q.WellFormed) {i : Nat} (inside : i < q.size) :
    q.contents[i]? = q.cell ((q.head + i) % q.capacity) := by
  have lifted : q.contents.map some = q.cells := by
    have whole : ∀ cs : List (Option α), (∀ c ∈ cs, c.isSome) → cs.reduceOption.map some = cs := by
      intro cs holds
      induction cs with
      | nil => rfl
      | cons c cs ih =>
        obtain ⟨item, rfl⟩ := Option.isSome_iff_exists.mp (holds c List.mem_cons_self)
        simp [ih fun c member => holds c (List.mem_cons_of_mem _ member)]
    exact whole q.cells wf.occupied
  have placed := Ring.window_getElem? q.cell q.capacity q.head q.size inside
  rw [← cells, ← lifted, List.getElem?_map] at placed
  cases found : q.contents[i]? with
  | none => simp [found] at placed
  | some item => simpa [found] using placed

/-- The queue is full exactly when its list is as long as the capacity. -/
theorem full_contents {q : Queue α} (wf : q.WellFormed) :
    q.full = decide (q.contents.length = q.capacity) := by
  rw [contents_length wf]
  rfl

/-- The queue is empty exactly when its list is. -/
theorem empty_contents {q : Queue α} (wf : q.WellFormed) :
    q.empty = q.contents.isEmpty := by
  have same := contents_length wf
  cases holds : q.contents with
  | nil => simp_all
  | cons item rest =>
    have left : q.size ≠ 0 := by simp_all; omega
    simpa [empty] using left

end Queue

/-- A queue that is not full has room. -/
theorem room_of_not_full {q : Queue α} (wf : q.WellFormed) (room : q.full = false) :
    q.size < q.capacity := by
  have bounded := wf.bounded
  have differ : q.size ≠ q.capacity := by simpa [Queue.full] using room
  omega

/-- A queue that is not empty has an item. -/
theorem left_of_not_empty {q : Queue α} (left : q.empty = false) : 0 < q.size := by
  have differ : q.size ≠ 0 := by simpa [Queue.empty] using left
  omega

end SpaceCaptain.GenericQueue
