import Mathlib.Data.List.Basic

/-!
# A heap whose misuse is visible

A heap hands out a new address for every allocation and never uses one twice, so a pointer to
a freed cell stays recognizable. Loads, stores and frees of anything but a live cell are
faults, and a program that provably never faults behaves the same on an allocator that reuses
memory. `get?` reads the live cells without the fault, for specifications.
-/
namespace SpaceCaptain.Library

universe v

/-- What a program must not do with memory, or with its loops. -/
inductive Fault where
  /-- A freed cell was loaded, stored or freed again. -/
  | useAfterFree
  /-- An address that was never allocated was used. -/
  | wild
  /-- A loop did not end within its bound. -/
  | diverges
  deriving DecidableEq, Repr

/-- A computation that did not fail goes on. -/
@[simp] theorem ok_bind {ε : Type*} {α β : Type v} (a : α) (f : α → Except ε β) :
    (Except.ok a >>= f) = f a := rfl

/-- Returning does not fail. -/
@[simp] theorem pure_ok {ε α : Type*} (a : α) : (pure a : Except ε α) = .ok a := rfl

/-- One allocated cell. -/
inductive Cell (α : Type*) where
  | live (content : α)
  | freed
  deriving DecidableEq, Repr

/-- The cells allocated so far; the address of a cell is its place. -/
structure Heap (α : Type*) where
  /-- The cells, oldest first. -/
  cells : List (Cell α)
  deriving DecidableEq, Repr

namespace Heap

variable {α : Type*}

/-- The heap before any allocation. -/
def empty : Heap α := ⟨[]⟩

/-- The number of addresses handed out so far. -/
def size (h : Heap α) : Nat := h.cells.length

/-- The content of a live cell. -/
def get? (h : Heap α) (p : Nat) : Option α :=
  match h.cells[p]? with
  | some (.live content) => some content
  | some .freed | none => none

/-- Read a cell. -/
def load (h : Heap α) (p : Nat) : Except Fault α :=
  match h.cells[p]? with
  | some (.live content) => .ok content
  | some .freed => .error .useAfterFree
  | none => .error .wild

/-- Write a cell. -/
def store (h : Heap α) (p : Nat) (content : α) : Except Fault (Heap α) := do
  let _ ← h.load p
  return ⟨h.cells.set p (.live content)⟩

/-- Give a cell back. -/
def free (h : Heap α) (p : Nat) : Except Fault (Heap α) := do
  let _ ← h.load p
  return ⟨h.cells.set p .freed⟩

/-- Allocate a cell with its first content; the new heap and the new address. -/
def alloc (h : Heap α) (content : α) : Heap α × Nat := (⟨h.cells ++ [.live content]⟩, h.size)

variable {h : Heap α} {p q : Nat} {content other : α}

/-- Nothing lives in the empty heap. -/
@[simp] theorem get?_empty (p : Nat) : (empty : Heap α).get? p = none := rfl

/-- A live address has been handed out. -/
theorem lt_size (lives : h.get? p = some content) : p < h.size := by
  by_contra beyond
  have outside : h.cells[p]? = none := List.getElem?_eq_none (Nat.le_of_not_lt beyond)
  simp [get?, outside] at lives

/-- Loading a live cell gives its content. -/
theorem load_ok (lives : h.get? p = some content) : h.load p = .ok content := by
  unfold get? at lives
  unfold load
  split at lives
  · obtain rfl := Option.some.inj lives
    rfl
  all_goals contradiction

/-- A new cell lives at the next address. -/
theorem get?_alloc (q : Nat) :
    (h.alloc content).1.get? q = if q = h.size then some content else h.get? q := by
  by_cases last : q = h.size
  · subst last
    simp [alloc, get?, size]
  · rw [if_neg last]
    unfold alloc get? size at *
    rcases Nat.lt_or_gt_of_ne last with before | after
    · simp [List.getElem?_append_left before]
    · have outside : h.cells[q]? = none := List.getElem?_eq_none (by omega)
      have beyond : (h.cells ++ [Cell.live content])[q]? = none :=
        List.getElem?_eq_none (by simp; omega)
      rw [outside, beyond]

/-- The next address is not live yet. -/
theorem get?_size : h.get? h.size = none := by
  simp [get?, size]

/-- An allocation hands out the next address. -/
@[simp] theorem alloc_address : (h.alloc content).2 = h.size := rfl

/-- An allocation makes the heap larger by one. -/
@[simp] theorem alloc_size : (h.alloc content).1.size = h.size + 1 := by
  simp [alloc, size]

/-- Storing into a live cell changes that cell only. -/
theorem store_ok (content : α) (lives : h.get? p = some other) :
    ∃ h', h.store p content = .ok h' ∧ h'.size = h.size ∧
      ∀ q, h'.get? q = if q = p then some content else h.get? q := by
  have inside : p < h.cells.length := lt_size lives
  refine ⟨⟨h.cells.set p (.live content)⟩, ?_, by simp [size], fun q => ?_⟩
  · simp only [store, load_ok lives]
    rfl
  · unfold get?
    by_cases same : q = p
    · subst same
      simp [inside]
    · simp [List.getElem?_set_ne (Ne.symm same), same]

/-- Freeing a live cell ends its life and changes no other. -/
theorem free_ok (lives : h.get? p = some other) :
    ∃ h', h.free p = .ok h' ∧ h'.size = h.size ∧
      ∀ q, h'.get? q = if q = p then none else h.get? q := by
  have inside : p < h.cells.length := lt_size lives
  refine ⟨⟨h.cells.set p .freed⟩, ?_, by simp [size], fun q => ?_⟩
  · simp only [free, load_ok lives]
    rfl
  · unfold get?
    by_cases same : q = p
    · subst same
      simp [inside]
    · simp [List.getElem?_set_ne (Ne.symm same), same]

/-- A cell that is allocated and freed again leaves the live cells as they were. -/
theorem alloc_free (h : Heap α) (content : α) :
    ∃ h', (h.alloc content).1.free h.size = .ok h' ∧ h'.size = h.size + 1 ∧
      ∀ q, h'.get? q = h.get? q := by
  have lives : (h.alloc content).1.get? h.size = some content := by
    rw [get?_alloc, if_pos rfl]
  obtain ⟨h', freed, same, cells⟩ := free_ok lives
  refine ⟨h', freed, by simp [same], fun q => ?_⟩
  rw [cells, get?_alloc]
  by_cases fresh : q = h.size
  · rw [if_pos fresh, fresh, get?_size]
  · rw [if_neg fresh, if_neg fresh]

/-- A cell that is allocated and written holds what was written. -/
theorem alloc_store (h : Heap α) (content other : α) :
    ∃ h', (h.alloc content).1.store h.size other = .ok h' ∧ h'.size = h.size + 1 ∧
      ∀ q, h'.get? q = if q = h.size then some other else h.get? q := by
  have lives : (h.alloc content).1.get? h.size = some content := by
    rw [get?_alloc, if_pos rfl]
  obtain ⟨h', stored, same, cells⟩ := store_ok other lives
  refine ⟨h', stored, by simp [same], fun q => ?_⟩
  rw [cells, get?_alloc]
  by_cases fresh : q = h.size
  · rw [if_pos fresh, if_pos fresh]
  · rw [if_neg fresh, if_neg fresh, if_neg fresh]

end Heap

end SpaceCaptain.Library
