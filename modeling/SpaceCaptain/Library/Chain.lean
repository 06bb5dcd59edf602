import Mathlib.Data.List.Nodup
import Mathlib.Data.List.Range
import Mathlib.Data.Fintype.Card

/-!
# Singly linked lists in memory

Nodes lie at addresses and hold an optional address of the next node. `Segment` says that the
nodes from one pointer up to another carry a given list of contents, and `Chain` that they do
so up to the NULL pointer. A chain is determined by its head, so it cannot visit an address
twice: it is finite and acyclic by construction. Writing one node, linking one in at the head
and unlinking one are edits of the list. `cell` reads the memory, `view` the content of a node
and `next` its pointer; nothing else of the nodes matters.
-/
namespace SpaceCaptain.Library

variable {N V : Type*} (view : N → V) (next : N → Option Nat)

/-- The nodes from `head` up to the pointer `tail` are those of the list, in order. -/
def Segment (cell : Nat → Option N) : Option Nat → List (Nat × V) → Option Nat → Prop
  | head, [], tail => head = tail
  | head, (p, v) :: rest, tail =>
    head = some p ∧ ∃ n, cell p = some n ∧ view n = v ∧ Segment cell (next n) rest tail

/-- The nodes from `head` on are those of the list, in order, and no more. -/
def Chain (cell : Nat → Option N) (head : Option Nat) (l : List (Nat × V)) : Prop :=
  Segment view next cell head l none

variable {view next} {cell cell' : Nat → Option N} {head tail : Option Nat}
  {l l' front back : List (Nat × V)} {p : Nat} {v : V} {n n' : N}

/-- A segment of a concatenation is two segments that meet. -/
theorem segment_append :
    Segment view next cell head (front ++ back) tail ↔
      ∃ middle, Segment view next cell head front middle ∧
        Segment view next cell middle back tail := by
  induction front generalizing head with
  | nil => simp [Segment]
  | cons e rest ih =>
    simp only [List.cons_append, Segment, ih]
    constructor
    · rintro ⟨start, n, found, seen, middle, first, second⟩
      exact ⟨middle, ⟨start, n, found, seen, first⟩, second⟩
    · rintro ⟨middle, ⟨start, n, found, seen, first⟩, second⟩
      exact ⟨start, n, found, seen, middle, first, second⟩

/-- Memory that agrees on the nodes has the same segment. -/
theorem Segment.frame (segment : Segment view next cell head l tail)
    (agree : ∀ q ∈ l.map Prod.fst, cell' q = cell q) : Segment view next cell' head l tail := by
  induction l generalizing head with
  | nil => exact segment
  | cons e rest ih =>
    obtain ⟨start, n, found, seen, later⟩ := segment
    refine ⟨start, n, ?_, seen, ih later fun q member => agree q ?_⟩
    · rw [agree _ (by simp), found]
    · simp only [List.map_cons, List.mem_cons]
      exact .inr member

/-- Every entry of a segment is a node with that content. -/
theorem Segment.node (segment : Segment view next cell head l tail) (member : (p, v) ∈ l) :
    ∃ n, cell p = some n ∧ view n = v := by
  induction l generalizing head with
  | nil => contradiction
  | cons e rest ih =>
    obtain ⟨-, n, found, seen, later⟩ := segment
    rcases List.mem_cons.mp member with rfl | member
    · exact ⟨n, found, seen⟩
    · exact ih later member

/-- Two chains from one head are the same. -/
theorem Chain.unique (left : Chain view next cell head l) (right : Chain view next cell head l') :
    l = l' := by
  unfold Chain at *
  induction l generalizing head l' with
  | nil =>
    cases l' with
    | nil => rfl
    | cons e rest =>
      obtain rfl : head = none := left
      cases right.1
  | cons e rest ih =>
    obtain ⟨rfl, n, found, seen, later⟩ := left
    cases l' with
    | nil => cases right
    | cons e' rest' =>
      obtain ⟨same, n', found', seen', later'⟩ := right
      have address : e.1 = e'.1 := Option.some.inj same
      rw [← address, found] at found'
      obtain rfl := Option.some.inj found'
      obtain rfl := ih later later'
      have content : e.2 = e'.2 := seen.symm.trans seen'
      rw [Prod.ext address content]

/-- A chain starts at its first node. -/
theorem Chain.head_eq (chain : Chain view next cell head l) : head = l.head?.map Prod.fst := by
  cases l with
  | nil => exact chain
  | cons e rest => exact chain.1

/-- A chain visits no address twice. -/
theorem Chain.nodup (chain : Chain view next cell head l) : (l.map Prod.fst).Nodup := by
  induction l generalizing head with
  | nil => exact List.nodup_nil
  | cons e rest ih =>
    have whole := chain
    obtain ⟨rfl, n, found, seen, later⟩ := chain
    rw [List.map_cons, List.nodup_cons]
    refine ⟨fun again => ?_, ih later⟩
    -- A second visit would start the whole chain again inside its own rest.
    obtain ⟨⟨q, w⟩, member, same⟩ := List.mem_map.mp again
    obtain ⟨front, back, split⟩ := List.append_of_mem member
    obtain ⟨middle, -, second⟩ := segment_append.mp (split ▸ later)
    have here : middle = some e.1 := second.1.trans (congrArg some same)
    have repeated : e :: rest = (q, w) :: back := Chain.unique whole (here ▸ second)
    have shorter : rest = back := (List.cons.inj repeated).2
    have lengths := congrArg List.length split
    rw [shorter] at lengths
    simp at lengths
    omega

/-- A chain is no longer than the memory. -/
theorem Chain.length_le {bound : Nat} (chain : Chain view next cell head l)
    (bounded : ∀ q m, cell q = some m → q < bound) : l.length ≤ bound := by
  have inside : l.map Prod.fst ⊆ List.range bound := by
    intro q member
    obtain ⟨⟨q', w⟩, entry, rfl⟩ := List.mem_map.mp member
    obtain ⟨m, found, -⟩ := Segment.node chain entry
    exact List.mem_range.mpr (bounded q' m found)
  have shorter := (chain.nodup.subperm inside).length_le
  simpa using shorter

/-- Writing one node and keeping its pointer edits one content. -/
theorem Segment.write (segment : Segment view next cell head l tail)
    (nodup : (l.map Prod.fst).Nodup) (found : cell p = some n) (pointer : next n' = next n)
    (written : cell' p = some n') (others : ∀ q, q ≠ p → cell' q = cell q) :
    Segment view next cell' head (l.map fun e => if e.1 = p then (p, view n') else e) tail := by
  induction l generalizing head with
  | nil => exact segment
  | cons e rest ih =>
    obtain ⟨start, m, here, seen, later⟩ := segment
    rw [List.map_cons, List.nodup_cons] at nodup
    by_cases same : e.1 = p
    · subst same
      rw [found] at here
      obtain rfl := Option.some.inj here
      have untouched : (rest.map fun d => if d.1 = e.1 then (e.1, view n') else d) = rest := by
        conv_rhs => rw [← List.map_id rest]
        refine List.map_congr_left fun d member => if_neg fun again => nodup.1 ?_
        exact List.mem_map.mpr ⟨d, member, again⟩
      simp only [List.map_cons, ↓reduceIte, untouched]
      refine ⟨start, n', written, rfl, ?_⟩
      rw [pointer]
      refine later.frame fun q member => others q ?_
      rintro rfl
      exact nodup.1 member
    · simp only [List.map_cons, if_neg same]
      exact ⟨start, m, by rw [others _ same, here], seen, ih later nodup.2⟩

/-- Redirecting the last node of a segment moves its end. -/
theorem Segment.redirect (segment : Segment view next cell head (front ++ [(p, v)]) tail)
    {target : Option Nat} (fresh : p ∉ front.map Prod.fst) (content : view n' = v)
    (pointer : next n' = target) (written : cell' p = some n')
    (others : ∀ q, q ≠ p → cell' q = cell q) :
    Segment view next cell' head (front ++ [(p, v)]) target := by
  obtain ⟨middle, first, start, n, found, seen, -⟩ := segment_append.mp segment
  refine segment_append.mpr ⟨middle, first.frame fun q member => others q ?_, start, n', written,
    content, pointer⟩
  rintro rfl
  exact fresh member

end SpaceCaptain.Library
