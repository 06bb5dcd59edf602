import SpaceCaptain.Library.Undo
import SpaceCaptain.Queue.Generic

/-!
# The parts of a queue from its creation to its destruction

A queue consists of six resources: the structure, the buffer, and four objects of the thread
library inside the structure. This module writes down, call by call, what `sc_generic_queue_init`
makes and what each of its failing branches takes back, and what the two destructions give up. The
objects inside the structure use it, and so does the buffer, which only the structure points to.
`free` cannot fail, but the destructors of the thread library can; none of the three functions
lets that change what it does next. `sc_generic_queue_nuke` alone looks at one of the results.
-/
namespace SpaceCaptain.GenericQueue

open SpaceCaptain.Library

variable {α : Type*}

/-- The resources of a queue. -/
inductive Part where
  /-- `q`. -/
  | queue
  /-- `q->buffer`. -/
  | buffer
  /-- `q->rwlock`. -/
  | rwlock
  /-- `q->cond_mutex`. -/
  | condMutex
  /-- `q->cond_not_empty`. -/
  | condNotEmpty
  /-- `q->cond_not_full`. -/
  | condNotFull
  deriving DecidableEq, Repr

/-- What a resource lies in, or is reached through. -/
def Part.needs : Part → List Part
  | .queue => []
  | .buffer | .rwlock | .condMutex | .condNotEmpty | .condNotFull => [.queue]

/-- What the destructors of the thread library do; a field is true when the call succeeds. -/
structure DestroyEnv where
  /-- `pthread_rwlock_destroy`. -/
  rwlock : Bool
  /-- `pthread_mutex_destroy`. -/
  condMutex : Bool
  /-- `pthread_cond_destroy` of `cond_not_empty`. -/
  condNotEmpty : Bool
  /-- `pthread_cond_destroy` of `cond_not_full`. -/
  condNotFull : Bool
  deriving DecidableEq, Repr

/-- `sc_generic_queue_init` — its calls that succeed in making a resource, the calls by which a
failing branch takes back what was made, and the code it leaves when it returns NULL. -/
def initActs (p : Platform) (capacity : Nat) (env : InitEnv) (back : DestroyEnv) :
    List (Act Part) × Except RetVal Unit :=
  if capacity = 0 ∨ p.maxCapacity < capacity then
    ([], .error (if capacity = 0 then .errInvalid else .errOverflow))
  else if !env.queueAllocated then ([], .error .errMemory)
  else if p.mulOverflow capacity p.pointerSize then
    ([.make .queue, .free .queue], .error .errOverflow)
  else if !env.bufferAllocated then
    ([.make .queue, .free .queue], .error .errMemory)
  else if !env.rwlockInit then
    ([.make .queue, .make .buffer, .free .buffer, .free .queue], .error .errThread)
  else if !env.condMutexInit then
    ([.make .queue, .make .buffer, .make .rwlock,
      .destroy .rwlock back.rwlock, .free .buffer, .free .queue], .error .errThread)
  else if !env.condNotEmptyInit then
    ([.make .queue, .make .buffer, .make .rwlock, .make .condMutex,
      .destroy .condMutex back.condMutex, .destroy .rwlock back.rwlock, .free .buffer,
      .free .queue], .error .errThread)
  else if !env.condNotFullInit then
    ([.make .queue, .make .buffer, .make .rwlock, .make .condMutex, .make .condNotEmpty,
      .destroy .condNotEmpty back.condNotEmpty, .destroy .condMutex back.condMutex,
      .destroy .rwlock back.rwlock, .free .buffer, .free .queue], .error .errThread)
  else
    ([.make .queue, .make .buffer, .make .rwlock, .make .condMutex, .make .condNotEmpty,
      .make .condNotFull], .ok ())

/-- `sc_generic_queue_nuke` — the calls by which it gives up the resources, and the code it
returns. -/
def nukeActs (env : DestroyEnv) : List (Act Part) × RetVal :=
  ([.destroy .rwlock env.rwlock, .destroy .condMutex env.condMutex, .free .buffer,
      .destroy .condNotEmpty env.condNotEmpty, .destroy .condNotFull env.condNotFull,
      .free .queue],
    if env.rwlock then .success else .errThread)

/-- `sc_generic_queue_nuke_with_cleanup`, after the drain loop — the calls by which it gives up
the resources. -/
def nukeWithCleanupActs (env : DestroyEnv) : List (Act Part) :=
  [.free .buffer, .destroy .rwlock env.rwlock, .destroy .condMutex env.condMutex,
    .destroy .condNotEmpty env.condNotEmpty, .destroy .condNotFull env.condNotFull, .free .queue]

/-- Whatever a destructor may leave lies in the structure, and the structure is freed. -/
theorem destroy_inside {acts : List (Act Part)}
    (structure_freed : acts.any (Act.risks .queue) = false) (part : Part)
    (risky : acts.any (Act.risks part) = true) :
    ∃ k ∈ part.needs, acts.any (Act.risks k) = false := by
  cases part with
  | queue => exact absurd risky (by simp [structure_freed])
  | buffer | rwlock | condMutex | condNotEmpty | condNotFull =>
    exact ⟨.queue, List.mem_singleton_self _, structure_freed⟩

/-- Calls on the parts of a queue, the structure among those that are freed, that are in order when
every destructor succeeds. -/
theorem undoes_parts {acts : List (Act Part)}
    (clean : watch Use.next [] (account Part.needs (settled acts)) = some [])
    (distinct : (made acts).Nodup) (structure_freed : acts.any (Act.risks .queue) = false) :
    Undoes Part.needs acts :=
  undoes_of_settled clean distinct (destroy_inside structure_freed)

/-- The creation by its calls ends as the creation by its data. -/
theorem initActs_result (p : Platform) (capacity : Nat) (env : InitEnv) (back : DestroyEnv) :
    (init p capacity env : Except RetVal (Queue α)).map (fun _ => ()) =
      (initActs p capacity env back).2 := by
  unfold init initActs
  repeat' split
  all_goals rfl

/-- The creation returns NULL and has undone what it had made, the last part first, or it returns
a queue and has made the six parts. -/
theorem initActs_cases (p : Platform) (capacity : Nat) (env : InitEnv) (back : DestroyEnv) :
    (∃ code, (initActs p capacity env back).2 = .error code ∧
        Undoes Part.needs (initActs p capacity env back).1 ∧
        undone (initActs p capacity env back).1 =
          (made (initActs p capacity env back).1).reverse) ∨
      initActs p capacity env back =
        ([.make .queue, .make .buffer, .make .rwlock, .make .condMutex, .make .condNotEmpty,
          .make .condNotFull], .ok ()) := by
  unfold initActs
  repeat' split
  all_goals first
    | exact .inr rfl
    | exact .inl ⟨_, rfl, undoes_parts rfl (of_decide_eq_true rfl) rfl, rfl⟩

/-- Whatever the allocator and the thread library do, the destructors on the failing branches
included. A creation that returns NULL undoes exactly what it made, the last part first; one that
returns a queue has made all the parts and nothing is out of order, and either destruction of the
queue undoes exactly these. Undoing is in order and leaves nothing when every destructor that is
called succeeds, and frees the structure around a part that is still there when one fails; of these
failures `sc_generic_queue_nuke` reports the one of the rwlock and no other. -/
theorem queue_lifecycle (p : Platform) (capacity : Nat) (env : InitEnv) (back : DestroyEnv) :
    (init p capacity env : Except RetVal (Queue α)).map (fun _ => ()) =
        (initActs p capacity env back).2 ∧
      (∀ code, (initActs p capacity env back).2 = .error code →
        Undoes Part.needs (initActs p capacity env back).1 ∧
          undone (initActs p capacity env back).1 =
            (made (initActs p capacity env back).1).reverse) ∧
      ((initActs p capacity env back).2 = .ok () →
        (∃ held, watch Use.next [] (account Part.needs (initActs p capacity env back).1) =
            some held ∧ ∀ part, part ∈ held.names) ∧
          ∀ destroyEnv,
            Undoes Part.needs
              ((initActs p capacity env back).1 ++ (nukeActs destroyEnv).1) ∧
            Undoes Part.needs
              ((initActs p capacity env back).1 ++ nukeWithCleanupActs destroyEnv) ∧
            ((nukeActs destroyEnv).2 = .success ↔ destroyEnv.rwlock = true)) := by
  refine ⟨initActs_result p capacity env back, ?_⟩
  rcases initActs_cases p capacity env back with ⟨code, returned, undoes, order⟩ | completed
  · refine ⟨fun _ _ => ⟨undoes, order⟩, fun ok => ?_⟩
    rw [returned] at ok
    contradiction
  · rw [completed]
    refine ⟨nofun, fun _ => ⟨⟨_, rfl, ?_⟩, fun destroyEnv => ⟨?_, ?_, ?_⟩⟩⟩
    · intro part
      cases part <;> decide
    · exact undoes_parts rfl (of_decide_eq_true rfl) rfl
    · exact undoes_parts rfl (of_decide_eq_true rfl) rfl
    · simp [nukeActs]

/-- The lock of a queue cannot be destroyed, and the mutex of another one, whose creation fails at
the last step, cannot either: both structures are freed around them, and only the first is
reported. -/
theorem queue_lifecycle_lockKept :
    ((∃ r k, Around Part.needs
        ((initActs ⟨64, 8⟩ 4 ⟨true, true, true, true, true, true⟩ ⟨true, true, true, true⟩).1 ++
          (nukeActs ⟨false, true, true, true⟩).1) r k) ∧
      (nukeActs ⟨false, true, true, true⟩).2 = .errThread) ∧
    watch Use.next [] (account Part.needs
      (initActs ⟨64, 8⟩ 4 ⟨true, true, true, true, true, false⟩ ⟨true, false, true, true⟩).1) =
        none := by
  obtain ⟨-, -, created⟩ := queue_lifecycle (α := Nat) ⟨64, 8⟩ 4
    ⟨true, true, true, true, true, true⟩ ⟨true, true, true, true⟩
  obtain ⟨-, refused, -⟩ := queue_lifecycle (α := Nat) ⟨64, 8⟩ 4
    ⟨true, true, true, true, true, false⟩ ⟨true, false, true, true⟩
  obtain ⟨nuked, -, -⟩ := (created rfl).2 ⟨false, true, true, true⟩
  exact ⟨⟨nuked.dangling rfl, rfl⟩, (refused .errThread rfl).1.refused rfl⟩

/-- The mutex cannot be initialised: the lock, the buffer and the structure are taken back. -/
example : account Part.needs
    (initActs ⟨64, 8⟩ 4 ⟨true, true, true, false, true, true⟩ ⟨true, true, true, true⟩).1 =
    [.create .queue [], .create .buffer [.queue], .create .rwlock [.queue],
      .release .rwlock, .release .buffer, .release .queue] := by decide

end SpaceCaptain.GenericQueue
