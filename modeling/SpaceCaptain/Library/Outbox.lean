import Mathlib.Data.List.Basic

/-!
# Attempts to send, and what reaches the wire

A sender makes numbered attempts, one after the other. An attempt ends with an acknowledgement or
is given up, and what was to be sent may then stay stuck below and go out later. An `Outbox`
records which attempt everything on the wire was made for. It is faithful when the acknowledged
attempts are on the wire exactly once and in order. `Between` and `Underway` are the invariants
outside of an attempt and inside one whose payload is on the wire.
-/
namespace SpaceCaptain.Library

/-- What became of the attempts to send. -/
structure Outbox (α : Type*) where
  /-- How many attempts have ended; this is also the number of the current one. -/
  tried : Nat
  /-- The last attempt that was given up with something left below. -/
  stuck : Option Nat
  /-- What was put on the wire, each with the attempt that it was made for. -/
  wire : List (Nat × α)
  /-- What the acknowledged attempts were to send, each with its number. -/
  acked : List (Nat × α)
  deriving Repr

namespace Outbox

variable {α : Type*}

/-- Nothing was sent. -/
def empty : Outbox α := ⟨0, none, [], []⟩

/-- Something is put on the wire that was made for an attempt. -/
def put (o : Outbox α) (attempt : Nat) (x : α) : Outbox α :=
  { o with wire := o.wire ++ [(attempt, x)] }

/-- The current attempt is acknowledged. -/
def ack (o : Outbox α) (x : α) : Outbox α :=
  { o with tried := o.tried + 1, acked := o.acked ++ [(o.tried, x)] }

/-- The current attempt is given up; `fresh` says that what is left below was made for it. -/
def giveUp (o : Outbox α) (fresh : Bool) : Outbox α :=
  { o with tried := o.tried + 1, stuck := if fresh then some o.tried else o.stuck }

/-- The acknowledged attempts are on the wire exactly once and in order, with what they were to
send; nothing that is stuck was made for one of them. -/
structure Faithful (o : Outbox α) : Prop where
  /-- What is on the wire for the acknowledged attempts is what they were to send. -/
  exact : o.wire.filter (fun p => decide (p.1 ∈ o.acked.map Prod.fst)) = o.acked
  /-- An attempt is acknowledged at most once. -/
  ordered : (o.acked.map Prod.fst).Pairwise (· < ·)
  /-- What is stuck was not acknowledged. -/
  apart : ∀ attempt, o.stuck = some attempt → attempt ∉ o.acked.map Prod.fst

/-- A faithful outbox with nothing on the wire for the current attempt. -/
structure Between (o : Outbox α) : Prop extends Faithful o where
  /-- What is on the wire was made for earlier attempts. -/
  earlier : ∀ p ∈ o.wire, p.1 < o.tried
  /-- The acknowledged attempts are earlier ones. -/
  ended : ∀ attempt ∈ o.acked.map Prod.fst, attempt < o.tried
  /-- What is stuck was made for an earlier attempt. -/
  left : ∀ attempt, o.stuck = some attempt → attempt < o.tried

/-- The payload of the current attempt is on the wire, once and at the end. -/
def Underway (o : Outbox α) (x : α) : Prop := ∃ o₀, Between o₀ ∧ o = o₀.put o₀.tried x

/-- The empty outbox is between two attempts. -/
theorem empty_between : (empty : Outbox α).Between where
  exact := rfl
  ordered := List.Pairwise.nil
  apart _ stuck := nomatch stuck
  earlier _ member := absurd member List.not_mem_nil
  ended _ member := absurd member List.not_mem_nil
  left _ stuck := nomatch stuck

variable {o : Outbox α} {x : α}

/-- Something that was not made for an acknowledged attempt does not count. -/
theorem filter_put {attempt : Nat} (absent : attempt ∉ o.acked.map Prod.fst) :
    (o.put attempt x).wire.filter (fun p => decide (p.1 ∈ o.acked.map Prod.fst)) =
      o.wire.filter (fun p => decide (p.1 ∈ o.acked.map Prod.fst)) := by
  simp only [put, List.filter_append]
  rw [List.filter_cons_of_neg (by simpa using absent), List.filter_nil, List.append_nil]

/-- The current attempt is not acknowledged. -/
theorem Between.current (between : o.Between) : o.tried ∉ o.acked.map Prod.fst :=
  fun member => Nat.lt_irrefl _ (between.ended _ member)

/-- An attempt under way leaves the outbox faithful. -/
theorem Underway.faithful (underway : o.Underway x) : o.Faithful := by
  obtain ⟨o₀, between, rfl⟩ := underway
  exact ⟨(filter_put between.current).trans between.exact, between.ordered, between.apart⟩

/-- What is stuck may go out between two attempts. -/
theorem Between.put_stuck {attempt : Nat} (between : o.Between)
    (stuck : o.stuck = some attempt) : (o.put attempt x).Between where
  exact := (filter_put (between.apart attempt stuck)).trans between.exact
  ordered := between.ordered
  apart := between.apart
  earlier p member := by
    rcases List.mem_append.mp member with old | new
    · exact between.earlier p old
    · rw [List.mem_singleton.mp new]
      exact between.left attempt stuck
  ended := between.ended
  left := between.left

/-- An attempt under way can be acknowledged. -/
theorem Underway.ack (underway : o.Underway x) : (o.ack x).Between := by
  obtain ⟨o₀, between, rfl⟩ := underway
  have labels : ((o₀.put o₀.tried x).ack x).acked.map Prod.fst =
      o₀.acked.map Prod.fst ++ [o₀.tried] := by
    simp [Outbox.ack, put]
  have apart {attempt : Nat} (earlier : attempt ≠ o₀.tried) :
      (attempt ∈ o₀.acked.map Prod.fst ++ [o₀.tried]) = (attempt ∈ o₀.acked.map Prod.fst) := by
    simp [earlier]
  refine ⟨⟨?_, ?_, ?_⟩, ?_, ?_, ?_⟩
  · -- Of what was there before the same counts, and the new payload counts too.
    have old : o₀.wire.filter
        (fun p => decide (p.1 ∈ o₀.acked.map Prod.fst ++ [o₀.tried])) = o₀.acked := by
      refine Eq.trans (List.filter_congr fun p member => ?_) between.exact
      rw [decide_eq_decide, apart (Nat.ne_of_lt (between.earlier p member))]
    rw [labels]
    simp only [Outbox.ack, put, List.filter_append, old]
    simp
  · rw [labels]
    refine List.pairwise_append.mpr ⟨between.ordered, List.pairwise_singleton _ _, ?_⟩
    intro attempt old current new
    rw [List.mem_singleton.mp new]
    exact between.ended attempt old
  · intro attempt stuck
    rw [labels, apart (Nat.ne_of_lt (between.left attempt stuck))]
    exact between.apart attempt stuck
  · intro p member
    rcases List.mem_append.mp member with old | new
    · exact Nat.lt_succ_of_lt (between.earlier p old)
    · rw [List.mem_singleton.mp new]
      exact Nat.lt_succ_self _
  · intro attempt member
    rw [labels] at member
    rcases List.mem_append.mp member with old | new
    · exact Nat.lt_succ_of_lt (between.ended attempt old)
    · rw [List.mem_singleton.mp new]
      exact Nat.lt_succ_self _
  · exact fun attempt stuck => Nat.lt_succ_of_lt (between.left attempt stuck)

/-- An attempt is given up, when what is on the wire was made for it or for earlier ones. -/
theorem giveUp_between (faithful : o.Faithful) (wire : ∀ p ∈ o.wire, p.1 ≤ o.tried)
    (ended : ∀ attempt ∈ o.acked.map Prod.fst, attempt < o.tried)
    (left : ∀ attempt, o.stuck = some attempt → attempt < o.tried) (fresh : Bool) :
    (o.giveUp fresh).Between := by
  have stuck (attempt : Nat) (here : (o.giveUp fresh).stuck = some attempt) :
      attempt = o.tried ∨ o.stuck = some attempt := by
    cases fresh with
    | true => exact .inl (Option.some.inj here).symm
    | false => exact .inr here
  refine ⟨⟨faithful.exact, faithful.ordered, ?_⟩, ?_, ?_, ?_⟩
  · intro attempt here member
    rcases stuck attempt here with rfl | before
    · exact Nat.lt_irrefl _ (ended _ member)
    · exact faithful.apart attempt before member
  · exact fun p member => Nat.lt_succ_of_le (wire p member)
  · exact fun attempt member => Nat.lt_succ_of_lt (ended attempt member)
  · intro attempt here
    rcases stuck attempt here with rfl | before
    · exact Nat.lt_succ_self _
    · exact Nat.lt_succ_of_lt (left attempt before)

/-- An attempt with nothing on the wire can be given up. -/
theorem Between.giveUp (between : o.Between) (fresh : Bool) : (o.giveUp fresh).Between :=
  giveUp_between between.toFaithful (fun p member => Nat.le_of_lt (between.earlier p member))
    between.ended between.left fresh

/-- An attempt under way can be given up. -/
theorem Underway.giveUp (underway : o.Underway x) (fresh : Bool) : (o.giveUp fresh).Between := by
  have faithful := underway.faithful
  obtain ⟨o₀, between, rfl⟩ := underway
  refine giveUp_between faithful (fun p member => ?_) between.ended between.left fresh
  rcases List.mem_append.mp member with old | new
  · exact Nat.le_of_lt (between.earlier p old)
  · exact Nat.le_of_eq (congrArg Prod.fst (List.mem_singleton.mp new))

end Outbox

end SpaceCaptain.Library
