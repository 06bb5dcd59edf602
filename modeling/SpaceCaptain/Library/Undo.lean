import Mathlib.Data.List.Count
import Mathlib.Data.List.Perm.Lattice
import SpaceCaptain.Library.Resource

/-!
# Programs that take back what they made

A program makes resources, frees some of them, and gives up others by calls that may fail; a call
that fails leaves its resource. `account` turns the calls into the uses of `Library.Resource`. A
record that is in order when no call fails is out of order as soon as one does, if the resource
lies inside one that is freed (`undoes_of_settled`): then this one is freed around something that
is still there.
-/
namespace SpaceCaptain.Library

variable {κ : Type*}

/-- A call that makes a resource or gives one up. -/
inductive Act (κ : Type*) where
  /-- The resource is made. -/
  | make (r : κ)
  /-- The resource is given up by a call that cannot fail. -/
  | free (r : κ)
  /-- The resource is given up by a call that can fail. -/
  | destroy (r : κ) (succeeds : Bool)
  deriving DecidableEq, Repr

namespace Act

/-- The call has not failed. -/
def succeeds : Act κ → Bool
  | .make _ | .free _ => true
  | .destroy _ succeeds => succeeds

/-- The same call, when it does not fail. -/
def settle : Act κ → Act κ
  | .make r => .make r
  | .free r => .free r
  | .destroy r _ => .destroy r true

/-- The call may leave the resource. -/
def risks [DecidableEq κ] (r : κ) : Act κ → Bool
  | .make _ | .free _ => false
  | .destroy r' _ => r' = r

/-- The call leaves the resource. -/
def leaves [DecidableEq κ] (r : κ) : Act κ → Bool
  | .make _ | .free _ => false
  | .destroy r' succeeds => r' = r && !succeeds

/-- What the call does with resources that use what `needs` says. -/
def uses (needs : κ → List κ) : Act κ → List (Use κ)
  | .make r => [.create r (needs r)]
  | .free r => [.release r]
  | .destroy r succeeds => if succeeds then [.release r] else []

/-- The resource that the call makes. -/
def made : Act κ → Option κ
  | .make r => some r
  | .free _ | .destroy .. => none

/-- The resource that the call is to give up. -/
def undone : Act κ → Option κ
  | .make _ => none
  | .free r | .destroy r _ => some r

end Act

variable {needs : κ → List κ} {acts : List (Act κ)}

/-- What some calls do with the resources. -/
def account (needs : κ → List κ) (acts : List (Act κ)) : List (Use κ) :=
  acts.flatMap (Act.uses needs)

/-- The resources that some calls make. -/
def made (acts : List (Act κ)) : List κ := acts.filterMap Act.made

/-- The resources that some calls are to give up. -/
def undone (acts : List (Act κ)) : List κ := acts.filterMap Act.undone

/-- The same calls, none of which fails. -/
def settled (acts : List (Act κ)) : List (Act κ) := acts.map Act.settle

/-- The uses of one call come before those of the next. -/
theorem account_cons (act : Act κ) (rest : List (Act κ)) :
    account needs (act :: rest) = act.uses needs ++ account needs rest := List.flatMap_cons

/-- Call after call is settled. -/
theorem settled_cons (act : Act κ) (rest : List (Act κ)) :
    settled (act :: rest) = act.settle :: settled rest := rfl

/-- Calls that do not fail are settled. -/
theorem settled_eq (fine : acts.all Act.succeeds = true) : settled acts = acts := by
  have same : ∀ act ∈ acts, act.settle = id act := by
    intro act member
    have succeeds := List.all_eq_true.mp fine act member
    cases act with
    | make r => rfl
    | free r => rfl
    | destroy r outcome =>
      obtain rfl : outcome = true := succeeds
      rfl
  rw [settled, List.map_congr_left same, List.map_id]

variable [DecidableEq κ]

/-- Failures change nothing of what is made. -/
theorem creates_settled (r : κ) :
    (account needs (settled acts)).countP (Use.creates r) =
      (account needs acts).countP (Use.creates r) := by
  induction acts with
  | nil => rfl
  | cons act rest ih =>
    rw [settled_cons, account_cons, account_cons, List.countP_append, List.countP_append, ih]
    cases act with
    | make r' => rfl
    | free r' => rfl
    | destroy r' succeeds => cases succeeds <;> rfl

/-- Each failure takes one release away. -/
theorem releases_settled (needs : κ → List κ) (acts : List (Act κ)) (r : κ) :
    (account needs (settled acts)).countP (Use.releases r) =
      (account needs acts).countP (Use.releases r) + acts.countP (Act.leaves r) := by
  induction acts with
  | nil => rfl
  | cons act rest ih =>
    rw [settled_cons, account_cons, account_cons, List.countP_append, List.countP_append, ih,
      List.countP_cons]
    cases act with
    | make r' => simp [Act.settle, Act.leaves, Nat.add_assoc]
    | free r' => simp [Act.settle, Act.leaves, Nat.add_assoc]
    | destroy r' succeeds =>
      cases succeeds <;> by_cases same : r' = r <;>
        simp [Act.settle, Act.uses, Act.leaves, Use.releases, same] <;> omega

/-- The calls that make a resource are its creations. -/
theorem count_made (r : κ) :
    (made acts).count r = (account needs acts).countP (Use.creates r) := by
  induction acts with
  | nil => rfl
  | cons act rest ih =>
    rw [account_cons, List.countP_append, ← ih, made, made, List.filterMap_cons]
    cases act with
    | make r' =>
      by_cases same : r' = r <;> simp [Act.made, Act.uses, Use.creates, same, Nat.add_comm]
    | free r' => simp [Act.made, Act.uses, Use.creates]
    | destroy r' succeeds => cases succeeds <;> simp [Act.made, Act.uses, Use.creates]

/-- The calls that are to give up a resource are its releases when none fails. -/
theorem count_undone (needs : κ → List κ) (acts : List (Act κ)) (r : κ) :
    (undone acts).count r = (account needs (settled acts)).countP (Use.releases r) := by
  induction acts with
  | nil => rfl
  | cons act rest ih =>
    rw [settled_cons, account_cons, List.countP_append, ← ih, undone, undone,
      List.filterMap_cons]
    cases act with
    | make r' => simp [Act.undone, Act.settle, Act.uses, Use.releases]
    | free r' | destroy r' _ =>
      by_cases same : r' = r <;>
        simp [Act.undone, Act.settle, Act.uses, Use.releases, same, Nat.add_comm]

/-- Every existing resource uses what resources of its name need, and that exists. -/
def Held.Sound (needs : κ → List κ) (held : Held κ) : Prop :=
  ∀ h ∈ held, h.2 = needs h.1 ∧ ∀ k ∈ h.2, k ∈ held.names

/-- One call keeps the resources sound. -/
theorem Held.Sound.next {held held' : Held κ} (sound : held.Sound needs) {act : Act κ}
    (accepted : watch Use.next held (act.uses needs) = some held') : held'.Sound needs := by
  have given_up {r : κ} (released : watch Use.next held [.release r] = some held') :
      held'.Sound needs := by
    simp only [watch_cons, watch_nil, Option.bind_fun_some, Use.next,
      Option.ite_none_right_eq_some, Option.some.injEq] at released
    obtain ⟨⟨-, free⟩, rfl⟩ := released
    intro h member
    obtain ⟨old, other⟩ := List.mem_filter.mp member
    obtain ⟨same, known⟩ := sound h old
    refine ⟨same, fun k used => ?_⟩
    rw [Held.names_drop, List.mem_filter]
    refine ⟨known k used, decide_eq_true fun gone => ?_⟩
    have unused : h.1 = r ∨ r ∉ h.2 := by simpa using List.all_eq_true.mp free h old
    rcases unused with named | absent
    · exact of_decide_eq_true other named
    · exact absent (gone ▸ used)
  cases act with
  | make r =>
    simp only [Act.uses, watch_cons, watch_nil, Option.bind_fun_some, Use.next,
      Option.ite_none_right_eq_some, Option.some.injEq] at accepted
    obtain ⟨⟨-, known⟩, rfl⟩ := accepted
    intro h member
    rcases List.mem_cons.mp member with rfl | old
    · exact ⟨rfl, fun k used => List.mem_cons_of_mem _ (known k used)⟩
    · obtain ⟨same, before⟩ := sound h old
      exact ⟨same, fun k used => List.mem_cons_of_mem _ (before k used)⟩
  | free r => exact given_up accepted
  | destroy r succeeds =>
    cases succeeds with
    | true => exact given_up accepted
    | false =>
      obtain rfl := Option.some.inj accepted
      exact sound

/-- Any number of calls keep the resources sound. -/
theorem Held.Sound.account {held held' : Held κ} (sound : held.Sound needs)
    (accepted : watch Use.next held (account needs acts) = some held') : held'.Sound needs := by
  induction acts generalizing held with
  | nil =>
    obtain rfl := Option.some.inj accepted
    exact sound
  | cons act rest ih =>
    rw [account_cons, watch_append] at accepted
    obtain ⟨middle, first, later⟩ := Option.bind_eq_some_iff.mp accepted
    exact ih (sound.next first) later

/-- What calls have made out of nothing is sound. -/
theorem account_sound {held : Held κ}
    (accepted : watch Use.next [] (account needs acts) = some held) : held.Sound needs := by
  have start : Held.Sound needs [] := List.forall_mem_nil _
  exact start.account accepted

/-- What calls leave is what they would leave if none failed, and what the failed ones have left. -/
theorem count_left {tidy held : Held κ}
    (clean : watch Use.next [] (account needs (settled acts)) = some tidy)
    (accepted : watch Use.next [] (account needs acts) = some held) (r : κ) :
    held.names.count r = tidy.names.count r + acts.countP (Act.leaves r) := by
  have tidied := watch_left clean r
  have counted := watch_left accepted r
  rw [creates_settled, releases_settled] at tidied
  omega

/-- What is left over was left by a call that failed. -/
theorem destroy_mem_of_leaves {r : κ} (left : 0 < acts.countP (Act.leaves r)) :
    .destroy r false ∈ acts := by
  obtain ⟨act, member, leaves⟩ := List.countP_pos_iff.mp left
  cases act with
  | make r' => simp [Act.leaves] at leaves
  | free r' => simp [Act.leaves] at leaves
  | destroy r' succeeds =>
    obtain ⟨rfl, rfl⟩ : r' = r ∧ succeeds = false := by simpa [Act.leaves] using leaves
    exact member

/-- Calls that are out of order have a first one that is. -/
theorem account_first {held : Held κ} (refused : watch Use.next held (account needs acts) = none) :
    ∃ before act rest held', acts = before ++ act :: rest ∧
      watch Use.next held (account needs before) = some held' ∧
      watch Use.next held' (act.uses needs) = none := by
  induction acts generalizing held with
  | nil => contradiction
  | cons act rest ih =>
    rw [account_cons, watch_append] at refused
    cases first : watch Use.next held (act.uses needs) with
    | none => exact ⟨[], act, rest, held, rfl, rfl, first⟩
    | some middle =>
      rw [first] at refused
      obtain ⟨before, act', rest', held', rfl, accepted, stuck⟩ := ih refused
      refine ⟨act :: before, act', rest', held', rfl, ?_, stuck⟩
      rw [account_cons, watch_append, first]
      exact accepted

/-- After some calls that are in order, `r` is given up around `k`: `k` needs it, and is still there
because the call that was to give up `k` has failed. -/
def Around (needs : κ → List κ) (acts : List (Act κ)) (r k : κ) : Prop :=
  ∃ before act rest held, acts = before ++ act :: rest ∧ act.undone = some r ∧
    watch Use.next [] (account needs before) = some held ∧ k ∈ held.names ∧ r ∈ needs k ∧
    .destroy k false ∈ before

/-- What a program with calls that may fail does to its resources: every resource that is made is
to be given up by exactly one call; that is in order and leaves nothing when no call fails; and
when one fails, something is given up around what is still there. -/
structure Undoes (needs : κ → List κ) (acts : List (Act κ)) : Prop where
  /-- Every resource is made once and is to be given up once. -/
  once : (undone acts).Perm (made acts) ∧ (made acts).Nodup
  /-- No call fails. -/
  ordered : acts.all Act.succeeds = true → watch Use.next [] (account needs acts) = some []
  /-- A call fails: then the calls are out of order. -/
  refused : acts.all Act.succeeds = false → watch Use.next [] (account needs acts) = none
  /-- They are out of order in this way. -/
  dangling : acts.all Act.succeeds = false → ∃ r k, Around needs acts r k

/-- Calls that leave something are out of order, if whatever they may leave needs something that is
freed for certain. -/
theorem refused_of_left
    (clean : watch Use.next [] (account needs (settled acts)) = some [])
    (inside : ∀ r, acts.any (Act.risks r) = true →
      ∃ k ∈ needs r, acts.any (Act.risks k) = false)
    (failed : acts.all Act.succeeds = false) : watch Use.next [] (account needs acts) = none := by
  by_contra accepted
  obtain ⟨held, accepted⟩ := Option.ne_none_iff_exists'.mp accepted
  have sound := account_sound accepted
  have left (r : κ) : r ∈ held.names ↔ 0 < acts.countP (Act.leaves r) := by
    rw [← List.count_pos_iff, count_left clean accepted]
    simp [Held.names]
  obtain ⟨act, member, fails⟩ := List.all_eq_false.mp failed
  cases act with
  | make r => exact fails rfl
  | free r => exact fails rfl
  | destroy r succeeds =>
    have failing : succeeds = false := by simpa [Act.succeeds] using fails
    have kept : r ∈ held.names := by
      rw [left, List.countP_pos_iff]
      exact ⟨_, member, by simp [Act.leaves, failing]⟩
    have risky : acts.any (Act.risks r) = true :=
      List.any_eq_true.mpr ⟨_, member, by simp [Act.risks]⟩
    obtain ⟨k, needed, certain⟩ := inside r risky
    obtain ⟨h, here, rfl⟩ := List.mem_map.mp kept
    obtain ⟨same, known⟩ := sound h here
    have still : k ∈ held.names := known k (same ▸ needed)
    have listed := destroy_mem_of_leaves ((left k).mp still)
    exact List.any_eq_false.mp certain _ listed (by simp [Act.risks])

/-- What is to be given up was made, if that is in order when no call fails. -/
theorem undone_made {tidy : Held κ} {r : κ}
    (clean : watch Use.next [] (account needs (settled acts)) = some tidy)
    (given_up : r ∈ undone acts) : r ∈ made acts := by
  have released : (undone acts).count r =
      (account needs (settled acts)).countP (Use.releases r) := count_undone needs acts r
  have produced : (made acts).count r = (account needs acts).countP (Use.creates r) := count_made r
  have tidied := watch_left clean r
  rw [creates_settled] at tidied
  rw [← List.count_pos_iff] at given_up ⊢
  omega

/-- A release that is in order among some resources, but not among more, is refused for one of those
that were added: it needs what is released. -/
theorem release_blocked {tidy held : Held κ} {r : κ} (orderly : tidy.Sound needs)
    (sound : held.Sound needs) (more : ∀ x ∈ tidy.names, x ∈ held.names)
    (allowed : watch Use.next tidy [.release r] ≠ none)
    (refused : watch Use.next held [.release r] = none) :
    ∃ k ∈ held.names, k ∉ tidy.names ∧ r ∈ needs k := by
  simp only [watch_cons, watch_nil, Option.bind_fun_some, Use.next, ne_eq,
    ite_eq_right_iff, reduceCtorEq, imp_false, not_not] at allowed refused
  obtain ⟨present, free⟩ := allowed
  have blocked : ¬held.unused r = true := fun unused => refused ⟨more r present, unused⟩
  obtain ⟨h, member, used⟩ := List.all_eq_false.mp (Bool.eq_false_iff.mpr blocked)
  obtain ⟨other, needed⟩ : h.1 ≠ r ∧ r ∈ h.2 := by simpa using used
  rw [(sound h member).1] at needed
  refine ⟨h.1, List.mem_map_of_mem member, fun there => ?_, needed⟩
  obtain ⟨h', member', same⟩ := List.mem_map.mp there
  have unneeded : h'.1 = r ∨ r ∉ h'.2 := by simpa using List.all_eq_true.mp free h' member'
  rw [(orderly h' member').1, same] at unneeded
  rcases unneeded with named | absent
  · exact other named
  · exact absent needed

/-- The first call that is out of order gives something up around what is still there. -/
theorem around_of_stuck {before rest : List (Act κ)} {act : Act κ} {held : Held κ}
    (clean : watch Use.next [] (account needs (settled (before ++ act :: rest))) = some [])
    (distinct : (made (before ++ act :: rest)).Nodup)
    (accepted : watch Use.next [] (account needs before) = some held)
    (stuck : watch Use.next held (act.uses needs) = none) :
    ∃ r k, Around needs (before ++ act :: rest) r k := by
  have sound := account_sound accepted
  -- the same calls without a failure go on
  obtain ⟨tidy, first, goesOn⟩ : ∃ tidy,
      watch Use.next [] (account needs (settled before)) = some tidy ∧
        watch Use.next tidy (act.settle.uses needs) ≠ none := by
    rw [settled, List.map_append, List.map_cons, account, List.flatMap_append, watch_append,
      List.flatMap_cons] at clean
    obtain ⟨tidy, first, later⟩ := Option.bind_eq_some_iff.mp clean
    rw [watch_append] at later
    obtain ⟨next, second, -⟩ := Option.bind_eq_some_iff.mp later
    exact ⟨tidy, first, by simp [second]⟩
  have orderly := account_sound first
  have left := count_left first accepted
  have more {x : κ} (member : x ∈ tidy.names) : x ∈ held.names := by
    rw [← List.count_pos_iff] at member ⊢
    have counted := left x
    omega
  have failing {x : κ} (member : x ∈ held.names) (absent : x ∉ tidy.names) :
      .destroy x false ∈ before := by
    refine destroy_mem_of_leaves ?_
    rw [← List.count_pos_iff, left, List.count_eq_zero.mpr absent, Nat.zero_add] at member
    exact member
  have given_up {r : κ} (undone : act.undone = some r)
      (allowed : watch Use.next tidy [.release r] ≠ none)
      (refused : watch Use.next held [.release r] = none) :
      ∃ r k, Around needs (before ++ act :: rest) r k := by
    obtain ⟨k, here, gone, needed⟩ :=
      release_blocked orderly sound (fun _ member => more member) allowed refused
    exact ⟨r, k, before, act, rest, held, rfl, undone, accepted, here, needed, failing here gone⟩
  cases act with
  | make r =>
    simp only [Act.settle, Act.uses, watch_cons, watch_nil, Option.bind_fun_some, Use.next, ne_eq,
      ite_eq_right_iff, reduceCtorEq, imp_false, not_not] at goesOn stuck
    obtain ⟨fresh, known⟩ := goesOn
    refine absurd ⟨fun member => ?_, fun k needed => more (known k needed)⟩ stuck
    -- what was left was made before, and is not made again
    have made_before : r ∈ made before :=
      undone_made first (List.mem_filterMap.mpr ⟨_, failing member fresh, rfl⟩)
    rw [made, List.filterMap_append, List.filterMap_cons] at distinct
    exact (List.nodup_append.mp distinct).2.2 r made_before r List.mem_cons_self rfl
  | free r => exact given_up rfl goesOn stuck
  | destroy r succeeds =>
    cases succeeds with
    | true => exact given_up rfl goesOn stuck
    | false => contradiction

/-- Calls that are in order when none fails undo what they make, if whatever may be left needs
something that is freed for certain. -/
theorem undoes_of_settled
    (clean : watch Use.next [] (account needs (settled acts)) = some [])
    (distinct : (made acts).Nodup)
    (inside : ∀ r, acts.any (Act.risks r) = true →
      ∃ k ∈ needs r, acts.any (Act.risks k) = false) : Undoes needs acts := by
  refine ⟨⟨?_, distinct⟩, ?_, refused_of_left clean inside, ?_⟩
  · refine List.perm_iff_count.mpr fun r => ?_
    rw [count_undone needs, watch_released clean r, creates_settled, ← count_made]
  · intro fine
    rw [← settled_eq fine]
    exact clean
  · intro failed
    have refused := refused_of_left clean inside failed
    obtain ⟨before, act, rest, held, rfl, accepted, stuck⟩ := account_first refused
    exact around_of_stuck clean distinct accepted stuck

end SpaceCaptain.Library
