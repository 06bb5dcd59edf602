import Mathlib.Data.List.Nodup
import SpaceCaptain.Library.Monitor

/-!
# Resources that use one another

A program creates resources, lets one of them use another, and releases them. `Use.next` says
which uses are in order: a resource is created while it does not exist, uses only what exists, and
is released once, when no existing resource uses it any more. `watch Use.next` runs this monitor
over a record. A record that it accepts releases what it created once each, up to what is left
(`watch_balance`), stays accepted when other resources exist beside it (`watch_frame`), and depends
neither on the names (`watch_rename`) nor on the order of the existing resources (`watch_perm`).
-/
namespace SpaceCaptain.Library

variable {κ : Type*}

/-- What a program does with a resource. -/
inductive Use (κ : Type*) where
  /-- The resource comes into being, and uses some others. -/
  | create (r : κ) (needs : List κ)
  /-- The resource uses another one from now on. -/
  | refer (r target : κ)
  /-- The resource ceases to be. -/
  | release (r : κ)
  deriving DecidableEq, Repr

/-- The existing resources, each with those it uses. -/
abbrev Held (κ : Type*) := List (κ × List κ)

namespace Held

/-- The names of the existing resources. -/
def names (held : Held κ) : List κ := held.map Prod.fst

variable [DecidableEq κ]

/-- No other resource uses this one. -/
def unused (held : Held κ) (r : κ) : Bool := held.all fun h => h.1 = r || r ∉ h.2

/-- A resource uses one more. -/
def link (held : Held κ) (r target : κ) : Held κ :=
  held.map fun h => if h.1 = r then (h.1, target :: h.2) else h

/-- A resource is gone. -/
def drop (held : Held κ) (r : κ) : Held κ := held.filter fun h => h.1 ≠ r

end Held

namespace Use

/-- The use creates a resource. -/
def creates [DecidableEq κ] (r : κ) : Use κ → Bool
  | .create r' _ => r' = r
  | .refer _ _ | .release _ => false

/-- The use releases a resource. -/
def releases [DecidableEq κ] (r : κ) : Use κ → Bool
  | .release r' => r' = r
  | .create _ _ | .refer _ _ => false

/-- The resource whose existence or whose uses are changed. -/
def subject : Use κ → κ
  | .create r _ | .refer r _ | .release r => r

/-- The existing resources after a use; `none` when it is out of order. -/
def next [DecidableEq κ] (held : Held κ) : Use κ → Option (Held κ)
  | .create r needs =>
    if r ∉ held.names ∧ ∀ k ∈ needs, k ∈ held.names then some ((r, needs) :: held) else none
  | .refer r target =>
    if r ∈ held.names ∧ target ∈ held.names then some (held.link r target) else none
  | .release r =>
    if r ∈ held.names ∧ held.unused r = true then some (held.drop r) else none

end Use

variable [DecidableEq κ]

/-- A link leaves the names. -/
@[simp] theorem Held.names_link (held : Held κ) (r target : κ) :
    (held.link r target).names = held.names := by
  simp only [Held.names, Held.link, List.map_map]
  refine List.map_congr_left fun h _ => ?_
  simp only [Function.comp_apply]
  split <;> rfl

/-- A release takes the name out. -/
@[simp] theorem Held.names_drop (held : Held κ) (r : κ) :
    (held.drop r).names = held.names.filter (· ≠ r) := by
  simp only [Held.names, Held.drop, List.filter_map]
  rfl

/-- One use changes the count of each name by what it creates and releases, and keeps the names
apart. -/
theorem Use.next_balance {held held' : Held κ} {use : Use κ} (unique : held.names.Nodup)
    (accepted : use.next held = some held') (r : κ) :
    (use.creates r).toNat + held.names.count r = (use.releases r).toNat + held'.names.count r ∧
      held'.names.Nodup := by
  cases use with
  | create r' needs =>
    simp only [Use.next, Option.ite_none_right_eq_some, Option.some.injEq] at accepted
    obtain ⟨⟨fresh, -⟩, rfl⟩ := accepted
    refine ⟨?_, List.nodup_cons.mpr ⟨fresh, unique⟩⟩
    change _ = _ + (r' :: held.names).count r
    by_cases same : r' = r <;> simp [creates, releases, same, Nat.add_comm]
  | refer r' target =>
    simp only [Use.next, Option.ite_none_right_eq_some, Option.some.injEq] at accepted
    obtain ⟨-, rfl⟩ := accepted
    simpa [creates, releases] using unique
  | release r' =>
    simp only [Use.next, Option.ite_none_right_eq_some, Option.some.injEq] at accepted
    obtain ⟨⟨present, -⟩, rfl⟩ := accepted
    rw [Held.names_drop]
    refine ⟨?_, unique.filter _⟩
    by_cases same : r' = r
    · subst same
      have once := List.count_eq_one_of_mem unique present
      have gone : (held.names.filter (· ≠ r')).count r' = 0 := by
        rw [List.count_eq_zero, List.mem_filter]
        simp
      rw [once, gone]
      simp [creates, releases]
    · have kept : (held.names.filter (· ≠ r')).count r = held.names.count r :=
        List.count_filter (by simpa using Ne.symm same)
      rw [kept]
      simp [creates, releases, same]

/-- In an accepted record each resource is created as often as it is released, up to whether it
exists before and after. -/
theorem watch_balance {held held' : Held κ} {uses : List (Use κ)} (unique : held.names.Nodup)
    (accepted : watch Use.next held uses = some held') (r : κ) :
    uses.countP (Use.creates r) + held.names.count r =
        uses.countP (Use.releases r) + held'.names.count r ∧
      held'.names.Nodup := by
  induction uses generalizing held with
  | nil =>
    obtain rfl := Option.some.inj accepted
    exact ⟨by simp, unique⟩
  | cons use rest ih =>
    obtain ⟨middle, first, later⟩ := Option.bind_eq_some_iff.mp accepted
    obtain ⟨here, kept⟩ := Use.next_balance unique first r
    obtain ⟨there, apart⟩ := ih kept later
    refine ⟨?_, apart⟩
    rw [List.countP_cons, List.countP_cons]
    cases created : use.creates r <;> cases released : use.releases r <;>
      simp only [created, released, Bool.toNat_true, Bool.toNat_false, Bool.false_eq_true,
        if_true, if_false] at here ⊢ <;> omega

/-- When nothing existed before, what is left of a resource is what was created and not released. -/
theorem watch_left {held : Held κ} {uses : List (Use κ)}
    (accepted : watch Use.next [] uses = some held) (r : κ) :
    uses.countP (Use.creates r) = uses.countP (Use.releases r) + held.names.count r := by
  have empty : (Held.names ([] : Held κ)).Nodup := List.nodup_nil
  exact (watch_balance empty accepted r).1

/-- When nothing existed before and nothing is left, each resource was released as often as it was
created. -/
theorem watch_released {uses : List (Use κ)}
    (accepted : watch Use.next [] uses = some []) (r : κ) :
    uses.countP (Use.releases r) = uses.countP (Use.creates r) :=
  (watch_left accepted r).symm

/-- Resources that a use leaves alone, and that do not use what it releases. -/
def Apart (frame : Held κ) (use : Use κ) : Prop :=
  use.subject ∉ frame.names ∧ (use.releases use.subject = true → ∀ h ∈ frame, use.subject ∉ h.2)

/-- Linking a resource leaves those of other names. -/
theorem Held.link_absent {frame : Held κ} {r : κ} (absent : r ∉ frame.names) (target : κ) :
    frame.link r target = frame := by
  have same : ∀ h ∈ frame, (if h.1 = r then (h.1, target :: h.2) else h) = id h := by
    intro h member
    refine if_neg fun named => absent ?_
    rw [← named]
    exact List.mem_map_of_mem member
  rw [Held.link, List.map_congr_left same, List.map_id]

/-- Releasing a resource leaves those of other names. -/
theorem Held.drop_absent {frame : Held κ} {r : κ} (absent : r ∉ frame.names) :
    frame.drop r = frame := by
  refine List.filter_eq_self.mpr fun h member => ?_
  refine decide_eq_true fun named => absent ?_
  rw [← named]
  exact List.mem_map_of_mem member

/-- A use in order stays in order beside resources that it leaves alone. -/
theorem Use.next_frame {held held' frame : Held κ} {use : Use κ} (apart : Apart frame use)
    (accepted : use.next held = some held') :
    use.next (held ++ frame) = some (held' ++ frame) := by
  obtain ⟨absent, unneeded⟩ := apart
  have names : (held ++ frame).names = held.names ++ frame.names := List.map_append
  cases use with
  | create r needs =>
    simp only [Use.next, Option.ite_none_right_eq_some, Option.some.injEq] at accepted ⊢
    obtain ⟨⟨fresh, known⟩, rfl⟩ := accepted
    rw [names]
    refine ⟨⟨?_, fun k member => List.mem_append_left _ (known k member)⟩, rfl⟩
    exact List.not_mem_append fresh absent
  | refer r target =>
    simp only [Use.next, Option.ite_none_right_eq_some, Option.some.injEq] at accepted ⊢
    obtain ⟨⟨present, known⟩, rfl⟩ := accepted
    rw [names]
    refine ⟨⟨List.mem_append_left _ present, List.mem_append_left _ known⟩, ?_⟩
    exact List.map_append.trans (congrArg _ (Held.link_absent absent target))
  | release r =>
    simp only [Use.next, Option.ite_none_right_eq_some, Option.some.injEq] at accepted ⊢
    obtain ⟨⟨present, free⟩, rfl⟩ := accepted
    rw [names]
    refine ⟨⟨List.mem_append_left _ present, ?_⟩, ?_⟩
    · rw [Held.unused, List.all_append, Bool.and_eq_true]
      refine ⟨free, List.all_eq_true.mpr fun h member => ?_⟩
      have unneeded_here : r ∉ h.2 := unneeded (by simp [Use.releases, Use.subject]) h member
      simp [unneeded_here]
    · exact (List.filter_append ..).trans (congrArg _ (Held.drop_absent absent))

/-- An accepted record stays accepted beside resources that it leaves alone. -/
theorem watch_frame {held held' frame : Held κ} {uses : List (Use κ)}
    (apart : ∀ use ∈ uses, Apart frame use) (accepted : watch Use.next held uses = some held') :
    watch Use.next (held ++ frame) uses = some (held' ++ frame) := by
  induction uses generalizing held with
  | nil =>
    obtain rfl := Option.some.inj accepted
    rfl
  | cons use rest ih =>
    obtain ⟨middle, first, later⟩ := Option.bind_eq_some_iff.mp accepted
    have here := Use.next_frame (apart use List.mem_cons_self) first
    have there := ih (fun u member => apart u (List.mem_cons_of_mem use member)) later
    rw [watch_cons, here]
    exact there

/-- The same use under other names. -/
def Use.rename {κ' : Type*} (f : κ → κ') : Use κ → Use κ'
  | .create r needs => .create (f r) (needs.map f)
  | .refer r target => .refer (f r) (f target)
  | .release r => .release (f r)

/-- The same resources under other names. -/
def Held.rename {κ' : Type*} (f : κ → κ') (held : Held κ) : Held κ' :=
  held.map fun h => (f h.1, h.2.map f)

section Rename

variable {κ' : Type*} [DecidableEq κ'] {f : κ → κ'}

omit [DecidableEq κ] [DecidableEq κ'] in
/-- The names are renamed. -/
@[simp] theorem Held.names_rename (held : Held κ) : (held.rename f).names = held.names.map f := by
  simp [Held.names, Held.rename]

/-- A use in order stays in order under other names. -/
theorem Use.next_rename (injective : Function.Injective f) {held held' : Held κ} {use : Use κ}
    (accepted : use.next held = some held') :
    (use.rename f).next (held.rename f) = some (held'.rename f) := by
  have named (k : κ) (l : List κ) : f k ∈ l.map f ↔ k ∈ l := List.mem_map_of_injective injective
  cases use with
  | create r needs =>
    simp only [Use.next, Option.ite_none_right_eq_some, Option.some.injEq] at accepted
    obtain ⟨⟨fresh, known⟩, rfl⟩ := accepted
    have known' : ∀ k ∈ needs.map f, k ∈ (held.rename f).names := by
      rw [Held.names_rename]
      exact List.map_subset f known
    exact if_pos ⟨by simpa [named] using fresh, known'⟩
  | refer r target =>
    simp only [Use.next, Option.ite_none_right_eq_some, Option.some.injEq] at accepted
    obtain ⟨⟨present, known⟩, rfl⟩ := accepted
    have linked : (held.rename f).link (f r) (f target) = (held.link r target).rename f := by
      simp only [Held.link, Held.rename, List.map_map]
      refine List.map_congr_left fun h _ => ?_
      by_cases same : h.1 = r <;> simp [same, injective.eq_iff]
    rw [← linked]
    exact if_pos ⟨by simpa [named] using present, by simpa [named] using known⟩
  | release r =>
    simp only [Use.next, Option.ite_none_right_eq_some, Option.some.injEq] at accepted
    obtain ⟨⟨present, free⟩, rfl⟩ := accepted
    have dropped : (held.rename f).drop (f r) = (held.drop r).rename f := by
      simp [Held.drop, Held.rename, List.filter_map, Function.comp_def, injective.eq_iff]
    have free' : (held.rename f).unused (f r) = true := by
      simpa [Held.unused, Held.rename, List.all_map, Function.comp_def, named,
        injective.eq_iff] using free
    rw [← dropped]
    exact if_pos ⟨by simpa [named] using present, free'⟩

/-- An accepted record stays accepted under other names. -/
theorem watch_rename (injective : Function.Injective f) {held held' : Held κ}
    {uses : List (Use κ)} (accepted : watch Use.next held uses = some held') :
    watch Use.next (held.rename f) (uses.map (Use.rename f)) = some (held'.rename f) := by
  induction uses generalizing held with
  | nil =>
    obtain rfl := Option.some.inj accepted
    rfl
  | cons use rest ih =>
    obtain ⟨middle, first, later⟩ := Option.bind_eq_some_iff.mp accepted
    rw [List.map_cons, watch_cons, Use.next_rename injective first]
    exact ih later

end Rename

/-- A use does not depend on the order of the existing resources. -/
theorem Use.next_perm {held₁ held₂ held₁' : Held κ} {use : Use κ} (perm : held₁.Perm held₂)
    (accepted : use.next held₁ = some held₁') :
    ∃ held₂', use.next held₂ = some held₂' ∧ held₁'.Perm held₂' := by
  have names (k : κ) : k ∈ held₁.names ↔ k ∈ held₂.names := (perm.map Prod.fst).mem_iff
  cases use with
  | create r needs =>
    simp only [Use.next, names, Option.ite_none_right_eq_some, Option.some.injEq] at accepted ⊢
    obtain ⟨allowed, rfl⟩ := accepted
    exact ⟨_, ⟨allowed, rfl⟩, perm.cons _⟩
  | refer r target =>
    simp only [Use.next, names, Option.ite_none_right_eq_some, Option.some.injEq] at accepted ⊢
    obtain ⟨allowed, rfl⟩ := accepted
    exact ⟨_, ⟨allowed, rfl⟩, perm.map _⟩
  | release r =>
    have unused : held₁.unused r = held₂.unused r := perm.all_eq
    simp only [Use.next, names, unused, Option.ite_none_right_eq_some,
      Option.some.injEq] at accepted ⊢
    obtain ⟨allowed, rfl⟩ := accepted
    exact ⟨_, ⟨allowed, rfl⟩, perm.filter _⟩

/-- A record does not depend on the order of the existing resources. -/
theorem watch_perm {held₁ held₂ held₁' : Held κ} {uses : List (Use κ)} (perm : held₁.Perm held₂)
    (accepted : watch Use.next held₁ uses = some held₁') :
    ∃ held₂', watch Use.next held₂ uses = some held₂' ∧ held₁'.Perm held₂' := by
  induction uses generalizing held₁ held₂ with
  | nil =>
    obtain rfl := Option.some.inj accepted
    exact ⟨held₂, rfl, perm⟩
  | cons use rest ih =>
    obtain ⟨middle, first, later⟩ := Option.bind_eq_some_iff.mp accepted
    obtain ⟨middle', first', same⟩ := Use.next_perm perm first
    obtain ⟨held₂', later', same'⟩ := ih same later
    refine ⟨held₂', ?_, same'⟩
    rw [watch_cons, first']
    exact later'

/-- A resource that another one uses cannot be released. -/
theorem Use.next_busy {held : Held κ} {r : κ} {h : κ × List κ} (member : h ∈ held)
    (other : h.1 ≠ r) (used : r ∈ h.2) : Use.next held (.release r) = none := by
  have busy : held.unused r = false := by
    rw [Held.unused, List.all_eq_false]
    exact ⟨h, member, by simp [other, used]⟩
  simp [Use.next, busy]

/-- Every resource uses existing ones only. -/
def Held.Closed (held : Held κ) : Prop := ∀ h ∈ held, ∀ k ∈ h.2, k ∈ held.names

/-- The resource that was created last can be released. -/
theorem Use.next_undo {held : Held κ} (closed : held.Closed) {r : κ} (fresh : r ∉ held.names)
    (needs : List κ) : Use.next ((r, needs) :: held) (.release r) = some held := by
  have unused : Held.unused ((r, needs) :: held) r = true := by
    refine List.all_eq_true.mpr fun h member => ?_
    rcases List.mem_cons.mp member with rfl | old
    · simp
    · have absent : r ∉ h.2 := fun used => fresh (closed h old r used)
      simp [absent]
  have present : r ∈ Held.names ((r, needs) :: held) := List.mem_cons_self
  have rest : Held.drop ((r, needs) :: held) r = held := by
    rw [Held.drop, List.filter_cons_of_neg (by simp)]
    exact Held.drop_absent fresh
  rw [Use.next, if_pos ⟨present, unused⟩, rest]

end SpaceCaptain.Library
