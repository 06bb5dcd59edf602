import SpaceCaptain.Library.Word

/-!
# Overflow checks without the compiler

`portability.h` replaces the overflow built-ins of the compiler by three functions for `size_t`
where there are none. Each guards its operation by a comparison that itself must not wrap. This
module owns the three functions over words of any width, the same functions with every operation
checked, and their agreement with exact arithmetic and with the built-ins.

A function returns its flag and the value behind `result`.
-/
namespace SpaceCaptain.Portability

open SpaceCaptain.Library.Word

variable {w : Nat}

/-- `sc_mul_overflow_size_t`. -/
def mulOverflowSizeT (a b result : BitVec w) : Bool × BitVec w :=
  if a ≠ 0 ∧ b > sizeMax w / a then (true, result) else (false, a * b)

/-- `sc_add_overflow_size_t`. -/
def addOverflowSizeT (a b result : BitVec w) : Bool × BitVec w :=
  if b > sizeMax w - a then (true, result) else (false, a + b)

/-- `sc_sub_overflow_size_t`. -/
def subOverflowSizeT (a b result : BitVec w) : Bool × BitVec w :=
  if b > a then (true, result) else (false, a - b)

/-- The test of `sc_mul_overflow_size_t` with its division checked; a factor of zero is not divided
by. -/
def mulRefuses (a b : BitVec w) : Option Bool :=
  if a = 0 then some false else (divExact (sizeMax w) a).map fun most => decide (b > most)

/-- `sc_mul_overflow_size_t` with every operation checked. -/
def mulOverflowChecked (a b result : BitVec w) : Option (Bool × BitVec w) := do
  let refused ← mulRefuses a b
  if refused then some (true, result) else (mulExact a b).map fun product => (false, product)

/-- `sc_add_overflow_size_t` with every operation checked. -/
def addOverflowChecked (a b result : BitVec w) : Option (Bool × BitVec w) := do
  let most ← subExact (sizeMax w) a
  if b > most then some (true, result) else (addExact a b).map fun sum => (false, sum)

/-- `sc_sub_overflow_size_t` with every operation checked. -/
def subOverflowChecked (a b result : BitVec w) : Option (Bool × BitVec w) :=
  if b > a then some (true, result)
  else (subExact a b).map fun difference => (false, difference)

/-- The built-ins compute the operation with unbounded numbers, return whether the outcome is out
of range, and store it cut to a word. -/
def builtinMulOverflow (a b : BitVec w) : Bool × BitVec w := (a.umulOverflow b, a * b)

/-- `__builtin_add_overflow`. -/
def builtinAddOverflow (a b : BitVec w) : Bool × BitVec w := (a.uaddOverflow b, a + b)

/-- `__builtin_sub_overflow`. -/
def builtinSubOverflow (a b : BitVec w) : Bool × BitVec w := (a.usubOverflow b, a - b)

/-- An outcome is exact for an operation: its flag says whether the unbounded outcome is out of
range; if it is not, that is what was stored; if it is, the result is left as it was. No operation
on the way wrapped or divided by zero, and the built-in gives the same flag and, when it is not
raised, the same value. -/
structure Exact (outcome : Bool × BitVec w) (checked : Option (Bool × BitVec w))
    (builtin : Bool × BitVec w) (result : BitVec w) (outOfRange : Prop) (exact : Nat) : Prop where
  /-- The flag is raised exactly when the unbounded outcome is out of range. -/
  flag : outcome.1 = true ↔ outOfRange
  /-- What is stored is the unbounded outcome. -/
  stored : outcome.1 = false → outcome.2.toNat = exact
  /-- On overflow nothing is stored. -/
  kept : outcome.1 = true → outcome.2 = result
  /-- With every operation checked the outcome is the same. -/
  faultless : checked = some outcome
  /-- The built-in raises the same flag. -/
  agrees : outcome.1 = builtin.1
  /-- The built-in stores the same value. -/
  same : outcome.1 = false → outcome.2 = builtin.2

/-- A function that refuses just the operands whose unbounded outcome is out of range, and applies
the operation to the others, is exact. -/
theorem Exact.of_guard {outcome builtin : Bool × BitVec w} {checked : Option (Bool × BitVec w)}
    {result value : BitVec w} {outOfRange : Prop} [Decidable outOfRange] {exact : Nat}
    (guarded : outcome = if outOfRange then (true, result) else (false, value))
    (fits : ¬outOfRange → value.toNat = exact) (faultless : checked = some outcome)
    (same : builtin = (decide outOfRange, value)) :
    Exact outcome checked builtin result outOfRange exact := by
  subst guarded same
  by_cases refused : outOfRange
  · simp only [refused, if_true] at faultless ⊢
    exact ⟨by simp, nofun, fun _ => rfl, faultless, by simp, nofun⟩
  · simp only [refused, if_false] at faultless ⊢
    exact ⟨by simp, fun _ => fits refused, nofun, faultless, by simp, fun _ => rfl⟩

/-- The guard of the multiplication refuses just the factors whose product is no word. -/
theorem mul_guard (a b : BitVec w) :
    (a ≠ 0 ∧ b > sizeMax w / a) ↔ 2 ^ w - 1 < a.toNat * b.toNat := by
  rw [above_max_iff]
  by_cases zero : a = 0
  · subst zero
    simp
  · rw [← max_div_lt_iff zero]
    exact and_iff_right zero

/-- The guard of the addition refuses just the summands whose sum is no word. -/
theorem add_guard (a b : BitVec w) : b > sizeMax w - a ↔ 2 ^ w - 1 < a.toNat + b.toNat := by
  rw [above_max_iff]
  exact max_sub_lt_iff a b

/-- The test never divides by zero, and decides whether the product is no word. -/
theorem mulRefuses_eq (a b : BitVec w) :
    mulRefuses a b = some (decide (2 ^ w - 1 < a.toNat * b.toNat)) := by
  have guard := mul_guard a b
  by_cases zero : a = 0
  · simp [mulRefuses, zero]
  · rw [mulRefuses, if_neg zero, divExact, if_neg zero, Option.map_some]
    exact congrArg some (decide_eq_decide.mpr ((and_iff_right zero).symm.trans guard))

/-- The multiplication is exact. -/
theorem mul_exact (a b result : BitVec w) :
    Exact (mulOverflowSizeT a b result) (mulOverflowChecked a b result) (builtinMulOverflow a b)
      result (2 ^ w - 1 < a.toNat * b.toNat) (a.toNat * b.toNat) := by
  have guarded : mulOverflowSizeT a b result =
      if 2 ^ w - 1 < a.toNat * b.toNat then (true, result) else (false, a * b) := by
    simp only [mulOverflowSizeT, mul_guard]
  have fits (inside : ¬2 ^ w - 1 < a.toNat * b.toNat) : a.toNat * b.toNat < 2 ^ w := by
    rw [above_max_iff] at inside
    omega
  refine .of_guard guarded (fun inside => mul_toNat (fits inside)) ?_ ?_
  · rw [mulOverflowChecked, mulRefuses_eq, guarded]
    by_cases outside : 2 ^ w - 1 < a.toNat * b.toNat
    · simp [outside]
    · simp [outside, mulExact, fits outside]
  · simp only [builtinMulOverflow, BitVec.umulOverflow, ge_iff_le, above_max_iff]

/-- The addition is exact. -/
theorem add_exact (a b result : BitVec w) :
    Exact (addOverflowSizeT a b result) (addOverflowChecked a b result) (builtinAddOverflow a b)
      result (2 ^ w - 1 < a.toNat + b.toNat) (a.toNat + b.toNat) := by
  have guarded : addOverflowSizeT a b result =
      if 2 ^ w - 1 < a.toNat + b.toNat then (true, result) else (false, a + b) := by
    simp only [addOverflowSizeT, add_guard]
  have fits (inside : ¬2 ^ w - 1 < a.toNat + b.toNat) : a.toNat + b.toNat < 2 ^ w := by
    rw [above_max_iff] at inside
    omega
  refine .of_guard guarded (fun inside => add_toNat (fits inside)) ?_ ?_
  · have room : subExact (sizeMax w) a = some (sizeMax w - a) := by
      have bounded := a.isLt
      have covered : a.toNat ≤ (sizeMax w).toNat := by
        rw [sizeMax_toNat]
        omega
      rw [subExact, if_pos covered]
    rw [addOverflowChecked, room, guarded]
    by_cases outside : 2 ^ w - 1 < a.toNat + b.toNat
    · have refused := (add_guard a b).mpr outside
      simp [outside, refused]
    · have accepted := mt (add_guard a b).mp outside
      simp [outside, accepted, addExact, fits outside]
  · simp only [builtinAddOverflow, BitVec.uaddOverflow, ge_iff_le, above_max_iff]

/-- The subtraction is exact. -/
theorem sub_exact (a b result : BitVec w) :
    Exact (subOverflowSizeT a b result) (subOverflowChecked a b result) (builtinSubOverflow a b)
      result (a.toNat < b.toNat) (a.toNat - b.toNat) := by
  have guarded : subOverflowSizeT a b result =
      if a.toNat < b.toNat then (true, result) else (false, a - b) := rfl
  have covered (inside : ¬a.toNat < b.toNat) : b.toNat ≤ a.toNat := Nat.le_of_not_lt inside
  refine .of_guard guarded (fun inside => sub_toNat (covered inside)) ?_ rfl
  rw [guarded]
  by_cases outside : a.toNat < b.toNat
  · have refused : b > a := outside
    simp [subOverflowChecked, outside, refused]
  · have accepted : ¬b > a := outside
    simp [subOverflowChecked, outside, accepted, subExact, covered outside]

/-- At every width the three functions are exact for the product, the sum and the difference of
all operands. -/
theorem overflow_checks_exact (a b result : BitVec w) :
    Exact (mulOverflowSizeT a b result) (mulOverflowChecked a b result) (builtinMulOverflow a b)
        result (2 ^ w - 1 < a.toNat * b.toNat) (a.toNat * b.toNat) ∧
      Exact (addOverflowSizeT a b result) (addOverflowChecked a b result) (builtinAddOverflow a b)
        result (2 ^ w - 1 < a.toNat + b.toNat) (a.toNat + b.toNat) ∧
      Exact (subOverflowSizeT a b result) (subOverflowChecked a b result) (builtinSubOverflow a b)
        result (a.toNat < b.toNat) (a.toNat - b.toNat) :=
  ⟨mul_exact a b result, add_exact a b result, sub_exact a b result⟩

example : mulOverflowSizeT 85#8 3#8 7#8 = (false, 255#8) := by decide

example : mulOverflowSizeT 86#8 3#8 7#8 = (true, 7#8) := by decide

end SpaceCaptain.Portability
