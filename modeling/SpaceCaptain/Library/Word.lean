import Mathlib.Data.BitVec

/-!
# Machine words and exact arithmetic

Arithmetic on `w`-bit words wraps. Beside each operation stands one that gives a result only when
nothing is lost: the sum, difference or product of the numbers fits in a word, the divisor is not
zero. A computation written with these has an outcome exactly when no step of it wraps, and then
it is the outcome of the wrapping one. The width is arbitrary.
-/
namespace SpaceCaptain.Library.Word

variable {w : Nat}

/-- The largest word. -/
def sizeMax (w : Nat) : BitVec w := BitVec.allOnes w

/-- The sum, when it does not wrap. -/
def addExact (a b : BitVec w) : Option (BitVec w) :=
  if a.toNat + b.toNat < 2 ^ w then some (a + b) else none

/-- The difference, when it does not borrow. -/
def subExact (a b : BitVec w) : Option (BitVec w) :=
  if b.toNat ≤ a.toNat then some (a - b) else none

/-- The product, when it does not wrap. -/
def mulExact (a b : BitVec w) : Option (BitVec w) :=
  if a.toNat * b.toNat < 2 ^ w then some (a * b) else none

/-- The quotient, when the divisor is not zero. -/
def divExact (a b : BitVec w) : Option (BitVec w) := if b = 0 then none else some (a / b)

/-- The largest word is one less than the number of words. -/
@[simp] theorem sizeMax_toNat (w : Nat) : (sizeMax w).toNat = 2 ^ w - 1 := BitVec.toNat_allOnes

/-- A number is above the largest word exactly when it is no word. -/
theorem above_max_iff (w n : Nat) : 2 ^ w - 1 < n ↔ 2 ^ w ≤ n := by
  have positive : 0 < 2 ^ w := Nat.two_pow_pos w
  omega

/-- A sum that fits is the sum of the numbers. -/
theorem add_toNat {a b : BitVec w} (fits : a.toNat + b.toNat < 2 ^ w) :
    (a + b).toNat = a.toNat + b.toNat := by
  rw [BitVec.toNat_add, Nat.mod_eq_of_lt fits]

/-- A difference without a borrow is the difference of the numbers. -/
theorem sub_toNat {a b : BitVec w} (covered : b.toNat ≤ a.toNat) :
    (a - b).toNat = a.toNat - b.toNat :=
  BitVec.toNat_sub_of_le covered

/-- A product that fits is the product of the numbers. -/
theorem mul_toNat {a b : BitVec w} (fits : a.toNat * b.toNat < 2 ^ w) :
    (a * b).toNat = a.toNat * b.toNat := by
  rw [BitVec.toNat_mul, Nat.mod_eq_of_lt fits]

/-- A word other than zero is a positive number. -/
theorem toNat_pos {a : BitVec w} (nonzero : a ≠ 0) : 0 < a.toNat :=
  Nat.pos_of_ne_zero fun zero => nonzero (BitVec.eq_of_toNat_eq zero)

/-- A truncated quotient of the largest word bounds exactly the factors whose product fits. -/
theorem max_div_lt_iff {a b : BitVec w} (nonzero : a ≠ 0) :
    sizeMax w / a < b ↔ 2 ^ w ≤ a.toNat * b.toNat := by
  rw [BitVec.lt_def, BitVec.toNat_udiv, sizeMax_toNat, Nat.div_lt_iff_lt_mul (toNat_pos nonzero),
    above_max_iff, Nat.mul_comm]

/-- The room above a word bounds exactly the words whose sum with it fits. -/
theorem max_sub_lt_iff (a b : BitVec w) : sizeMax w - a < b ↔ 2 ^ w ≤ a.toNat + b.toNat := by
  have bounded := a.isLt
  have covered : a.toNat ≤ (sizeMax w).toNat := by
    rw [sizeMax_toNat]
    omega
  rw [BitVec.lt_def, sub_toNat covered, sizeMax_toNat]
  omega

/-- One is a word when there is a word above zero. -/
theorem one_toNat {n : Nat} (inside : n < 2 ^ w) (positive : 0 < n) : (1 : BitVec w).toNat = 1 := by
  have room : 1 < 2 ^ w := by omega
  exact Nat.mod_eq_of_lt room

/-- A word below another has its successor among the words. -/
theorem succ_toNat {a b : BitVec w} (below : a.toNat < b.toNat) : (a + 1).toNat = a.toNat + 1 := by
  have bounded := b.isLt
  have one := one_toNat bounded (by omega)
  rw [add_toNat (by omega), one]

/-- A word other than zero has its predecessor among the words. -/
theorem pred_toNat {a : BitVec w} (positive : 1 ≤ a.toNat) : (a - 1).toNat = a.toNat - 1 := by
  have one := one_toNat a.isLt positive
  rw [sub_toNat (by omega), one]

end SpaceCaptain.Library.Word
