import EvmLocator.Json.Integer

/-!
# Scalars that count as integers

Scalars serve as keys, and where one of them is an integer the comparison is that of numbers,
however the integer is spelled.  The comparison is no equivalence on all scalars, since a number
with a fraction has more than one representation and a NaN equals nothing; but a scalar of any kind
counts as one integer at most, which is all that a table with integers for keys needs.

## Main results

* `eq_of_same_int`: a key counts as one integer at most.
* `same_toScalar`: the spelling of an integer plays no role.
-/

namespace EvmLocator

theorem Binary64.eq_of_equalsInt {x : Binary64} {m n : Int} (hm : x.equalsInt m = true)
    (hn : x.equalsInt n = true) : m = n := by
  cases x with
  | finite negative significand exponent =>
      simp only [equalsInt] at hm hn
      split at hm
      · next hneg =>
          rw [if_pos hneg, beq_iff_eq] at hn
          rw [beq_iff_eq] at hm
          have hpow : (powerOfTwo (-exponent).toNat : Int) ≠ 0 := by
            have := Nat.two_pow_pos (-exponent).toNat
            unfold powerOfTwo
            show ((2 ^ (-exponent).toNat : Nat) : Int) ≠ 0
            omega
          exact Int.eq_of_mul_eq_mul_right hpow (hm.symm.trans hn)
      · next hneg =>
          rw [if_neg hneg, beq_iff_eq] at hn
          rw [beq_iff_eq] at hm
          exact hm.symm.trans hn
  | infinite negative => cases hm
  | nan => cases hm

/-- A key counts as one integer at most. -/
theorem Scalar.eq_of_same_int {key : Scalar} {m n : Int} (hm : key.same (.int m) = true)
    (hn : key.same (.int n) = true) : m = n := by
  cases key with
  | null => cases hm
  | bool b =>
      simp only [same, integer?, beq_iff_eq] at hm hn
      exact hm.symm.trans hn
  | int k =>
      simp only [same, integer?, beq_iff_eq] at hm hn
      exact hm.symm.trans hn
  | real x => exact Binary64.eq_of_equalsInt hm hn
  | str s => cases hm

/-- An integer compares by its value. -/
theorem Scalar.same_toScalar (n : Integer) (id : Scalar) :
    n.toScalar.same id = id.same (.int n.value) := by
  have hvalue : n.toScalar.same id = (Scalar.int n.value).same id := by
    cases n <;> cases id <;> rfl
  rw [hvalue]
  cases id with
  | null => rfl
  | bool b => exact Bool.beq_comm
  | int k => exact Bool.beq_comm
  | real x => rfl
  | str s => rfl

/-- Integers are equal as keys if they are of one value. -/
theorem Scalar.same_toScalar_iff {m n : Integer} :
    m.toScalar.same n.toScalar = true ↔ m.value = n.value := by
  rw [same_toScalar, same_toScalar]
  exact beq_iff_eq

end EvmLocator
