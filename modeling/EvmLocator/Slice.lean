/-!
# Slices with clamped bounds

A bound of a slice is an integer.  A bound below zero counts from the end of the sequence, and a
bound outside the sequence is moved to the nearest end; where the bounds cross, the slice is
empty.  `position` is that rule for one bound, and the three cuts are `take` and `drop` at
positions.

## Main results

* `position_le`: a bound never points past the end.
* `upTo_append_onward`: cutting at one bound loses nothing and repeats nothing.
* `between_of_nat`: between bounds that count from the beginning.
* `between_eq_nil_iff`: which bounds cross.
-/

namespace EvmLocator.Slice

variable {α : Type}

/-- The position among `n` items that the bound `i` stands for. -/
def position (n : Nat) (i : Int) : Nat :=
  if i < 0 then (i + n).toNat else min i.toNat n

/-- The items before the bound `b`. -/
def upTo (xs : List α) (b : Int) : List α :=
  xs.take (position xs.length b)

/-- The items from the bound `a` on. -/
def onward (xs : List α) (a : Int) : List α :=
  xs.drop (position xs.length a)

/-- The items from the bound `a` to the bound `b`. -/
def between (xs : List α) (a b : Int) : List α :=
  (xs.take (position xs.length b)).drop (position xs.length a)

theorem position_le (n : Nat) (i : Int) : position n i ≤ n := by
  unfold position
  split <;> omega

theorem position_of_nonneg {n : Nat} {i : Int} (h : 0 ≤ i) : position n i = min i.toNat n := by
  simp [position, Int.not_lt.mpr h]

theorem upTo_append_onward (xs : List α) (i : Int) : upTo xs i ++ onward xs i = xs := by
  simp [upTo, onward]

theorem between_of_nat (xs : List α) (a b : Nat) : between xs a b = (xs.take b).drop a := by
  rw [between, position_of_nonneg (by omega), position_of_nonneg (by omega), Int.toNat_natCast,
    Int.toNat_natCast, ← List.take_eq_take_min]
  rcases Nat.le_total a xs.length with h | h
  · rw [Nat.min_eq_left h]
  · have hshort : (xs.take b).length ≤ xs.length := List.length_take_le' b xs
    rw [Nat.min_eq_right h, List.drop_eq_nil_of_le hshort,
      List.drop_eq_nil_of_le (Nat.le_trans hshort h)]

theorem between_eq_nil_iff (xs : List α) (a b : Int) :
    between xs a b = [] ↔ position xs.length b ≤ position xs.length a := by
  have hb := position_le xs.length b
  rw [between, List.drop_eq_nil_iff, List.length_take, Nat.min_eq_left hb]

end EvmLocator.Slice
