import Mathlib.Algebra.Order.Group.Int
import Mathlib.Data.Int.Init

/-!
# Wrapping counters

A hardware counter of width `range` shows the count it has accumulated modulo
`range`, so between two readings taken while it advanced by less than `range`
the count it advanced by is the difference of the readings modulo `range`
(`advance`).  Readers that do not compute the modulus correct a counter that
went backwards by adding the range once (`unwrap`), which is the same for
readings below the range (`unwrap_eq_advance`).
-/

namespace PowerCapping

namespace Counter

variable (range : ℤ)

/-- What the counter shows after counting `total`. -/
def reading (total : ℤ) : ℤ :=
  total % range

/-- The count between two readings, modulo the range. -/
def advance (prev curr : ℤ) : ℤ :=
  (curr - prev) % range

/-- The difference of two readings, with the range added once when the
counter went backwards. -/
def unwrap (prev curr : ℤ) : ℤ :=
  if curr < prev then curr + range - prev else curr - prev

variable {range}

theorem advance_of_le {prev curr : ℤ} (positive : 0 ≤ prev) (forward : prev ≤ curr)
    (below : curr < range) : advance range prev curr = curr - prev :=
  Int.emod_eq_of_lt (by omega) (by omega)

theorem advance_of_lt {prev curr : ℤ} (backward : curr < prev) (currPos : 0 ≤ curr)
    (below : prev < range) : advance range prev curr = curr - prev + range := by
  unfold advance
  rw [← Int.add_mul_emod_self_right (curr - prev) 1 range, one_mul]
  exact Int.emod_eq_of_lt (by omega) (by omega)

/-- For readings below the range, the one-wrap correction is the advance. -/
theorem unwrap_eq_advance {prev curr : ℤ} (prevPos : 0 ≤ prev) (prevBelow : prev < range)
    (currPos : 0 ≤ curr) (currBelow : curr < range) :
    unwrap range prev curr = advance range prev curr := by
  unfold unwrap
  split_ifs with backward
  · rw [advance_of_lt backward currPos prevBelow]
    omega
  · rw [advance_of_le prevPos (not_lt.mp backward) currBelow]

end Counter

end PowerCapping
