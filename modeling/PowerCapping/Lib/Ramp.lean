import Mathlib.Order.Basic
import Mathlib.Data.List.Basic

/-!
# Capped ramps with resets

A controller that drops a setting to a fixed value on some inputs and raises
it by one, up to a cap, on the others is a ramp: after any run its setting is
the value of the last reset plus the number of inputs since, capped
(`run_after_reset`), or the start plus the number of inputs when there was no
reset (`run_ups`).  A ramp whose resets and start lie between a floor and the
cap stays between them (`apply_mem_Icc`).
-/

namespace PowerCapping

namespace Ramp

/-- One input of a ramp: a jump to a value, or a rise by one. -/
inductive Move
  | reset (value : ℕ)
  | up
  deriving DecidableEq, Repr

/-- The setting after one input, with rises capped at `top`. -/
def apply (top current : ℕ) : Move → ℕ
  | .reset value => value
  | .up => min (current + 1) top

/-- The setting after a run of inputs from `start`. -/
def run (top start : ℕ) (moves : List Move) : ℕ :=
  moves.foldl (apply top) start

variable {top : ℕ}

theorem run_append (start : ℕ) (first second : List Move) :
    run top start (first ++ second) = run top (run top start first) second :=
  List.foldl_append

/-- A run of rises from below the cap climbs one per input, up to the cap. -/
theorem run_ups {moves : List Move} (ups : ∀ move ∈ moves, move = .up) {start : ℕ}
    (atMost : start ≤ top) : run top start moves = min (start + moves.length) top := by
  induction moves generalizing start with
  | nil =>
      simp only [run, List.foldl_nil, List.length_nil, Nat.add_zero]
      omega
  | cons move rest ih =>
      have isUp : move = .up := ups move List.mem_cons_self
      have restUps : ∀ later ∈ rest, later = .up :=
        fun later member => ups later (List.mem_cons_of_mem move member)
      subst isUp
      -- one rise, then the rest of the rises from the capped value
      have stepped : run top start (.up :: rest) = run top (min (start + 1) top) rest := rfl
      rw [stepped, ih restUps (Nat.min_le_right _ _), List.length_cons]
      omega

/-- After the last reset the setting climbs from its value, one per input. -/
theorem run_after_reset (start : ℕ) (before : List Move) {value : ℕ} {after : List Move}
    (ups : ∀ move ∈ after, move = .up) (atMost : value ≤ top) :
    run top start (before ++ .reset value :: after) = min (value + after.length) top := by
  rw [run_append]
  exact run_ups ups atMost

/-- Resets between a floor and the cap keep the setting between them. -/
theorem apply_mem_Icc {floor current : ℕ} {move : Move} (inRange : floor ≤ current ∧ current ≤ top)
    (resetInRange : ∀ value, move = .reset value → floor ≤ value ∧ value ≤ top) :
    floor ≤ apply top current move ∧ apply top current move ≤ top := by
  cases move with
  | reset value => exact resetInRange value rfl
  | up =>
      simp only [apply]
      omega

end Ramp

end PowerCapping
