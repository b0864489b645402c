import Mathlib.Algebra.Order.Group.Abs

/-!
# Writing a value back only when it moved

A controller that keeps a setting in memory and writes it to a device only
when one decision moved it by more than `ε` leaves the device behind by the
moves it skipped.  Small moves accumulate in general.  They do not when every
move is either larger than `ε` or ends on a resting value coming from outside
the resting values, and a value at rest moves only by large steps: the device
then holds the setting, or is within `ε` of a setting at rest.
-/

namespace PowerCapping

namespace Deadband

variable {α : Type*} [AddCommGroup α] [LinearOrder α]
  (ε : α) (rest : Set α)

/-- The device after a decision moved the setting from `before` to `after`. -/
def write (device before after : α) : α :=
  if ε < |after - before| then after else device

/-- What one decision may do to the setting: keep it, move it by more than
`ε`, or move it onto a resting value from outside the resting values. -/
def Move (before after : α) : Prop :=
  after = before ∨ ε < |after - before| ∨ (after ∈ rest ∧ before ∉ rest)

/-- The device holds the setting, or a value within `ε` of a setting at
rest. -/
def Tracks (device setting : α) : Prop :=
  device = setting ∨ (|device - setting| ≤ ε ∧ setting ∈ rest)

variable {ε rest}

theorem Move.refl (setting : α) : Move ε rest setting setting :=
  .inl rfl

theorem write_of_eq [IsOrderedAddMonoid α] (device setting : α) (nonneg : 0 ≤ ε) :
    write ε device setting setting = device := by
  simp [write, not_lt.mpr nonneg]

theorem Tracks.write {device before after : α} (tracks : Tracks ε rest device before)
    (move : Move ε rest before after) :
    Tracks ε rest (Deadband.write ε device before after) after := by
  unfold Deadband.write
  split_ifs with large
  · exact .inl rfl
  rcases move with same | moved | ⟨landed, left⟩
  · exact same ▸ tracks
  · exact absurd moved large
  · -- the setting was not at rest, so the device held it
    rcases tracks with held | ⟨-, resting⟩
    · refine .inr ⟨?_, landed⟩
      rw [held, abs_sub_comm]
      exact not_lt.mp large
    · exact absurd resting left

theorem Tracks.abs_sub_le [IsOrderedAddMonoid α] {device setting : α}
    (tracks : Tracks ε rest device setting) (nonneg : 0 ≤ ε) : |device - setting| ≤ ε := by
  rcases tracks with held | ⟨near, -⟩
  · rw [held, sub_self, abs_zero]
    exact nonneg
  · exact near

end Deadband

end PowerCapping
