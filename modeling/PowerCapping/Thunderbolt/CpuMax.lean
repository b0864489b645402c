import PowerCapping.Thunderbolt.Invariant
import PowerCapping.Lib.Deadband

/-!
# What the `cpu.max` files hold

Step 5 of the loop writes a cgroup's bandwidth to its `cpu.max` only when the
iteration moved it by more than 0.01, so the file can lag behind the
bandwidth.  It lags by at most 0.01, and only while the bandwidth sits at
`THROTTLE_MIN` or `THROTTLE_MAX`: a throttle multiplies a bandwidth of at least
1 by 0.01 or 0.75, and a recovery adds 5, so a move of at most 0.01 is a clamp
onto one of the bounds, and from a bound the next move is large.  These are the
hypotheses of `Deadband.Tracks.write`.

A file is the bandwidth of the group's last `set_cpu_max` event; the quota
arithmetic of `set_cpu_max` is not modelled.
-/

namespace PowerCapping

namespace Thunderbolt

open Pip (Group)

/-- A group's bandwidth in the loop's globals. -/
def State.bandwidth (state : State) : Group → ℚ
  | .user => state.currentBandwidthUser
  | .critical => state.currentBandwidthCritical

/-- The bandwidth a `set_cpu_max` event writes for a group. -/
def Event.written (group : Group) : Event → Option ℚ
  | .setCpuMax target percentLimit => if target = group then some percentLimit else none
  | _ => none

/-- What a group's `cpu.max` was last set to, `none` before any write. -/
def lastWritten (group : Group) (events : List Event) : Option ℚ :=
  (events.filterMap (Event.written group)).getLast?

/-- The bandwidths the throttle and recovery phases clamp to. -/
def bounds : Set ℚ :=
  {throttleMin, throttleMax}

theorem lastWritten_append (group : Group) (first second : List Event) :
    lastWritten group (first ++ second) =
      (lastWritten group second).or (lastWritten group first) := by
  simp only [lastWritten, List.filterMap_append, List.getLast?_append]

theorem lastWritten_throttlePhase (group : Group) (state : State) (actualPower time : ℚ) :
    lastWritten group (throttlePhase state actualPower time).2 = none := by
  unfold throttlePhase decreaseEvents
  dsimp only
  split_ifs <;> rfl

theorem lastWritten_recoveryPhase (group : Group) (state : State) (now draw : ℚ) :
    lastWritten group (recoveryPhase state now draw).2 = none := by
  unfold recoveryPhase
  split_ifs <;> rfl

/-- Step 5 writes a group exactly when its bandwidth moved by more than
0.01. -/
theorem lastWritten_applyChanges (group : Group) (before after : State) :
    lastWritten group
        (applyChanges before.currentBandwidthUser before.currentBandwidthCritical after) =
      if 1 / 100 < |after.bandwidth group - before.bandwidth group| then
        some (after.bandwidth group)
      else none := by
  unfold applyChanges
  cases group <;> simp only [State.bandwidth] <;> split_ifs <;>
    simp_all [lastWritten, Event.written]

/-- A phase that writes no `cpu.max` itself, followed by step 5, moves a
group's file as `Deadband.write` says. -/
theorem lastWritten_phase {group : Group} {emitted : List Event} {file : ℚ}
    (written : lastWritten group emitted = some file) (before : State)
    (phase : State × List Event) (quiet : lastWritten group phase.2 = none) :
    lastWritten group (emitted ++ (phase.2 ++
        applyChanges before.currentBandwidthUser before.currentBandwidthCritical phase.1)) =
      some (Deadband.write (1 / 100) file (before.bandwidth group) (phase.1.bandwidth group)) := by
  rw [lastWritten_append, lastWritten_append, quiet, lastWritten_applyChanges, written]
  unfold Deadband.write
  split_ifs <;> rfl

/-- Over one iteration, a group's file goes as `Deadband.write` says from the
bandwidth before to the bandwidth after. -/
theorem lastWritten_step {group : Group} {emitted : List Event} {file : ℚ}
    (written : lastWritten group emitted = some file) (state : State) (tick : Tick) :
    lastWritten group (emitted ++ (runPowerCappingStep state tick).2) =
      some (Deadband.write (1 / 100) file (state.bandwidth group)
        ((runPowerCappingStep state tick).1.bandwidth group)) := by
  rcases tick with ⟨_ | budget, _ | actualPower, loopStart, now, draw⟩ <;>
    simp only [runPowerCappingStep, List.append_nil]
  -- without a measurement nothing is written, and the budget moves no bandwidth
  case none.none | some.none =>
    rw [written]
    exact congrArg some (Deadband.write_of_eq file _ (by norm_num)).symm
  all_goals
    split_ifs
    · exact lastWritten_phase written _ _ (lastWritten_throttlePhase _ _ _ _)
    · exact lastWritten_phase written _ _ (lastWritten_recoveryPhase _ _ _ _)

theorem throttleMin_mem_bounds : throttleMin ∈ bounds :=
  Set.mem_insert _ _

theorem throttleMax_mem_bounds : throttleMax ∈ bounds :=
  Set.mem_insert_of_mem _ rfl

theorem not_mem_bounds {bandwidth : ℚ} (notMin : bandwidth ≠ throttleMin)
    (notMax : bandwidth ≠ throttleMax) : bandwidth ∉ bounds := by
  simp only [bounds, Set.mem_insert_iff, Set.mem_singleton_iff, not_or]
  exact ⟨notMin, notMax⟩

/-- Multiplying a bandwidth of at least `THROTTLE_MIN` by at most `3/4` and
clamping at `THROTTLE_MIN` is a move by more than 0.01 or a clamp onto the
minimum. -/
theorem clamp_move {bandwidth factor : ℚ} (atLeast : throttleMin ≤ bandwidth)
    (factorLe : factor ≤ 3 / 4) :
    Deadband.Move (1 / 100) bounds bandwidth (max throttleMin (bandwidth * factor)) := by
  have oneLe : (1 : ℚ) ≤ bandwidth := atLeast
  have scaledLe : bandwidth * factor ≤ bandwidth * (3 / 4) :=
    mul_le_mul_of_nonneg_left factorLe (by linarith)
  by_cases clamped : bandwidth * factor ≤ throttleMin
  · rw [max_eq_left clamped]
    by_cases atMin : bandwidth = throttleMin
    · exact .inl atMin.symm
    by_cases atMax : bandwidth = throttleMax
    · -- from the maximum the clamp is a drop of 99
      refine .inr (.inl ?_)
      rw [atMax]
      norm_num [throttleMin, throttleMax]
    · exact .inr (.inr ⟨throttleMin_mem_bounds, not_mem_bounds atMin atMax⟩)
  · -- unclamped, the bandwidth drops by at least a quarter of itself
    rw [max_eq_right (le_of_lt (not_le.mp clamped))]
    refine .inr (.inl ?_)
    rw [abs_sub_comm, abs_of_nonneg (by linarith)]
    linarith

theorem decrease_move (hard soft : Bool) {bandwidth : ℚ} (atLeast : throttleMin ≤ bandwidth) :
    Deadband.Move (1 / 100) bounds bandwidth (decrease hard soft bandwidth) := by
  unfold decrease
  split_ifs
  · exact clamp_move atLeast (by norm_num [hardMultiplier])
  · exact clamp_move atLeast (by norm_num [softMultiplier])
  · rw [max_eq_right atLeast]
    exact Deadband.Move.refl _

/-- A recovery increment is a move by 5 or a clamp onto `THROTTLE_MAX`. -/
theorem raise_move (bandwidth : ℚ) :
    Deadband.Move (1 / 100) bounds bandwidth (min throttleMax (bandwidth + unthrottleStep)) := by
  by_cases room : bandwidth + unthrottleStep ≤ throttleMax
  · rw [min_eq_right room]
    refine .inr (.inl ?_)
    norm_num [unthrottleStep]
  rw [min_eq_left (le_of_lt (not_le.mp room))]
  by_cases atMax : bandwidth = throttleMax
  · exact .inl atMax.symm
  -- a bandwidth within 5 of the maximum is not at the minimum
  have notMin : bandwidth ≠ throttleMin := by
    intro atMin
    rw [atMin] at room
    norm_num [throttleMin, throttleMax, unthrottleStep] at room
  exact .inr (.inr ⟨throttleMax_mem_bounds, not_mem_bounds notMin atMax⟩)

theorem recoveryPhase_move (state : State) (group : Group) (now draw : ℚ) :
    Deadband.Move (1 / 100) bounds (state.bandwidth group)
      ((recoveryPhase state now draw).1.bandwidth group) := by
  unfold recoveryPhase
  split_ifs
  · cases group
    · exact Deadband.Move.refl _
    · exact raise_move _
  · cases group
    · exact raise_move _
    · exact Deadband.Move.refl _
  · exact Deadband.Move.refl _
  · exact Deadband.Move.refl _

/-- A phase run from a state with the same bandwidths moves them as it moves
that state's. -/
theorem move_of_bandwidth_eq {group : Group} {before mid : State}
    (same : mid.bandwidth = before.bandwidth) {after : ℚ}
    (move : Deadband.Move (1 / 100) bounds (mid.bandwidth group) after) :
    Deadband.Move (1 / 100) bounds (before.bandwidth group) after :=
  same ▸ move

section Moves

variable {state : State} (invariant : state.Throttled) (group : Group)
include invariant

theorem throttlePhase_move (actualPower time : ℚ) :
    Deadband.Move (1 / 100) bounds (state.bandwidth group)
      ((throttlePhase state actualPower time).1.bandwidth group) := by
  unfold throttlePhase
  dsimp only
  split_ifs with userAbove criticalAbove
  · cases group
    · exact decrease_move _ _ invariant.low_first
    · exact Deadband.Move.refl _
  · cases group
    · exact Deadband.Move.refl _
    · exact decrease_move _ _ invariant.low_second
  · exact Deadband.Move.refl _

theorem runPowerCappingStep_move (tick : Tick) :
    Deadband.Move (1 / 100) bounds (state.bandwidth group)
      ((runPowerCappingStep state tick).1.bandwidth group) := by
  rcases tick with ⟨_ | budget, _ | actualPower, loopStart, now, draw⟩ <;>
    simp only [runPowerCappingStep]
  -- without a measurement no bandwidth moves
  case none.none | some.none => exact Deadband.Move.refl _
  -- the phases run from the state with the new budget and flag
  all_goals
    split_ifs
    · exact move_of_bandwidth_eq (by funext group; cases group <;> rfl)
        (throttlePhase_move (by exact invariant) group _ _)
    · exact move_of_bandwidth_eq (by funext group; cases group <;> rfl)
        (recoveryPhase_move _ group _ _)

end Moves

/-- The run invariant: the bandwidths keep the priority invariant, and each
group's `cpu.max` has been written and tracks its bandwidth. -/
structure State.Synced (state : State) (events : List Event) : Prop where
  throttled : state.Throttled
  tracks : ∀ group, ∃ file, lastWritten group events = some file ∧
    Deadband.Tracks (1 / 100) bounds file (state.bandwidth group)

theorem State.Synced.step {state : State} {events : List Event} (synced : state.Synced events)
    (tick : Tick) :
    (runPowerCappingStep state tick).1.Synced (events ++ (runPowerCappingStep state tick).2) where
  throttled := runPowerCappingStep_throttled tick synced.throttled
  tracks group := by
    obtain ⟨file, written, tracks⟩ := synced.tracks group
    exact ⟨_, lastWritten_step written state tick,
      tracks.write (runPowerCappingStep_move synced.throttled group tick)⟩

/-- After every run, each cgroup's `cpu.max` was last set to within 0.01 of its
bandwidth, and to another value than the bandwidth only while the bandwidth is
at `THROTTLE_MIN` or `THROTTLE_MAX`. -/
theorem cpuMax_tracks_bandwidth (ticks : List Tick) (group : Group) :
    let run := runPowerCappingLoop ticks
    ∃ file, lastWritten group run.2 = some file ∧ |file - run.1.bandwidth group| ≤ 1 / 100 ∧
      (file ≠ run.1.bandwidth group →
        run.1.bandwidth group = throttleMin ∨ run.1.bandwidth group = throttleMax) := by
  intro run
  -- the loop first sets both cgroups to their starting bandwidth
  have initial : initialState.Synced
      [.setCpuMax .user throttleMax, .setCpuMax .critical throttleMax] := by
    refine ⟨initialState_throttled, fun group => ?_⟩
    cases group
    · exact ⟨throttleMax, rfl, .inl rfl⟩
    · exact ⟨throttleMax, rfl, .inl rfl⟩
  have synced := Run.runOut_invariant runPowerCappingStep
    (fun state emitted =>
      state.Synced ([.setCpuMax .user throttleMax, .setCpuMax .critical throttleMax] ++ emitted))
    (by rw [List.append_nil]; exact initial)
    (fun state emitted tick kept => by
      rw [← List.append_assoc]
      exact kept.step tick) ticks
  obtain ⟨file, written, tracks⟩ := synced.tracks group
  refine ⟨file, written, tracks.abs_sub_le (by norm_num), fun differs => ?_⟩
  rcases tracks with held | ⟨-, resting⟩
  · exact absurd held differs
  · simp only [bounds, Set.mem_insert_iff, Set.mem_singleton_iff] at resting
    exact resting

end Thunderbolt

end PowerCapping
