import PowerCapping.Thunderbolt.Loop
import Mathlib.Data.List.Chain

/-!
# What every Thunderbolt run keeps

Both bandwidths stay in `[THROTTLE_MIN, THROTTLE_MAX]`, and critical is below
the maximum only while user is at the minimum: the throttle phase lowers user
first and critical only from user's floor, the recovery phase raises critical
first and user only once critical is back at the maximum.  Each iteration is
one move of the abstract priority controller (`Priority.Move`) or none, so the
loop refines that controller and keeps its invariant.

The randomized waits separate recovery increments from each other:
`next_unthrottle_time` is written only by an increment, so each increment
waits for the time drawn at the previous increment.  The throttle phase draws
no wait, and the first increment only waits for the initial `0.0`.
-/

namespace PowerCapping

namespace Thunderbolt

open Pip (Group)

/-- The priority invariant on the two bandwidths. -/
def State.Throttled (state : State) : Prop :=
  Priority.Invariant throttleMin throttleMax state.currentBandwidthUser
    state.currentBandwidthCritical

theorem initialState_throttled : initialState.Throttled :=
  Priority.Invariant.top (by norm_num [throttleMin, throttleMax])

theorem throttleMin_le_decrease (hard soft : Bool) (bandwidth : ℚ) :
    throttleMin ≤ decrease hard soft bandwidth :=
  le_max_left _ _

theorem decrease_le (hard soft : Bool) {bandwidth : ℚ} (atLeast : throttleMin ≤ bandwidth) :
    decrease hard soft bandwidth ≤ bandwidth := by
  have positive : 0 ≤ bandwidth := le_trans (by norm_num [throttleMin]) atLeast
  unfold decrease
  apply max_le atLeast
  split_ifs
  · unfold hardMultiplier
    linarith
  · unfold softMultiplier
    linarith
  · exact le_rfl

/-- The two bandwidths, as the pair the abstract controller moves. -/
def State.throttles (state : State) : ℚ × ℚ :=
  (state.currentBandwidthUser, state.currentBandwidthCritical)

/-- The throttle phase is one lowering move, or none. -/
theorem throttlePhase_moves {state : State} (actualPower time : ℚ)
    (invariant : state.Throttled) :
    Priority.Moves throttleMin throttleMax state.throttles
      (throttlePhase state actualPower time).1.throttles := by
  unfold throttlePhase
  dsimp only
  split_ifs with userAbove criticalAbove
  · exact .single (.lowerFirst (throttleMin_le_decrease _ _ _) (decrease_le _ _ userAbove.le))
  · -- user is at its floor, so critical may be lowered
    have atFloor : state.currentBandwidthUser = throttleMin :=
      le_antisymm (not_lt.mp userAbove) invariant.low_first
    exact .single (.lowerSecond atFloor (throttleMin_le_decrease _ _ _)
      (decrease_le _ _ criticalAbove.le))
  · exact .refl

/-- The recovery phase is one raising move, or none. -/
theorem recoveryPhase_moves {state : State} (now draw : ℚ)
    (invariant : state.Throttled) :
    Priority.Moves throttleMin throttleMax state.throttles
      (recoveryPhase state now draw).1.throttles := by
  unfold recoveryPhase
  split_ifs with due criticalBelow userBelow
  · have raised : state.currentBandwidthCritical ≤
        state.currentBandwidthCritical + unthrottleStep := by
      norm_num [unthrottleStep]
    exact .single (.raiseSecond (invariant.first_eq_low criticalBelow)
      (le_min invariant.second_high raised) (min_le_left _ _))
  · -- critical is back at the maximum, so user may be raised
    have full : state.currentBandwidthCritical = throttleMax :=
      le_antisymm invariant.second_high (not_lt.mp criticalBelow)
    have raised : state.currentBandwidthUser ≤
        state.currentBandwidthUser + unthrottleStep := by
      norm_num [unthrottleStep]
    exact .single (.raiseFirst full (le_min invariant.first_high raised) (min_le_left _ _))
  · exact .refl
  · exact .refl

/-- A state with the same bandwidths moves as the original does. -/
theorem moves_of_throttles_eq {state other : State} {after : ℚ × ℚ}
    (same : other.throttles = state.throttles)
    (moves : Priority.Moves throttleMin throttleMax other.throttles after) :
    Priority.Moves throttleMin throttleMax state.throttles after :=
  same ▸ moves

/-- Each iteration of the loop is a run of the abstract controller. -/
theorem runPowerCappingStep_moves {state : State} (tick : Tick)
    (invariant : state.Throttled) :
    Priority.Moves throttleMin throttleMax state.throttles
      (runPowerCappingStep state tick).1.throttles := by
  -- the budget and the hysteresis flag are not part of the pair
  rcases tick with ⟨_ | budget, _ | actualPower, loopStart, now, draw⟩ <;>
    simp only [runPowerCappingStep]
  · exact .refl
  · split_ifs
    · exact moves_of_throttles_eq (by rfl) (throttlePhase_moves _ _ (by exact invariant))
    · exact moves_of_throttles_eq (by rfl) (recoveryPhase_moves _ _ (by exact invariant))
  · exact .refl
  · split_ifs
    · exact moves_of_throttles_eq (by rfl) (throttlePhase_moves _ _ (by exact invariant))
    · exact moves_of_throttles_eq (by rfl) (recoveryPhase_moves _ _ (by exact invariant))

theorem runPowerCappingStep_throttled {state : State} (tick : Tick)
    (invariant : state.Throttled) : (runPowerCappingStep state tick).1.Throttled :=
  Priority.Invariant.moves (by exact invariant) (runPowerCappingStep_moves tick invariant)

/-- Thunderbolt refines the abstract priority controller: every run moves the
two bandwidths from `(100, 100)` by the controller's moves only. -/
theorem runPowerCappingLoop_moves (ticks : List Tick) :
    Priority.Moves throttleMin throttleMax initialState.throttles
      (runPowerCappingLoop ticks).1.throttles := by
  -- the invariant is carried along, since each step's moves need it
  have run := Run.runOut_invariant runPowerCappingStep
    (fun state _ => state.Throttled ∧
      Priority.Moves throttleMin throttleMax initialState.throttles state.throttles)
    ⟨initialState_throttled, .refl⟩
    (fun _ _ tick ⟨invariant, moves⟩ =>
      ⟨runPowerCappingStep_throttled tick invariant,
        moves.trans (runPowerCappingStep_moves tick invariant)⟩) ticks
  exact run.2

/-- In every run, both bandwidths stay within `1..100`, and critical is below
100% only while user is at 1%. -/
theorem thunderbolt_throttle_invariant (ticks : List Tick) :
    let state := (runPowerCappingLoop ticks).1
    (1 ≤ state.currentBandwidthUser ∧ state.currentBandwidthUser ≤ 100) ∧
      (1 ≤ state.currentBandwidthCritical ∧ state.currentBandwidthCritical ≤ 100) ∧
      (state.currentBandwidthCritical < 100 → state.currentBandwidthUser = 1) := by
  intro state
  -- the abstract controller's runs keep the invariant, and the loop is one of them
  have invariant : state.Throttled :=
    Priority.Invariant.moves (by exact initialState_throttled) (runPowerCappingLoop_moves ticks)
  obtain ⟨userPos, userLe, criticalPos, criticalLe, floor⟩ := invariant
  exact ⟨⟨userPos, userLe⟩, ⟨criticalPos, criticalLe⟩, floor⟩

/-- The time and the drawn wait of a recovery increment. -/
def Event.recovery : Event → Option (ℚ × ℚ)
  | .increase _ time wait => some (time, wait)
  | _ => Option.none

/-- The recovery increments of a run, in order. -/
def recoveries (events : List Event) : List (ℚ × ℚ) :=
  events.filterMap Event.recovery

@[simp]
theorem recoveries_append (first second : List Event) :
    recoveries (first ++ second) = recoveries first ++ recoveries second :=
  List.filterMap_append

@[simp]
theorem recoveries_applyChanges (originalUser originalCritical : ℚ) (state : State) :
    recoveries (applyChanges originalUser originalCritical state) = [] := by
  unfold applyChanges
  split_ifs <;> rfl

theorem throttlePhase_recoveries (state : State) (actualPower time : ℚ) :
    recoveries (throttlePhase state actualPower time).2 = [] ∧
      (throttlePhase state actualPower time).1.nextUnthrottleTime =
        state.nextUnthrottleTime := by
  unfold throttlePhase decreaseEvents
  dsimp only
  split_ifs <;> exact ⟨rfl, rfl⟩

/-- A step either makes no recovery increment and keeps the timer, or makes
one at `now`, which has reached the timer, and sets the timer to `now` plus
the draw. -/
def RecoveryStep (before after : ℚ) (made : List (ℚ × ℚ)) (now draw : ℚ) : Prop :=
  (made = [] ∧ after = before) ∨
    (made = [(now, draw)] ∧ before ≤ now ∧ after = now + draw)

theorem recoveryPhase_recoveries (state : State) (now draw : ℚ) :
    RecoveryStep state.nextUnthrottleTime (recoveryPhase state now draw).1.nextUnthrottleTime
      (recoveries (recoveryPhase state now draw).2) now draw := by
  unfold recoveryPhase
  split_ifs with due
  · exact Or.inr ⟨rfl, due, rfl⟩
  · exact Or.inr ⟨rfl, due, rfl⟩
  · exact Or.inl ⟨rfl, rfl⟩
  · exact Or.inl ⟨rfl, rfl⟩

theorem runPowerCappingStep_recoveries (state : State) (tick : Tick) :
    RecoveryStep state.nextUnthrottleTime (runPowerCappingStep state tick).1.nextUnthrottleTime
      (recoveries (runPowerCappingStep state tick).2) tick.now tick.draw := by
  rcases tick with ⟨_ | budget, _ | actualPower, loopStart, now, draw⟩ <;>
    simp only [runPowerCappingStep, recoveries_append, recoveries_applyChanges,
      List.append_nil]
  · exact Or.inl ⟨rfl, rfl⟩
  · split_ifs
    · exact Or.inl (throttlePhase_recoveries _ _ _)
    · exact recoveryPhase_recoveries _ _ _
  · exact Or.inl ⟨rfl, rfl⟩
  · split_ifs
    · exact Or.inl (throttlePhase_recoveries _ _ _)
    · exact recoveryPhase_recoveries _ _ _

/-- The timer bookkeeping over a run: the recovery increments so far are
spaced by their waits, the first at or after `0`, and the timer holds the last
increment's time plus its wait (`0.0` before any). -/
structure State.Spaced (state : State) (events : List Event) : Prop where
  chain : (recoveries events).IsChain fun earlier later => earlier.1 + earlier.2 ≤ later.1
  first : ∀ first ∈ (recoveries events).head?, 0 ≤ first.1
  timer : state.nextUnthrottleTime =
    ((recoveries events).getLast?.map fun last => last.1 + last.2).getD 0

theorem State.Spaced.step {state : State} {events : List Event} (spaced : state.Spaced events)
    (tick : Tick) :
    (runPowerCappingStep state tick).1.Spaced (events ++ (runPowerCappingStep state tick).2) := by
  obtain ⟨chain, first, timer⟩ := spaced
  rcases runPowerCappingStep_recoveries state tick with
    ⟨none, kept⟩ | ⟨one, due, reset⟩
  · refine ⟨?_, ?_, ?_⟩ <;> simp only [recoveries_append, none, List.append_nil, kept]
    · exact chain
    · exact first
    · exact timer
  · -- the new increment is due: the timer holds the previous increment's time plus wait
    rw [timer] at due
    refine ⟨?_, ?_, ?_⟩ <;> simp only [recoveries_append, one]
    · refine chain.append (List.IsChain.singleton _) fun last lastMem next nextMem => ?_
      simp only [List.head?_cons, Option.mem_def, Option.some.injEq] at nextMem
      subst nextMem
      rw [Option.mem_def] at lastMem
      simpa [lastMem] using due
    · cases recovered : recoveries events with
      | nil =>
          simp only [recovered, List.getLast?_nil, Option.map_none, Option.getD_none] at due
          simpa using due
      | cons head rest => simpa [recovered] using first
    · simpa using reset

/-- Each recovery increment after the first happens no earlier than the
previous increment's time plus the wait drawn at it, and the first no earlier
than `0.0`. -/
theorem recovery_waits (ticks : List Tick) :
    let recovered := recoveries (runPowerCappingLoop ticks).2
    (∀ first ∈ recovered.head?, 0 ≤ first.1) ∧
      recovered.IsChain fun earlier later => earlier.1 + earlier.2 ≤ later.1 := by
  intro recovered
  have spaced := Run.runOut_invariant runPowerCappingStep State.Spaced
    (show initialState.Spaced [] from ⟨List.IsChain.nil, by simp [recoveries], rfl⟩)
    (fun _ _ tick spaced => spaced.step tick) ticks
  -- the two initial writes are not recovery increments
  have unchanged :
      recovered = recoveries (Run.runOut runPowerCappingStep initialState ticks).2 :=
    rfl
  rw [unchanged]
  exact ⟨spaced.first, spaced.chain⟩

/-- A hard throttle of user at time 5, then a sample under the budget at time
7: user is raised at once, since the throttle drew no wait and the timer
still holds its initial `0.0`. -/
theorem recovery_without_wait :
    let ticks : List Tick := [⟨some 100, some 200, 5, 5, 3⟩, ⟨some 100, some 50, 6, 7, 3⟩]
    (runPowerCappingLoop (ticks.take 1)).1.nextUnthrottleTime = 0 ∧
      (runPowerCappingLoop ticks).2 =
        [.setCpuMax .user 100, .setCpuMax .critical 100, .decrease .user 5,
          .setCpuMax .user 1, .increase .user 7 3, .setCpuMax .user 6] := by
  decide +kernel

end Thunderbolt

end PowerCapping
