import PowerCapping.Thunderbolt.Invariant

/-!
# Sustained overload drives both cgroups to the floor

An iteration that reads its budget and measures a power above 96% of it sets
the hysteresis flag, so its throttle phase applies the hard or the soft
multiplier: the cgroup it throttles falls at least by a quarter, down to
`THROTTLE_MIN`.  User is throttled first; once it is at the floor, critical
is.  From the start, 17 such iterations bring user to 1% (`100 * (3/4)^17 < 1`)
and 17 more bring critical there.
-/

namespace PowerCapping

namespace Thunderbolt

/-- An iteration that reads its budget and measures a power above 96% of
it. -/
def Tick.Overloaded (tick : Tick) : Prop :=
  ∃ budget actualPower, tick.budget = some budget ∧ tick.power = some actualPower ∧
    budget * lowThreshold < actualPower

/-- A bandwidth within `max THROTTLE_MIN y`, scaled by a factor in `[0, 1]`,
is within `max THROTTLE_MIN` of `y` scaled. -/
theorem max_throttleMin_mul_le {x y factor : ℚ} (atMost : x ≤ max throttleMin y)
    (nonneg : 0 ≤ factor) (atMostOne : factor ≤ 1) :
    max throttleMin (x * factor) ≤ max throttleMin (y * factor) := by
  apply max_le (le_max_left _ _)
  rcases le_max_iff.mp atMost with belowMin | belowY
  · -- a bandwidth at the floor stays at the floor when scaled down
    calc x * factor ≤ throttleMin * factor := mul_le_mul_of_nonneg_right belowMin nonneg
      _ ≤ throttleMin := by unfold throttleMin; linarith
      _ ≤ max throttleMin (y * factor) := le_max_left _ _
  · exact (mul_le_mul_of_nonneg_right belowY nonneg).trans (le_max_right _ _)

theorem decrease_le_soft {hard soft : Bool} (either : hard = true ∨ soft = true)
    {bandwidth : ℚ} (nonneg : 0 ≤ bandwidth) :
    decrease hard soft bandwidth ≤ max throttleMin (bandwidth * softMultiplier) := by
  unfold decrease
  apply max_le_max le_rfl
  split_ifs with isHard isSoft
  · unfold hardMultiplier softMultiplier
    linarith
  · exact le_rfl
  · simp_all

/-- Above 96% with the flag set, the hard or the soft multiplier applies. -/
theorem hard_or_soft {state : State} (active : state.throttlingActiveState = true)
    {actualPower : ℚ} (above : state.targetPower * lowThreshold < actualPower) :
    decide (state.targetPower * highThreshold < actualPower) = true ∨
      (decide (state.targetPower * lowThreshold < actualPower) &&
        !decide (state.targetPower * highThreshold < actualPower) &&
        state.throttlingActiveState) = true := by
  by_cases hard : state.targetPower * highThreshold < actualPower
  · exact .inl (decide_eq_true hard)
  · exact .inr (by simp [above, hard, active])

section Phase

variable {state : State} (invariant : state.Throttled)
  (active : state.throttlingActiveState = true) {actualPower : ℚ}
  (above : state.targetPower * lowThreshold < actualPower)
include invariant active above

/-- The throttle phase lowers user at least by a quarter, down to the
floor. -/
theorem throttlePhase_user_le (time : ℚ) :
    (throttlePhase state actualPower time).1.currentBandwidthUser ≤
      max throttleMin (state.currentBandwidthUser * softMultiplier) := by
  have nonneg : 0 ≤ state.currentBandwidthUser :=
    le_trans (by norm_num [throttleMin]) invariant.low_first
  unfold throttlePhase
  dsimp only
  split_ifs with userAbove
  · exact decrease_le_soft (hard_or_soft active above) nonneg
  -- user is already at the floor and is not touched
  all_goals
    exact le_trans (not_lt.mp userAbove) (le_max_left _ _)

/-- With user at the floor, the throttle phase keeps it there and lowers
critical at least by a quarter, down to the floor. -/
theorem throttlePhase_critical_le (atFloor : state.currentBandwidthUser = throttleMin)
    (time : ℚ) :
    (throttlePhase state actualPower time).1.currentBandwidthUser = throttleMin ∧
      (throttlePhase state actualPower time).1.currentBandwidthCritical ≤
        max throttleMin (state.currentBandwidthCritical * softMultiplier) := by
  have nonneg : 0 ≤ state.currentBandwidthCritical :=
    le_trans (by norm_num [throttleMin]) invariant.low_second
  unfold throttlePhase
  dsimp only
  rw [if_neg (by rw [atFloor]; exact lt_irrefl _)]
  split_ifs with criticalAbove
  · exact ⟨atFloor, decrease_le_soft (hard_or_soft active above) nonneg⟩
  · exact ⟨atFloor, le_trans (not_lt.mp criticalAbove) (le_max_left _ _)⟩

end Phase

/-- An overloaded iteration runs the throttle phase from the state with the
new budget and the flag set. -/
theorem runPowerCappingStep_overloaded {state : State} {tick : Tick}
    (overloaded : tick.Overloaded) :
    ∃ actualPower budget, budget * lowThreshold < actualPower ∧
      (runPowerCappingStep state tick).1 =
        (throttlePhase { state with targetPower := budget, throttlingActiveState := true }
          actualPower tick.loopStart).1 := by
  obtain ⟨budget, actualPower, read, measured, above⟩ := overloaded
  refine ⟨actualPower, budget, above, ?_⟩
  rcases tick with ⟨_, _, loopStart, now, draw⟩
  cases read
  cases measured
  simp only [runPowerCappingStep, activeState, if_pos above]

section Step

variable {state : State} (invariant : state.Throttled) {tick : Tick}
  (overloaded : tick.Overloaded)
include invariant overloaded

theorem runPowerCappingStep_user_le :
    (runPowerCappingStep state tick).1.currentBandwidthUser ≤
      max throttleMin (state.currentBandwidthUser * softMultiplier) := by
  obtain ⟨actualPower, budget, above, stepped⟩ :=
    runPowerCappingStep_overloaded overloaded
  rw [stepped]
  exact throttlePhase_user_le (by exact invariant) (by rfl) (by exact above) _

theorem runPowerCappingStep_critical_le (atFloor : state.currentBandwidthUser = throttleMin) :
    (runPowerCappingStep state tick).1.currentBandwidthUser = throttleMin ∧
      (runPowerCappingStep state tick).1.currentBandwidthCritical ≤
        max throttleMin (state.currentBandwidthCritical * softMultiplier) := by
  obtain ⟨actualPower, budget, above, stepped⟩ :=
    runPowerCappingStep_overloaded overloaded
  rw [stepped]
  exact throttlePhase_critical_le (by exact invariant) (by rfl) (by exact above)
    (by exact atFloor) _

end Step

theorem runOut_throttled {state : State} (invariant : state.Throttled) (ticks : List Tick) :
    (Run.runOut runPowerCappingStep state ticks).1.Throttled :=
  Run.runOut_invariant runPowerCappingStep (fun state _ => state.Throttled) invariant
    (fun _ _ tick kept => runPowerCappingStep_throttled tick kept) ticks

theorem softMultiplier_pow_le_one (n : ℕ) : softMultiplier ^ n ≤ 1 :=
  pow_le_one₀ (by norm_num [softMultiplier]) (by norm_num [softMultiplier])

/-- Over overloaded iterations, user falls geometrically to the floor. -/
theorem runOut_user_le {state : State} (invariant : state.Throttled) {ticks : List Tick}
    (overloaded : ∀ tick ∈ ticks, tick.Overloaded) :
    (Run.runOut runPowerCappingStep state ticks).1.currentBandwidthUser ≤
      max throttleMin (state.currentBandwidthUser * softMultiplier ^ ticks.length) := by
  induction ticks generalizing state with
  | nil => simp [Run.runOut]
  | cons tick rest ih =>
      have stepped := runPowerCappingStep_user_le invariant (overloaded tick List.mem_cons_self)
      have later := ih (runPowerCappingStep_throttled tick invariant)
        fun other member => overloaded other (List.mem_cons_of_mem _ member)
      calc (Run.runOut runPowerCappingStep state (tick :: rest)).1.currentBandwidthUser
          = (Run.runOut runPowerCappingStep (runPowerCappingStep state tick).1
              rest).1.currentBandwidthUser := rfl
        _ ≤ max throttleMin ((runPowerCappingStep state tick).1.currentBandwidthUser *
              softMultiplier ^ rest.length) := later
        _ ≤ max throttleMin (state.currentBandwidthUser * softMultiplier *
              softMultiplier ^ rest.length) :=
          max_throttleMin_mul_le stepped (by norm_num [softMultiplier])
            (softMultiplier_pow_le_one _)
        _ = max throttleMin (state.currentBandwidthUser *
              softMultiplier ^ (tick :: rest).length) := by
          rw [List.length_cons, pow_succ', mul_assoc]

/-- Once user is at the floor, overloaded iterations keep it there and bring
critical down geometrically. -/
theorem runOut_critical_le {state : State} (invariant : state.Throttled)
    (atFloor : state.currentBandwidthUser = throttleMin) {ticks : List Tick}
    (overloaded : ∀ tick ∈ ticks, tick.Overloaded) :
    (Run.runOut runPowerCappingStep state ticks).1.currentBandwidthUser = throttleMin ∧
      (Run.runOut runPowerCappingStep state ticks).1.currentBandwidthCritical ≤
        max throttleMin (state.currentBandwidthCritical * softMultiplier ^ ticks.length) := by
  induction ticks generalizing state with
  | nil => simp [Run.runOut, atFloor]
  | cons tick rest ih =>
      obtain ⟨stillFloor, stepped⟩ :=
        runPowerCappingStep_critical_le invariant (overloaded tick List.mem_cons_self) atFloor
      obtain ⟨laterFloor, later⟩ := ih (runPowerCappingStep_throttled tick invariant) stillFloor
        fun other member => overloaded other (List.mem_cons_of_mem _ member)
      refine ⟨laterFloor, ?_⟩
      calc (Run.runOut runPowerCappingStep state (tick :: rest)).1.currentBandwidthCritical
          = (Run.runOut runPowerCappingStep (runPowerCappingStep state tick).1
              rest).1.currentBandwidthCritical := rfl
        _ ≤ max throttleMin ((runPowerCappingStep state tick).1.currentBandwidthCritical *
              softMultiplier ^ rest.length) := later
        _ ≤ max throttleMin (state.currentBandwidthCritical * softMultiplier *
              softMultiplier ^ rest.length) :=
          max_throttleMin_mul_le stepped (by norm_num [softMultiplier])
            (softMultiplier_pow_le_one _)
        _ = max throttleMin (state.currentBandwidthCritical *
              softMultiplier ^ (tick :: rest).length) := by
          rw [List.length_cons, pow_succ', mul_assoc]

/-- A bandwidth of at most 100, after 17 or more quarter-reductions clamped at
the floor, is at the floor. -/
theorem max_throttleMin_pow_eq {bandwidth : ℚ} (atMost : bandwidth ≤ throttleMax)
    {n : ℕ} (many : 17 ≤ n) :
    max throttleMin (bandwidth * softMultiplier ^ n) = throttleMin := by
  apply max_eq_left
  have shrunk : softMultiplier ^ n ≤ softMultiplier ^ 17 :=
    pow_le_pow_of_le_one (by norm_num [softMultiplier]) (by norm_num [softMultiplier]) many
  calc bandwidth * softMultiplier ^ n ≤ throttleMax * softMultiplier ^ 17 :=
        mul_le_mul atMost shrunk (pow_nonneg (by norm_num [softMultiplier]) _)
          (by norm_num [throttleMax])
    _ ≤ throttleMin := by norm_num [throttleMax, softMultiplier, throttleMin]

/-- Under sustained overload, from the start, both cgroups are at 1% after 34
iterations: 17 bring user to the floor and 17 more bring critical there. -/
theorem overload_reaches_floor {ticks : List Tick}
    (overloaded : ∀ tick ∈ ticks, tick.Overloaded) (long : 34 ≤ ticks.length) :
    (runPowerCappingLoop ticks).1.currentBandwidthUser = throttleMin ∧
      (runPowerCappingLoop ticks).1.currentBandwidthCritical = throttleMin := by
  have firstOverloaded : ∀ tick ∈ ticks.take 17, tick.Overloaded :=
    fun tick member => overloaded tick (List.mem_of_mem_take member)
  have restOverloaded : ∀ tick ∈ ticks.drop 17, tick.Overloaded :=
    fun tick member => overloaded tick (List.mem_of_mem_drop member)
  -- after the first 17 iterations user is at the floor
  have middle := runOut_throttled initialState_throttled (ticks.take 17)
  have userFloor : (Run.runOut runPowerCappingStep initialState
      (ticks.take 17)).1.currentBandwidthUser = throttleMin := by
    refine le_antisymm ?_ middle.low_first
    calc _ ≤ max throttleMin (initialState.currentBandwidthUser *
          softMultiplier ^ (ticks.take 17).length) :=
        runOut_user_le initialState_throttled firstOverloaded
      _ = throttleMin := max_throttleMin_pow_eq le_rfl (by simp; omega)
  -- the other iterations bring critical there
  obtain ⟨finalFloor, criticalLe⟩ := runOut_critical_le middle userFloor restOverloaded
  have final := runOut_throttled middle (ticks.drop 17)
  have whole : (runPowerCappingLoop ticks).1 = (Run.runOut runPowerCappingStep
      (Run.runOut runPowerCappingStep initialState (ticks.take 17)).1 (ticks.drop 17)).1 := by
    show (Run.runOut runPowerCappingStep initialState ticks).1 = _
    conv_lhs => rw [← List.take_append_drop 17 ticks]
    rw [Run.runOut_append]
  rw [whole]
  refine ⟨finalFloor, le_antisymm ?_ final.low_second⟩
  calc _ ≤ _ := criticalLe
    _ = throttleMin := max_throttleMin_pow_eq middle.second_high (by simp; omega)

/-- Thirty-four samples of 200 W under a budget of 100 W. -/
theorem overload_reaches_floor_twiceBudget :
    let ticks := List.replicate 34 (⟨some 100, some 200, 0, 0, 1⟩ : Tick)
    (∀ tick ∈ ticks, tick.Overloaded) ∧ 34 ≤ ticks.length ∧
      (runPowerCappingLoop ticks).1.currentBandwidthUser = throttleMin ∧
      (runPowerCappingLoop ticks).1.currentBandwidthCritical = throttleMin := by
  intro ticks
  have overloaded : ∀ tick ∈ ticks, tick.Overloaded := by
    intro tick member
    rw [List.eq_of_mem_replicate member]
    exact ⟨100, 200, rfl, rfl, by norm_num [lowThreshold]⟩
  have long : 34 ≤ ticks.length := by
    simp [ticks]
  exact ⟨overloaded, long, overload_reaches_floor overloaded long⟩

end Thunderbolt

end PowerCapping
