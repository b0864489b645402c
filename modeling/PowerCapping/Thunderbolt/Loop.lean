import PowerCapping.Pip.Basic
import PowerCapping.Lib.Run
import PowerCapping.Lib.Priority

/-!
# The Thunderbolt baseline: RUMD throttling

`control/powercap_CPU_google-ALL-v1.2.py` is a reactive controller.  Above
96% of the budget it multiplies the user cgroup's bandwidth by 0.01 (above
98%) or 0.75, down to 1%, and then the critical cgroup's; at or below 96% it
raises critical and then user by 5% per step, each step allowed only once the
monotonic clock has passed the time drawn at the previous step.  Bandwidths
are floats in the source and rationals here.

One iteration reads the budget file, measures the power (`None` skips the
rest), updates the hysteresis flag, runs the throttle or the recovery phase,
and writes `cpu.max` for each cgroup whose bandwidth moved by more than 0.01.
The clock readings and the `random.uniform` draw of an iteration are its
inputs.  The step emits the bandwidth changes it makes, with their times, and
its `set_cpu_max` calls.
-/

namespace PowerCapping

namespace Thunderbolt

open Pip (Group)

-- The script's constants `HARD_MULTIPLIER` to `UNTHROTTLE_STEP`.
def hardMultiplier : ℚ := 1 / 100
def softMultiplier : ℚ := 3 / 4
def throttleMin : ℚ := 1
def throttleMax : ℚ := 100
def highThreshold : ℚ := 98 / 100
def lowThreshold : ℚ := 96 / 100
def unthrottleStep : ℚ := 5

/-- The module globals the loop updates. -/
structure State where
  currentBandwidthUser : ℚ
  currentBandwidthCritical : ℚ
  targetPower : ℚ
  throttlingActiveState : Bool
  nextUnthrottleTime : ℚ

/-- The globals when `run_power_capping_loop` starts. -/
def initialState : State where
  currentBandwidthUser := throttleMax
  currentBandwidthCritical := throttleMax
  targetPower := 100
  throttlingActiveState := false
  nextUnthrottleTime := 0

/-- What one iteration observes: the budget (`none` when reading or parsing
it raised), `calculate_cpu_power()`, the monotonic clock at the loop head and
in the recovery phase, and the `random.uniform(UNTHROTTLE_WAIT_MIN,
UNTHROTTLE_WAIT_MAX)` draw. -/
structure Tick where
  budget : Option ℚ
  power : Option ℚ
  loopStart : ℚ
  now : ℚ
  draw : ℚ

/-- What an iteration does to the cgroups: a throttle decrease (at the
iteration's loop-head time), a recovery increment (at the recovery phase's
clock reading, with the wait drawn for the next one), or a `set_cpu_max`
call. -/
inductive Event
  | decrease (group : Group) (time : ℚ)
  | increase (group : Group) (time wait : ℚ)
  | setCpuMax (group : Group) (percentLimit : ℚ)
  deriving DecidableEq

/-- The hysteresis flag after a measurement: set above 96% of the budget,
cleared at or below 90%. -/
def activeState (state : State) (actualPower : ℚ) : Bool :=
  if state.targetPower * lowThreshold < actualPower then true
  else if actualPower ≤ state.targetPower * (90 / 100) then false
  else state.throttlingActiveState

/-- A bandwidth after the multiplicative decrease, clamped at
`THROTTLE_MIN`. -/
def decrease (hard soft : Bool) (bandwidth : ℚ) : ℚ :=
  max throttleMin
    (if hard then bandwidth * hardMultiplier
    else if soft then bandwidth * softMultiplier else bandwidth)

/-- The decrease event of a group whose bandwidth went from `before` to
`after`, if it moved. -/
def decreaseEvents (group : Group) (time before after : ℚ) : List Event :=
  if after < before then [.decrease group time] else []

/-- The throttle phase: the user cgroup while it is above `THROTTLE_MIN`,
then the critical cgroup. -/
def throttlePhase (state : State) (actualPower time : ℚ) : State × List Event :=
  let hard := decide (state.targetPower * highThreshold < actualPower)
  let soft := decide (state.targetPower * lowThreshold < actualPower) && !hard &&
    state.throttlingActiveState
  if throttleMin < state.currentBandwidthUser then
    let lowered := decrease hard soft state.currentBandwidthUser
    ({ state with currentBandwidthUser := lowered },
      decreaseEvents .user time state.currentBandwidthUser lowered)
  else if throttleMin < state.currentBandwidthCritical then
    let lowered := decrease hard soft state.currentBandwidthCritical
    ({ state with currentBandwidthCritical := lowered },
      decreaseEvents .critical time state.currentBandwidthCritical lowered)
  else (state, [])

/-- The recovery phase: once the clock has reached `next_unthrottle_time`,
one `UNTHROTTLE_STEP` for critical, or for user once critical is at
`THROTTLE_MAX`, and a new wait. -/
def recoveryPhase (state : State) (now draw : ℚ) : State × List Event :=
  if state.nextUnthrottleTime ≤ now then
    if state.currentBandwidthCritical < throttleMax then
      ({ state with
          currentBandwidthCritical :=
            min throttleMax (state.currentBandwidthCritical + unthrottleStep),
          nextUnthrottleTime := now + draw },
        [.increase .critical now draw])
    else if state.currentBandwidthUser < throttleMax then
      ({ state with
          currentBandwidthUser := min throttleMax (state.currentBandwidthUser + unthrottleStep),
          nextUnthrottleTime := now + draw },
        [.increase .user now draw])
    else (state, [])
  else (state, [])

/-- Step 5 of the loop: `apply_user_throttle` and `apply_critical_throttle`
for the cgroups whose bandwidth moved by more than 0.01. -/
def applyChanges (originalUser originalCritical : ℚ) (state : State) : List Event :=
  (if 1 / 100 < |state.currentBandwidthUser - originalUser| then
      [.setCpuMax .user state.currentBandwidthUser]
    else []) ++
  (if 1 / 100 < |state.currentBandwidthCritical - originalCritical| then
      [.setCpuMax .critical state.currentBandwidthCritical]
    else [])

/-- One iteration of the `while True` loop of `run_power_capping_loop`. -/
def runPowerCappingStep (state : State) (tick : Tick) : State × List Event :=
  let state :=
    match tick.budget with
    | some budget => { state with targetPower := budget }
    | Option.none => state
  match tick.power with
  | Option.none => (state, [])
  | some actualPower =>
      let state := { state with throttlingActiveState := activeState state actualPower }
      let phase :=
        if state.targetPower * lowThreshold < actualPower then
          throttlePhase state actualPower tick.loopStart
        else recoveryPhase state tick.now tick.draw
      (phase.1, phase.2 ++
        applyChanges state.currentBandwidthUser state.currentBandwidthCritical phase.1)

/-- `run_power_capping_loop` over a sequence of iterations: both cgroups are
first set to their starting bandwidth. -/
def runPowerCappingLoop (ticks : List Tick) : State × List Event :=
  let run := Run.runOut runPowerCappingStep initialState ticks
  (run.1, [.setCpuMax .user throttleMax, .setCpuMax .critical throttleMax] ++ run.2)

end Thunderbolt

end PowerCapping
