import PowerCapping.Pip.Capping
import PowerCapping.Parse.CpuPower

/-!
# The control loop of `run_stress_test` and the restart in `__main__`

The controller starts in energy-only mode and switches to full mode once the
measured power reaches `target_power * (1 - ceiling)`.  A full-mode iteration
parses the perf, energy and cpupower samples, runs the online calibration when
the previous iteration used the model, and then throttles, recovers, or holds.
Parse failures inside the `try` block skip the iteration; an exception in the
calibration or in a control decision ends `run_stress_test`, and `__main__`
starts it again with the globals as they were left.
-/

namespace PowerCapping

namespace Pip

open Py Parse

-- The script's constants `ceiling` and `smoothing_cal`.
def ceiling : ℚ := 3 / 100
def smoothingCal : ℚ := 4 / 5

/-- The observations of one loop iteration: the budget file (`none` when
reading it raised), the results of `parse_power_consumption` and
`parse_perf_metrics` (an error is the message of their `(None, "Error: ...")`
pair), and the output of `cpupower monitor`. -/
structure Sample where
  budget : Option ℤ
  power : Except (List Char) ℚ
  perfMetrics : Except (List Char) (List ℚ)
  cpupower : List Char

/-- The calibration at the start of a full-mode step after a step that used
the model: the offset moves towards the last prediction error and the
per-metric sensitivities are updated from the recorded map. -/
def calibrate (env : Env) (metricsData : List Cell) : PipM Unit := do
  modify fun globals => { globals with
    calibrationOffset := smoothingCal * globals.calibrationOffset +
      (1 - smoothingCal) * (globals.actualPower - globals.prevPrediction) }
  let globals ← get
  updateAdjustment globals.predictiveFeatureMap metricsData env.directMetricsSize

/-- The dispatch on the measured power that ends a full-mode step: throttle
at or above `target_power * (1 - ceiling)`, recover below
`target_power * (1 - 2 * ceiling)`, hold in between. -/
def dispatch (env : Env) (metricsData : List Cell) : PipM Unit := do
  modify fun globals => { globals with usedMap := false }
  let globals ← get
  if globals.targetPower * (1 - ceiling) ≤ globals.actualPower then
    let (user, critical) ← strictPowerCapping env metricsData
    modify fun globals => { globals with
      currentBandwidth := user, currentBandwidth2 := critical, prev := 1,
      retry := globals.retry + 1, usedMap := true }
  else if globals.actualPower < globals.targetPower * (1 - ceiling * 2) then
    let (user, critical) ← increaseBandwidth env metricsData
      (globals.targetPower - globals.actualPower)
    modify fun globals => { globals with
      currentBandwidth := user, currentBandwidth2 := critical, prev := 0 }
  else
    modify fun globals => { globals with retry := 0, prev := 0, usedMap := false }

/-- The full-mode control step after parsing: the calibration when the
previous step used the model, then the dispatch. -/
def controlStep (env : Env) (metricsData : List Cell) : PipM Unit := do
  let globals ← get
  if globals.usedMap then calibrate env metricsData
  dispatch env metricsData

/-- One iteration of the `while True` loop of `run_stress_test`.  A failed
budget read, a failed energy parse (the print of the pair raises) and a
`float` error in `parse_cpu_data` end the iteration early. -/
def iteration (env : Env) (sample : Sample) : PipM Unit := do
  match sample.budget with
  | Option.none => pure ()
  | some budget =>
      modify fun globals => { globals with targetPower := budget }
      let globals ← get
      match sample.power with
      | .error _ => pure ()
      | .ok power =>
          modify fun globals => { globals with actualPower := power }
          if !globals.fullMode then
            if budget * (1 - ceiling) ≤ power then
              modify fun globals => { globals with fullMode := true }
          else
            match parseCpuData sample.cpupower (metricCells sample.perfMetrics) with
            | .error _ => pure ()
            | .ok metricsData =>
                if globals.predictiveFeatureMap = [] then
                  modify fun globals => { globals with predictiveFeatureMap := metricsData }
                controlStep env metricsData

/-- What `run_stress_test` resets before its loop; every other global keeps
its value. -/
def restart (globals : Globals) : Globals :=
  { globals with calibrationOffset := 0, currentBandwidth := 100 }

/-- An iteration of a run in which no control step raises. -/
def iterationOk (env : Env) (globals : Globals) (sample : Sample) : Option Globals :=
  match Py.exec (iteration env sample) globals with
  | (.ok (), after) => some after
  | (.error _, _) => Option.none

/-- One iteration of the whole process: an exception that ends
`run_stress_test` is followed by the restart in `__main__`. -/
def mainStep (env : Env) (globals : Globals) (sample : Sample) : Globals :=
  match Py.exec (iteration env sample) globals with
  | (.ok (), after) => after
  | (.error _, after) => restart after

/-- The process over a sequence of samples: iterations of `run_stress_test`,
restarted by `__main__` after every exception. -/
def mainLoop (env : Env) (globals : Globals) (samples : List Sample) : Globals :=
  samples.foldl (mainStep env) globals

/-- A search that accepts user 95% records its trial; the recovery baby step
to 96% in the next iteration leaves `used_map` set, but its simulation is only
bound to the locals of `predict_featuremap`.  The iteration after it would
calibrate against the prediction and map of the 95% trial. -/
theorem calibration_after_recovery_is_stale :
    (let table := "CPU|C0|Cx|Freq|POLL|C1|C2|C3\n0|0|0|0|0|0|0|0\n".toList ++
      "1|0|0|0|0|0|0|0\n2|0|0|0|0|0|0|0\n3|0|0|0|0|0|0|0".toList
    let env := fourCoreEnv fun map =>
      match floatAt map 1 with
      | .ok cx => 95 + cx
      | .error _ => 0
    let measured := List.replicate 28 (Cell.num 0)
    let after := mainLoop env (initialGlobals fun _ => Option.none)
      [⟨some 100, .ok 100, .ok [], table⟩, ⟨some 100, .ok 110, .ok [], table⟩,
        ⟨some 100, .ok 91, .ok [], table⟩]
    parseCpuData table [] = .ok measured ∧
      after.usedMap = true ∧ after.currentBandwidth = 96 ∧ after.currentBandwidth2 = 100 ∧
      (predictFeaturemapMap env after measured .user 96).map env.predict = .ok 99 ∧
      after.prevPrediction = 100 ∧
      predictFeaturemapMap env after measured .user 96 ≠ .ok after.predictiveFeatureMap) := by
  decide +kernel

/-- Eleven samples just over the budget lower the user cgroup to 1% and the
critical cgroup to 90% by baby steps; a sample 10 W over the budget with an
empty `cpupower` table then raises `IndexError` in the search, and the restart
believes the user cgroup is at 100% while its `cpu.max` still holds 1%. -/
theorem restart_forgets_user_throttle :
    (let env := fourCoreEnv fun _ => 95
    let after := mainLoop env (initialGlobals fun _ => Option.none)
      (⟨some 100, .ok 100, .ok [], []⟩ :: List.replicate 11 ⟨some 100, .ok 101, .ok [], []⟩ ++
        [⟨some 100, .ok 110, .ok [], []⟩])
    after.currentBandwidth = 100 ∧ after.currentBandwidth2 = 90 ∧
      readCpuMax env after .user = some 1 ∧ readCpuMax env after .critical = some 90) := by
  decide +kernel

end Pip

end PowerCapping
