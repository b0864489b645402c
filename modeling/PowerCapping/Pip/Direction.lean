import PowerCapping.Pip.Invariant

/-!
# Which way a control step moves the throttles

In full mode the dispatch of `run_stress_test` throttles when the measured
power is at or above `target_power * (1 - ceiling)`, recovers when it is below
`target_power * (1 - 2 * ceiling)`, and holds in between.  Throttling only
lowers throttles, recovery raises one unless both are at 100%, holding
changes neither (`Priority.Step`).

That is what an iteration does when it gets to the dispatch and returns
normally, with `set_cpu_limit` reading back what it writes
(`control_step_direction`).  An iteration whose cpupower table does not parse
changes nothing; one that raises is followed by the restart of `__main__`,
which puts `current_bandwidth` back to 100; and a critical cgroup whose
`cpu.max` is read back over fewer cores than it was written for takes a
larger throttle (`control_step_direction_fails`).  The recovery case asks the
power to be below both thresholds, which for a budget that is not negative is
to be below the lower one.
-/

namespace PowerCapping

namespace Pip

open Py Parse

section Direction

variable {env : Env} (userBack : ReadsBack env .user) (criticalBack : ReadsBack env .critical)
include userBack criticalBack

/-- A full-mode iteration whose samples parse, and which returns normally, is
a step of the abstract controller in the band of its budget and power. -/
theorem iteration_steps {sample : Sample} {globals after : Globals} {budget : ℤ} {power : ℚ}
    {metricsData : List Cell} (invariant : globals.Throttled) (full : globals.fullMode = true)
    (budgetRead : sample.budget = some budget) (powerRead : sample.power = .ok power)
    (parsed : parseCpuData sample.cpupower (metricCells sample.perfMetrics) = .ok metricsData)
    (ran : Py.exec (iteration env sample) globals = (.ok (), after)) :
    Priority.Step 1 100 { globals with targetPower := budget, actualPower := power }.band
      globals.throttles after.throttles := by
  obtain ⟨_, _, perfMetrics, cpupower⟩ := sample
  subst budgetRead powerRead
  simp only at parsed
  simp only [iteration, Py.exec_bind, Py.exec_modify, Py.exec_get, full, Bool.not_true,
    Bool.false_eq_true, if_false, parsed] at ran
  -- the control step runs from the globals with the new budget and power, whose
  -- throttles are those of the start
  split_ifs at ran with noMap
  · rw [Py.exec_bind_of_ok (Py.exec_modify _ _)] at ran
    exact (controlStep_steps userBack criticalBack (by exact invariant) ran :)
  · exact (controlStep_steps userBack criticalBack (by exact invariant) ran :)

/-- From every state with the throttle invariant, a full-mode iteration that
reaches the dispatch and returns normally raises no throttle when the power
is at or above `target_power * (1 - ceiling)`; lowers none and raises one
unless both are at 100% when the power is below both thresholds; and changes
neither in between. -/
theorem control_step_direction {sample : Sample} {globals after : Globals} {budget : ℤ}
    {power : ℚ} {metricsData : List Cell} (invariant : globals.Throttled)
    (full : globals.fullMode = true) (budgetRead : sample.budget = some budget)
    (powerRead : sample.power = .ok power)
    (parsed : parseCpuData sample.cpupower (metricCells sample.perfMetrics) = .ok metricsData)
    (ran : Py.exec (iteration env sample) globals = (.ok (), after)) :
    (budget * (1 - ceiling) ≤ power →
      after.currentBandwidth ≤ globals.currentBandwidth ∧
        after.currentBandwidth2 ≤ globals.currentBandwidth2) ∧
    (power < budget * (1 - ceiling) → power < budget * (1 - ceiling * 2) →
      globals.currentBandwidth ≤ after.currentBandwidth ∧
        globals.currentBandwidth2 ≤ after.currentBandwidth2 ∧
        (globals.currentBandwidth < after.currentBandwidth ∨
          globals.currentBandwidth2 < after.currentBandwidth2 ∨
          globals.currentBandwidth = 100 ∧ globals.currentBandwidth2 = 100)) ∧
    (budget * (1 - ceiling * 2) ≤ power → power < budget * (1 - ceiling) →
      after.currentBandwidth = globals.currentBandwidth ∧
        after.currentBandwidth2 = globals.currentBandwidth2) := by
  have step := iteration_steps userBack criticalBack invariant full budgetRead powerRead parsed ran
  refine ⟨fun atThreshold => ?_, fun notOver under => ?_, fun notUnder notOver => ?_⟩
  · -- throttling: a run of lowering moves
    simp only [Globals.band, if_pos atThreshold] at step
    exact Prod.mk_le_mk.mp step.le
  · -- recovery: one raising move, or both full
    simp only [Globals.band, if_neg (not_le.mpr notOver), if_pos under] at step
    obtain ⟨userLe, criticalLe⟩ := Prod.mk_le_mk.mp step.le
    refine ⟨userLe, criticalLe, ?_⟩
    rcases step.lt_or_full with raised | atFull
    · rcases Prod.mk_lt_mk.mp raised with ⟨userLt, -⟩ | ⟨-, criticalLt⟩
      · exact .inl userLt
      · exact .inr (.inl criticalLt)
    · exact .inr (.inr (Prod.mk.inj atFull))
  · -- holding
    simp only [Globals.band, if_neg (not_le.mpr notOver), if_neg (not_lt.mpr notUnder)] at step
    obtain ⟨sameUser, sameCritical⟩ := Prod.mk.inj step
    exact ⟨sameUser.symm, sameCritical.symm⟩

end Direction

/-- From user 1% and critical 10%, at the budget of 100 W: the throttle
branch takes its baby step and lowers the critical cgroup to 1%. -/
theorem control_step_direction_throttling :
    let table := "CPU|C0|Cx|Freq|POLL|C1|C2|C3\n0|0|0|0|0|0|0|0\n".toList ++
      "1|0|0|0|0|0|0|0\n2|0|0|0|0|0|0|0\n3|0|0|0|0|0|0|0".toList
    let env := fourCoreEnv fun _ => 0
    let globals := { initialGlobals (fun _ => Option.none) with
      currentBandwidth := 1, currentBandwidth2 := 10, fullMode := true, targetPower := 100 }
    let sample : Sample := ⟨some 100, .ok 100, .ok [], table⟩
    let after := (Py.exec (iteration env sample) globals).2
    parseCpuData table [] = .ok (List.replicate 28 (Cell.num 0)) ∧
      Py.exec (iteration env sample) globals = (.ok (), after) ∧ after.currentBandwidth2 = 1 ∧
      ((100 : ℤ) * (1 - ceiling) ≤ (100 : ℚ) →
        after.currentBandwidth ≤ globals.currentBandwidth ∧
          after.currentBandwidth2 ≤ globals.currentBandwidth2) ∧
      ((100 : ℚ) < (100 : ℤ) * (1 - ceiling) → (100 : ℚ) < (100 : ℤ) * (1 - ceiling * 2) →
        globals.currentBandwidth ≤ after.currentBandwidth ∧
          globals.currentBandwidth2 ≤ after.currentBandwidth2 ∧
          (globals.currentBandwidth < after.currentBandwidth ∨
            globals.currentBandwidth2 < after.currentBandwidth2 ∨
            globals.currentBandwidth = 100 ∧ globals.currentBandwidth2 = 100)) ∧
      ((100 : ℤ) * (1 - ceiling * 2) ≤ (100 : ℚ) → (100 : ℚ) < (100 : ℤ) * (1 - ceiling) →
        after.currentBandwidth = globals.currentBandwidth ∧
          after.currentBandwidth2 = globals.currentBandwidth2) := by
  intro table env globals sample after
  have parsed : parseCpuData table [] = .ok (List.replicate 28 (Cell.num 0)) := by
    decide +kernel
  -- stated as the hypothesis reads it, so that applying the theorem does not evaluate the parse
  have sampleParsed : parseCpuData sample.cpupower (metricCells sample.perfMetrics) =
      .ok (List.replicate 28 (Cell.num 0)) := parsed
  have returned : (Py.exec (iteration env sample) globals).1 = .ok () := by
    decide +kernel
  -- the pair is rebuilt from its first component, without evaluating the run again
  have ran : Py.exec (iteration env sample) globals = (.ok (), after) := by
    rw [← returned]
  -- evaluated through `mainStep`, which takes the state apart only after the result
  have lowered : (mainStep env globals sample).currentBandwidth2 = 1 := by
    decide +kernel
  have stepped : mainStep env globals sample = after := by
    rw [mainStep, ran]
  have throttled : globals.Throttled :=
    ⟨by decide, by decide, by decide, by decide, fun _ => rfl⟩
  exact ⟨parsed, ran, stepped ▸ lowered, control_step_direction (fourCoreEnv_readsBack _ .user)
    (fourCoreEnv_readsBack _ .critical) throttled rfl rfl rfl sampleParsed ran⟩

/-- The hypotheses of `control_step_direction` on the table, the return and the
machine are each needed, from one state with the invariant (user 1%, critical
10%, full mode).  A power of 50 W, below both thresholds, with a `cpupower`
table whose `C0` is not a number raises nothing.  A power 10 W over with an
empty table raises `IndexError` in the search, and the restart puts the user
throttle at 100%.  And 10 W over, a critical cgroup whose effective cpuset has
one of its two cores accepts 10% and reads back twice the quota written for
two: 20%. -/
theorem control_step_direction_fails :
    let table := "CPU|C0|Cx|Freq|POLL|C1|C2|C3\n0|0|0|0|0|0|0|0\n".toList ++
      "1|0|0|0|0|0|0|0\n2|0|0|0|0|0|0|0\n3|0|0|0|0|0|0|0".toList
    let env := fourCoreEnv fun _ => 0
    let skewed : Env := { env with cpusEffective := fun | .user => [0, 1] | .critical => [2] }
    let globals := { initialGlobals (fun _ => Option.none) with
      currentBandwidth := 1, currentBandwidth2 := 10, fullMode := true, targetPower := 100 }
    globals.Throttled ∧ globals.fullMode = true ∧
      ((50 : ℚ) < (100 : ℤ) * (1 - ceiling * 2) ∧
        (mainStep env globals ⟨some 100, .ok 50, .ok [], "CPU|C0\n0|x".toList⟩).throttles =
          globals.throttles) ∧
      ((100 : ℤ) * (1 - ceiling) ≤ (110 : ℚ) ∧
        (mainStep env globals ⟨some 100, .ok 110, .ok [], []⟩).currentBandwidth = 100) ∧
      ((100 : ℤ) * (1 - ceiling) ≤ (110 : ℚ) ∧
        (mainStep skewed globals ⟨some 100, .ok 110, .ok [], table⟩).currentBandwidth2 = 20) := by
  intro table env skewed globals
  have thresholds : (50 : ℚ) < (100 : ℤ) * (1 - ceiling * 2) ∧
      (100 : ℤ) * (1 - ceiling) ≤ (110 : ℚ) := by
    unfold ceiling
    norm_num
  refine ⟨⟨by decide, by decide, by decide, by decide, fun _ => rfl⟩, rfl,
    ⟨thresholds.1, ?_⟩, ⟨thresholds.2, ?_⟩, ⟨thresholds.2, ?_⟩⟩
  all_goals decide +kernel

end Pip

end PowerCapping
