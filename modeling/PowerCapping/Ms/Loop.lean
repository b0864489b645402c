import PowerCapping.Parse.Perf
import PowerCapping.Parse.CpuPower
import PowerCapping.Lib.Run
import PowerCapping.Lib.Ramp

/-!
# The MS baseline: drop to 5%, recover by 1%

`control/powercap_CPU_MS.py` caps the `user` cgroup by its CPU bandwidth, in
percent of the machine.  Each sample measures the package power with `perf
stat`, reads the budget, and calls `ms_control`: above the budget the
bandwidth drops to 5, otherwise it rises by one up to `THROTTLE_MAX`, and
`core_throttling` writes the new quota to `cpu.max`.  An exception ends
`run_stress_ng`; the main loop starts it again, and it starts at 100.

The bandwidth is a capped ramp (`Lib.Ramp`): over any run it is 5 plus the
number of samples since the last sample over the budget, up to 100
(`ms_recovers_one_percent_per_sample`), and every quota written lies between
5% and 100% of the machine (`ms_cpuMax_writes_within_bounds`).

One sample's inputs are what its commands print and what its files hold; the
timestamp of its line is left out.
-/

namespace PowerCapping

namespace Ms

open Py Parse

/-- `THROTTLE_MAX`. -/
def throttleMax : ℕ := 100

/-- `(\d+\.\d+) ` followed by a literal, at the front: the text of the group. -/
def quantityFollowedBy (suffix text : List Char) : Option (List Char) := do
  let (number, rest) ← decimal text
  let _ ← literal suffix rest
  pure number

/-- `calculate_cpu_power()` on the standard error of `perf stat -e
power/energy-pkg/ sleep 1`: package energy over elapsed time.  The quotient
is exact here and a double in Python (`20.01 / 1.0005` is 20 here and
`20.000000000000004` there), so at a power equal to the budget the two can
take different branches of `ms_control`. -/
def calculateCpuPower (output : List Char) : Except Py.Exception ℚ :=
  match search (quantityFollowedBy " Joules power/energy-pkg/".toList) output,
      search (quantityFollowedBy " seconds time elapsed".toList) output with
  | some pkgPower, some timeElapsed => do
      let pkgPower ← floatValue pkgPower
      let timeElapsed ← floatValue timeElapsed
      if timeElapsed = 0 then throw .zeroDivisionError
      pure (pkgPower / timeElapsed)
  | _, _ => throw .valueError

/-- `file.readline()` in text mode: the text up to the first line break,
where `\r` breaks a line as `\n` does. -/
def readline (content : List Char) : List Char :=
  content.takeWhile fun c => c ≠ '\n' ∧ c ≠ '\r'

/-- `int(open('./budget').readline().strip())`. -/
def readBudget : Option (List Char) → Except Py.Exception ℤ
  | some content => intValue (strip (readline content))
  | Option.none => .error .osError

/-- `core_throttling(index)`: the text written to `user/cpu.max`, a quota of
`index` percent of `num_cores` periods of 100000 µs; `OSError` when the file
cannot be opened. -/
def coreThrottling (writable : Bool) (numCores index : ℕ) : Except Py.Exception (List Char) :=
  if writable then .ok (strInt (truncate ((100000 * numCores * index : ℚ) / 100)) ++ " 100000".toList)
  else .error .osError

/-- `ms_control(actual_power, target_power, current_bandwidth)`: the new
bandwidth, and what it writes to `cpu.max`. -/
def msControl (writable : Bool) (numCores : ℕ) (actualPower : ℚ) (targetPower : ℤ)
    (currentBandwidth : ℕ) : Except Py.Exception (ℕ × List Char) := do
  let currentBandwidth :=
    if actualPower > targetPower then 5 else min (currentBandwidth + 1) throttleMax
  let conf ← coreThrottling writable numCores currentBandwidth
  pure (currentBandwidth, conf)

/-- What one sample of the loop reads: the output of the `perf stat` in
`calculate_cpu_power`, the budget file, the output of `cpupower monitor`, and
whether `cpu.max` opens for writing. -/
structure Sample where
  perfEnergy : List Char
  budget : Option (List Char)
  cpupower : List Char
  cpuMaxWritable : Bool

/-- What the loop does that can be seen: a write to `cpu.max`, the line
`{timestamp} | {current_bandwidth} | {target_power} | 0 | 0 | {actual_power:.0f}`
without its timestamp, or the exception that ended `run_stress_ng`. -/
inductive Event
  | cpuMax (conf : List Char)
  | line (bandwidth : ℕ) (targetPower : ℤ) (actualPower : ℤ)
  | failed (error : Py.Exception)
  deriving DecidableEq, Repr

/-- The statements of a sample before `ms_control`: the power and the budget.
`parse_cpu_data(process.stdout, perf_metrics)` is the copy of
`train_test/idle_map.py`; its value is never used, and it raises on a header
without `C0` whatever the perf values, so none are passed. -/
def msReadings (sample : Sample) : Except Py.Exception (ℚ × ℤ) := do
  let actualPower ← calculateCpuPower sample.perfEnergy
  let targetPower ← readBudget sample.budget
  let _ ← idleParseCpuData sample.cpupower []
  pure (actualPower, targetPower)

/-- One iteration of the `while True` of `run_stress_ng`. -/
def msIteration (numCores currentBandwidth : ℕ) (sample : Sample) :
    Except Py.Exception (ℕ × List Event) := do
  let readings ← msReadings sample
  let controlled ← msControl sample.cpuMaxWritable numCores readings.1 readings.2 currentBandwidth
  pure (controlled.1,
    [.cpuMax controlled.2, .line controlled.1 readings.2 (roundHalfEven readings.1)])

/-- One sample as the main loop sees it: an exception ends `run_stress_ng`,
and the thread started next sets `current_bandwidth = 100`. -/
def msStep (numCores currentBandwidth : ℕ) (sample : Sample) : ℕ × List Event :=
  match msIteration numCores currentBandwidth sample with
  | .ok result => result
  | .error error => (throttleMax, [.failed error])

/-- The main loop over a run of samples, from `current_bandwidth = 100`. -/
def msMain (numCores : ℕ) (samples : List Sample) : ℕ × List Event :=
  Run.runOut (msStep numCores) throttleMax samples

/-! ## The bandwidth as a ramp -/

/-- What a sample does to the bandwidth: a drop to 5 above the budget, a rise
within it, and a restart at 100 when it raises. -/
def msMove (sample : Sample) : Ramp.Move :=
  match msReadings sample with
  | .ok readings =>
      if sample.cpuMaxWritable then
        if (readings.2 : ℚ) < readings.1 then .reset 5 else .up
      else .reset throttleMax
  | .error _ => .reset throttleMax

/-- The quota of a whole number of percent is exact. -/
theorem coreThrottling_eq (numCores index : ℕ) :
    coreThrottling true numCores index =
      .ok (strInt (1000 * numCores * index) ++ " 100000".toList) := by
  have exact : (100000 * numCores * index : ℚ) / 100 = ((1000 * numCores * index : ℕ) : ℚ) := by
    push_cast
    ring
  rw [coreThrottling, if_pos rfl, exact, truncate, if_pos (Nat.cast_nonneg _), Int.floor_natCast]
  norm_cast

/-- An iteration that returns read the power and the budget, and wrote the
new bandwidth. -/
theorem msIteration_ok {numCores currentBandwidth : ℕ} {sample : Sample}
    {result : ℕ × List Event} (ran : msIteration numCores currentBandwidth sample = .ok result) :
    ∃ actualPower targetPower, msReadings sample = .ok (actualPower, targetPower) ∧
      sample.cpuMaxWritable = true ∧
      result.1 = (if (targetPower : ℚ) < actualPower then 5
        else min (currentBandwidth + 1) throttleMax) ∧
      result.2 = [.cpuMax (strInt (1000 * numCores * result.1) ++ " 100000".toList),
        .line result.1 targetPower (roundHalfEven actualPower)] := by
  obtain ⟨⟨actualPower, targetPower⟩, read, ran⟩ := bind_eq_ok.mp ran
  obtain ⟨controlled, control, finished⟩ := bind_eq_ok.mp ran
  cases finished
  obtain ⟨conf, written, finished⟩ := bind_eq_ok.mp control
  cases finished
  -- the write succeeds only on a writable `cpu.max`
  cases writable : sample.cpuMaxWritable with
  | false =>
      rw [writable, coreThrottling, if_neg Bool.false_ne_true] at written
      cases written
  | true =>
      rw [writable, coreThrottling_eq] at written
      cases written
      exact ⟨actualPower, targetPower, read, rfl, rfl, rfl⟩

/-- An iteration returns when its sample's readings and write succeed. -/
theorem msIteration_returns (numCores currentBandwidth : ℕ) {sample : Sample}
    {actualPower : ℚ} {targetPower : ℤ} (read : msReadings sample = .ok (actualPower, targetPower))
    (writable : sample.cpuMaxWritable = true) :
    ∃ result, msIteration numCores currentBandwidth sample = .ok result :=
  ⟨_, by simp only [msIteration, read, msControl, writable, coreThrottling_eq]; rfl⟩

theorem msStep_of_ok {numCores currentBandwidth : ℕ} {sample : Sample} {result : ℕ × List Event}
    (ran : msIteration numCores currentBandwidth sample = .ok result) :
    msStep numCores currentBandwidth sample = result := by
  simp only [msStep, ran]

theorem msStep_of_error {numCores currentBandwidth : ℕ} {sample : Sample} {error : Py.Exception}
    (ran : msIteration numCores currentBandwidth sample = .error error) :
    msStep numCores currentBandwidth sample = (throttleMax, [.failed error]) := by
  simp only [msStep, ran]

/-- One sample moves the bandwidth as its ramp move says. -/
theorem msStep_fst (numCores currentBandwidth : ℕ) (sample : Sample) :
    (msStep numCores currentBandwidth sample).1 =
      Ramp.apply throttleMax currentBandwidth (msMove sample) := by
  unfold msStep
  rcases ran : msIteration numCores currentBandwidth sample with error | result
  · -- the failure came from the readings or from the write
    rcases read : msReadings sample with readError | ⟨actualPower, targetPower⟩
    · simp only [msMove, read, Ramp.apply]
    · cases writable : sample.cpuMaxWritable with
      | false => simp only [msMove, read, writable, Bool.false_eq_true, ↓reduceIte, Ramp.apply]
      | true =>
          obtain ⟨result, returned⟩ := msIteration_returns numCores currentBandwidth read writable
          rw [returned] at ran
          cases ran
  · obtain ⟨actualPower, targetPower, read, writable, bandwidth, -⟩ := msIteration_ok ran
    simp only [msMove, read, writable, if_true]
    rw [bandwidth]
    split_ifs <;> rfl

/-- The bandwidth after a run is the ramp over the samples' moves. -/
theorem msMain_fst (numCores : ℕ) (samples : List Sample) :
    (msMain numCores samples).1 = Ramp.run throttleMax throttleMax (samples.map msMove) := by
  rw [msMain, Run.runOut_fst, Ramp.run, List.foldl_map]
  simp only [msStep_fst]

/-- A sample of 20 W against a budget of 10 W. -/
def overBudget : Sample where
  perfEnergy := "20.00 Joules power/energy-pkg/\n1.00 seconds time elapsed".toList
  budget := some "10\n".toList
  cpupower := "CPU|C0\n0|5".toList
  cpuMaxWritable := true

/-- A sample of 5 W against the same budget. -/
def withinBudget : Sample :=
  { overBudget with perfEnergy := "5.00 Joules power/energy-pkg/\n1.00 seconds time elapsed".toList }

/-- After a sample over the budget, each sample within it raises the
bandwidth by one, up to 100, whatever came before. -/
theorem ms_recovers_one_percent_per_sample (numCores : ℕ) (before after : List Sample)
    {sample : Sample} {actualPower : ℚ} {targetPower : ℤ}
    (read : msReadings sample = .ok (actualPower, targetPower)) (exceeded : (targetPower : ℚ) < actualPower)
    (writable : sample.cpuMaxWritable = true)
    (within : ∀ later ∈ after, ∃ actual : ℚ, ∃ target : ℤ,
      msReadings later = .ok (actual, target) ∧ actual ≤ target ∧ later.cpuMaxWritable = true) :
    (msMain numCores (before ++ sample :: after)).1 = min (5 + after.length) throttleMax := by
  have dropped : msMove sample = .reset 5 := by
    simp only [msMove, read, writable, if_true, if_pos exceeded]
  have rises : ∀ move ∈ after.map msMove, move = .up := by
    intro move member
    obtain ⟨later, laterMember, rfl⟩ := List.mem_map.mp member
    obtain ⟨actual, target, laterRead, withinBudget, laterWritable⟩ := within later laterMember
    simp only [msMove, laterRead, laterWritable, if_true, if_neg (not_lt.mpr withinBudget)]
  rw [msMain_fst, List.map_append, List.map_cons, dropped]
  rw [Ramp.run_after_reset _ _ rises (by decide), List.length_map]

/-- Two samples within the budget after one over it: 7%. -/
theorem ms_recovers_one_percent_per_sample_twoSamples :
    (msMain 4 [overBudget, withinBudget, withinBudget]).1 = 7 := by
  have read : msReadings overBudget = .ok (20, 10) := by
    decide +kernel
  have laterRead : msReadings withinBudget = .ok (5, 10) := by
    decide +kernel
  have within : ∀ later ∈ [withinBudget, withinBudget], ∃ actual : ℚ, ∃ target : ℤ,
      msReadings later = .ok (actual, target) ∧ actual ≤ target ∧ later.cpuMaxWritable = true := by
    intro later member
    simp only [List.mem_cons, List.not_mem_nil, or_false, or_self] at member
    subst member
    exact ⟨5, 10, laterRead, by norm_num, rfl⟩
  exact ms_recovers_one_percent_per_sample 4 [] [withinBudget, withinBudget] read (by norm_num) rfl
    within

/-- A sample resets the bandwidth to 5 or to 100 only. -/
theorem msMove_reset {sample : Sample} {value : ℕ} (isReset : msMove sample = .reset value) :
    value = 5 ∨ value = throttleMax := by
  unfold msMove at isReset
  split at isReset
  · -- above the budget, within it, or a write that raised
    split_ifs at isReset <;> cases isReset <;> simp
  · cases isReset
    exact Or.inr rfl

/-- What a sample writes to `cpu.max` is the quota of the bandwidth it leaves. -/
theorem msStep_writes (numCores currentBandwidth : ℕ) (sample : Sample) {conf : List Char}
    (written : Event.cpuMax conf ∈ (msStep numCores currentBandwidth sample).2) :
    conf = strInt (1000 * numCores * (msStep numCores currentBandwidth sample).1) ++
      " 100000".toList := by
  rcases ran : msIteration numCores currentBandwidth sample with error | result
  · -- a sample that raises writes nothing
    rw [msStep_of_error ran] at written
    simp at written
  · rw [msStep_of_ok ran] at written ⊢
    obtain ⟨actualPower, targetPower, -, -, -, events⟩ := msIteration_ok ran
    rw [events] at written
    simpa using written

/-- What every run keeps: the bandwidth between 5 and 100, and every quota
written so far that of such a bandwidth. -/
structure Bounded (numCores bandwidth : ℕ) (emitted : List Event) : Prop where
  atLeast : 5 ≤ bandwidth
  atMost : bandwidth ≤ throttleMax
  writes : ∀ conf, Event.cpuMax conf ∈ emitted → ∃ written : ℕ, 5 ≤ written ∧
    written ≤ throttleMax ∧ conf = strInt (1000 * numCores * written) ++ " 100000".toList

theorem Bounded.start (numCores : ℕ) : Bounded numCores throttleMax [] :=
  ⟨by decide, le_refl _, fun _ member => absurd member List.not_mem_nil⟩

theorem Bounded.step {numCores bandwidth : ℕ} {emitted : List Event}
    (bounded : Bounded numCores bandwidth emitted) (sample : Sample) :
    Bounded numCores (msStep numCores bandwidth sample).1
      (emitted ++ (msStep numCores bandwidth sample).2) := by
  have inRange : 5 ≤ (msStep numCores bandwidth sample).1 ∧
      (msStep numCores bandwidth sample).1 ≤ throttleMax := by
    rw [msStep_fst]
    refine Ramp.apply_mem_Icc ⟨bounded.atLeast, bounded.atMost⟩ fun value isReset => ?_
    rcases msMove_reset isReset with rfl | rfl <;> decide
  refine ⟨inRange.1, inRange.2, fun conf member => ?_⟩
  rcases List.mem_append.mp member with earlier | written
  · exact bounded.writes conf earlier
  · exact ⟨_, inRange.1, inRange.2, msStep_writes numCores bandwidth sample written⟩

/-- Every quota a run writes to `cpu.max` is between 5% and 100% of the
machine. -/
theorem ms_cpuMax_writes_within_bounds (numCores : ℕ) (samples : List Sample) {conf : List Char}
    (written : Event.cpuMax conf ∈ (msMain numCores samples).2) :
    ∃ bandwidth : ℕ, 5 ≤ bandwidth ∧ bandwidth ≤ throttleMax ∧
      conf = strInt (1000 * numCores * bandwidth) ++ " 100000".toList :=
  (Run.runOut_invariant (msStep numCores) (Bounded numCores) (Bounded.start numCores)
    (fun _ _ sample bounded => bounded.step sample) samples).writes conf written

theorem ms_cpuMax_writes_within_bounds_overBudget :
    Event.cpuMax "20000 100000".toList ∈ (msMain 4 [overBudget]).2 ∧
      ∃ bandwidth : ℕ, 5 ≤ bandwidth ∧ bandwidth ≤ throttleMax ∧
        "20000 100000".toList = strInt (1000 * 4 * bandwidth) ++ " 100000".toList := by
  have written : Event.cpuMax "20000 100000".toList ∈ (msMain 4 [overBudget]).2 := by
    decide +kernel
  exact ⟨written, ms_cpuMax_writes_within_bounds 4 [overBudget] written⟩

end Ms

end PowerCapping
