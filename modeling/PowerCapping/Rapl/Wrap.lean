import PowerCapping.Rapl.Loop
import PowerCapping.Lib.Counter

/-!
# Energy counters that wrap

A package's `energy_uj` counts microjoules modulo `max_energy_range_uj`.
Three scripts turn two successive readings into power:
`control/powercap_CPU_rapl.py` takes the reading itself as the energy when
the counter went backwards, `predxnd/send_print_throttle.py`
(`measure_total_power`) takes the plain difference, and
`estimation/power_measure.py` (`get_rapl_power`) adds the range once.  For
readings of a counter below its range, only the last uses the count between
the readings on every sample; the other two use it exactly on the samples in
which the counter did not wrap (`deltas_of_readings`).
-/

namespace PowerCapping

namespace Rapl

/-- The energy `main` of the RAPL baseline uses for a socket: `curr - prev`,
or `curr` when that is negative. -/
def baselineDelta (prev curr : ℚ) : ℚ :=
  if curr - prev < 0 then curr else curr - prev

theorem measureSocket_some (prev curr : ℚ) {elapsed : ℚ} (running : elapsed ≠ 0) :
    measureSocket prev (some curr) elapsed =
      (baselineDelta prev curr * (1 / 1000000) / elapsed, curr) := by
  simp [measureSocket, baselineDelta, running]

/-- `measure_total_power(paths, interval)` of `send_print_throttle.py`, on the
two readings of each package. -/
def measureTotalPower (interval : ℚ) (readings : List (ℤ × ℤ)) : ℚ :=
  (readings.map fun (e1, e2) => ((e2 - e1 : ℤ) : ℚ) / 1000000 / interval).sum

/-- `get_rapl_power(samples, max_energy)` of `power_measure.py`, on the
readings 0.1 s apart of each package: the total it appends to
`samples['cpu']`. -/
def getRaplPower (maxEnergy : ℤ) (readings : List (ℤ × ℤ)) : ℚ :=
  (readings.map fun (prevEnergy, currEnergy) =>
    let currEnergy := if currEnergy < prevEnergy then currEnergy + maxEnergy else currEnergy
    ((currEnergy - prevEnergy : ℤ) : ℚ) / 1000000 / (1 / 10)).sum

/-- `get_rapl_power` corrects a wrapped counter once. -/
theorem getRaplPower_eq (maxEnergy : ℤ) (readings : List (ℤ × ℤ)) :
    getRaplPower maxEnergy readings =
      (readings.map fun (prevEnergy, currEnergy) =>
        (Counter.unwrap maxEnergy prevEnergy currEnergy : ℚ) / 1000000 / (1 / 10)).sum := by
  unfold getRaplPower Counter.unwrap
  congr 1
  refine List.map_congr_left fun (prevEnergy, currEnergy) _ => ?_
  dsimp only
  split_ifs <;> push_cast <;> ring_nf

/-- For readings of a counter below its range, the energy `get_rapl_power`
uses is always the count between them, while the RAPL baseline and
`measure_total_power` use it exactly when the counter did not wrap. -/
theorem deltas_of_readings {range prev curr : ℤ} (prevPos : 0 ≤ prev) (prevBelow : prev < range)
    (currPos : 0 ≤ curr) (currBelow : curr < range) :
    Counter.unwrap range prev curr = Counter.advance range prev curr ∧
      (baselineDelta prev curr = Counter.advance range prev curr ↔ prev ≤ curr) ∧
      (curr - prev = Counter.advance range prev curr ↔ prev ≤ curr) := by
  refine ⟨Counter.unwrap_eq_advance prevPos prevBelow currPos currBelow, ?_, ?_⟩
  · by_cases forward : prev ≤ curr
    · have counted := Counter.advance_of_le prevPos forward currBelow
      have notBack : ¬ (curr : ℚ) - prev < 0 := by
        have : (prev : ℚ) ≤ curr := by exact_mod_cast forward
        linarith
      simp [baselineDelta, notBack, counted, forward]
    · -- the baseline takes the reading, which misses `range - prev`
      have wrapped := Counter.advance_of_lt (not_le.mp forward) currPos prevBelow
      have back : (curr : ℚ) - prev < 0 := by
        have : (curr : ℚ) < prev := by exact_mod_cast not_le.mp forward
        linarith
      simp only [baselineDelta, back, if_true, wrapped, forward, iff_false]
      push_cast
      intro same
      have : (prev : ℚ) = range := by linarith
      exact absurd (by exact_mod_cast this) (ne_of_lt prevBelow)
  · by_cases forward : prev ≤ curr
    · simp [Counter.advance_of_le prevPos forward currBelow, forward]
    · simp only [Counter.advance_of_lt (not_le.mp forward) currPos prevBelow, forward, iff_false]
      omega

/-- A package counter with a range of 262143328850 µJ, read at 262143000000
and, after it wrapped, at 671150: it counted 1 J.  The RAPL baseline (over a
2 s sleep) counts 0.67 J, `measure_total_power` (over 0.5 s) a negative
energy, and `get_rapl_power` (over 0.1 s) the joule. -/
theorem wrapped_reading_powers :
    (let range : ℤ := 262143328850
    let prev : ℤ := 262143000000
    let curr : ℤ := 671150
    Counter.advance range prev curr = 1000000 ∧
      (measureSocket prev (some curr) 2).1 = 671150 / 1000000 / 2 ∧
      measureTotalPower (1 / 2) [(prev, curr)] = (671150 - 262143000000) / 1000000 / (1 / 2) ∧
      getRaplPower range [(prev, curr)] = 1000000 / 1000000 / (1 / 10)) := by
  intro range prev curr
  refine ⟨by decide, ?_, ?_, ?_⟩
  · rw [measureSocket_some _ _ (by norm_num)]
    norm_num [baselineDelta, prev, curr]
  · norm_num [measureTotalPower, prev, curr]
  · norm_num [getRaplPower, range, prev, curr]

end Rapl

end PowerCapping
