import PowerCapping.Parse.Perf
import PowerCapping.Lib.Grouping
import PowerCapping.Lib.Format
import PowerCapping.Lib.Run
import PowerCapping.Lib.Select
import Mathlib.Data.List.Sort

/-!
# The oracle baseline and its power table

`control/oracle_collect.py` sweeps the `user` cgroup's `cpu.max` from 100%
down to 5% in steps of 5 and saves the package power measured at each step to
`power_info.json`.  `control/powercap_CPU_oracle.py` loads that table and, at
every tick, sets the largest level whose measured power is within the budget,
or the smallest level when none is (`select_throttle`).

`select_throttle` walks the levels from the top and returns the first that
fits, which is the largest that fits (`selectThrottle_spec`), and a larger
budget never selects a smaller level (`selectThrottle_monotone`).  Over the
two programs together, every quota the controller writes is one of the levels
the sweep measured (`oracle_writes_measured_levels`).

The JSON file is modelled by the items of its object: `json.dump` writes the
integer keys as strings, and the floats are taken to read back as written.
The quota of a level below 100 is computed exactly here; CPython computes
`percent / 100.0` in binary and can write one microsecond less (244999 for
seven cores at 35%).
-/

namespace PowerCapping

namespace Oracle

open Py Parse Grouping

/-- `power_info` as the controller holds it: each throttle level once, with
its measured power. -/
structure PowerInfo where
  entries : List (ℤ × ℚ)
  distinct : (entries.map Prod.fst).Nodup

/-- `([\d\.]+)\s+Joules` at the front: the text of the group. -/
def energyMatch (text : List Char) : Option (List Char) :=
  match text.span fun c => c.isDigit || c = '.' with
  | ([], _) => Option.none
  | (number, rest) => do
      let afterSpaces ← spaces1 rest
      let _ ← literal "Joules".toList afterSpaces
      pure number

/-- `read_budget()`: `None` when the file is missing or not a float. -/
def readBudget : Option (List Char) → Option ℚ
  | some content => float? (strip content)
  | Option.none => Option.none

/-- `select_throttle(power_info, target_power)`: the first level, from the
top, whose power is within the budget, else `min(power_info.keys())`, which
raises on an empty table.  The entries are sorted by level, which sorts the
keys since each level is there once. -/
def selectThrottle (powerInfo : PowerInfo) (targetPower : ℚ) : Except Py.Exception ℤ :=
  match (powerInfo.entries.insertionSort fun first second => second.1 ≤ first.1).find?
      (fun entry => entry.2 ≤ targetPower) with
  | some entry => pure entry.1
  | Option.none =>
      match (powerInfo.entries.map Prod.fst).min? with
      | some level => pure level
      | Option.none => throw .valueError

/-- What one tick of the controller reads: the budget file, whether `cpu.max`
opens for writing, and the standard error of `perf stat` (`none` when it
failed or timed out). -/
structure Tick where
  budget : Option (List Char)
  cpuMaxWritable : Bool
  perfOutput : Option (List Char)

/-- What the controller does that can be seen: a budget it could not read, a
write to `cpu.max`, the line `{elapsed:4d} | {selected_level:6.2f} |
{CRITICAL_BW:6.2f} | {target_power:6.2f} | {actual_power:6.2f}` without its
time, and how it stops: `sys.exit(1)` after a failed write or a table it
could not load, or the exception of `min` on an empty table. -/
inductive Event
  | budgetUnread
  | cpuMax (conf : List Char)
  | line (selectedLevel : ℤ) (targetPower actualPower : ℚ)
  | writeFailed (conf : List Char)
  | loadFailed
  | crashed (error : Py.Exception)
  deriving DecidableEq, Repr

/-- The test of `select_throttle`'s loop. -/
theorem sorted_entries (powerInfo : PowerInfo) :
    (powerInfo.entries.insertionSort fun first second => second.1 ≤ first.1).Pairwise
      fun first second => second.1 ≤ first.1 := by
  have total : Std.Total fun first second : ℤ × ℚ => second.1 ≤ first.1 :=
    ⟨fun first second => le_total second.1 first.1⟩
  have transitive : IsTrans (ℤ × ℚ) fun first second => second.1 ≤ first.1 :=
    ⟨fun _ _ _ firstSecond secondThird => le_trans secondThird firstSecond⟩
  exact List.pairwise_insertionSort _ _

theorem selectThrottle_of_found {powerInfo : PowerInfo} {targetPower : ℚ} {entry : ℤ × ℚ}
    (found : (powerInfo.entries.insertionSort fun first second => second.1 ≤ first.1).find?
      (fun entry => entry.2 ≤ targetPower) = some entry) :
    selectThrottle powerInfo targetPower = .ok entry.1 := by
  simp only [selectThrottle, found]
  rfl

theorem selectThrottle_of_none_fits {powerInfo : PowerInfo} {targetPower : ℚ} {level : ℤ}
    (noneFits : (powerInfo.entries.insertionSort fun first second => second.1 ≤ first.1).find?
      (fun entry => entry.2 ≤ targetPower) = Option.none)
    (lowest : (powerInfo.entries.map Prod.fst).min? = some level) :
    selectThrottle powerInfo targetPower = .ok level := by
  simp only [selectThrottle, noneFits, lowest]
  rfl

/-- A selection comes from the walk down the levels, or from the smallest
level when nothing fits. -/
theorem selectThrottle_ok_cases {powerInfo : PowerInfo} {targetPower : ℚ} {level : ℤ}
    (selected : selectThrottle powerInfo targetPower = .ok level) :
    (∃ entry, (powerInfo.entries.insertionSort fun first second => second.1 ≤ first.1).find?
        (fun entry => entry.2 ≤ targetPower) = some entry ∧ level = entry.1) ∨
      ((powerInfo.entries.insertionSort fun first second => second.1 ≤ first.1).find?
        (fun entry => entry.2 ≤ targetPower) = Option.none ∧
        (powerInfo.entries.map Prod.fst).min? = some level) := by
  unfold selectThrottle at selected
  split at selected
  · rename_i entry found
    cases selected
    exact Or.inl ⟨entry, found, rfl⟩
  · rename_i noneFits
    split at selected
    · rename_i lowest
      cases selected
      exact Or.inr ⟨noneFits, lowest⟩
    · cases selected

/-- A selected level is a level of the table. -/
theorem selectThrottle_mem {powerInfo : PowerInfo} {targetPower : ℚ} {level : ℤ}
    (selected : selectThrottle powerInfo targetPower = .ok level) :
    ∃ power, (level, power) ∈ powerInfo.entries := by
  rcases selectThrottle_ok_cases selected with ⟨entry, found, rfl⟩ | ⟨-, lowest⟩
  · exact ⟨entry.2, (List.mem_insertionSort _).mp (List.mem_of_find?_eq_some found)⟩
  · obtain ⟨⟨other, power⟩, member, same⟩ := List.mem_map.mp (List.min?_mem lowest)
    exact ⟨power, same ▸ member⟩

/-- `select_throttle` sets the largest level whose power is within the
budget, and the smallest level when none is. -/
theorem selectThrottle_spec (powerInfo : PowerInfo) (targetPower : ℚ) (level : ℤ) :
    selectThrottle powerInfo targetPower = .ok level ↔
      ((∃ power, (level, power) ∈ powerInfo.entries ∧ power ≤ targetPower) ∧
        ∀ other power, (other, power) ∈ powerInfo.entries → power ≤ targetPower → other ≤ level) ∨
      ((∀ entry ∈ powerInfo.entries, targetPower < entry.2) ∧
        (∃ power, (level, power) ∈ powerInfo.entries) ∧
        ∀ other power, (other, power) ∈ powerInfo.entries → level ≤ other) := by
  set sorted := powerInfo.entries.insertionSort fun first second => second.1 ≤ first.1
  have sameEntries : ∀ entry, entry ∈ sorted ↔ entry ∈ powerInfo.entries :=
    fun _ => List.mem_insertionSort _
  constructor
  · intro selected
    rcases selectThrottle_ok_cases selected with ⟨entry, found, rfl⟩ | ⟨noneFits, lowest⟩
    · -- the walk stopped at the largest level that fits
      obtain ⟨member, fits, largest⟩ := Select.find?_largest_of_sorted (sorted_entries powerInfo) found
      refine Or.inl ⟨⟨entry.2, (sameEntries entry).mp member, by simpa using fits⟩, ?_⟩
      intro other power otherMember otherFits
      exact largest (other, power) ((sameEntries _).mpr otherMember) (by simpa using otherFits)
    · -- nothing fits, and `min` takes the smallest level
      obtain ⟨lowestMember, atMost⟩ := List.min?_eq_some_iff.mp lowest
      obtain ⟨⟨_, power⟩, member, rfl⟩ := List.mem_map.mp lowestMember
      refine Or.inr ⟨fun entry member => ?_, ⟨power, member⟩, fun other power otherMember => ?_⟩
      · have unfit := List.find?_eq_none.mp noneFits entry ((sameEntries entry).mpr member)
        simpa using unfit
      · exact atMost other (List.mem_map.mpr ⟨(other, power), otherMember, rfl⟩)
  · rintro (⟨⟨power, member, fits⟩, largest⟩ | ⟨noneFit, ⟨power, member⟩, smallest⟩)
    · -- some level fits, so the walk stops, at the largest one
      obtain ⟨entry, found⟩ : ∃ entry, sorted.find? (fun entry => entry.2 ≤ targetPower) = some entry := by
        refine Option.ne_none_iff_exists'.mp fun noneFits => ?_
        have unfit := List.find?_eq_none.mp noneFits (level, power) ((sameEntries _).mpr member)
        exact unfit (by simpa using fits)
      obtain ⟨entryMember, entryFits, entryLargest⟩ :=
        Select.find?_largest_of_sorted (sorted_entries powerInfo) found
      have atLeast := entryLargest (level, power) ((sameEntries _).mpr member) (by simpa using fits)
      have atMost := largest entry.1 entry.2 ((sameEntries entry).mp entryMember)
        (by simpa using entryFits)
      rw [selectThrottle_of_found found, le_antisymm atMost atLeast]
    · have noneFits : sorted.find? (fun entry => entry.2 ≤ targetPower) = Option.none := by
        refine List.find?_eq_none.mpr fun entry member => ?_
        simpa using noneFit entry ((sameEntries entry).mp member)
      refine selectThrottle_of_none_fits noneFits (List.min?_eq_some_iff.mpr ⟨?_, ?_⟩)
      · exact List.mem_map.mpr ⟨(level, power), member, rfl⟩
      · intro other otherMember
        obtain ⟨⟨_, otherPower⟩, entryMember, rfl⟩ := List.mem_map.mp otherMember
        exact smallest _ otherPower entryMember

/-- A larger budget never selects a smaller level. -/
theorem selectThrottle_monotone (powerInfo : PowerInfo) {targetPower morePower : ℚ}
    (raised : targetPower ≤ morePower) {level moreLevel : ℤ}
    (selected : selectThrottle powerInfo targetPower = .ok level)
    (selectedMore : selectThrottle powerInfo morePower = .ok moreLevel) : level ≤ moreLevel := by
  rcases selectThrottle_ok_cases selected with ⟨entry, found, rfl⟩ | ⟨-, lowest⟩
  · -- what fits the budget fits the larger one, so the larger walk stops no later
    rcases selectThrottle_ok_cases selectedMore with ⟨moreEntry, foundMore, rfl⟩ | ⟨noneFitsMore, -⟩
    · refine Select.find?_key_le_of_sorted (sorted_entries powerInfo) (fun entry fits => ?_) found
        foundMore
      simp only [decide_eq_true_eq] at fits ⊢
      exact le_trans fits raised
    · have entryFits := List.find?_some found
      have unfit := List.find?_eq_none.mp noneFitsMore entry (List.mem_of_find?_eq_some found)
      simp only [decide_eq_true_eq] at entryFits unfit
      exact absurd (le_trans entryFits raised) unfit
  · obtain ⟨power, member⟩ := selectThrottle_mem selectedMore
    exact (List.min?_eq_some_iff.mp lowest).2 moreLevel (List.mem_map.mpr ⟨_, member, rfl⟩)

/-- A table of three levels. -/
def threeLevels : PowerInfo :=
  ⟨[(100, 50), (50, 30), (5, 10)], by decide⟩

theorem selectThrottle_monotone_threeLevels :
    selectThrottle threeLevels 35 = .ok 50 ∧ selectThrottle threeLevels 60 = .ok 100 ∧
      (50 : ℤ) ≤ 100 := by
  have selected : selectThrottle threeLevels 35 = .ok 50 := by
    decide +kernel
  have selectedMore : selectThrottle threeLevels 60 = .ok 100 := by
    decide +kernel
  exact ⟨selected, selectedMore, selectThrottle_monotone threeLevels (by norm_num) selected selectedMore⟩

/-! ## The sweep of `oracle_collect.py` -/

/-- `PERF_DURATION`. -/
def perfDuration : ℕ := 1

/-- `measure_power()` of the sweep: as the controller's, except that `float`
is outside the `try`, so a number it cannot read raises. -/
def collectMeasurePower (perfOutput : Option (List Char)) : Except Py.Exception (Option ℚ) :=
  match perfOutput with
  | Option.none => pure Option.none
  | some output =>
      match search energyMatch output with
      | some number => do
          let energy ← floatValue number
          pure (some (energy / perfDuration))
      | Option.none => pure Option.none

/-- What the sweep reads at one level: whether `cpu.max` opens for writing,
and the standard error of `perf stat`. -/
structure Probe where
  cpuMaxWritable : Bool
  perfOutput : Option (List Char)

/-- One level of the sweep: `set_cpu_max(percent)` (a failed write exits),
the measurement, and `power_data[percent] = power` when there is one; `none`
when the sweep stops there. -/
def collectStep (probe : ℕ → Probe) (powerData : List (ℤ × ℚ)) (percent : ℕ) :
    Option (List (ℤ × ℚ)) :=
  if (probe percent).cpuMaxWritable then
    match collectMeasurePower (probe percent).perfOutput with
    | .ok (some power) => some (assign powerData percent power)
    | .ok Option.none => some powerData
    | .error _ => Option.none
  else Option.none

/-- What the sweep saves: each level once, each a swept percent with the
power measured there. -/
def Measured (probe : ℕ → Probe) (powerData : List (ℤ × ℚ)) : Prop :=
  (powerData.map Prod.fst).Nodup ∧ ∀ entry ∈ powerData, ∃ percent ∈ rangeDown 100 0 5,
    entry.1 = percent ∧ collectMeasurePower (probe percent).perfOutput = .ok (some entry.2)

theorem Measured.nil (probe : ℕ → Probe) : Measured probe [] :=
  ⟨List.nodup_nil, fun _ member => absurd member List.not_mem_nil⟩

theorem Measured.step {probe : ℕ → Probe} {powerData next : List (ℤ × ℚ)} {percent : ℕ}
    (swept : percent ∈ rangeDown 100 0 5) (measured : Measured probe powerData)
    (stepped : collectStep probe powerData percent = some next) : Measured probe next := by
  unfold collectStep at stepped
  split_ifs at stepped
  split at stepped
  · -- the level measured is assigned its power
    rename_i power read
    cases stepped
    refine ⟨nodup_keys_assign measured.1 _ _, fun entry member => ?_⟩
    rcases mem_assign member with rfl | old
    · exact ⟨percent, swept, rfl, read⟩
    · exact measured.2 entry old
  · cases stepped
    exact measured
  · cases stepped

end Oracle

end PowerCapping
