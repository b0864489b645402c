import PowerCapping.Parse.CpuPower
import PowerCapping.Lib.Run

/-!
# The feature vectors of power attribution

`attribution/power_attr.py`'s `run_stress_ng` asks the power model about the
whole machine, with `ref_features`: the measured `cpupower` table, the
temperatures and the perf counts summed over all CPUs.  For each group of
CPUs of `cid_list_gen` it asks about the machine as if only that group ran,
with `app_features`: the idle map of `idle.dat` with the group's rows of the
table written over it, then the temperatures and the group's summed perf
counts.  The blocks are written by slice assignments at offsets computed from
`cpu_count`, and a slice assignment replaces its slice whatever the length of
the new value: the blocks are where the model expects them only when each new
value has the length of its slice.
-/

namespace PowerCapping

namespace Attribution

open Py Pip Parse

/-- `parse_cpu_info()` on the output of `cpupower monitor sleep 0`: the
position of `C0` in the first line that has it (`columns_to_parse`) and the
number of fields from `C0` on (`metrics_per_cpu`); `ValueError` when no line
has it. -/
def parseCpuInfo (output : List Char) : Except Py.Exception (ℕ × ℕ) :=
  match ((split '\n' output).map lineElements).find? (·.contains "C0".toList) with
  | some elements =>
      pure (elements.idxOf "C0".toList, elements.length - elements.idxOf "C0".toList)
  | Option.none => throw .valueError

/-- `parse_cpu_data(output)` as `run_stress_ng` calls it (the second
definition in the file, which replaces the first): the header is the first
line with a `CPU` field, and every later non-empty line contributes its fields
from `C0` on, as strings. -/
def attrParseCpuData (output : List Char) : Except Py.Exception (List Cell) := do
  let tmpData ← collectRowsIdle Option.none (split '\n' output)
  pure (tmpData.flatten.map .str)

/-- The counts of one CPU (`perf_metrics[cpu]`, `KeyError` for a CPU that
printed none) added entry by entry to the first `width` totals
(`IndexError` when its list is shorter). -/
def addCounts (perfMetrics : ℕ → Option (List ℚ)) (width : ℕ) (aggregated : List ℚ)
    (cpu : ℕ) : Except Py.Exception (List ℚ) := do
  let values ← getKey (perfMetrics cpu)
  (List.range width).mapM fun (i : ℕ) => do
    let total ← getItem aggregated i
    let value ← getItem values i
    pure (total + value)

/-- `aggregated_perf_metrics` for the given CPUs. -/
def aggregatePerf (perfMetrics : ℕ → Option (List ℚ)) (width : ℕ) (cpus : List ℕ) :
    Except Py.Exception (List ℚ) :=
  cpus.foldlM (addCounts perfMetrics width) (List.replicate width 0)

/-- The row of one CPU of the group written over the map:
`app_features[feature_positions:feature_positions + metrics_per_cpu] =
core_metrics[feature_positions:feature_positions + metrics_per_cpu]`. -/
def writeRow (metricsPerCpu : ℕ) (coreMetrics app : List Cell) (cpu : ℕ) : List Cell :=
  let featurePositions := cpu * metricsPerCpu
  assignSlice app featurePositions (featurePositions + metricsPerCpu)
    (slice coreMetrics featurePositions (featurePositions + metricsPerCpu))

/-- `app_features` of one group: the group's rows over the idle map, then the
temperatures and the group's perf counts at the offsets of `cpu_count`. -/
def appFeatures (metricsPerCpu cpuCount : ℕ) (baseIdle coreMetrics : List Cell)
    (temps aggregated : List ℚ) (cpus : List ℕ) : List Cell :=
  let rows := cpus.foldl (writeRow metricsPerCpu coreMetrics) baseIdle
  let startIndex := metricsPerCpu * cpuCount + cpuCount
  let endIndex := startIndex + aggregated.length
  let withTemps := assignSlice rows (metricsPerCpu * cpuCount) startIndex (temps.map .num)
  assignSlice withTemps startIndex endIndex (aggregated.map .num)

/-- The feature vectors of one measurement of `run_stress_ng`: `ref_features`,
and the command and `app_features` of each group of `cid_by_command`, in
order.  `info` is the output `parse_cpu_info` reads at start-up, `cpuCount` is
`read_cpu_info()`, `cpupower` the output of `cpupower monitor`, and
`perfMetrics` and `temps` the result of `parse_perf_metrics`. -/
def measurementFeatures (info : List Char) (cpuCount : ℕ) (cpupower : List Char)
    (perfMetrics : ℕ → Option (List ℚ)) (temps : List ℚ) (idleData : List Char)
    (groups : List (List Char × List ℕ)) :
    Except Py.Exception (List Cell × List (List Char × List Cell)) := do
  let (_, metricsPerCpu) ← parseCpuInfo info
  let coreMetrics ← attrParseCpuData cpupower
  let dataValues := split ',' idleData
  let baseIdle := dataValues.dropLast.map .str
  -- `idle_power = float(data_values[-1])`
  let _ ← floatValue (dataValues.getLastD [])
  let width := (← getKey (perfMetrics 0)).length
  let aggregated ← aggregatePerf perfMetrics width (List.range cpuCount)
  let refFeatures := coreMetrics ++ temps.map .num ++ aggregated.map .num
  let apps ← groups.mapM fun (command, cpus) => do
    let aggregated ← aggregatePerf perfMetrics width cpus
    pure (command, appFeatures metricsPerCpu cpuCount baseIdle coreMetrics temps aggregated cpus)
  pure (refFeatures, apps)

/-- The per-CPU sums of the counts of the given CPUs over the first `width`
events. -/
def perfSum (perfMetrics : ℕ → Option (List ℚ)) (width : ℕ) (cpus : List ℕ) : List ℚ :=
  (List.range width).map fun i => (cpus.map fun cpu => ((perfMetrics cpu).getD []).getD i 0).sum

theorem addCounts_ok {perfMetrics : ℕ → Option (List ℚ)} {width : ℕ} {aggregated next : List ℚ}
    {cpu : ℕ} (added : addCounts perfMetrics width aggregated cpu = .ok next) :
    next = (List.range width).map fun i =>
      aggregated.getD i 0 + ((perfMetrics cpu).getD []).getD i 0 := by
  obtain ⟨values, found, summed⟩ := bind_eq_ok.mp added
  have present : perfMetrics cpu = some values := getKey_eq_ok.mp found
  rw [present, Option.getD_some]
  refine Run.mapM_eq_map (fun i sum entry => ?_) summed
  obtain ⟨total, totalFound, valueAdded⟩ := bind_eq_ok.mp entry
  obtain ⟨value, valueFound, added⟩ := bind_eq_ok.mp valueAdded
  cases added
  rw [List.getD_eq_getElem?_getD, getItem_natCast_eq_ok.mp totalFound,
    List.getD_eq_getElem?_getD, getItem_natCast_eq_ok.mp valueFound]
  rfl

theorem getD_map_range (f : ℕ → ℚ) {width i : ℕ} (within : i < width) :
    ((List.range width).map f).getD i 0 = f i := by
  simp [List.getD_eq_getElem?_getD, List.getElem?_range within]

/-- The loop over the CPUs: each total is its start plus the CPUs' counts. -/
theorem foldlM_addCounts_ok {perfMetrics : ℕ → Option (List ℚ)} {width : ℕ} :
    ∀ {cpus : List ℕ} {aggregated out : List ℚ}, aggregated.length = width →
      cpus.foldlM (addCounts perfMetrics width) aggregated = .ok out →
      out = (List.range width).map fun i =>
        aggregated.getD i 0 + (cpus.map fun cpu => ((perfMetrics cpu).getD []).getD i 0).sum := by
  intro cpus
  induction cpus with
  | nil =>
      intro aggregated out sized folded
      cases folded
      refine List.ext_getElem (by simp [sized]) fun i inRange _ => ?_
      simp [List.getD_eq_getElem?_getD, List.getElem?_eq_getElem inRange]
  | cons cpu rest ih =>
      intro aggregated out sized folded
      rw [List.foldlM_cons] at folded
      obtain ⟨next, added, later⟩ := bind_eq_ok.mp folded
      rw [addCounts_ok added] at later
      rw [ih (by simp) later]
      refine List.map_congr_left fun i member => ?_
      rw [getD_map_range _ (List.mem_range.mp member), List.map_cons, List.sum_cons, add_assoc]

/-- `aggregated_perf_metrics` is the sum of the CPUs' counts. -/
theorem aggregatePerf_ok {perfMetrics : ℕ → Option (List ℚ)} {width : ℕ} {cpus : List ℕ}
    {out : List ℚ} (summed : aggregatePerf perfMetrics width cpus = .ok out) :
    out = perfSum perfMetrics width cpus := by
  rw [foldlM_addCounts_ok List.length_replicate summed, perfSum]
  refine List.map_congr_left fun i member => ?_
  simp [List.getD_eq_getElem?_getD, List.mem_range.mp member]

theorem row_end_le (metricsPerCpu : ℕ) {cpuCount cpu : ℕ} (inRange : cpu < cpuCount) :
    cpu * metricsPerCpu + metricsPerCpu ≤ metricsPerCpu * cpuCount := by
  have rows := Nat.mul_le_mul_right metricsPerCpu (Nat.succ_le_of_lt inRange)
  rw [Nat.succ_mul, Nat.mul_comm cpuCount] at rows
  exact rows

/-- The row of a CPU in a table of `cpu_count` rows: `metrics_per_cpu`
entries from `cpu * metrics_per_cpu`. -/
theorem slice_row {metricsPerCpu cpuCount cpu : ℕ} {coreMetrics : List Cell}
    (inRange : cpu < cpuCount) (measured : coreMetrics.length = metricsPerCpu * cpuCount) :
    slice coreMetrics (cpu * metricsPerCpu : ℕ) ((cpu * metricsPerCpu : ℕ) + (metricsPerCpu : ℤ)) =
        (coreMetrics.take (cpu * metricsPerCpu + metricsPerCpu)).drop (cpu * metricsPerCpu) ∧
      ((coreMetrics.take (cpu * metricsPerCpu + metricsPerCpu)).drop
        (cpu * metricsPerCpu)).length = metricsPerCpu := by
  have rowEnd := row_end_le metricsPerCpu inRange
  refine ⟨by rw [← Nat.cast_add, slice_natCast (by omega) (by omega)], ?_⟩
  simp only [List.length_drop, List.length_take]
  omega

/-- The row written for a CPU of the table is its `metrics_per_cpu` measured
entries. -/
theorem writeRow_eq {metricsPerCpu cpuCount : ℕ} {coreMetrics : List Cell} (app : List Cell)
    {cpu : ℕ} (inRange : cpu < cpuCount) (measured : coreMetrics.length = metricsPerCpu * cpuCount) :
    writeRow metricsPerCpu coreMetrics app cpu =
      assignSlice app (cpu * metricsPerCpu : ℕ) ((cpu * metricsPerCpu : ℕ) + (metricsPerCpu : ℤ))
        ((coreMetrics.take (cpu * metricsPerCpu + metricsPerCpu)).drop (cpu * metricsPerCpu)) := by
  unfold writeRow
  simp only
  rw [(slice_row inRange measured).1]

theorem length_writeRow {metricsPerCpu cpuCount : ℕ} {coreMetrics app : List Cell} {cpu : ℕ}
    (inRange : cpu < cpuCount) (measured : coreMetrics.length = metricsPerCpu * cpuCount)
    (wide : metricsPerCpu * cpuCount ≤ app.length) :
    (writeRow metricsPerCpu coreMetrics app cpu).length = app.length := by
  have rowEnd := row_end_le metricsPerCpu inRange
  rw [writeRow_eq app inRange measured,
    length_assignSlice (by omega) (slice_row inRange measured).2]

theorem writeRow_getElem? {metricsPerCpu cpuCount : ℕ} {coreMetrics app : List Cell} {cpu : ℕ}
    (inRange : cpu < cpuCount) (measured : coreMetrics.length = metricsPerCpu * cpuCount)
    (wide : metricsPerCpu * cpuCount ≤ app.length) {j : ℕ}
    (inTable : j < metricsPerCpu * cpuCount) :
    (writeRow metricsPerCpu coreMetrics app cpu)[j]? =
      if j / metricsPerCpu = cpu then coreMetrics[j]? else app[j]? := by
  have positive : 0 < metricsPerCpu :=
    Nat.pos_of_mul_pos_right (by omega : 0 < metricsPerCpu * cpuCount)
  have rowEnd := row_end_le metricsPerCpu inRange
  rw [writeRow_eq app inRange measured,
    getElem?_assignSlice (by omega) (slice_row inRange measured).2]
  -- `j` is in the CPU's row exactly when `j / metrics_per_cpu` is the CPU
  by_cases inRow : j / metricsPerCpu = cpu
  · have bounds : cpu * metricsPerCpu ≤ j ∧ j < cpu * metricsPerCpu + metricsPerCpu := by
      rw [Nat.div_eq_iff positive] at inRow
      omega
    rw [if_pos bounds, if_pos inRow, List.getElem?_drop, List.getElem?_take_of_lt (by omega),
      Nat.add_sub_cancel' bounds.1]
  · have bounds : ¬(cpu * metricsPerCpu ≤ j ∧ j < cpu * metricsPerCpu + metricsPerCpu) :=
      fun bounds => inRow ((Nat.div_eq_iff positive).mpr (by omega))
    rw [if_neg bounds, if_neg inRow]

/-- The loop over the group's CPUs: a position of the table holds the
measured entry when its row is one of the group's CPUs, and the idle entry
otherwise. -/
theorem foldl_writeRow {metricsPerCpu cpuCount : ℕ} {coreMetrics : List Cell}
    (measured : coreMetrics.length = metricsPerCpu * cpuCount) :
    ∀ {cpus : List ℕ} {app : List Cell}, (∀ cpu ∈ cpus, cpu < cpuCount) →
      metricsPerCpu * cpuCount ≤ app.length →
      (cpus.foldl (writeRow metricsPerCpu coreMetrics) app).length = app.length ∧
      ∀ j < metricsPerCpu * cpuCount, (cpus.foldl (writeRow metricsPerCpu coreMetrics) app)[j]? =
        if j / metricsPerCpu ∈ cpus then coreMetrics[j]? else app[j]? := by
  intro cpus
  induction cpus with
  | nil => exact fun _ _ => ⟨rfl, fun j _ => by simp⟩
  | cons cpu rest ih =>
      intro app inRange wide
      have sameLength := length_writeRow (inRange cpu List.mem_cons_self) measured wide
      obtain ⟨restLength, restEntries⟩ :=
        ih (fun other member => inRange other (List.mem_cons_of_mem cpu member)) (sameLength ▸ wide)
      refine ⟨restLength.trans sameLength, fun j inTable => ?_⟩
      rw [List.foldl_cons, restEntries j inTable,
        writeRow_getElem? (inRange cpu List.mem_cons_self) measured wide inTable]
      by_cases inRest : j / metricsPerCpu ∈ rest
      · simp [inRest]
      · by_cases isCpu : j / metricsPerCpu = cpu <;> simp [inRest, isCpu]

theorem appFeatures_layout {metricsPerCpu cpuCount : ℕ} {baseIdle coreMetrics : List Cell}
    {temps aggregated : List ℚ} {cpus : List ℕ}
    (measured : coreMetrics.length = metricsPerCpu * cpuCount) (tempsSized : temps.length = cpuCount)
    (trainingWidth : baseIdle.length = metricsPerCpu * cpuCount + cpuCount + aggregated.length)
    (inRange : ∀ cpu ∈ cpus, cpu < cpuCount) :
    appFeatures metricsPerCpu cpuCount baseIdle coreMetrics temps aggregated cpus =
      (cpus.foldl (writeRow metricsPerCpu coreMetrics) baseIdle).take (metricsPerCpu * cpuCount) ++
        temps.map .num ++ aggregated.map .num := by
  have wide : metricsPerCpu * cpuCount ≤ baseIdle.length := by omega
  obtain ⟨rowsLength, -⟩ := foldl_writeRow measured inRange wide
  set rows := cpus.foldl (writeRow metricsPerCpu coreMetrics) baseIdle
  -- the temperatures replace a slice of `cpu_count` entries with as many
  have withTemps : assignSlice rows (metricsPerCpu * cpuCount : ℕ)
      (metricsPerCpu * cpuCount + cpuCount : ℕ) (temps.map .num) =
      rows.take (metricsPerCpu * cpuCount) ++ temps.map .num ++
        rows.drop (metricsPerCpu * cpuCount + cpuCount) :=
    assignSlice_natCast (by omega) (by omega)
  have tempsLength : (rows.take (metricsPerCpu * cpuCount) ++ temps.map Cell.num ++
      rows.drop (metricsPerCpu * cpuCount + cpuCount)).length =
      metricsPerCpu * cpuCount + cpuCount + aggregated.length := by
    simp only [List.length_append, List.length_take, List.length_map, List.length_drop]
    omega
  unfold appFeatures
  simp only
  have blocksLength : (rows.take (metricsPerCpu * cpuCount) ++ temps.map Cell.num).length =
      metricsPerCpu * cpuCount + cpuCount := by
    simp only [List.length_append, List.length_take, List.length_map]
    omega
  -- the perf counts then replace the rest, which has as many entries
  rw [← Nat.cast_mul, withTemps, assignSlice_natCast (by omega) (by omega),
    List.take_left' blocksLength, List.drop_eq_nil_of_le (by omega), List.append_nil]

theorem measurementFeatures_ok {info cpupower idleData : List Char} {cpuCount : ℕ}
    {perfMetrics : ℕ → Option (List ℚ)} {temps : List ℚ} {groups : List (List Char × List ℕ)}
    {ref : List Cell} {apps : List (List Char × List Cell)}
    (ran : measurementFeatures info cpuCount cpupower perfMetrics temps idleData groups =
      .ok (ref, apps)) :
    ∃ c0Index metricsPerCpu coreMetrics, parseCpuInfo info = .ok (c0Index, metricsPerCpu) ∧
      attrParseCpuData cpupower = .ok coreMetrics ∧
      ref = coreMetrics ++ temps.map .num ++
        (perfSum perfMetrics ((perfMetrics 0).getD []).length (List.range cpuCount)).map .num ∧
      apps = groups.map fun group => (group.1, appFeatures metricsPerCpu cpuCount
        (((split ',' idleData).dropLast).map .str) coreMetrics temps
        (perfSum perfMetrics ((perfMetrics 0).getD []).length group.2) group.2) := by
  unfold measurementFeatures at ran
  obtain ⟨⟨c0Index, metricsPerCpu⟩, header, ran⟩ := bind_eq_ok.mp ran
  obtain ⟨coreMetrics, measured, ran⟩ := bind_eq_ok.mp ran
  obtain ⟨_, -, ran⟩ := bind_eq_ok.mp ran
  obtain ⟨counts, found, ran⟩ := bind_eq_ok.mp ran
  obtain ⟨aggregated, summed, ran⟩ := bind_eq_ok.mp ran
  obtain ⟨built, grouped, finished⟩ := bind_eq_ok.mp ran
  cases finished
  have present : perfMetrics 0 = some counts := getKey_eq_ok.mp found
  rw [present, Option.getD_some]
  refine ⟨c0Index, metricsPerCpu, coreMetrics, header, measured, by rw [aggregatePerf_ok summed], ?_⟩
  -- each group's counts are its sum, and the rest of the vector is built from them
  refine Run.mapM_eq_map (fun group app groupBuilt => ?_) grouped
  obtain ⟨groupCounts, groupSummed, finished⟩ := bind_eq_ok.mp groupBuilt
  cases finished
  rw [aggregatePerf_ok groupSummed]

theorem length_perfSum (perfMetrics : ℕ → Option (List ℚ)) (width : ℕ) (cpus : List ℕ) :
    (perfSum perfMetrics width cpus).length = width := by
  simp [perfSum]

theorem features_have_model_layout {info cpupower idleData : List Char}
    {cpuCount c0Index metricsPerCpu : ℕ} {perfMetrics : ℕ → Option (List ℚ)} {temps : List ℚ}
    {groups : List (List Char × List ℕ)} {coreMetrics ref : List Cell}
    {apps : List (List Char × List Cell)}
    (header : parseCpuInfo info = .ok (c0Index, metricsPerCpu))
    (measured : attrParseCpuData cpupower = .ok coreMetrics)
    (rowsMeasured : coreMetrics.length = metricsPerCpu * cpuCount)
    (tempsMeasured : temps.length = cpuCount)
    (trainingWidth : ((split ',' idleData).dropLast).length =
      metricsPerCpu * cpuCount + cpuCount + ((perfMetrics 0).getD []).length)
    (groupsInRange : ∀ group ∈ groups, ∀ cpu ∈ group.2, cpu < cpuCount)
    (ran : measurementFeatures info cpuCount cpupower perfMetrics temps idleData groups =
      .ok (ref, apps)) :
    ref = coreMetrics ++ temps.map .num ++
        (perfSum perfMetrics ((perfMetrics 0).getD []).length (List.range cpuCount)).map .num ∧
      List.Forall₂ (fun (app : List Char × List Cell) (group : List Char × List ℕ) =>
          app.1 = group.1 ∧ app.2.length = ref.length ∧
          (∀ j < metricsPerCpu * cpuCount, app.2[j]? =
            if j / metricsPerCpu ∈ group.2 then coreMetrics[j]?
            else (((split ',' idleData).dropLast).map Cell.str)[j]?) ∧
          app.2.drop (metricsPerCpu * cpuCount) = temps.map .num ++
            (perfSum perfMetrics ((perfMetrics 0).getD []).length group.2).map .num)
        apps groups := by
  obtain ⟨c0Read, metricsRead, coreRead, headerRead, measuredRead, refEq, appsEq⟩ :=
    measurementFeatures_ok ran
  rw [header, Except.ok.injEq, Prod.mk.injEq] at headerRead
  obtain ⟨-, rfl⟩ := headerRead
  rw [measured, Except.ok.injEq] at measuredRead
  subst measuredRead
  refine ⟨refEq, ?_⟩
  rw [appsEq, List.forall₂_map_left_iff, List.forall₂_same]
  intro group member
  set baseIdle := ((split ',' idleData).dropLast).map Cell.str
  set width := ((perfMetrics 0).getD []).length
  have idleWidth : baseIdle.length = metricsPerCpu * cpuCount + cpuCount +
      (perfSum perfMetrics width group.2).length := by
    rw [List.length_map, trainingWidth, length_perfSum]
  have wide : metricsPerCpu * cpuCount ≤ baseIdle.length := by omega
  obtain ⟨rowsLength, rowsEntries⟩ := foldl_writeRow rowsMeasured (groupsInRange group member) wide
  have taken : ((group.2.foldl (writeRow metricsPerCpu coreMetrics) baseIdle).take
      (metricsPerCpu * cpuCount)).length = metricsPerCpu * cpuCount := by
    rw [List.length_take, rowsLength]
    omega
  rw [appFeatures_layout rowsMeasured tempsMeasured idleWidth (groupsInRange group member)]
  refine ⟨rfl, ?_, fun j inTable => ?_, ?_⟩
  · -- as long as `ref_features`
    rw [refEq]
    simp only [List.length_append, List.length_map, taken, rowsMeasured, length_perfSum]
  · -- the table rows: measured for the group's CPUs, idle for the others
    rw [List.append_assoc, List.getElem?_append_left (by omega), List.getElem?_take_of_lt inTable,
      rowsEntries j inTable]
  · -- then the temperatures and the group's counts
    rw [List.append_assoc, List.drop_left' taken]

/-- Two CPUs with one field each, two temperatures and one perf event: the
group of CPU 0 is its measured row, the idle row of CPU 1, the temperatures
and CPU 0's count. -/
theorem features_have_model_layout_twoCpus :
    (let perf := fun cpu : ℕ =>
      if cpu = 0 then some [(10 : ℚ)] else if cpu = 1 then some [20] else Option.none
    let ref : List Cell := [.str "5".toList, .str "6".toList, .num 40, .num 41, .num 30]
    let app : List Cell := [.str "5".toList, .str "2".toList, .num 40, .num 41, .num 10]
    measurementFeatures "CPU|C0".toList 2 "CPU|C0\n0|5\n1|6".toList perf [40, 41]
        "1,2,3,4,5,9".toList [("a".toList, [0])] = .ok (ref, [("a".toList, app)]) ∧
      app.length = ref.length ∧ app.drop 2 = [.num 40, .num 41] ++ (perfSum perf 1 [0]).map .num) := by
  intro perf ref app
  have ran : measurementFeatures "CPU|C0".toList 2 "CPU|C0\n0|5\n1|6".toList perf [40, 41]
      "1,2,3,4,5,9".toList [("a".toList, [0])] = .ok (ref, [("a".toList, app)]) := by
    decide +kernel
  have header : parseCpuInfo "CPU|C0".toList = .ok (1, 1) := by
    decide +kernel
  have measured : attrParseCpuData "CPU|C0\n0|5\n1|6".toList =
      .ok [.str "5".toList, .str "6".toList] := by
    decide +kernel
  -- the hypotheses are stated first, so that applying the theorem only matches them
  have rowsMeasured : ([.str "5".toList, .str "6".toList] : List Cell).length = 1 * 2 := rfl
  have tempsMeasured : ([40, 41] : List ℚ).length = 2 := rfl
  have trainingWidth : ((split ',' "1,2,3,4,5,9".toList).dropLast).length =
      1 * 2 + 2 + ((perf 0).getD []).length := by
    decide +kernel
  have groupsInRange : ∀ group ∈ [("a".toList, [0])], ∀ cpu ∈ group.2, cpu < 2 := by
    decide
  obtain ⟨-, layout⟩ := features_have_model_layout header measured rowsMeasured tempsMeasured
    trainingWidth groupsInRange ran
  obtain ⟨⟨-, sameLength, -, blocks⟩, -⟩ := List.forall₂_cons.mp layout
  exact ⟨ran, sameLength, blocks⟩

/-- With one temperature for two CPUs, the temperature slice of two entries
is replaced by one and the perf count lands past the end of the shrunk list:
`app_features` has five entries and `ref_features` four.  With three, the
list grows by one, the count overwrites the third temperature and the idle
map's perf entry is left at the end. -/
theorem features_misplaced_by_temperature_count :
    (let perf := fun cpu : ℕ =>
      if cpu = 0 then some [(10 : ℚ)] else if cpu = 1 then some [20] else Option.none
    measurementFeatures "CPU|C0".toList 2 "CPU|C0\n0|5\n1|6".toList perf [40]
        "1,2,3,4,5,9".toList [("a".toList, [0])] =
      .ok ([.str "5".toList, .str "6".toList, .num 40, .num 30],
        [("a".toList, [.str "5".toList, .str "2".toList, .num 40, .str "5".toList, .num 10])]) ∧
    measurementFeatures "CPU|C0".toList 2 "CPU|C0\n0|5\n1|6".toList perf [40, 41, 42]
        "1,2,3,4,5,9".toList [("a".toList, [0])] =
      .ok ([.str "5".toList, .str "6".toList, .num 40, .num 41, .num 42, .num 30],
        [("a".toList, [.str "5".toList, .str "2".toList, .num 40, .num 41, .num 10,
          .str "5".toList])])) := by
  decide +kernel

end Attribution

end PowerCapping
