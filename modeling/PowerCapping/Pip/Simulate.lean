import PowerCapping.Pip.Basic

/-!
# Simulating a throttle on a measured feature map

Before applying a throttle, PIP rewrites the measured feature map as the
machine would look under it and asks the power model for a prediction.  The
cpupower block of the map has `core_info_count` fields per logical CPU (C0,
Cx, Freq, and the idle states); the controller rewrites the fields of the
cgroup's cores, then scales every perf metric by the throttle ratio and a
learned per-metric sensitivity (`update_feature_map_generic`).

The per-core rewrites are written inline in the source, three times for a
lower throttle and twice for a higher one; here each is one function over a
core, and the loops fold it over the cgroup's cores with the running count of
rewritten cores.  The candidate loops of the searches keep that count across
candidates, as the source does.
-/

namespace PowerCapping

namespace Pip

open Py

/-- The cell `100 - throttle`. -/
def idleShare (throttle : ℕ) : Cell :=
  .num (100 - (throttle : ℚ))

/-- One core of the rewrite for a throttle at or below the current one: C0 is
capped at the throttle, Cx and the sixth field are raised to `100 - throttle`
where they are lower, and the core is counted when its Cx was raised. -/
def throttleCore (env : Env) (throttle : ℕ) (state : List Cell × ℕ) (core : ℕ) :
    Except Py.Exception (List Cell × ℕ) := do
  let (map, count) := state
  let idx := core * env.coreInfoCount
  if idx < env.topolSize then
    let c0 ← floatAt map idx
    let map ← setAt map idx (.num (min c0 throttle))
    let (map, count) ←
      if idx + 1 < env.topolSize then do
        let cx ← floatAt map (idx + 1)
        if cx < 100 - (throttle : ℚ) then
          let map ← setAt map (idx + 1) (idleShare throttle)
          pure (map, count + 1)
        else pure (map, count)
      else pure (map, count)
    if idx + 5 < env.topolSize then do
      let idle ← floatAt map (idx + 5)
      if idle < 100 - (throttle : ℚ) then
        let map ← setAt map (idx + 5) (idleShare throttle)
        let map ← setAt map (idx + 2) (strNat env.maxFreq)
        pure (map, count)
      else pure (map, count)
    else pure (map, count)
  else pure (map, count)

/-- One core of the rewrite for a higher throttle: a core whose C0 is at least
`threshold` gets C0 raised to the candidate, Cx and the sixth field set to
`100 - candidate`, Freq set to `str(max_freq)`, and is counted. -/
def boostCore (env : Env) (threshold candidate : ℕ) (state : List Cell × ℕ)
    (core : ℕ) : Except Py.Exception (List Cell × ℕ) := do
  let (map, count) := state
  let idx := core * env.coreInfoCount
  if idx < env.topolSize then
    let c0 ← floatAt map idx
    if (threshold : ℚ) ≤ c0 then
      let map ← setAt map idx (.num (max c0 candidate))
      let map ← setAt map (idx + 1) (idleShare candidate)
      let map ← setAt map (idx + 5) (idleShare candidate)
      let map ← setAt map (idx + 2) (strNat env.maxFreq)
      pure (map, count + 1)
    else pure (map, count)
  else pure (map, count)

/-- One core of `strict_power_capping`'s fallback map: the core's fields are
overwritten with the strings of the fallback throttle. -/
def pinCore (env : Env) (throttle : ℕ) (map : List Cell) (core : ℕ) :
    Except Py.Exception (List Cell) := do
  let idx := core * env.coreInfoCount
  if idx < env.topolSize then
    let map ← setAt map idx (strNat throttle)
    let map ← setAt map (idx + 1) (strNat (100 - throttle))
    let map ← setAt map (idx + 5) (strNat (100 - throttle))
    setAt map (idx + 2) (strNat env.maxFreq)
  else pure map

/-- The simulated value of one perf metric. -/
def simulateMetric (availRatio ratio sensitivity base : ℚ) : ℚ :=
  base * ((1 - availRatio) + availRatio * (1 + sensitivity * (ratio - 1)))

/-- The loop of `update_feature_map_generic` from position `index` on:
entries before `directSize` are kept, later ones are converted with `float`
and scaled. -/
def scaleMetrics (adjust : ℕ → Option ℚ) (directSize : ℕ) (availRatio ratio : ℚ) :
    ℕ → List Cell → Except Py.Exception (List Cell)
  | _, [] => pure []
  | index, cell :: rest => do
      let head ←
        if index < directSize then pure cell
        else do
          let base ← cell.toFloat
          pure (.num (simulateMetric availRatio ratio ((adjust index).getD 0) base))
      let tail ← scaleMetrics adjust directSize availRatio ratio (index + 1) rest
      pure (head :: tail)

/-- `update_feature_map_generic(feature_map, future_throttle, direct_size,
available_cores, group)`. -/
def updateFeatureMapGeneric (env : Env) (globals : Globals) (featureMap : List Cell)
    (futureThrottle directSize availableCores : ℕ) (group : Group) :
    Except Py.Exception (List Cell) := do
  let currBandwidth := globals.bandwidth group
  if env.numCores = 0 then throw .zeroDivisionError
  let availRatio : ℚ := availableCores / env.numCores
  if currBandwidth = 0 then throw .zeroDivisionError
  let ratio : ℚ := futureThrottle / currBandwidth
  scaleMetrics globals.adjustmentRatio directSize availRatio ratio 0 featureMap

/-- The simulated value is the measured one scaled by `1 - a·s·(1 - r)`. -/
theorem simulateMetric_eq (availRatio ratio sensitivity base : ℚ) :
    simulateMetric availRatio ratio sensitivity base =
      base * (1 - availRatio * sensitivity * (1 - ratio)) := by
  unfold simulateMetric
  ring

/-- A positive measured value is simulated between `0` and itself exactly
when the shrink `a·s·(1 - r)` is between `0` and `1`. -/
theorem simulateMetric_between_iff {availRatio ratio sensitivity base : ℚ}
    (positive : 0 < base) :
    (0 ≤ simulateMetric availRatio ratio sensitivity base ∧
        simulateMetric availRatio ratio sensitivity base ≤ base) ↔
      0 ≤ availRatio * sensitivity * (1 - ratio) ∧ availRatio * sensitivity * (1 - ratio) ≤ 1 := by
  -- `0 ≤ base·(1 - x) ≤ base` is `0 ≤ 1 - x ≤ 1`, which is `x ≤ 1` and `0 ≤ x`
  rw [simulateMetric_eq, mul_nonneg_iff_of_pos_left positive, mul_le_iff_le_one_right positive,
    sub_nonneg, sub_le_self_iff, and_comm]

/-- One iteration of the loop of `update_feature_map_generic`. -/
theorem scaleMetrics_cons_ok {adjust : ℕ → Option ℚ} {directSize index : ℕ}
    {availRatio ratio : ℚ} {cell : Cell} {rest out : List Cell}
    (ran : scaleMetrics adjust directSize availRatio ratio index (cell :: rest) = .ok out) :
    ∃ head tail, out = head :: tail ∧
      scaleMetrics adjust directSize availRatio ratio (index + 1) rest = .ok tail ∧
      (index < directSize → head = cell) ∧
      (directSize ≤ index → ∃ base, cell.toFloat = .ok base ∧
        head = .num (simulateMetric availRatio ratio ((adjust index).getD 0) base)) := by
  rw [scaleMetrics] at ran
  by_cases direct : index < directSize
  · simp only [direct, if_true, pure_bind, bind_eq_ok] at ran
    obtain ⟨tail, tailOk, built⟩ := ran
    cases built
    exact ⟨cell, tail, rfl, tailOk, fun _ => rfl, fun atLeast => absurd direct (by omega)⟩
  · simp only [direct, if_false, pure_bind, bind_eq_ok] at ran
    obtain ⟨base, converted, tail, tailOk, built⟩ := ran
    cases built
    exact ⟨_, tail, rfl, tailOk, fun below => absurd below direct,
      fun _ => ⟨base, converted, rfl⟩⟩

/-- The loop of `update_feature_map_generic` keeps the entries before
`directSize` and replaces every later one by its simulated value. -/
theorem scaleMetrics_ok {adjust : ℕ → Option ℚ} {directSize : ℕ} {availRatio ratio : ℚ} :
    ∀ {index : ℕ} {cells out : List Cell},
      scaleMetrics adjust directSize availRatio ratio index cells = .ok out →
      out.length = cells.length ∧ ∀ k (inRange : k < cells.length),
        (index + k < directSize → out[k]? = some cells[k]) ∧
        (directSize ≤ index + k → ∃ base, cells[k].toFloat = .ok base ∧
          out[k]? = some (.num (simulateMetric availRatio ratio
            ((adjust (index + k)).getD 0) base))) := by
  intro index cells
  induction cells generalizing index with
  | nil =>
      intro out ran
      cases ran
      exact ⟨rfl, fun k inRange => absurd inRange (Nat.not_lt_zero k)⟩
  | cons cell rest ih =>
      intro out ran
      obtain ⟨head, tail, rfl, tailOk, kept, scaled⟩ := scaleMetrics_cons_ok ran
      obtain ⟨sameLength, entries⟩ := ih tailOk
      refine ⟨by simp [sameLength], fun k inRange => ?_⟩
      cases k with
      | zero =>
          refine ⟨fun below => by simp [kept below], fun atLeast => ?_⟩
          obtain ⟨base, converted, rfl⟩ := scaled atLeast
          exact ⟨base, converted, rfl⟩
      | succ k =>
          have later := entries k (by simpa using inRange)
          rw [show index + 1 + k = index + (k + 1) by omega] at later
          exact later

/-- Every perf metric of a map `update_feature_map_generic` returns is the
measured value scaled by `1 - a·s·(1 - r)`, with `a` the share of rewritten
cores, `s` the metric's sensitivity and `r` the ratio of the candidate to
the group's throttle; for a positive measured value it lies between `0` and
that value exactly when `a·s·(1 - r)` lies between `0` and `1`. -/
theorem updateFeatureMapGeneric_metric {env : Env} {globals : Globals}
    {featureMap out : List Cell} {futureThrottle directSize availableCores : ℕ} {group : Group}
    (ran : updateFeatureMapGeneric env globals featureMap futureThrottle directSize
      availableCores group = .ok out)
    {k : ℕ} (inRange : k < featureMap.length) (metric : directSize ≤ k) :
    let shrink := (availableCores / env.numCores : ℚ) * (globals.adjustmentRatio k).getD 0 *
      (1 - futureThrottle / globals.bandwidth group)
    ∃ base simulated, featureMap[k].toFloat = .ok base ∧ out[k]? = some (.num simulated) ∧
      simulated = base * (1 - shrink) ∧
      (0 < base → (0 ≤ simulated ∧ simulated ≤ base ↔ 0 ≤ shrink ∧ shrink ≤ 1)) := by
  intro shrink
  unfold updateFeatureMapGeneric at ran
  simp only at ran
  -- a zero core count or throttle raises; otherwise the loop runs from index 0
  split_ifs at ran with noCores noBandwidth
  · cases ran
  · cases ran
  · cases ran
  obtain ⟨base, converted, scaled⟩ := ((scaleMetrics_ok ran).2 k inRange).2 (by omega)
  rw [Nat.zero_add] at scaled
  exact ⟨base, _, converted, scaled, simulateMetric_eq _ _ _ _,
    fun positive => simulateMetric_between_iff positive⟩

/-- The smoothing `update_adjustment` is called with (its default). -/
def adjustmentSmoothing : ℚ := 4 / 5

/-- One index of `update_adjustment`: the sensitivity of metric `index`
becomes the smoothed ratio of measured to predicted value, or `0.0` when the
prediction was zero. -/
def adjustSensitivity (smoothing : ℚ) (predictiveMap actualMap : List Cell)
    (index : ℕ) : PipM Unit := do
  let pred ← fromExcept (floatAt predictiveMap index)
  if pred ≠ 0 then
    let newSens := (← fromExcept (floatAt actualMap index)) / pred
    modify fun globals => { globals with
      adjustmentRatio := Function.update globals.adjustmentRatio index
        (some (match globals.adjustmentRatio index with
          | some old => smoothing * old + (1 - smoothing) * newSens
          | Option.none => newSens)) }
  else
    modify fun globals => { globals with
      adjustmentRatio := Function.update globals.adjustmentRatio index (some 0) }

/-- `update_adjustment(predictive_map, actual_map, direct_size)`.  The global
dictionary is updated index by index, so an exception part-way keeps the
sensitivities already written. -/
def updateAdjustment (predictiveMap actualMap : List Cell) (directSize : ℕ) :
    PipM Unit :=
  forM (List.range' directSize (actualMap.length - directSize))
    (adjustSensitivity adjustmentSmoothing predictiveMap actualMap)

theorem exec_adjustSensitivity_globals (smoothing : ℚ)
    (predictiveMap actualMap : List Cell) (index : ℕ) (globals : Globals) :
    ∃ ratio, (Py.exec (adjustSensitivity smoothing predictiveMap actualMap index)
      globals).2 = { globals with adjustmentRatio := ratio } := by
  unfold adjustSensitivity
  rcases floatAt predictiveMap index with _ | pred
  · exact ⟨globals.adjustmentRatio, rfl⟩
  simp only [Py.exec_bind, Py.exec_fromExcept]
  split_ifs
  · rcases floatAt actualMap index with _ | actual
    · exact ⟨globals.adjustmentRatio, rfl⟩
    · exact ⟨_, rfl⟩
  · exact ⟨_, rfl⟩

/-- `update_adjustment` writes no global but `adjustment_ratio`, whether or
not it raises. -/
theorem exec_updateAdjustment_globals (predictiveMap actualMap : List Cell)
    (directSize : ℕ) (globals : Globals) :
    ∃ ratio, (Py.exec (updateAdjustment predictiveMap actualMap directSize)
      globals).2 = { globals with adjustmentRatio := ratio } := by
  unfold updateAdjustment
  generalize List.range' directSize (actualMap.length - directSize) = indices
  induction indices generalizing globals with
  | nil => exact ⟨globals.adjustmentRatio, rfl⟩
  | cons index rest ih =>
      obtain ⟨ratio, adjusted⟩ := exec_adjustSensitivity_globals adjustmentSmoothing
        predictiveMap actualMap index globals
      rw [List.forM_cons, Py.exec_bind]
      split
      · obtain ⟨later, continued⟩ := ih (Py.exec (adjustSensitivity adjustmentSmoothing
          predictiveMap actualMap index) globals).2
        rw [continued, adjusted]
        exact ⟨later, rfl⟩
      · rw [adjusted]
        exact ⟨ratio, rfl⟩

/-- The map `predict_featuremap(feature_map, group, candidate)` builds.  For a
candidate above the group's throttle the cores are selected by comparing C0
with `current_bandwidth`, the user cgroup's throttle, whichever group is
simulated. -/
def predictFeaturemapMap (env : Env) (globals : Globals) (featureMap : List Cell)
    (group : Group) (candidate : ℕ) : Except Py.Exception (List Cell) := do
  let cpus := groupCores env group
  let (map, count) ←
    if globals.bandwidth group < candidate then
      cpus.foldlM (boostCore env globals.currentBandwidth candidate) (featureMap, 0)
    else cpus.foldlM (throttleCore env candidate) (featureMap, 0)
  updateFeatureMapGeneric env globals map candidate env.directMetricsSize count group

/-- `predict_featuremap(feature_map, group, candidate)`.  It sets `used_map`
and builds the simulated map; its prediction is assigned to the local names
`prev_prediction` and `predictive_feature_map` (the function declares only
`used_map` global), so the globals of those names keep their values. -/
def predictFeaturemap (env : Env) (featureMap : List Cell) (group : Group)
    (candidate : ℕ) : PipM Unit := do
  modify fun globals => { globals with usedMap := true }
  let globals ← get
  let _ ← fromExcept (predictFeaturemapMap env globals featureMap group candidate)
  pure ()

/-- The candidate loop of `recover_bandwidth` from a given core count: the
first candidate whose offset prediction is at most `target_power +
calibration_offset`. -/
def recoverSearch (env : Env) (globals : Globals) (featureMap : List Cell)
    (group : Group) (cpus : List ℕ) :
    ℕ → List ℕ → Except Py.Exception (Option ℕ)
  | _, [] => pure Option.none
  | count, candidate :: rest => do
      let (map, count) ←
        cpus.foldlM (boostCore env (globals.bandwidth group) candidate) (featureMap, count)
      let map ← updateFeatureMapGeneric env globals map candidate
        env.directMetricsSize count group
      let prediction := env.predict map + globals.calibrationOffset
      if prediction ≤ globals.targetPower + globals.calibrationOffset then
        pure (some candidate)
      else recoverSearch env globals featureMap group cpus count rest

/-- `recover_bandwidth(feature_map, group)`: the first of `100, 95, …` above the
group's throttle that the search accepts, else the throttle itself. -/
def recoverBandwidth (env : Env) (featureMap : List Cell) (group : Group) :
    PipM ℕ := do
  let globals ← get
  let currentVal := globals.bandwidth group
  let found ← fromExcept (recoverSearch env globals featureMap group
    (groupCores env group) 0 (rangeDown 100 currentVal 5))
  match found with
  | some candidate =>
      modify fun globals => { globals with usedMap := true }
      pure candidate
  | Option.none => pure currentVal

/-- A candidate tried by a throttling search: its simulated map and raw model
prediction. -/
structure Trial where
  map : List Cell
  prediction : ℚ

/-- The candidate loop of `critical_power_capping` and of the ML search of
`strict_power_capping`: the first throttle whose calibrated prediction is at
most `target_power`, together with the last candidate tried. -/
def throttleSearch (env : Env) (globals : Globals) (featureMap : List Cell)
    (group : Group) (cores : List ℕ) :
    ℕ → Option Trial → List ℕ → Except Py.Exception (Option ℕ × Option Trial)
  | _, last, [] => pure (Option.none, last)
  | count, _, throttle :: rest => do
      let (map, count) ← cores.foldlM (throttleCore env throttle) (featureMap, count)
      let map ← updateFeatureMapGeneric env globals map throttle
        env.directMetricsSize count group
      let prediction := env.predict map
      if prediction + globals.calibrationOffset ≤ globals.targetPower then
        pure (some throttle, some ⟨map, prediction⟩)
      else
        throttleSearch env globals featureMap group cores count
          (some ⟨map, prediction⟩) rest

@[simp]
theorem Globals.bandwidth_usedMap (globals : Globals) (flag : Bool) :
    ({ globals with usedMap := flag } : Globals).bandwidth = globals.bandwidth := by
  funext group
  cases group <;> rfl

/-- `predict_featuremap` changes no global but `used_map`, whether or not it
raises. -/
theorem exec_predictFeaturemap_globals (env : Env) (featureMap : List Cell)
    (group : Group) (candidate : ℕ) (globals : Globals) :
    (Py.exec (predictFeaturemap env featureMap group candidate) globals).2 =
      { globals with usedMap := true } := by
  simp only [predictFeaturemap, Py.exec_bind, Py.exec_modify, Py.exec_get,
    Py.exec_fromExcept]
  split <;> rfl

/-- A sequence through `predict_featuremap` that returned normally continues
from the globals with `used_map` set. -/
theorem predictFeaturemap_bind_ok {β : Type} {env : Env} {featureMap : List Cell}
    {group : Group} {candidate : ℕ} {rest : Unit → PipM β} {globals last : Globals}
    {result : β}
    (ran : Py.exec (predictFeaturemap env featureMap group candidate >>= rest) globals =
      (.ok result, last)) :
    Py.exec (rest ()) { globals with usedMap := true } = (.ok result, last) := by
  obtain ⟨_, middle, predicted, continued⟩ := Py.exec_bind_ok ran
  have after := exec_predictFeaturemap_globals env featureMap group candidate globals
  rw [predicted] at after
  subst after
  exact continued

theorem recoverSearch_mem {env : Env} {globals : Globals} {featureMap : List Cell}
    {group : Group} {cpus : List ℕ} {count candidate : ℕ} {candidates : List ℕ}
    (found : recoverSearch env globals featureMap group cpus count candidates =
      .ok (some candidate)) :
    candidate ∈ candidates := by
  induction candidates generalizing count with
  | nil => cases found
  | cons first rest ih =>
      simp only [recoverSearch, bind, Except.bind] at found
      split at found
      · cases found
      · split at found
        · cases found
        · split at found
          · cases found
            exact List.mem_cons_self
          · exact List.mem_cons_of_mem first (ih found)

/-- `recover_bandwidth` returns the group's throttle or a candidate above it
and at most 100, and changes no throttle global. -/
theorem recoverBandwidth_ok {env : Env} {featureMap : List Cell} {group : Group}
    {globals after : Globals} {candidate : ℕ}
    (ran : Py.exec (recoverBandwidth env featureMap group) globals =
      (.ok candidate, after)) :
    (candidate = globals.bandwidth group ∨
        globals.bandwidth group < candidate ∧ candidate ≤ 100) ∧
      after.bandwidth = globals.bandwidth := by
  simp only [recoverBandwidth, Py.exec_bind, Py.exec_get, Py.exec_fromExcept] at ran
  rcases searched : recoverSearch env globals featureMap group (groupCores env group) 0
    (Py.rangeDown 100 (globals.bandwidth group) 5) with _ | _ | value <;>
    simp only [searched] at ran
  · cases ran
  · simp only [Py.exec_pure, Prod.mk.injEq, Except.ok.injEq] at ran
    obtain ⟨rfl, rfl⟩ := ran
    exact ⟨Or.inl rfl, rfl⟩
  · simp only [Py.exec_bind, Py.exec_modify, Py.exec_pure, Prod.mk.injEq,
      Except.ok.injEq] at ran
    obtain ⟨rfl, rfl⟩ := ran
    have member := recoverSearch_mem searched
    exact ⟨Or.inr (Py.mem_rangeDown (by norm_num) member), by simp⟩

/-- `calibration_offset` is added on both sides of `recover_bandwidth`'s
comparison, so its candidate loop does not depend on it. -/
theorem recoverSearch_calibrationOffset (env : Env) (globals : Globals) (offset : ℚ)
    (featureMap : List Cell) (group : Group) (cpus : List ℕ) (count : ℕ)
    (candidates : List ℕ) :
    recoverSearch env { globals with calibrationOffset := offset } featureMap group cpus
        count candidates =
      recoverSearch env globals featureMap group cpus count candidates := by
  induction candidates generalizing count with
  | nil => rfl
  | cons candidate rest ih =>
      simp only [recoverSearch, add_le_add_iff_right, ih]
      rfl

/-- With an offset of 10 W and a model predicting 95 W for every map,
`recover_bandwidth` lifts a user throttle of 50% to 100% under a 100 W budget,
although no candidate has a calibrated prediction within the budget. -/
theorem recoverBandwidth_offset_cancels :
    (let env := fourCoreEnv fun _ => 95
    let globals := { initialGlobals (fun _ => Option.none) with
      currentBandwidth := 50, calibrationOffset := 10, targetPower := 100 }
    (Py.exec (recoverBandwidth env (List.replicate 28 (.num 0)) .user) globals).1 =
        .ok 100 ∧
      ∀ map, ¬ env.predict map + globals.calibrationOffset ≤ globals.targetPower) := by
  intro env globals
  refine ⟨by decide +kernel, fun map => ?_⟩
  norm_num [env, globals, fourCoreEnv]

theorem throttleSearch_found_mem {env : Env} {globals : Globals}
    {featureMap : List Cell} {group : Group} {cores : List ℕ} {count throttle : ℕ}
    {last found : Option Trial} {candidates : List ℕ}
    (searched : throttleSearch env globals featureMap group cores count last candidates =
      .ok (some throttle, found)) :
    throttle ∈ candidates := by
  induction candidates generalizing count last with
  | nil => cases searched
  | cons first rest ih =>
      simp only [throttleSearch, bind, Except.bind] at searched
      split at searched
      · cases searched
      · split at searched
        · cases searched
        · split at searched
          · cases searched
            exact List.mem_cons_self
          · exact List.mem_cons_of_mem first (ih searched)

/-- A perf metric measured at 10 on a four-core machine.  Once a prediction of
1 is met by a measurement of 10, its sensitivity is 10, and
`predict_featuremap` simulates the user cgroup at 50% as
`10 · (1 - ½ · 10 · ½) = -15`.  With sensitivity 1 (a prediction that was
right), `critical_power_capping` under a model that rejects every candidate
carries the count of rewritten cores from candidate to candidate: at its last
candidate, 5%, 38 cores have been counted on a four-core machine, and the
metric is simulated as `10 · (1 - 38/4 · 0.95) = -80.25`. -/
theorem simulated_counters_leave_range :
    (let env := fourCoreEnv fun _ => 200
    let measured := List.replicate 28 (Cell.num 0) ++ [Cell.num 10]
    let sensitive := (Py.exec (updateAdjustment (List.replicate 28 (Cell.num 0) ++ [Cell.num 1])
      measured 28) (initialGlobals fun _ => Option.none)).2
    let exact := (Py.exec (updateAdjustment measured measured 28)
      (initialGlobals fun _ => Option.none)).2
    sensitive.adjustmentRatio 28 = some 10 ∧
      (predictFeaturemapMap env sensitive measured .user 50).map (fun map => map[28]?) =
        .ok (some (.num (-15))) ∧
      exact.adjustmentRatio 28 = some 1 ∧
      (throttleSearch env exact measured .critical (getCriticalCores env) 0 Option.none
        (rangeDown 100 0 5)).map (fun result => result.2.map fun trial => trial.map[28]?) =
        .ok (some (some (.num (-321 / 4))))) := by
  decide +kernel

end Pip

end PowerCapping
