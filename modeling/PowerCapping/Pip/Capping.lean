import PowerCapping.Pip.Simulate

/-!
# PIP's throttling and recovery decisions

`strict_power_capping` runs when the measured power is at or above the
budget: a baby step on the user (or, once the user is at 1%, the critical)
cgroup for small violations, otherwise an ML search over lower user throttles
that falls back to 1% for the user and a search on the critical cgroup
(`critical_power_capping`).  `increase_bandwidth` runs when the power is well
below the budget and raises the critical cgroup first, the user cgroup only
once critical is back at 100%.
-/

namespace PowerCapping

namespace Pip

open Py

/-- `TOLERANCE`, in watts. -/
def tolerance : ℚ := 5

/-- How a throttling search ended: with the first accepted throttle and its
trial, or with every candidate rejected and the last one tried (none when
there was no candidate). -/
inductive SearchOutcome
  | found (throttle : ℕ) (trial : Trial)
  | exhausted (last : Option Trial)

/-- `throttleSearch` with its result read as a `SearchOutcome`. -/
def searchOutcome (env : Env) (globals : Globals) (featureMap : List Cell)
    (group : Group) (cores candidates : List ℕ) :
    Except Py.Exception SearchOutcome := do
  let (found, last) ← throttleSearch env globals featureMap group cores 0 Option.none
    candidates
  match found, last with
  | some throttle, some trial => pure (.found throttle trial)
  | _, last => pure (.exhausted last)

/-- The throttle a search outcome applies: the accepted one, else `1`. -/
def SearchOutcome.selected : SearchOutcome → ℕ
  | .found throttle _ => throttle
  | .exhausted _ => 1

/-- `retry` bookkeeping at the start of both ML searches. -/
def bumpRetry (globals : Globals) : Globals :=
  if globals.prev = 1 then { globals with retry := globals.retry + 1 }
  else { globals with retry := 0 }

/-- `critical_power_capping(feature_map)`.  The idle map it reads is
discarded, and its assignment to `current_bandwdith2` (sic) only binds a
local.  The map and prediction it records are those of the last candidate
tried, also when it applies the fallback `1`; with no candidate at all the
recording raises `UnboundLocalError` after the limit is written. -/
def criticalPowerCapping (env : Env) (featureMap : List Cell) : PipM ℕ := do
  modify bumpRetry
  let globals ← get
  let criticalCores := getCriticalCores env
  let outcome ← fromExcept (searchOutcome env globals featureMap .critical
    criticalCores (rangeDown globals.currentBandwidth2 0 5))
  setCpuLimit env .critical outcome.selected criticalCores
  let recorded ← match outcome with
    | .found _ trial => pure trial
    | .exhausted (some trial) => pure trial
    | .exhausted Option.none => throw .unboundLocalError
  modify fun globals => { globals with
    predictiveFeatureMap := recorded.map, prevPrediction := recorded.prediction }
  pure outcome.selected

/-- The baby step of `strict_power_capping`: `5` off below the budget, `10`
off at or above it, never below `1`. -/
def babyStep (globals : Globals) (throttle : ℕ) : ℕ :=
  if globals.actualPower < globals.targetPower then max (throttle - 5) 1
  else max (throttle - 10) 1

/-- The small-violation branch of `strict_power_capping`: a baby step on the
user cgroup, or on the critical cgroup once the user is at 1%. -/
def strictBabyStep (env : Env) : PipM (ℕ × ℕ) := do
  let globals ← get
  if 1 < globals.currentBandwidth then
    let newThrottle := babyStep globals globals.currentBandwidth
    setCpuLimit env .user newThrottle (getUserCores env)
    modify fun globals => { globals with currentBandwidth := newThrottle }
    let globals ← get
    pure (newThrottle, globals.currentBandwidth2)
  else if 1 < globals.currentBandwidth2 then
    let newThrottle := babyStep globals globals.currentBandwidth2
    setCpuLimit env .critical newThrottle (getCriticalCores env)
    modify fun globals => { globals with currentBandwidth2 := newThrottle }
    let globals ← get
    pure (globals.currentBandwidth, newThrottle)
  else pure (globals.currentBandwidth, globals.currentBandwidth2)

/-- The end of `strict_power_capping`'s ML branch: record the accepted trial,
or build the fallback map and run `critical_power_capping` on it; then apply
the throttle to the user cgroup. -/
def applyUserOutcome (env : Env) (featureMap : List Cell) (userCores : List ℕ)
    (outcome : SearchOutcome) : PipM (ℕ × ℕ) := do
  match outcome with
  | .found _ trial =>
      modify fun globals => { globals with
        predictiveFeatureMap := trial.map, prevPrediction := trial.prediction }
  | .exhausted _ =>
      let pinned ← fromExcept (userCores.foldlM (pinCore env 1) featureMap)
      let _ ← criticalPowerCapping env pinned
  setCpuLimit env .user outcome.selected userCores
  let globals ← get
  pure (outcome.selected, globals.currentBandwidth2)

/-- `strict_power_capping(feature_map)`, returning the pair the control loop
assigns to `(current_bandwidth, current_bandwidth2)`. -/
def strictPowerCapping (env : Env) (featureMap : List Cell) : PipM (ℕ × ℕ) := do
  let globals ← get
  if globals.actualPower - globals.targetPower < tolerance then strictBabyStep env
  else
    modify bumpRetry
    let globals ← get
    let userCores := getUserCores env
    let outcome ←
      if 5 < globals.currentBandwidth then
        fromExcept (searchOutcome env globals featureMap .user userCores
          (rangeDown (globals.currentBandwidth - 5) 0 5))
      else pure (.exhausted Option.none)
    applyUserOutcome env featureMap userCores outcome

/-- The new throttle `increase_bandwidth` picks for a group: a `+1` baby step
for a gap under 10 W, otherwise the ML recovery, forced to `+5` when the
recovery finds nothing or the throttle is under 10; capped at 100. -/
def raisedBandwidth (env : Env) (featureMap : List Cell) (group : Group)
    (gap : ℚ) : PipM ℕ := do
  let globals ← get
  if gap < 10 then pure (min (globals.bandwidth group + 1) 100)
  else
    let candidate ← recoverBandwidth env featureMap group
    let globals ← get
    let current := globals.bandwidth group
    if candidate = current ∨ current < 10 then pure (min (min (current + 5) 100) 100)
    else pure (min candidate 100)

/-- `increase_bandwidth(feature_map, gap)`, returning
`(current_bandwidth, current_bandwidth2)`. -/
def increaseBandwidth (env : Env) (featureMap : List Cell) (gap : ℚ) :
    PipM (ℕ × ℕ) := do
  modify fun globals => { globals with usedMap := false }
  let globals ← get
  if globals.currentBandwidth2 < 100 then
    modify fun globals => { globals with currentBandwidth := 1 }
    setCpuLimit env .user 1 (getUserCores env)
    predictFeaturemap env featureMap .user 1
    let newVal ← raisedBandwidth env featureMap .critical gap
    setCpuLimit env .critical newVal (getCriticalCores env)
    predictFeaturemap env featureMap .critical newVal
    modify fun globals => { globals with currentBandwidth2 := newVal }
  else if globals.currentBandwidth < 100 then
    let newVal ← raisedBandwidth env featureMap .user gap
    setCpuLimit env .user newVal (getUserCores env)
    predictFeaturemap env featureMap .user newVal
    modify fun globals => { globals with currentBandwidth := newVal }
  let globals ← get
  pure (globals.currentBandwidth, globals.currentBandwidth2)

@[simp]
theorem currentBandwidth_bumpRetry (globals : Globals) :
    (bumpRetry globals).currentBandwidth = globals.currentBandwidth := by
  unfold bumpRetry
  split <;> rfl

@[simp]
theorem currentBandwidth2_bumpRetry (globals : Globals) :
    (bumpRetry globals).currentBandwidth2 = globals.currentBandwidth2 := by
  unfold bumpRetry
  split <;> rfl

/-- A search applies `1` or one of its candidates. -/
theorem searchOutcome_selected {env : Env} {globals : Globals}
    {featureMap : List Cell} {group : Group} {cores candidates : List ℕ}
    {outcome : SearchOutcome}
    (searched : searchOutcome env globals featureMap group cores candidates =
      .ok outcome) :
    outcome.selected = 1 ∨ outcome.selected ∈ candidates := by
  simp only [searchOutcome, bind, Except.bind] at searched
  rcases found : throttleSearch env globals featureMap group cores 0 Option.none
    candidates with _ | ⟨_ | throttle, _ | trial⟩ <;>
    simp only [found, pure, Except.pure, Except.ok.injEq] at searched
  · cases searched
  all_goals subst searched
  · exact Or.inl rfl
  · exact Or.inl rfl
  · exact Or.inl rfl
  · exact Or.inr (throttleSearch_found_mem found)

/-- `critical_power_capping` applies `1` or a candidate from
`current_bandwidth2` down, and leaves that throttle in `current_bandwidth2`. -/
theorem criticalPowerCapping_ok {env : Env} (readsBack : ReadsBack env .critical)
    {featureMap : List Cell} {globals after : Globals} {selected : ℕ}
    (ran : Py.exec (criticalPowerCapping env featureMap) globals =
      (.ok selected, after)) :
    (selected = 1 ∨ selected ∈ rangeDown globals.currentBandwidth2 0 5) ∧
      after.currentBandwidth2 = selected ∧
      after.currentBandwidth = globals.currentBandwidth := by
  simp only [criticalPowerCapping, Py.exec_bind, Py.exec_modify, Py.exec_get,
    Py.exec_fromExcept, currentBandwidth2_bumpRetry] at ran
  rcases searched : searchOutcome env (bumpRetry globals) featureMap .critical
    (getCriticalCores env) (rangeDown globals.currentBandwidth2 0 5) with
    _ | outcome <;> simp only [searched] at ran
  · cases ran
  · have choice := searchOutcome_selected searched
    simp only [exec_setCpuLimit_critical readsBack] at ran
    rcases outcome with ⟨throttle, trial⟩ | ⟨_ | trial⟩ <;>
      simp only [Py.exec_pure, Py.exec_throw, Py.exec_bind, Py.exec_modify,
        Prod.mk.injEq, Except.ok.injEq, reduceCtorEq, false_and] at ran
    all_goals
      obtain ⟨rfl, rfl⟩ := ran
      exact ⟨choice, rfl, by simp⟩

/-- For a group below 100%, `increase_bandwidth`'s choice is strictly above
the group's throttle and at most 100; no throttle global changes. -/
theorem raisedBandwidth_ok {env : Env} {featureMap : List Cell} {group : Group}
    {gap : ℚ} {globals after : Globals} {newVal : ℕ}
    (ran : Py.exec (raisedBandwidth env featureMap group gap) globals =
      (.ok newVal, after))
    (below : globals.bandwidth group < 100) :
    globals.bandwidth group < newVal ∧ newVal ≤ 100 ∧
      after.bandwidth = globals.bandwidth := by
  unfold raisedBandwidth at ran
  rw [Py.exec_bind_of_ok (Py.exec_get _)] at ran
  split_ifs at ran with smallGap
  · simp only [Py.exec_pure, Prod.mk.injEq, Except.ok.injEq] at ran
    obtain ⟨rfl, rfl⟩ := ran
    exact ⟨by omega, by omega, rfl⟩
  · obtain ⟨candidate, middle, recovered, ran⟩ := Py.exec_bind_ok ran
    obtain ⟨choice, sameThrottles⟩ := recoverBandwidth_ok recovered
    rw [Py.exec_bind_of_ok (Py.exec_get _), sameThrottles] at ran
    dsimp only at ran
    split_ifs at ran with fallback <;>
      simp only [Py.exec_pure, Prod.mk.injEq, Except.ok.injEq] at ran <;>
      obtain ⟨rfl, rfl⟩ := ran
    · exact ⟨by omega, by omega, sameThrottles⟩
    · refine ⟨by omega, by omega, sameThrottles⟩

end Pip

end PowerCapping
