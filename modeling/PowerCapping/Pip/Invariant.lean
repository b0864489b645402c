import PowerCapping.Pip.Loop
import PowerCapping.Lib.Frame
import PowerCapping.Lib.Run
import PowerCapping.Lib.Priority

/-!
# The throttle invariant of PIP

Both throttles stay in `1..100`, and the critical cgroup is below 100% only
while the user cgroup sits at its 1% floor.  The second conjunct is inductive
only together with the range conjuncts: a baby step on the user cgroup is
taken only when the user is above 1%, which by the invariant means critical
is at 100%, and the recovery of the user cgroup starts only once critical is
back at 100%.

Each decision function gets a lemma saying that the pair it returns, from a
state satisfying the invariant, is reached by the moves of the abstract
priority controller (`Priority.Move`); the loop lemma combines them, and
`Run.Reachable.invariant` lifts it to every run in which no control step
raises, so that PIP refines the abstract controller and keeps its invariant.
The environment is assumed to read back every `set_cpu_limit` (`ReadsBack`).
-/

namespace PowerCapping

namespace Pip

open Py Parse

/-- The throttle invariant on a `(current_bandwidth, current_bandwidth2)`
pair. -/
structure ThrottleInvariant (user critical : ℕ) : Prop where
  user_pos : 1 ≤ user
  user_le : user ≤ 100
  critical_pos : 1 ≤ critical
  critical_le : critical ≤ 100
  user_floor : critical < 100 → user = 1

theorem ThrottleInvariant.priority {user critical : ℕ}
    (invariant : ThrottleInvariant user critical) : Priority.Invariant 1 100 user critical :=
  ⟨invariant.user_pos, invariant.user_le, invariant.critical_pos, invariant.critical_le,
    invariant.user_floor⟩

theorem ThrottleInvariant.of_priority {user critical : ℕ}
    (invariant : Priority.Invariant 1 100 user critical) : ThrottleInvariant user critical :=
  ⟨invariant.low_first, invariant.first_high, invariant.low_second, invariant.second_high,
    invariant.floor⟩

/-- The invariant on the globals. -/
def Globals.Throttled (globals : Globals) : Prop :=
  ThrottleInvariant globals.currentBandwidth globals.currentBandwidth2

theorem Globals.throttled_of_eq {globals other : Globals}
    (sameUser : other.currentBandwidth = globals.currentBandwidth)
    (sameCritical : other.currentBandwidth2 = globals.currentBandwidth2)
    (invariant : globals.Throttled) : other.Throttled := by
  unfold Globals.Throttled
  rw [sameUser, sameCritical]
  exact invariant

/-- The two throttles, as the pair the abstract controller moves. -/
def Globals.throttles (globals : Globals) : ℕ × ℕ :=
  (globals.currentBandwidth, globals.currentBandwidth2)

/-- Throttles reached by the controller's moves keep the invariant. -/
theorem Globals.Throttled.moves {globals after : Globals} (invariant : globals.Throttled)
    (moves : Priority.Moves 1 100 globals.throttles after.throttles) : after.Throttled :=
  .of_priority (Priority.Invariant.moves (by exact invariant.priority) moves)

theorem babyStep_pos (globals : Globals) (throttle : ℕ) :
    1 ≤ babyStep globals throttle := by
  unfold babyStep
  split <;> omega

theorem babyStep_lt (globals : Globals) {throttle : ℕ} (above : 1 < throttle) :
    babyStep globals throttle < throttle := by
  unfold babyStep
  split <;> omega

theorem applyUserOutcome_found {env : Env} (userBack : ReadsBack env .user)
    {featureMap : List Cell} {globals after : Globals} {throttle user critical : ℕ}
    {trial : Trial}
    (ran : Py.exec (applyUserOutcome env featureMap (getUserCores env)
      (.found throttle trial)) globals = (.ok (user, critical), after)) :
    user = throttle ∧ critical = globals.currentBandwidth2 := by
  simp only [applyUserOutcome, Py.exec_bind, Py.exec_modify,
    exec_setCpuLimit_user userBack, Py.exec_get, Py.exec_pure, SearchOutcome.selected,
    Prod.mk.injEq, Except.ok.injEq] at ran
  obtain ⟨⟨rfl, rfl⟩, -⟩ := ran
  exact ⟨rfl, rfl⟩

/-- A search that gave up on the user cgroup lowers user to its 1% floor,
then critical to `1` or to one of the throttles from its own downwards. -/
theorem lowerings_exhausted {globals : Globals} {critical : ℕ} (invariant : globals.Throttled)
    (choice : critical = 1 ∨ critical ∈ rangeDown globals.currentBandwidth2 0 5) :
    Priority.Lowerings 1 100 globals.throttles (1, critical) := by
  have chosen : 1 ≤ critical ∧ critical ≤ globals.currentBandwidth2 := by
    rcases choice with rfl | member
    · exact ⟨le_rfl, invariant.critical_pos⟩
    · exact Py.mem_rangeDown (by norm_num) member
  have pinned : Priority.Lowering 1 100 globals.throttles (1, globals.currentBandwidth2) :=
    .lower_first le_rfl invariant.user_pos
  exact .tail (.single pinned) (.lower_second rfl chosen.1 chosen.2)

/-- The band of the dispatch that ends a full-mode step: throttle at or above
`target_power * (1 - ceiling)`, recover below `target_power * (1 - 2 *
ceiling)`, hold in between. -/
def Globals.band (globals : Globals) : Priority.Band :=
  if globals.targetPower * (1 - ceiling) ≤ globals.actualPower then .throttle
  else if globals.actualPower < globals.targetPower * (1 - ceiling * 2) then .recover
  else .hold

theorem updateAdjustment_keeps {γ : Type} {view : Globals → γ} (featureMap : List Cell)
    (ratioKept : ∀ (globals : Globals) ratio,
      view { globals with adjustmentRatio := ratio } = view globals)
    (predictiveMap : List Cell) (directSize : ℕ) :
    Keeps view (updateAdjustment predictiveMap featureMap directSize) :=
  fun globals => by
    obtain ⟨ratio, adjusted⟩ := exec_updateAdjustment_globals predictiveMap featureMap
      directSize globals
    rw [adjusted]
    exact ratioKept globals ratio

/-- The calibration writes only `calibration_offset` and `adjustment_ratio`,
so it keeps every view of the globals that these do not change. -/
theorem calibrate_keeps {γ : Type} {view : Globals → γ} (env : Env) (featureMap : List Cell)
    (offsetKept : ∀ (globals : Globals) offset,
      view { globals with calibrationOffset := offset } = view globals)
    (ratioKept : ∀ (globals : Globals) ratio,
      view { globals with adjustmentRatio := ratio } = view globals) :
    Keeps view (calibrate env featureMap) := by
  unfold calibrate
  refine (keeps_modify fun globals => offsetKept globals _).bind fun _ =>
    keeps_get.bind fun globals => ?_
  exact updateAdjustment_keeps featureMap ratioKept _ _

/-- The calibration changes neither the throttles nor the band. -/
theorem calibrate_keeps_band (env : Env) (metricsData : List Cell) :
    Py.Keeps (fun globals : Globals => (globals.throttles, globals.band))
      (calibrate env metricsData) :=
  calibrate_keeps env metricsData (fun _ _ => rfl) (fun _ _ => rfl)

section Decisions

variable {env : Env} (userBack : ReadsBack env .user)
  (criticalBack : ReadsBack env .critical)
include userBack criticalBack

theorem strictBabyStep_lowers {globals after : Globals} {user critical : ℕ}
    (invariant : globals.Throttled)
    (ran : Py.exec (strictBabyStep env) globals = (.ok (user, critical), after)) :
    Priority.Lowerings 1 100 globals.throttles (user, critical) := by
  simp only [strictBabyStep, Py.exec_bind, Py.exec_get] at ran
  split_ifs at ran with userAbove criticalAbove
  · -- a baby step on the user cgroup
    simp only [exec_setCpuLimit_user userBack, Py.exec_bind, Py.exec_modify,
      Py.exec_get, Py.exec_pure, Prod.mk.injEq, Except.ok.injEq] at ran
    obtain ⟨⟨rfl, rfl⟩, -⟩ := ran
    exact .single (.lower_first (babyStep_pos globals _) (babyStep_lt globals userAbove).le)
  · -- a baby step on the critical cgroup, the user being at 1%
    simp only [exec_setCpuLimit_critical criticalBack, Py.exec_bind, Py.exec_modify,
      Py.exec_get, Py.exec_pure, Prod.mk.injEq, Except.ok.injEq] at ran
    obtain ⟨⟨rfl, rfl⟩, -⟩ := ran
    have atFloor : globals.currentBandwidth = 1 := by
      have := invariant.user_pos
      omega
    exact .single (.lower_second atFloor (babyStep_pos globals _)
      (babyStep_lt globals criticalAbove).le)
  · simp only [Py.exec_pure, Prod.mk.injEq, Except.ok.injEq] at ran
    obtain ⟨⟨rfl, rfl⟩, -⟩ := ran
    exact .refl

theorem applyUserOutcome_exhausted {featureMap : List Cell} {globals after : Globals}
    {last : Option Trial} {user critical : ℕ}
    (ran : Py.exec (applyUserOutcome env featureMap (getUserCores env)
      (.exhausted last)) globals = (.ok (user, critical), after)) :
    user = 1 ∧ (critical = 1 ∨ critical ∈ rangeDown globals.currentBandwidth2 0 5) := by
  -- the statements after the `match` are a join point inside each arm
  unfold applyUserOutcome at ran
  obtain ⟨pinned, pinnedGlobals, pinning, ran⟩ := Py.exec_bind_ok ran
  simp only [Py.exec_fromExcept, Prod.mk.injEq] at pinning
  obtain ⟨-, rfl⟩ := pinning
  obtain ⟨selected, capped, cappedRan, ran⟩ := Py.exec_bind_ok ran
  simp only [exec_setCpuLimit_user userBack, Py.exec_bind, Py.exec_get, Py.exec_pure,
    SearchOutcome.selected, Prod.mk.injEq, Except.ok.injEq] at ran
  obtain ⟨⟨rfl, rfl⟩, -⟩ := ran
  obtain ⟨choice, applied, -⟩ := criticalPowerCapping_ok criticalBack cappedRan
  exact ⟨rfl, applied ▸ choice⟩

/-- `strict_power_capping` only lowers throttles, in the priority order. -/
theorem strictPowerCapping_lowers {featureMap : List Cell} {globals after : Globals}
    {user critical : ℕ} (invariant : globals.Throttled)
    (ran : Py.exec (strictPowerCapping env featureMap) globals =
      (.ok (user, critical), after)) :
    Priority.Lowerings 1 100 globals.throttles (user, critical) := by
  unfold strictPowerCapping at ran
  rw [Py.exec_bind_of_ok (Py.exec_get _)] at ran
  split_ifs at ran with withinTolerance
  · exact strictBabyStep_lowers userBack criticalBack invariant ran
  rw [Py.exec_bind_of_ok (Py.exec_modify _ _), Py.exec_bind_of_ok (Py.exec_get _)] at ran
  dsimp only at ran
  split_ifs at ran with searchable
  · -- the ML search over `current_bandwidth - 5, - 10, …` ran
    obtain ⟨outcome, searchedGlobals, searching, ran⟩ := Py.exec_bind_ok ran
    simp only [currentBandwidth_bumpRetry, Py.exec_fromExcept] at searching
    rcases searched : searchOutcome env (bumpRetry globals) featureMap .user
      (getUserCores env) (rangeDown (globals.currentBandwidth - 5) 0 5) with
      _ | result <;> rw [searched] at searching
    · cases searching
    simp only [Prod.mk.injEq, Except.ok.injEq] at searching
    obtain ⟨rfl, rfl⟩ := searching
    have choice := searchOutcome_selected searched
    rcases result with ⟨throttle, trial⟩ | last
    · -- a user throttle below the current one was accepted
      obtain ⟨rfl, rfl⟩ := applyUserOutcome_found userBack ran
      simp only [currentBandwidth_bumpRetry] at searchable
      have accepted : 1 ≤ user ∧ user ≤ globals.currentBandwidth - 5 := by
        rcases choice with atOne | member
        · simp only [SearchOutcome.selected] at atOne
          omega
        · exact Py.mem_rangeDown (by norm_num) member
      simp only [currentBandwidth2_bumpRetry]
      exact .single (.lower_first accepted.1 (by omega))
    · obtain ⟨rfl, capped⟩ := applyUserOutcome_exhausted userBack criticalBack ran
      simp only [currentBandwidth2_bumpRetry] at capped
      exact lowerings_exhausted invariant capped
  · -- no candidate: the user falls back to 1% and critical is searched
    rw [Py.exec_bind_of_ok (Py.exec_pure _ _)] at ran
    obtain ⟨rfl, capped⟩ := applyUserOutcome_exhausted userBack criticalBack ran
    simp only [currentBandwidth2_bumpRetry] at capped
    exact lowerings_exhausted invariant capped

/-- `increase_bandwidth` raises critical, or the user once critical is full,
or leaves both at 100%. -/
theorem increaseBandwidth_recovers {featureMap : List Cell} {gap : ℚ}
    {globals after : Globals} {user critical : ℕ} (invariant : globals.Throttled)
    (ran : Py.exec (increaseBandwidth env featureMap gap) globals =
      (.ok (user, critical), after)) :
    Priority.Recovery 1 100 globals.throttles (user, critical) := by
  unfold increaseBandwidth at ran
  rw [Py.exec_bind_of_ok (Py.exec_modify _ _), Py.exec_bind_of_ok (Py.exec_get _)] at ran
  dsimp only at ran
  split_ifs at ran with criticalBelow userBelow
  · -- critical recovers first; pinning the user at 1% changes nothing
    have atFloor : globals.currentBandwidth = 1 := invariant.user_floor criticalBelow
    rw [Py.exec_bind_of_ok (Py.exec_modify _ _),
      Py.exec_bind_of_ok (exec_setCpuLimit_user userBack _ _)] at ran
    replace ran := predictFeaturemap_bind_ok ran
    obtain ⟨newVal, raisedGlobals, raising, ran⟩ := Py.exec_bind_ok ran
    obtain ⟨above, atMost, sameThrottles⟩ := raisedBandwidth_ok raising criticalBelow
    rw [Py.exec_bind_of_ok (exec_setCpuLimit_critical criticalBack _ _)] at ran
    replace ran := predictFeaturemap_bind_ok ran
    simp only [Py.exec_bind, Py.exec_modify, Py.exec_get, Py.exec_pure, Prod.mk.injEq,
      Except.ok.injEq] at ran
    obtain ⟨⟨rfl, rfl⟩, -⟩ := ran
    have pinned : raisedGlobals.currentBandwidth = 1 := congrFun sameThrottles .user
    rw [pinned, Globals.throttles, atFloor]
    exact .raise_second rfl above atMost
  · -- critical is full: the user recovers
    have full : globals.currentBandwidth2 = 100 :=
      le_antisymm invariant.critical_le (not_lt.mp criticalBelow)
    obtain ⟨newVal, raisedGlobals, raising, ran⟩ := Py.exec_bind_ok ran
    obtain ⟨above, atMost, sameThrottles⟩ := raisedBandwidth_ok raising userBelow
    rw [Py.exec_bind_of_ok (exec_setCpuLimit_user userBack _ _)] at ran
    replace ran := predictFeaturemap_bind_ok ran
    simp only [Py.exec_bind, Py.exec_modify, Py.exec_get, Py.exec_pure, Prod.mk.injEq,
      Except.ok.injEq] at ran
    obtain ⟨⟨rfl, rfl⟩, -⟩ := ran
    have stillFull : raisedGlobals.currentBandwidth2 = 100 :=
      (congrFun sameThrottles .critical).trans full
    rw [stillFull, Globals.throttles, full]
    exact .raise_first rfl above atMost
  · -- both at 100%: nothing changes
    simp only [Py.exec_bind, Py.exec_get, Py.exec_pure, Prod.mk.injEq,
      Except.ok.injEq] at ran
    obtain ⟨⟨rfl, rfl⟩, -⟩ := ran
    have userFull : globals.currentBandwidth = 100 :=
      le_antisymm invariant.user_le (not_lt.mp userBelow)
    have criticalFull : globals.currentBandwidth2 = 100 :=
      le_antisymm invariant.critical_le (not_lt.mp criticalBelow)
    rw [Globals.throttles, userFull, criticalFull]
    exact .full

/-- Each band of the dispatch is a step of the abstract controller in that
band: throttling lowers, recovery raises, holding changes nothing. -/
theorem dispatch_steps {metricsData : List Cell} {globals after : Globals}
    (invariant : globals.Throttled)
    (ran : Py.exec (dispatch env metricsData) globals = (.ok (), after)) :
    Priority.Step 1 100 globals.band globals.throttles after.throttles := by
  unfold dispatch at ran
  rw [Py.exec_bind_of_ok (Py.exec_modify _ _), Py.exec_bind_of_ok (Py.exec_get _)] at ran
  dsimp only at ran
  split_ifs at ran with overBudget underBudget
  · obtain ⟨⟨user, critical⟩, decided, deciding, ran⟩ := Py.exec_bind_ok ran
    have lowers := strictPowerCapping_lowers userBack criticalBack (by exact invariant)
      deciding
    simp only [Py.exec_modify, Prod.mk.injEq] at ran
    obtain ⟨-, rfl⟩ := ran
    rw [Globals.band, if_pos overBudget]
    exact lowers
  · obtain ⟨⟨user, critical⟩, decided, deciding, ran⟩ := Py.exec_bind_ok ran
    have recovers := increaseBandwidth_recovers userBack criticalBack (by exact invariant)
      deciding
    simp only [Py.exec_modify, Prod.mk.injEq] at ran
    obtain ⟨-, rfl⟩ := ran
    rw [Globals.band, if_neg overBudget, if_pos underBudget]
    exact recovers
  · simp only [Py.exec_modify, Prod.mk.injEq] at ran
    obtain ⟨-, rfl⟩ := ran
    rw [Globals.band, if_neg overBudget, if_neg underBudget]
    rfl

theorem controlStep_steps {metricsData : List Cell} {globals after : Globals}
    (invariant : globals.Throttled)
    (ran : Py.exec (controlStep env metricsData) globals = (.ok (), after)) :
    Priority.Step 1 100 globals.band globals.throttles after.throttles := by
  unfold controlStep at ran
  rw [Py.exec_bind_of_ok (Py.exec_get _)] at ran
  split_ifs at ran with used
  · obtain ⟨_, calibrated, calibrating, ran⟩ := Py.exec_bind_ok ran
    have same := (calibrate_keeps_band env metricsData).of_exec calibrating
    simp only [Prod.mk.injEq] at same
    obtain ⟨sameThrottles, sameBand⟩ := same
    have kept : calibrated.Throttled :=
      Globals.throttled_of_eq (congrArg Prod.fst sameThrottles)
        (congrArg Prod.snd sameThrottles) invariant
    rw [← sameThrottles, ← sameBand]
    exact dispatch_steps userBack criticalBack kept ran
  · dsimp only at ran
    exact dispatch_steps userBack criticalBack invariant ran

theorem controlStep_moves {metricsData : List Cell} {globals after : Globals}
    (invariant : globals.Throttled)
    (ran : Py.exec (controlStep env metricsData) globals = (.ok (), after)) :
    Priority.Moves 1 100 globals.throttles after.throttles :=
  (controlStep_steps userBack criticalBack invariant ran).moves

/-- One loop iteration that does not raise is a run of the abstract
controller: only the control step writes the throttle globals. -/
theorem iteration_moves {sample : Sample} {globals after : Globals}
    (invariant : globals.Throttled)
    (ran : Py.exec (iteration env sample) globals = (.ok (), after)) :
    Priority.Moves 1 100 globals.throttles after.throttles := by
  rcases sample with ⟨_ | budget, _ | power, perfMetrics, cpupower⟩ <;>
    simp only [iteration, Py.exec_bind, Py.exec_modify, Py.exec_get, Py.exec_pure,
      Prod.mk.injEq] at ran
  · exact ran.2 ▸ .refl
  · exact ran.2 ▸ .refl
  · exact ran.2 ▸ .refl
  split_ifs at ran with energyOnly switched noMap
  · simp only [Py.exec_modify, Prod.mk.injEq] at ran
    exact ran.2 ▸ .refl
  · simp only [Py.exec_pure, Prod.mk.injEq] at ran
    exact ran.2 ▸ .refl
  -- full mode: a failed `parse_cpu_data` skips the control step
  all_goals
    rcases parsed : parseCpuData cpupower (metricCells perfMetrics) with _ | metricsData <;>
      simp only [parsed, Py.exec_pure, Prod.mk.injEq] at ran
  -- the control step runs from the globals with the new budget and power, whose
  -- throttles are those of the start: its moves are elaborated before the goal is met
  · exact ran.2 ▸ .refl
  · rw [Py.exec_bind_of_ok (Py.exec_modify _ _)] at ran
    exact (controlStep_moves userBack criticalBack (by exact invariant) ran :)
  · exact ran.2 ▸ .refl
  · exact (controlStep_moves userBack criticalBack (by exact invariant) ran :)

theorem iterationOk_moves {sample : Sample} {globals after : Globals}
    (invariant : globals.Throttled)
    (stepped : iterationOk env globals sample = some after) :
    Priority.Moves 1 100 globals.throttles after.throttles := by
  unfold iterationOk at stepped
  rcases ran : Py.exec (iteration env sample) globals with ⟨_ | ⟨⟩, state⟩ <;>
    simp only [ran, Option.some.injEq, reduceCtorEq] at stepped
  subst stepped
  exact iteration_moves userBack criticalBack invariant ran

theorem iterationOk_invariant {sample : Sample} {globals after : Globals}
    (invariant : globals.Throttled)
    (stepped : iterationOk env globals sample = some after) : after.Throttled :=
  invariant.moves (iterationOk_moves userBack criticalBack invariant stepped)

end Decisions

theorem initialGlobals_throttled (cpuMax : Group → Option ℕ) :
    (initialGlobals cpuMax).Throttled := by
  show ThrottleInvariant 100 100
  exact ⟨by norm_num, le_rfl, by norm_num, le_rfl, fun below => absurd below (lt_irrefl _)⟩

/-- PIP refines the abstract priority controller: in every run in which no
control step raises, the throttles have moved from `(100, 100)` by the
controller's moves only. -/
theorem reachable_moves {env : Env} (userBack : ReadsBack env .user)
    (criticalBack : ReadsBack env .critical) {cpuMax : Group → Option ℕ}
    {globals : Globals}
    (reachable : Run.Reachable (iterationOk env) (initialGlobals cpuMax) globals) :
    Priority.Moves 1 100 (initialGlobals cpuMax).throttles globals.throttles := by
  -- the invariant is carried along, since each step's moves need it
  have run := reachable.invariant
    (fun globals => globals.Throttled ∧
      Priority.Moves 1 100 (initialGlobals cpuMax).throttles globals.throttles)
    ⟨initialGlobals_throttled cpuMax, .refl⟩
    fun _ _ _ ⟨invariant, moves⟩ stepped =>
      ⟨iterationOk_invariant userBack criticalBack invariant stepped,
        moves.trans (iterationOk_moves userBack criticalBack invariant stepped)⟩
  exact run.2

/-- In every run of the control loop in which no step raises, both throttles
stay within `1..100`, and critical is below 100% only while the user cgroup is
at 1%. -/
theorem throttle_invariant_reachable {env : Env} (userBack : ReadsBack env .user)
    (criticalBack : ReadsBack env .critical) {cpuMax : Group → Option ℕ}
    {globals : Globals}
    (reachable : Run.Reachable (iterationOk env) (initialGlobals cpuMax) globals) :
    (1 ≤ globals.currentBandwidth ∧ globals.currentBandwidth ≤ 100) ∧
      (1 ≤ globals.currentBandwidth2 ∧ globals.currentBandwidth2 ≤ 100) ∧
      (globals.currentBandwidth2 < 100 → globals.currentBandwidth = 1) := by
  -- the abstract controller's runs keep the invariant, and every run of PIP is one of them
  have invariant : globals.Throttled :=
    (initialGlobals_throttled cpuMax).moves (reachable_moves userBack criticalBack reachable)
  obtain ⟨userPos, userLe, criticalPos, criticalLe, floor⟩ := invariant
  exact ⟨⟨userPos, userLe⟩, ⟨criticalPos, criticalLe⟩, floor⟩

/-- A run of four samples on four cores, predicting the power as the sum of
the feature map.  The first reaches the 100 W budget and switches to full mode;
at 120 W the controller throttles the user cgroup to 1%, at 130 W the critical
cgroup to 1%; at 40 W, with the user cores less busy, it recovers, critical
first.  The invariant holds at the end of the run. -/
theorem throttle_invariant_reachable_recovery :
    let table := fun busy : List Char =>
      "CPU|C0|Cx|Freq|POLL|C1|C2|C3\n0|".toList ++ busy ++ "|0|0|0|0|0|0\n1|".toList ++
        busy ++ "|0|0|0|0|0|0\n2|50|0|0|0|0|0|0\n3|50|0|0|0|0|0|0".toList
    let env := fourCoreEnv fun features =>
      (features.map fun cell => match cell with | .num value => value | _ => 0).sum
    let start := initialGlobals fun _ => some 200000
    let samples : List Sample := [⟨some 100, .ok 100, .ok [], table "90".toList⟩,
      ⟨some 100, .ok 120, .ok [], table "90".toList⟩, ⟨some 100, .ok 130, .ok [], table "90".toList⟩,
      ⟨some 100, .ok 40, .ok [], table "30".toList⟩]
    ((samples.take 2).foldlM (iterationOk env) start).map Globals.throttles = some (1, 100) ∧
      ((samples.take 3).foldlM (iterationOk env) start).map Globals.throttles = some (1, 1) ∧
      ∃ globals, samples.foldlM (iterationOk env) start = some globals ∧
        globals.throttles = (1, 6) ∧ ReadsBack env .user ∧ ReadsBack env .critical ∧
        Run.Reachable (iterationOk env) start globals ∧
        ((1 ≤ globals.currentBandwidth ∧ globals.currentBandwidth ≤ 100) ∧
          (1 ≤ globals.currentBandwidth2 ∧ globals.currentBandwidth2 ≤ 100) ∧
          (globals.currentBandwidth2 < 100 → globals.currentBandwidth = 1)) := by
  intro table env start samples
  have userBack : ReadsBack env .user := fourCoreEnv_readsBack _ .user
  have criticalBack : ReadsBack env .critical := fourCoreEnv_readsBack _ .critical
  have throttledUser : ((samples.take 2).foldlM (iterationOk env) start).map Globals.throttles =
      some (1, 100) := by
    decide +kernel
  have throttledCritical : ((samples.take 3).foldlM (iterationOk env) start).map
      Globals.throttles = some (1, 1) := by
    decide +kernel
  have recovered : (samples.foldlM (iterationOk env) start).map Globals.throttles =
      some (1, 6) := by
    decide +kernel
  -- the final state is named from the run, so that the invariant is applied to it
  rcases ran : samples.foldlM (iterationOk env) start with _ | globals
  · rw [ran] at recovered
    cases recovered
  · rw [ran] at recovered
    have reached : Run.Reachable (iterationOk env) start globals := .of_foldlM .start ran
    exact ⟨throttledUser, throttledCritical, globals, rfl, Option.some.inj recovered, userBack,
      criticalBack, reached, throttle_invariant_reachable userBack criticalBack reached⟩

end Pip

end PowerCapping
