import PowerCapping.Lib.Python
import PowerCapping.Lib.Exec

/-!
# The PIP controller: machine, globals and cgroup limits

`control/powercap_CPU_powertrace-final.py` throttles two cgroups, `user` and
`critical`, through their `cpu.max` files.  This file fixes what the
controller reads from the machine (the topology file, the cpuset files, the
power model) as an `Env`, the module globals it keeps between iterations
together with the `cpu.max` contents as `Globals`, and models the two cgroup
helpers `read_cpu_max` and `set_cpu_limit`.

The controller re-reads the cpuset files on every call; they are taken to be
fixed for the duration of a run.  Writes to `cpu.max` are taken to succeed.
-/

namespace PowerCapping

namespace Pip

/-- The two cgroups the controller throttles. -/
inductive Group
  | user
  | critical
  deriving DecidableEq, Repr

/-- One entry of a feature map.  Maps hold floats, the strings the
simulations write (`str(max_freq)`, `str(throttle)`), and, after a failed
`parse_perf_metrics`, the `None` and message of its `(None, "Error: ...")`
pair. -/
inductive Cell
  | num (value : ℚ)
  | str (text : List Char)
  | none
  deriving DecidableEq, Repr

/-- `float(cell)`. -/
def Cell.toFloat : Cell → Except Py.Exception ℚ
  | .num value => .ok value
  | .str text =>
      match Py.float? text with
      | some value => .ok value
      | Option.none => .error .valueError
  | .none => .error .typeError

/-- `float(xs[index])` for a non-negative index. -/
def floatAt (xs : List Cell) (index : ℕ) : Except Py.Exception ℚ :=
  match xs[index]? with
  | some cell => cell.toFloat
  | Option.none => .error .indexError

/-- `xs[index] = cell` for a non-negative index. -/
def setAt (xs : List Cell) (index : ℕ) (cell : Cell) :
    Except Py.Exception (List Cell) :=
  match Py.setItem? xs index cell with
  | some updated => .ok updated
  | Option.none => .error .indexError

/-- `str(n)` for a non-negative integer. -/
def strNat (n : ℕ) : Cell :=
  .str (Nat.toDigits 10 n)

/-- What the controller reads from the machine.  `topolSize`,
`directMetricsSize` and `maxFreq` are the three numbers of
`topol_metric_size.dat` (zero when the file cannot be read), `numCores` is
`os.cpu_count()`, the cpuset fields are what `read_cpuset` returns for each
cgroup's `cpuset.cpus.effective` and `cpuset.cpus`, and `predict` stands for
`model.predict` on the one-row feature array. -/
structure Env where
  topolSize : ℕ
  directMetricsSize : ℕ
  maxFreq : ℕ
  numCores : ℕ
  cpusEffective : Group → List ℕ
  cpus : Group → List ℕ
  predict : List Cell → ℚ

/-- `core_info_count`, set by `load_topology_metrics`. -/
def Env.coreInfoCount (env : Env) : ℕ :=
  if env.numCores = 0 then 0 else env.topolSize / env.numCores

/-- `get_user_cores()`: the effective cpuset, or the configured one when the
effective set has fewer than two cores. -/
def getUserCores (env : Env) : List ℕ :=
  if (env.cpusEffective .user).length < 2 then env.cpus .user
  else env.cpusEffective .user

/-- `get_critical_cores()`: the effective cpuset, or the configured one when
the effective set has fewer than half of the machine's cores. -/
def getCriticalCores (env : Env) : List ℕ :=
  if (env.cpusEffective .critical).length < env.numCores / 2 then env.cpus .critical
  else env.cpusEffective .critical

/-- The core list each cgroup's callers pass to `set_cpu_limit`. -/
def groupCores (env : Env) : Group → List ℕ
  | .user => getUserCores env
  | .critical => getCriticalCores env

/-- The cores `read_cpu_max` divides by: the effective cpuset, or the
configured one when the effective set is empty. -/
def cpuMaxCores (env : Env) (group : Group) : List ℕ :=
  if env.cpusEffective group = [] then env.cpus group else env.cpusEffective group

/-- The controller's module globals, with the quota field of each cgroup's
`cpu.max` (`none` when it is not a number, as in `max 100000`). -/
structure Globals where
  currentBandwidth : ℕ
  currentBandwidth2 : ℕ
  adjustmentRatio : ℕ → Option ℚ
  predictiveFeatureMap : List Cell
  actualPower : ℚ
  prevPrediction : ℚ
  prev : ℕ
  retry : ℕ
  calibrationOffset : ℚ
  usedMap : Bool
  fullMode : Bool
  targetPower : ℤ
  cpuMax : Group → Option ℕ

/-- The module globals when the script starts; `target_power` is first
assigned by the loop before any read. -/
def initialGlobals (cpuMax : Group → Option ℕ) : Globals where
  currentBandwidth := 100
  currentBandwidth2 := 100
  adjustmentRatio := fun _ => Option.none
  predictiveFeatureMap := []
  actualPower := 0
  prevPrediction := 0
  prev := 0
  retry := 0
  calibrationOffset := 0
  usedMap := false
  fullMode := false
  targetPower := 0
  cpuMax := cpuMax

/-- Python code of the controller. -/
abbrev PipM := Py.PyM Py.Exception Globals

/-- The throttle the controller believes is applied to a cgroup:
`current_bandwidth` for `user`, `current_bandwidth2` for `critical`. -/
def Globals.bandwidth (globals : Globals) : Group → ℕ
  | .user => globals.currentBandwidth
  | .critical => globals.currentBandwidth2

/-- Assign the global that holds a cgroup's throttle. -/
def Globals.setBandwidth (globals : Globals) : Group → ℕ → Globals
  | .user, throttle => { globals with currentBandwidth := throttle }
  | .critical, throttle => { globals with currentBandwidth2 := throttle }

@[simp]
theorem Globals.bandwidth_setBandwidth (globals : Globals) (group other : Group)
    (throttle : ℕ) :
    (globals.setBandwidth group throttle).bandwidth other =
      if other = group then throttle else globals.bandwidth other := by
  cases group <;> cases other <;> rfl

/-- `read_cpu_max(cgroup)`: the throttle percentage `cpu.max` encodes over the
cgroup's cores, or `None`.  The quotient is exact here; Python's float
quotient times 100 can fall just below an integer, which `int` then truncates
(58000 on two cores reads 28 there, 29 here), so `ReadsBack` is an assumption
about the machine's arithmetic as well as its files. -/
def readCpuMax (env : Env) (globals : Globals) (group : Group) : Option ℕ :=
  match globals.cpuMax group with
  | some quota =>
      let cores := (cpuMaxCores env group).length
      if cores = 0 then Option.none else some (quota * 100 / (100000 * cores))
  | Option.none => Option.none

/-- The quota `set_cpu_limit` writes for a throttle over the given cores. -/
def quotaFor (cores throttle : ℕ) : ℕ :=
  100000 * cores * throttle / 100

/-- `set_cpu_limit(cgroup, throttle, available_cores)`: write the quota to
`cpu.max`, then read it back into the cgroup's throttle global. -/
def setCpuLimit (env : Env) (group : Group) (throttle : ℕ)
    (availableCores : List ℕ) : PipM Unit :=
  modify fun globals =>
    let written := { globals with
      cpuMax := Function.update globals.cpuMax group
        (some (quotaFor availableCores.length throttle)) }
    match readCpuMax env written group with
    | some readBack => written.setBandwidth group readBack
    | Option.none => written

/-- The environment assumption under which `set_cpu_limit` reads back what it
wrote: the core list its callers pass has as many cores as the list
`read_cpu_max` divides by, and that list is not empty. -/
structure ReadsBack (env : Env) (group : Group) : Prop where
  sameLength : (groupCores env group).length = (cpuMaxCores env group).length
  nonempty : cpuMaxCores env group ≠ []

theorem readCpuMax_quotaFor {cores throttle : ℕ} (positive : 0 < cores) :
    quotaFor cores throttle * 100 / (100000 * cores) = throttle := by
  have exact : quotaFor cores throttle = 1000 * cores * throttle := by
    unfold quotaFor
    rw [show 100000 * cores * throttle = (1000 * cores * throttle) * 100 by ring]
    exact Nat.mul_div_cancel _ (by norm_num)
  rw [exact, show 1000 * cores * throttle * 100 = throttle * (100000 * cores) by
    ring]
  exact Nat.mul_div_cancel _ (by positivity)

/-- When the cores passed are as many as those `read_cpu_max` divides by,
`set_cpu_limit` assigns the throttle it was given to the cgroup's global. -/
theorem exec_setCpuLimit {env : Env} {group : Group} {cores : List ℕ}
    (sameLength : cores.length = (cpuMaxCores env group).length)
    (nonempty : cpuMaxCores env group ≠ []) (throttle : ℕ) (globals : Globals) :
    Py.exec (setCpuLimit env group throttle cores) globals =
      (.ok (), ({ globals with
        cpuMax := Function.update globals.cpuMax group
          (some (quotaFor cores.length throttle)) }).setBandwidth group throttle) := by
  have positive : 0 < (cpuMaxCores env group).length :=
    List.length_pos_iff.mpr nonempty
  simp only [setCpuLimit, Py.exec_modify, readCpuMax, Function.update_self,
    Nat.pos_iff_ne_zero.mp positive, if_false, sameLength,
    readCpuMax_quotaFor positive]

theorem exec_setCpuLimit_user {env : Env} (readsBack : ReadsBack env .user)
    (throttle : ℕ) (globals : Globals) :
    Py.exec (setCpuLimit env .user throttle (getUserCores env)) globals =
      (.ok (), { globals with
        cpuMax := Function.update globals.cpuMax .user
          (some (quotaFor (getUserCores env).length throttle)),
        currentBandwidth := throttle }) :=
  exec_setCpuLimit readsBack.sameLength readsBack.nonempty throttle globals

theorem exec_setCpuLimit_critical {env : Env} (readsBack : ReadsBack env .critical)
    (throttle : ℕ) (globals : Globals) :
    Py.exec (setCpuLimit env .critical throttle (getCriticalCores env)) globals =
      (.ok (), { globals with
        cpuMax := Function.update globals.cpuMax .critical
          (some (quotaFor (getCriticalCores env).length throttle)),
        currentBandwidth2 := throttle }) :=
  exec_setCpuLimit readsBack.sameLength readsBack.nonempty throttle globals

/-- A four-core machine with the user cgroup on cores 0 and 1 and the
critical cgroup on cores 2 and 3, seven per-core fields each. -/
def fourCoreEnv (predict : List Cell → ℚ) : Env where
  topolSize := 28
  directMetricsSize := 28
  maxFreq := 3000
  numCores := 4
  cpusEffective := fun | .user => [0, 1] | .critical => [2, 3]
  cpus := fun | .user => [0, 1] | .critical => [2, 3]
  predict := predict

theorem fourCoreEnv_readsBack (predict : List Cell → ℚ) (group : Group) :
    ReadsBack (fourCoreEnv predict) group := by
  cases group <;> constructor <;>
    simp [groupCores, getUserCores, getCriticalCores, cpuMaxCores, fourCoreEnv]

end Pip

end PowerCapping
