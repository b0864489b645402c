import PowerCapping.Predxnd.Remote
import PowerCapping.Lib.Frame

/-!
# The resource-constraint sweep

`scripts/cgroup_possible_runs.py` is meant to walk the grid of CPU bandwidth
limits and numbers of parked cores of the `user` cgroup: for each throttle
`100, 95, …, 5` and each `k` below the length of `cpu_index`, `core_parking`
writes the cgroup's `cpuset.cpus` without the first cores of `cpu_index`, and
`core_throttling` writes its `cpu.max` for the throttle over the effective
cores.

`core_throttling` counts the effective cores with `get_available_cores`,
which appends the cores it reads to a list `available_cores` that the module
never defines.  Its first use raises `NameError`; the `try` of the function
catches it, but its `return` names the list again outside the `try`.  So
every call of `core_throttling` raises, `throttle_power` catches the
exception and returns, and the sweep ends after its first `core_parking`
(`sweep_stops_after_first_parking`).

The files are modelled by the writes made to them, in order; sleeping and the
prints are left out.
-/

namespace PowerCapping

namespace Sweep

open Py

/-- The files of the `user` cgroup the script writes. -/
inductive File
  | cpusetCpus
  | cgroupProcs
  | cpuMax
  deriving DecidableEq, Repr

/-- What the script reads from the machine: `os.cpu_count()`, its own pid,
and the content of `cpuset.cpus.effective` at each read (`none` when opening
it raises). -/
structure Machine where
  cpuCount : ℕ
  pid : ℕ
  effective : ℕ → Option (List Char)

/-- The state of the script: the module global `cpu_index`, the module global
`available_cores` (`none`: the module never binds it), whether the directory
of the `user` cgroup exists, how many times `cpuset.cpus.effective` was read,
and the writes made, in order. -/
structure State where
  cpuIndex : List ℤ
  availableCores : Option (List ℤ)
  userExists : Bool
  reads : ℕ
  writes : List (File × List Char)

/-- The module globals when the script starts. -/
def initialState (userExists : Bool) : State where
  cpuIndex := []
  availableCores := none
  userExists := userExists
  reads := 0
  writes := []

/-- Python code of the script. -/
abbrev SweepM := PyM Py.Exception State

/-- `with open(file, 'w') as f: f.write(content)`. -/
def write (file : File) (content : List Char) : SweepM Unit :=
  modify fun state => { state with writes := state.writes ++ [(file, content)] }

/-- The list `get_cpu_topology` reads from the output of
`get_cpu_topology.sh`: commas become spaces, and every field must be an
integer. -/
def topologyCores (stdout : List Char) : Option (List ℤ) :=
  let output := replace "  ".toList " ".toList
    ((strip stdout).map fun c => if c = ',' then ' ' else c)
  ((splitWhitespace output).filter (· ≠ [])).mapM int?

/-- `get_cpu_topology()`, given the script's output when it exits with status
0 (`none` otherwise, or when it cannot be run).  On a `ValueError`
`cpu_index` keeps its value. -/
def getCpuTopology (topology : Option (List Char)) : SweepM Unit :=
  match topology.bind topologyCores with
  | some cores => modify fun state => { state with cpuIndex := cores }
  | none => pure ()

/-- `f.read()` of a file opened for reading: its content, or the `OSError`
of `open`. -/
def readFile (content : Option (List Char)) : SweepM (List Char) :=
  match content with
  | some text => pure text
  | none => throw .osError

/-- `available_cores.extend(cores)` (or `.append`) on the module global. -/
def extendAvailable (cores : List ℤ) : SweepM Unit := do
  match (← get).availableCores with
  | some existing => modify fun state => { state with availableCores := some (existing ++ cores) }
  | none => throw .nameError

/-- The `try` block of `get_available_cores`: read the effective cpuset and
add each comma-separated part to `available_cores`. -/
def readAvailableCores (machine : Machine) : SweepM Unit := do
  let state ← get
  modify fun state => { state with reads := state.reads + 1 }
  let cpusetCpus := strip (← readFile (machine.effective state.reads))
  (split ',' cpusetCpus).forM fun part => do
    let cores ← fromExcept (Predxnd.corePart part)
    extendAvailable cores

/-- `get_available_cores()`: anything the `try` block raises is printed, and
the `return` reads `available_cores` again.  Only the number of cores it
returns is used, so the order of the set is not modelled. -/
def getAvailableCores (machine : Machine) : SweepM (List ℤ) := do
  tryCatch (readAvailableCores machine) fun _ => pure ()
  match (← get).availableCores with
  | some cores => pure cores.dedup
  | none => throw .nameError

/-- `core_throttling(index)`: the quota for `index` percent of the effective
cores, over a period of 100000. -/
def coreThrottling (machine : Machine) (index : ℕ) : SweepM Unit := do
  let numEffectiveCores := (← getAvailableCores machine).length
  let quota := truncate ((100000 * numEffectiveCores * index : ℚ) / 100)
  write .cpuMax (strInt quota ++ " 100000".toList)

/-- What `core_parking` writes to `cpuset.cpus`: the machine's CPUs without
the first `index + 1` entries of `cpu_index`, joined by commas. -/
def usedCores (cpuCount : ℕ) (cpuIndex : List ℤ) (index : ℕ) : List Char :=
  join ",".toList (((List.range cpuCount).filter fun core =>
    (core : ℤ) ∉ cpuIndex.take (index + 1)).map fun core => strInt core)

/-- The writes that create the `user` cgroup when it does not exist. -/
def createWrites (machine : Machine) : List (File × List Char) :=
  [(.cpusetCpus, "0-".toList ++ strInt ((machine.cpuCount : ℤ) - 1)),
    (.cgroupProcs, strInt machine.pid)]

/-- `core_parking(index)`. -/
def coreParking (machine : Machine) (index : ℕ) : SweepM Unit := do
  if !(← get).userExists then
    modify fun state => { state with userExists := true }
    (createWrites machine).forM fun (file, content) => write file content
  let state ← get
  write .cpusetCpus (usedCores machine.cpuCount state.cpuIndex index)

/-- One iteration of the outer loop of `throttle_power`: every number of
parked cores below `len(cpu_index)` for one throttle. -/
def throttleRow (machine : Machine) (throttle : ℕ) : SweepM Unit := do
  let state ← get
  (List.range state.cpuIndex.length).forM fun disabledCores => do
    coreParking machine disabledCores
    coreThrottling machine throttle

/-- `throttle_power()`: the sweep, ended by the first exception. -/
def throttlePower (machine : Machine) : SweepM Unit :=
  tryCatch ((rangeDown 100 0 5).forM (throttleRow machine)) fun _ => pure ()

/-- `run_stress_ng()`. -/
def runStressNg (machine : Machine) : SweepM Unit :=
  tryCatch (throttlePower machine) fun _ => pure ()

/-- The script: `get_cpu_topology()`, then `run_stress_ng` in a thread that
the main thread joins. -/
def main (machine : Machine) (topology : Option (List Char)) : SweepM Unit := do
  getCpuTopology topology
  runStressNg machine

/-- What reading the effective cores leaves alone: `cpu_index`, the cgroup,
the files written, and whether `available_cores` is bound. -/
def State.kept (state : State) : List ℤ × Bool × List (File × List Char) × Bool :=
  (state.cpuIndex, state.userExists, state.writes, state.availableCores.isNone)

theorem extendAvailable_keeps (cores : List ℤ) : Keeps State.kept (extendAvailable cores) := by
  intro state
  -- a bound list stays bound, an unbound name raises
  rcases bound : state.availableCores with _ | existing <;>
    simp [extendAvailable, exec_bind, bound, State.kept]

theorem readFile_keeps (content : Option (List Char)) : Keeps State.kept (readFile content) := by
  unfold readFile
  split
  · exact keeps_pure _
  · exact keeps_throw _

theorem readAvailableCores_keeps (machine : Machine) :
    Keeps State.kept (readAvailableCores machine) := by
  unfold readAvailableCores
  refine keeps_get.bind fun state => (keeps_modify ?_).bind fun _ => ?_
  · -- counting the read
    intro _
    rfl
  refine (readFile_keeps _).bind fun cpusetCpus => keeps_forM fun part _ => ?_
  exact (keeps_fromExcept _).bind extendAvailable_keeps

theorem exec_getAvailableCores (machine : Machine) (state : State) :
    exec (getAvailableCores machine) state =
      match (exec (readAvailableCores machine) state).2.availableCores with
      | some cores => (.ok cores.dedup, (exec (readAvailableCores machine) state).2)
      | none => (.error .nameError, (exec (readAvailableCores machine) state).2) := by
  unfold getAvailableCores
  rw [exec_bind, exec_tryCatch]
  -- the handler only prints, so the `return` runs from what the block left
  rcases exec (readAvailableCores machine) state with ⟨_ | _, after⟩ <;>
    · simp only [exec_pure, exec_bind, exec_get]
      split <;> rfl

/-- With `available_cores` unbound, `get_available_cores` raises `NameError`
and has written nothing. -/
theorem getAvailableCores_raises (machine : Machine) {state : State}
    (unbound : state.availableCores = none) :
    ∃ after, exec (getAvailableCores machine) state = (.error .nameError, after) ∧
      after.kept = state.kept := by
  have kept := readAvailableCores_keeps machine state
  have stillUnbound : (exec (readAvailableCores machine) state).2.availableCores = none := by
    have isNone := congrArg (fun view => view.2.2.2) kept
    simpa [State.kept, unbound] using isNone
  refine ⟨(exec (readAvailableCores machine) state).2, ?_, kept⟩
  rw [exec_getAvailableCores, stillUnbound]

theorem coreThrottling_raises (machine : Machine) (index : ℕ) {state : State}
    (unbound : state.availableCores = none) :
    ∃ after, exec (coreThrottling machine index) state = (.error .nameError, after) ∧
      after.kept = state.kept := by
  obtain ⟨after, raised, kept⟩ := getAvailableCores_raises machine unbound
  exact ⟨after, by rw [coreThrottling, exec_bind_of_error raised], kept⟩

theorem exec_coreParking (machine : Machine) (index : ℕ) (state : State) :
    exec (coreParking machine index) state =
      (.ok (), { state with
        userExists := true,
        writes := state.writes ++ (if state.userExists then [] else createWrites machine) ++
          [(.cpusetCpus, usedCores machine.cpuCount state.cpuIndex index)] }) := by
  cases created : state.userExists <;>
    simp [coreParking, createWrites, write, exec_bind, created, List.forM_eq_forM]

theorem exec_getCpuTopology (topology : Option (List Char)) (state : State) :
    exec (getCpuTopology topology) state =
      (.ok (), { state with cpuIndex := (topology.bind topologyCores).getD state.cpuIndex }) := by
  rcases parsed : topology.bind topologyCores with _ | cores <;> simp [getCpuTopology, parsed]

theorem exec_throttleRow_empty (machine : Machine) (throttle : ℕ) {state : State}
    (empty : state.cpuIndex = []) :
    exec (throttleRow machine throttle) state = (.ok (), state) := by
  simp [throttleRow, exec_bind, empty]

/-- Without cores in `cpu_index` the sweep writes nothing. -/
theorem exec_forM_throttleRow_empty (machine : Machine) (throttles : List ℕ) {state : State}
    (empty : state.cpuIndex = []) :
    exec (throttles.forM (throttleRow machine)) state = (.ok (), state) := by
  induction throttles with
  | nil => rfl
  | cons throttle more ih =>
      rw [List.forM_eq_forM, List.forM_cons, exec_bind, exec_throttleRow_empty machine throttle empty]
      exact ih

/-- With a core in `cpu_index`, the first iteration parks the first core and
raises in `core_throttling`. -/
theorem throttleRow_raises (machine : Machine) (throttle : ℕ) {state : State}
    (unbound : state.availableCores = none) (nonempty : state.cpuIndex ≠ []) :
    ∃ after, exec (throttleRow machine throttle) state = (.error .nameError, after) ∧
      after.writes = state.writes ++ (if state.userExists then [] else createWrites machine) ++
        [(.cpusetCpus, usedCores machine.cpuCount state.cpuIndex 0)] := by
  obtain ⟨parked, counted⟩ : ∃ parked, state.cpuIndex.length = parked + 1 :=
    Nat.exists_eq_succ_of_ne_zero (by simpa using nonempty)
  have first : List.range (parked + 1) = 0 :: (List.range parked).map Nat.succ :=
    List.range_succ_eq_map
  have stillUnbound : (exec (coreParking machine 0) state).2.availableCores = none := by
    rw [exec_coreParking]
    exact unbound
  obtain ⟨after, raised, kept⟩ := coreThrottling_raises machine throttle stillUnbound
  refine ⟨after, ?_, ?_⟩
  · rw [throttleRow, exec_bind_of_ok (exec_get state), counted, first,
      List.forM_eq_forM, List.forM_cons, exec_bind, exec_bind, exec_coreParking]
    simp only [exec_coreParking] at raised
    rw [raised]
  · have sameWrites := congrArg (fun view => view.2.2.1) kept
    simp only [State.kept, exec_coreParking] at sameWrites
    rw [sameWrites]

/-- `throttle_power` returns normally, having parked the first core of
`cpu_index` once, or having done nothing when `cpu_index` is empty. -/
theorem exec_throttlePower (machine : Machine) {state : State}
    (unbound : state.availableCores = none) :
    (exec (throttlePower machine) state).1 = .ok () ∧
      (exec (throttlePower machine) state).2.writes = state.writes ++
        if state.cpuIndex = [] then []
        else (if state.userExists then [] else createWrites machine) ++
          [(.cpusetCpus, usedCores machine.cpuCount state.cpuIndex 0)] := by
  obtain ⟨throttles, grid⟩ : ∃ throttles, rangeDown 100 0 5 = 100 :: throttles := ⟨_, rfl⟩
  unfold throttlePower
  rw [exec_tryCatch, grid, List.forM_eq_forM, List.forM_cons, exec_bind]
  by_cases empty : state.cpuIndex = []
  · -- no core to park, for any throttle
    rw [exec_throttleRow_empty machine 100 empty, ← List.forM_eq_forM,
      exec_forM_throttleRow_empty machine throttles empty]
    simp [empty]
  · -- `throttle_power` catches the `NameError` of the first `core_throttling`
    obtain ⟨after, raised, written⟩ := throttleRow_raises machine 100 unbound empty
    rw [raised]
    simp [empty, written]

/-- Two CPUs, both in `cpu_index`: the sweep writes one `cpuset.cpus`, with
CPU 0 already parked, and stops. -/
example : (exec (throttlePower ⟨2, 7, fun _ => some "0-1".toList⟩)
    { initialState true with cpuIndex := [0, 1] }).2.writes = [(.cpusetCpus, "1".toList)] := by
  decide

/-- For every output of `get_cpu_topology.sh` and every content of the
effective cpuset, the script ends normally having written only the cgroup's
creation and one `cpuset.cpus` that parks the first core of `cpu_index`, and
nothing at all when `cpu_index` is empty: no `cpu.max` is ever written. -/
theorem sweep_stops_after_first_parking (machine : Machine) (topology : Option (List Char))
    (userExists : Bool) :
    let cpuIndex := (topology.bind topologyCores).getD []
    let run := exec (main machine topology) (initialState userExists)
    run.1 = .ok () ∧
      run.2.writes =
        if cpuIndex = [] then []
        else (if userExists then [] else createWrites machine) ++
          [(.cpusetCpus, usedCores machine.cpuCount cpuIndex 0)] := by
  intro cpuIndex run
  -- the globals once `get_cpu_topology` has run
  obtain ⟨started, topologyRead⟩ : ∃ started,
      exec (getCpuTopology topology) (initialState userExists) = (.ok (), started) :=
    ⟨_, exec_getCpuTopology topology _⟩
  have facts : started.cpuIndex = cpuIndex ∧ started.availableCores = none ∧
      started.userExists = userExists ∧ started.writes = [] := by
    rw [exec_getCpuTopology, Prod.mk.injEq] at topologyRead
    rw [← topologyRead.2]
    exact ⟨rfl, rfl, rfl, rfl⟩
  obtain ⟨indexed, unbound, created, unwritten⟩ := facts
  obtain ⟨returned, written⟩ := exec_throttlePower machine unbound
  -- `run_stress_ng`'s own `try` has nothing left to catch
  have caught : exec (runStressNg machine) started = exec (throttlePower machine) started := by
    rw [runStressNg, exec_tryCatch]
    rcases ran : exec (throttlePower machine) started with ⟨_ | _, after⟩
    · rw [ran] at returned
      cases returned
    · rfl
  have ran : run = exec (throttlePower machine) started := by
    show exec (getCpuTopology topology >>= fun _ => runStressNg machine) _ = _
    rw [exec_bind_of_ok topologyRead, caught]
  rw [ran]
  refine ⟨returned, ?_⟩
  rw [written, indexed, created, unwritten, List.nil_append]

end Sweep

end PowerCapping
