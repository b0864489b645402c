import PowerCapping.Lib.Python
import PowerCapping.Lib.Store
import Mathlib.Data.List.Sort

/-!
# Per-process CPU time in power attribution

`attribution/power_attr.py`'s `cid_list_gen` walks `/proc`, reads each
task's `stat`, charges a running or sleeping task the CPU time it used since
the time recorded for its pid in the global `pid_to_time_map` (all of it when
the pid is new), records the new time, and keeps for each CPU the task with
the largest such usage above 10 ticks.  The CPUs are then grouped by the
command of their task, the largest groups first.

The global map is a store written once per task seen: after any sequence of
snapshots it holds, for each pid, the time read at the last snapshot in which
that pid was seen (`pidToTime_after_run`).  Each CPU goes to the task with the
largest usage above 10 ticks charged to it, the last one on a tie
(`scan_chooses_largest`); but the usage is taken against the time of the pid,
not of the process, and the fields of `stat` are found by splitting on spaces
(`cidListGen_misattributes`).
-/

namespace PowerCapping

namespace Attribution

open Py

/-- What one `/proc/<pid>/stat` gives `cid_list_gen`: the pid, the CPU the
task last ran on and its user plus system time, for a task that is running
or sleeping.  `none` for a task in another state, and where indexing or `int`
raises (the loop then goes on with the next entry).  The fields are
`data.split(' ')`, so a command with a space in it shifts them. -/
def parseStat (data : List Char) : Option (ℤ × ℤ × ℤ) := do
  let fields := split ' ' data
  let state ← fields[2]?
  if state = "R".toList ∨ state = "S".toList then
    let pid ← fields[0]? >>= int?
    let cpu ← fields[38]? >>= int?
    let utime ← fields[13]? >>= int?
    let stime ← fields[14]? >>= int?
    pure (pid, cpu, utime + stime)
  else none

/-- A snapshot of `/proc` as `cid_list_gen` reads it: the entries of the
directory in the order `os.listdir` gives them, the content of each entry's
`stat`, and the content of `/proc/<pid>/comm` at its first and at its second
read (`none` when the file cannot be read). -/
structure Snapshot where
  entries : List (List Char)
  stat : List Char → Option (List Char)
  comm : ℤ → Option (List Char)
  commAgain : ℤ → Option (List Char)

/-- The variables of `cid_list_gen` while it walks `/proc`: the global
`pid_to_time_map`, and for each CPU the largest usage so far and its pid. -/
structure Scan where
  pidToTime : ℤ → Option ℤ
  totalTimePerCore : List ℤ
  currentPid : List ℤ

/-- The usage charged to a task: its time since the time recorded for its
pid, or all of it for a new pid. -/
def usage (pidToTime : ℤ → Option ℤ) (pid totalCpuTime : ℤ) : ℤ :=
  match pidToTime pid with
  | some before => totalCpuTime - before
  | none => totalCpuTime

/-- The body of the loop over `os.listdir("/proc")` for one entry. -/
def scanEntry (cpuCount : ℕ) (stat : List Char → Option (List Char)) (scan : Scan)
    (entry : List Char) : Scan :=
  if isDigitStr entry then
    match (stat entry).bind parseStat with
    | none => scan
    | some (pid, cpu, totalCpuTime) =>
        let charged := usage scan.pidToTime pid totalCpuTime
        let pidToTime := Function.update scan.pidToTime pid (some totalCpuTime)
        if 0 ≤ cpu ∧ cpu < cpuCount ∧ (scan.totalTimePerCore[cpu.toNat]?).getD 0 ≤ charged ∧
            10 < charged then
          ⟨pidToTime, scan.totalTimePerCore.set cpu.toNat charged,
            scan.currentPid.set cpu.toNat pid⟩
        else { scan with pidToTime }
  else scan

/-- `read_command(pid)`: `/proc/<pid>/comm` with NUL characters turned into
spaces, stripped. -/
def readCommand (comm : Option (List Char)) : Option (List Char) :=
  comm.map fun text => strip (text.map fun c => if c = Char.ofNat 0 then ' ' else c)

/-- One iteration of the loop over `range(cpu_count)`: a CPU whose task has a
command joins that command's group, created at the end when new.  The group
is looked up with a second read of the command, which raises `KeyError` when
the task is gone or renamed by then. -/
def addCpu (snapshot : Snapshot) (groups : List (List Char × List ℕ)) (core : ℕ × ℤ) :
    Except Py.Exception (List (List Char × List ℕ)) :=
  let (i, pid) := core
  match readCommand (snapshot.comm pid) with
  | none => pure groups
  | some command =>
      let groups := if groups.any (·.1 = command) then groups else groups ++ [(command, [])]
      match readCommand (snapshot.commAgain pid) with
      | some again =>
          if groups.any (·.1 = again) then
            pure (groups.map fun group => if group.1 = again then (group.1, group.2 ++ [i]) else group)
          else throw .keyError
      | none => throw .keyError

/-- `cid_list_gen()`: the groups of CPUs by command, the largest first (the
sort is stable), and the global map afterwards, which is updated even when the
grouping raises. -/
def cidListGen (cpuCount : ℕ) (pidToTime : ℤ → Option ℤ) (snapshot : Snapshot) :
    Except Py.Exception (List (List Char × List ℕ)) × (ℤ → Option ℤ) :=
  let scan := snapshot.entries.foldl (scanEntry cpuCount snapshot.stat)
    ⟨pidToTime, List.replicate cpuCount 0, List.replicate cpuCount 0⟩
  let groups := ((List.range cpuCount).zip scan.currentPid).foldlM (addCpu snapshot) []
  (groups.map fun groups => groups.mergeSort fun a b => b.2.length ≤ a.2.length,
    scan.pidToTime)

/-- The writes one snapshot makes to `pid_to_time_map`: the time of every
task whose `stat` it parses, in the order of the entries. -/
def timeWrites (stat : List Char → Option (List Char)) (entries : List (List Char)) :
    List (ℤ × Option ℤ) :=
  entries.filterMap fun entry =>
    if isDigitStr entry then
      ((stat entry).bind parseStat).map fun (pid, _, totalCpuTime) => (pid, some totalCpuTime)
    else none

theorem scanEntry_pidToTime (cpuCount : ℕ) (stat : List Char → Option (List Char))
    (scan : Scan) (entry : List Char) :
    (scanEntry cpuCount stat scan entry).pidToTime =
      Store.writeAll scan.pidToTime (timeWrites stat [entry]) := by
  by_cases digits : isDigitStr entry
  · rcases parsed : (stat entry).bind parseStat with _ | ⟨pid, cpu, totalCpuTime⟩
    · have noWrite : timeWrites stat [entry] = [] := by
        simp only [timeWrites, List.filterMap_cons, List.filterMap_nil, digits, if_true, parsed,
          Option.map_none]
      rw [noWrite]
      simp only [scanEntry, digits, if_true, parsed]
      rfl
    · have oneWrite : timeWrites stat [entry] = [(pid, some totalCpuTime)] := by
        simp only [timeWrites, List.filterMap_cons, List.filterMap_nil, digits, if_true, parsed,
          Option.map_some]
      rw [oneWrite]
      simp only [scanEntry, digits, if_true, parsed]
      -- the map is written whether or not the task wins its CPU
      split_ifs <;> rfl
  · have noWrite : timeWrites stat [entry] = [] := by
      simp [timeWrites, digits]
    rw [noWrite]
    simp [scanEntry, digits]

theorem foldl_scanEntry_pidToTime (cpuCount : ℕ) (stat : List Char → Option (List Char))
    (entries : List (List Char)) (scan : Scan) :
    (entries.foldl (scanEntry cpuCount stat) scan).pidToTime =
      Store.writeAll scan.pidToTime (timeWrites stat entries) := by
  induction entries generalizing scan with
  | nil => rfl
  | cons entry more ih =>
      rw [List.foldl_cons, ih, scanEntry_pidToTime, ← Store.writeAll_append]
      simp only [timeWrites, ← List.filterMap_append, List.singleton_append]

/-- One snapshot writes its tasks' times into the map, in order. -/
theorem cidListGen_pidToTime (cpuCount : ℕ) (pidToTime : ℤ → Option ℤ) (snapshot : Snapshot) :
    (cidListGen cpuCount pidToTime snapshot).2 =
      Store.writeAll pidToTime (timeWrites snapshot.stat snapshot.entries) :=
  foldl_scanEntry_pidToTime cpuCount snapshot.stat snapshot.entries _

/-- `pid_to_time_map` over the calls of `cid_list_gen` the process makes: the
first at start-up, while the global `cpu_count` is still `0`, then one for
each iteration of the main loop that gets that far. -/
def pidToTimeAfter (cpuCount : ℕ) (startup : Snapshot) (snapshots : List Snapshot) :
    ℤ → Option ℤ :=
  snapshots.foldl (fun pidToTime snapshot => (cidListGen cpuCount pidToTime snapshot).2)
    (cidListGen 0 (fun _ => none) startup).2

theorem foldl_cidListGen_pidToTime (cpuCount : ℕ) (snapshots : List Snapshot)
    (pidToTime : ℤ → Option ℤ) :
    snapshots.foldl (fun pidToTime snapshot => (cidListGen cpuCount pidToTime snapshot).2)
        pidToTime =
      Store.writeAll pidToTime
        (snapshots.flatMap fun snapshot => timeWrites snapshot.stat snapshot.entries) := by
  induction snapshots generalizing pidToTime with
  | nil => rfl
  | cons snapshot more ih =>
      rw [List.foldl_cons, ih, cidListGen_pidToTime, List.flatMap_cons, Store.writeAll_append]

/-- After any run, `pid_to_time_map` holds for each pid the time read at the
last snapshot in which a running or sleeping task had that pid, and nothing
for a pid never seen; the start-up call primes it although it charges no
CPU. -/
theorem pidToTime_after_run (cpuCount : ℕ) (startup : Snapshot) (snapshots : List Snapshot)
    (pid : ℤ) :
    pidToTimeAfter cpuCount startup snapshots pid =
      (Store.lastWrite ((startup :: snapshots).flatMap fun snapshot =>
        timeWrites snapshot.stat snapshot.entries) pid).getD none := by
  rw [pidToTimeAfter, foldl_cidListGen_pidToTime, cidListGen_pidToTime, ← Store.writeAll_append,
    Store.writeAll_apply, List.flatMap_cons]

/-- The charges of the walk over the entries of `/proc`: for each task whose
`stat` parses, its pid, the CPU read from it and the usage computed against
the map as the walk has updated it so far. -/
def charges (stat : List Char → Option (List Char)) (pidToTime : ℤ → Option ℤ) :
    List (List Char) → List (ℤ × ℤ × ℤ)
  | [] => []
  | entry :: rest =>
      match if isDigitStr entry then (stat entry).bind parseStat else Option.none with
      | Option.none => charges stat pidToTime rest
      | some (pid, cpu, totalCpuTime) =>
          (pid, cpu, usage pidToTime pid totalCpuTime) ::
            charges stat (Function.update pidToTime pid (some totalCpuTime)) rest

/-- `total_time_per_core[c]`, the largest usage charged to CPU `c` so far. -/
def Scan.best (scan : Scan) (c : ℕ) : ℤ :=
  (scan.totalTimePerCore[c]?).getD 0

/-- `current_pid[c]`, the task holding that usage. -/
def Scan.chosen (scan : Scan) (c : ℕ) : ℤ :=
  (scan.currentPid[c]?).getD 0

/-- What the scan holds for CPU `c` after the given charges, as its largest
usage `best` and its task `chosen`: every usage above 10 charged to `c` is at
most `best`, and either no such usage was charged (`best` and `chosen` are
`0`), or `best` is above 10 and is the usage of the last charge to `c` that
reached it, the charge of `chosen`. -/
def Chosen (charged : List (ℤ × ℤ × ℤ)) (c : ℕ) (best chosen : ℤ) : Prop :=
  (∀ charge ∈ charged, charge.2.1 = c → 10 < charge.2.2 → charge.2.2 ≤ best) ∧
    (best = 0 ∧ chosen = 0 ∨
      10 < best ∧ ∃ before after, charged = before ++ (chosen, (c : ℤ), best) :: after ∧
        ∀ charge ∈ after, charge.2.1 = c → charge.2.2 < best)

theorem chosen_nil (c : ℕ) : Chosen [] c 0 0 :=
  ⟨fun _ absent => absurd absent List.not_mem_nil, .inl ⟨rfl, rfl⟩⟩

/-- A charge that is not to `c`, or at most 10, or below the best, leaves the
choice for `c` as it is. -/
theorem Chosen.append_keep {charged : List (ℤ × ℤ × ℤ)} {c : ℕ} {best chosen : ℤ}
    (holds : Chosen charged c best chosen) {charge : ℤ × ℤ × ℤ}
    (keeps : charge.2.1 = c → charge.2.2 ≤ 10 ∨ charge.2.2 < best) :
    Chosen (charged ++ [charge]) c best chosen := by
  obtain ⟨bounded, choice⟩ := holds
  -- the bound is the same in both cases of the choice: the new charge is below it
  have extended : ∀ other ∈ charged ++ [charge], other.2.1 = c → 10 < other.2.2 →
      other.2.2 ≤ best := by
    intro other mem onCpu aboveTen
    rcases List.mem_append.mp mem with old | new
    · exact bounded other old onCpu aboveTen
    · rw [List.mem_singleton.mp new] at onCpu aboveTen ⊢
      have := keeps onCpu
      omega
  rcases choice with empty | ⟨above, before, after, split, later⟩
  · exact ⟨extended, .inl empty⟩
  · refine ⟨extended, .inr ⟨above, before, after ++ [charge], ?_, ?_⟩⟩
    · rw [split]
      simp
    · intro other mem onCpu
      rcases List.mem_append.mp mem with old | new
      · exact later other old onCpu
      · rw [List.mem_singleton.mp new] at onCpu ⊢
        have := keeps onCpu
        omega

/-- A charge to `c` above 10 and at least the best takes the CPU. -/
theorem Chosen.append_win {charged : List (ℤ × ℤ × ℤ)} {c : ℕ} {best chosen : ℤ}
    (holds : Chosen charged c best chosen) {pid charged' : ℤ} (wins : best ≤ charged')
    (above : 10 < charged') :
    Chosen (charged ++ [(pid, (c : ℤ), charged')]) c charged' pid := by
  refine ⟨?_, .inr ⟨above, charged, [], rfl, fun _ absent => absurd absent List.not_mem_nil⟩⟩
  intro other mem onCpu aboveTen
  rcases List.mem_append.mp mem with old | new
  · exact (holds.1 other old onCpu aboveTen).trans wins
  · rw [List.mem_singleton.mp new]

theorem charges_cons (stat : List Char → Option (List Char)) (pidToTime : ℤ → Option ℤ)
    (entry : List Char) (rest : List (List Char)) :
    charges stat pidToTime (entry :: rest) =
      charges stat pidToTime [entry] ++
        charges stat (Store.writeAll pidToTime (timeWrites stat [entry])) rest := by
  by_cases digits : isDigitStr entry
  · rcases parsed : (stat entry).bind parseStat with _ | ⟨pid, cpu, totalCpuTime⟩ <;>
      simp only [charges, timeWrites, Store.writeAll, List.filterMap_cons, List.filterMap_nil,
        digits, if_true, parsed, Option.map_none, Option.map_some, List.foldl_cons,
        List.foldl_nil, List.nil_append, List.cons_append]
  · simp [charges, timeWrites, digits]

theorem scanEntry_sizes (cpuCount : ℕ) (stat : List Char → Option (List Char)) (scan : Scan)
    (entry : List Char) :
    (scanEntry cpuCount stat scan entry).totalTimePerCore.length =
        scan.totalTimePerCore.length ∧
      (scanEntry cpuCount stat scan entry).currentPid.length = scan.currentPid.length := by
  unfold scanEntry
  split_ifs
  · split
    · exact ⟨rfl, rfl⟩
    · dsimp only
      split_ifs <;> simp
  · exact ⟨rfl, rfl⟩

/-- One entry of the walk: the scan's best and chosen task for CPU `c` keep
their meaning over the charges with the entry's added. -/
theorem scanEntry_chosen {cpuCount c : ℕ} (inRange : c < cpuCount)
    (stat : List Char → Option (List Char)) {scan : Scan}
    (sized : scan.totalTimePerCore.length = cpuCount ∧ scan.currentPid.length = cpuCount)
    {charged : List (ℤ × ℤ × ℤ)} (holds : Chosen charged c (scan.best c) (scan.chosen c))
    (entry : List Char) :
    Chosen (charged ++ charges stat scan.pidToTime [entry]) c
      ((scanEntry cpuCount stat scan entry).best c)
      ((scanEntry cpuCount stat scan entry).chosen c) := by
  by_cases digits : isDigitStr entry
  · rcases parsed : (stat entry).bind parseStat with _ | ⟨pid, cpu, totalCpuTime⟩
    · simpa [charges, scanEntry, digits, parsed] using holds
    · have one : charges stat scan.pidToTime [entry] =
          [(pid, cpu, usage scan.pidToTime pid totalCpuTime)] := by
        simp [charges, digits, parsed]
      rw [one]
      simp only [scanEntry, digits, if_true, parsed]
      split_ifs with wins
      · obtain ⟨nonneg, below, atLeast, above⟩ := wins
        simp only [Scan.best, Scan.chosen] at holds ⊢
        by_cases same : cpu.toNat = c
        · -- the charge is to `c` and takes it
          have onCpu : cpu = (c : ℤ) := by omega
          rw [same] at atLeast
          rw [same, List.getElem?_set_self (by omega), List.getElem?_set_self (by omega),
            Option.getD_some, Option.getD_some, onCpu]
          exact holds.append_win atLeast above
        · -- the charge is to another CPU: `c`'s entries are untouched
          rw [List.getElem?_set_ne same, List.getElem?_set_ne same]
          exact holds.append_keep fun onCpu => absurd (by simp at onCpu; omega) same
      · -- the charge loses: on `c` it is at most 10 or below the best
        refine holds.append_keep fun onCpu => ?_
        simp only at onCpu
        have atC : cpu.toNat = c := by omega
        have loses : ¬((scan.totalTimePerCore[c]?).getD 0 ≤ usage scan.pidToTime pid totalCpuTime ∧
            10 < usage scan.pidToTime pid totalCpuTime) := by
          rw [← atC]
          exact fun ⟨atLeast, above⟩ => wins ⟨by omega, by omega, atLeast, above⟩
        simp only [Scan.best]
        omega
  · simpa [charges, scanEntry, digits] using holds

/-- The whole walk: every CPU's best and chosen task are those of the charges
of all entries. -/
theorem foldl_scanEntry_chosen {cpuCount c : ℕ} (inRange : c < cpuCount)
    (stat : List Char → Option (List Char)) (entries : List (List Char)) :
    ∀ (scan : Scan) (charged : List (ℤ × ℤ × ℤ)),
      scan.totalTimePerCore.length = cpuCount ∧ scan.currentPid.length = cpuCount →
      Chosen charged c (scan.best c) (scan.chosen c) →
      Chosen (charged ++ charges stat scan.pidToTime entries) c
        ((entries.foldl (scanEntry cpuCount stat) scan).best c)
        ((entries.foldl (scanEntry cpuCount stat) scan).chosen c) := by
  induction entries with
  | nil =>
      intro scan charged _ holds
      simpa [charges] using holds
  | cons entry rest ih =>
      intro scan charged sized holds
      have stepped := scanEntry_chosen inRange stat sized holds entry
      have resized : (scanEntry cpuCount stat scan entry).totalTimePerCore.length = cpuCount ∧
          (scanEntry cpuCount stat scan entry).currentPid.length = cpuCount := by
        obtain ⟨total, current⟩ := scanEntry_sizes cpuCount stat scan entry
        rw [total, current]
        exact sized
      have := ih _ _ resized stepped
      rwa [scanEntry_pidToTime, List.append_assoc, ← charges_cons] at this

/-- `cid_list_gen` gives each CPU the task with the largest usage above 10
ticks charged to it, the last one when several tie, and pid `0` when there is
none; the usage is the one of `charges`, against the map kept by pid. -/
theorem scan_chooses_largest (cpuCount : ℕ) (pidToTime : ℤ → Option ℤ) (snapshot : Snapshot)
    {c : ℕ} (inRange : c < cpuCount) :
    Chosen (charges snapshot.stat pidToTime snapshot.entries) c
      ((snapshot.entries.foldl (scanEntry cpuCount snapshot.stat)
        ⟨pidToTime, List.replicate cpuCount 0, List.replicate cpuCount 0⟩).best c)
      ((snapshot.entries.foldl (scanEntry cpuCount snapshot.stat)
        ⟨pidToTime, List.replicate cpuCount 0, List.replicate cpuCount 0⟩).chosen c) := by
  have start : Chosen [] c (Scan.best ⟨pidToTime, List.replicate cpuCount 0,
      List.replicate cpuCount 0⟩ c) (Scan.chosen ⟨pidToTime, List.replicate cpuCount 0,
      List.replicate cpuCount 0⟩ c) := by
    simpa [Scan.best, Scan.chosen, inRange] using chosen_nil c
  simpa using foldl_scanEntry_chosen inRange snapshot.stat snapshot.entries _ [] (by simp) start

/-- `stat` lines with the state, `utime` and `processor` fields at the
positions `cid_list_gen` reads, all other fields `0`, `stime` included.  A pid
whose task exits is reused by a new task with 50 ticks on CPU 1: the map still
holds the old task's 1000 ticks, the new task is charged -950 and CPU 1 is
charged to no task, where a new pid would give it to command `b`.  A running
task whose command has a space in it is skipped, and one whose command holds
` R ` is read with its fields shifted by two: CPU 0 and no ticks. -/
theorem cidListGen_misattributes :
    (let stat := fun (head ticks cpu : List Char) =>
      head ++ (List.replicate 10 " 0".toList).flatten ++ ' ' :: ticks ++ " 0".toList ++
        (List.replicate 23 " 0".toList).flatten ++ ' ' :: cpu
    let exited := stat "100 (a) S".toList "1000".toList "1".toList
    let reused := stat "100 (b) R".toList "50".toList "1".toList
    let comm := fun pid : ℤ => if pid = 100 then some "b".toList else Option.none
    let startup : Snapshot := ⟨["100".toList], fun _ => some exited, comm, comm⟩
    let later : Snapshot := ⟨["100".toList], fun _ => some reused, comm, comm⟩
    parseStat exited = some (100, 1, 1000) ∧ parseStat reused = some (100, 1, 50) ∧
      usage (pidToTimeAfter 2 startup []) 100 50 = -950 ∧
      (cidListGen 2 (pidToTimeAfter 2 startup []) later).1 = .ok [] ∧
      (cidListGen 2 (fun _ => Option.none) later).1 = .ok [("b".toList, [1])] ∧
      parseStat (stat "200 (c d) R".toList "500".toList "1".toList) = Option.none ∧
      parseStat (stat "300 (e R f) S".toList "500".toList "1".toList) = some (300, 0, 0)) := by
  decide +kernel

end Attribution

end PowerCapping
