import PowerCapping.Predxnd.Monitor
import PowerCapping.Lib.Run

/-!
# The merge server's use of a remote payload

`predxnd/merge_pred_throttle.py` receives, for each payload of the monitor,
the dictionary `json.loads` makes of it, with the remote cgroup's throttle
`cpu_limit_remote` that the client adds.  `merge_remote_data` cuts the
server's own feature list into its `cpupower` block, its temperature block and
its perf block, by lengths computed from the payload, and writes the remote
cores into it: for the `i`-th core `c` of the server's cgroup, the row
`cpu_index_map[c]` of the local block takes the `i`-th remote row, with its
`C0` capped at the server's own throttle, and the temperature at index `c`
takes the `i`-th remote temperature.  The perf counts are added, the remote
ones scaled by the ratio of the two throttles.

`get_cpu_util_limit` turns `cpu.max` and `cpuset.cpus.effective` into a
percentage of the cgroup's cores.  Every index, slice and division keeps its
Python meaning: negative indices count from the end, slices clamp, `//`
rounds down, and a missing key, an index out of range or a zero divisor
raises.
-/

namespace PowerCapping

namespace Predxnd

open Py

/-- The keys of a payload dictionary the server reads, each absent or with
its value. -/
structure Remote where
  numCores : Option ℤ
  cpupowerFields : Option (List ℚ)
  perfCounts : Option (List ℚ)
  temperatures : Option (List ℚ)
  cpuLimitRemote : Option ℚ
  deriving DecidableEq, Repr

/-- One comma-separated part of a cpuset list as the server reads it: a range
`lo-hi` or a single core, `ValueError` for what `int` cannot read. -/
def corePart (part : List Char) : Except Py.Exception (List ℤ) :=
  if '-' ∈ part then
    match split '-' part with
    | [first, last] =>
        match int? first, int? last with
        | some lo, some hi => .ok (rangeInclusive lo hi)
        | _, _ => .error .valueError
    | _ => .error .valueError
  else
    match int? part with
    | some core => .ok [core]
    | none => .error .valueError

/-- The loop over `s.split(",")` shared by `get_cgroup_cores` and
`get_cpu_util_limit`. -/
def parseCores (text : List Char) : Except Py.Exception (List ℤ) := do
  let parts ← (split ',' text).mapM corePart
  pure parts.flatten

/-- `get_cgroup_cores(path)` on the content of `cpuset.cpus`. -/
def getCgroupCores (content : List Char) : Except Py.Exception (List ℤ) :=
  parseCores (strip content)

/-- `get_cpu_util_limit(cg_path)` on the contents of `cpu.max` and
`cpuset.cpus.effective`: `max` is 100%, otherwise the quota over the period
spread over the effective cores. -/
def getCpuUtilLimit (cpuMax effective : List Char) : Except Py.Exception ℚ := do
  let qm := splitWhitespace cpuMax
  let first ← getItem qm 0
  if first = "max".toList then pure 100
  else
    let quota ← floatValue first
    let second ← getItem qm 1
    let period ← floatValue second
    let cores ← parseCores (strip effective)
    let n := cores.length
    -- the condition of `... if n > 0 else 100.0` is evaluated first
    if 0 < n then
      if period = 0 then .error .zeroDivisionError
      else pure (quota / period / n * 100)
    else pure 100

/-- The `if rp_cp[ridx] > throttle` block of the loop body: the local row at
`lidx` takes the remote row at `ridx`, with `C0` (and `Cx` and `C1E`) set
from the throttle when the remote `C0` is above it. -/
def mergeRow (rpCp : List ℚ) (throttle : ℚ) (lc : List ℚ) (lidx ridx : ℤ) :
    Except Py.Exception (List ℚ) := do
  let remoteC0 ← getItem rpCp ridx
  if throttle < remoteC0 then do
    let lc ← assignItem lc lidx throttle
    let lc ← assignItem lc (lidx + 1) (100 - throttle)
    let lc ← assignItem lc (lidx + 5) (100 - throttle)
    let value ← getItem rpCp (ridx + 2)
    assignItem lc (lidx + 2) value
  else do
    let value ← getItem rpCp ridx
    let lc ← assignItem lc lidx value
    let value ← getItem rpCp (ridx + 1)
    let lc ← assignItem lc (lidx + 1) value
    let value ← getItem rpCp (ridx + 5)
    let lc ← assignItem lc (lidx + 5) value
    let value ← getItem rpCp (ridx + 2)
    assignItem lc (lidx + 2) value

/-- `if rp_temps: lt[c] = rp_temps[i]`. -/
def mergeTemp (rpTemps lt : List ℚ) (i : ℕ) (c : ℤ) : Except Py.Exception (List ℚ) :=
  if rpTemps ≠ [] then do
    let value ← getItem rpTemps i
    assignItem lt c value
  else pure lt

/-- One iteration of the loop over `enumerate(cgroup_cpus)`: the row of CPU
`c` in the local block, at `cpu_index_map[c]`, takes the `i`-th remote row,
and the temperature at index `c` the `i`-th remote temperature. -/
def mergeCore (cpuIndexMap : ℤ → Option ℕ) (featsPer : ℤ) (rpCp rpTemps : List ℚ)
    (throttle : ℚ) (blocks : List ℚ × List ℚ) (core : ℕ × ℤ) :
    Except Py.Exception (List ℚ × List ℚ) := do
  let (lc, lt) := blocks
  let (i, c) := core
  let idx ← getKey (cpuIndexMap c)
  let lc ← mergeRow rpCp throttle lc (idx * featsPer) (i * featsPer)
  let lt ← mergeTemp rpTemps lt i c
  pure (lc, lt)

theorem mergeRow_length (rpCp : List ℚ) (throttle : ℚ) (lc : List ℚ) (lidx ridx : ℤ) :
    ReturnsLength lc.length (mergeRow rpCp throttle lc lidx ridx) := by
  unfold mergeRow
  refine .bind fun remoteC0 => ?_
  split_ifs
  · -- `C0`, `Cx` and `C1E` from the throttle, `C1` from the remote row
    exact .assign_bind rfl fun _ same => .assign_bind same fun _ same =>
      .assign_bind same fun _ same => .bind fun _ => .assign same
  · exact .bind fun _ => .assign_bind rfl fun _ same => .bind fun _ =>
      .assign_bind same fun _ same => .bind fun _ => .assign_bind same fun _ same =>
        .bind fun _ => .assign same

theorem mergeTemp_length (rpTemps lt : List ℚ) (i : ℕ) (c : ℤ) :
    ReturnsLength lt.length (mergeTemp rpTemps lt i c) := by
  unfold mergeTemp
  split_ifs
  · exact .bind fun _ => .assign rfl
  · exact .pure rfl

/-- The loop body only assigns in place: both local blocks keep their
lengths. -/
theorem mergeCore_lengths {cpuIndexMap : ℤ → Option ℕ} {featsPer : ℤ} {rpCp rpTemps : List ℚ}
    {throttle : ℚ} {blocks merged : List ℚ × List ℚ} {core : ℕ × ℤ}
    (ran : mergeCore cpuIndexMap featsPer rpCp rpTemps throttle blocks core = .ok merged) :
    merged.1.length = blocks.1.length ∧ merged.2.length = blocks.2.length := by
  obtain ⟨lc, lt⟩ := blocks
  obtain ⟨i, c⟩ := core
  simp only [mergeCore, bind_eq_ok] at ran
  obtain ⟨idx, -, row, rowed, temp, temped, merging⟩ := ran
  cases merging
  exact ⟨mergeRow_length _ _ _ _ _ _ rowed, mergeTemp_length _ _ _ _ _ temped⟩

/-- The loop over the cgroup's cores keeps the lengths of the local
`cpupower` and temperature blocks. -/
theorem foldlM_mergeCore_lengths {cpuIndexMap : ℤ → Option ℕ} {featsPer : ℤ}
    {rpCp rpTemps : List ℚ} {throttle : ℚ} {cores : List (ℕ × ℤ)}
    {blocks merged : List ℚ × List ℚ}
    (ran : cores.foldlM (mergeCore cpuIndexMap featsPer rpCp rpTemps throttle) blocks =
      .ok merged) :
    merged.1.length = blocks.1.length ∧ merged.2.length = blocks.2.length :=
  Run.foldlM_invariant
    (fun current => current.1.length = blocks.1.length ∧ current.2.length = blocks.2.length)
    (fun _ _ _ ⟨sameRows, sameTemps⟩ stepped =>
      ⟨(mergeCore_lengths stepped).1.trans sameRows, (mergeCore_lengths stepped).2.trans sameTemps⟩)
    ⟨rfl, rfl⟩ ran

/-- `merge_remote_data(local_list, remote_data, cgroup_cpus, local_limit)`
with the server's `cpu_index_map`. -/
def mergeRemoteData (cpuIndexMap : ℤ → Option ℕ) (localList : List ℚ) (remoteData : Remote)
    (cgroupCpus : List ℤ) (localLimit : ℚ) : Except Py.Exception (List ℚ) := do
  let remoteNum ← getKey remoteData.numCores
  let rpCp ← getKey remoteData.cpupowerFields
  let rpPerf ← getKey remoteData.perfCounts
  let rpTemps := remoteData.temperatures.getD []
  let remoteLim ← getKey remoteData.cpuLimitRemote
  let throttle := localLimit
  let featsPer ← floorDiv rpCp.length remoteNum
  let perfCnt : ℤ := rpPerf.length
  let totalLen : ℤ := localList.length
  let coresLoc ← floorDiv (totalLen - perfCnt) (featsPer + 1)
  let cpEnd := featsPer * coresLoc
  let tempsSt := cpEnd
  let tempsEn := tempsSt + coresLoc
  let perfSt := tempsEn
  let lc := slice localList 0 cpEnd
  let lt := slice localList tempsSt tempsEn
  let lp := slice localList perfSt (perfSt + perfCnt)
  let (lc, lt) ← (List.range cgroupCpus.length).zip cgroupCpus |>.foldlM
    (mergeCore cpuIndexMap featsPer rpCp rpTemps throttle) (lc, lt)
  let ratio := if 0 < remoteLim then throttle / remoteLim else 1
  let mp := (lp.zip rpPerf).map fun (a, b) => a + b * ratio
  pure (lc ++ lt ++ mp)

end Predxnd

end PowerCapping
