import PowerCapping.Parse.CpuPower
import Mathlib.Data.List.Sort

/-!
# The predxnd monitor's payload

`predxnd/cgroup_monitor3.py` prints, once a second, a JSON object describing
the cores of one cgroup: `num_cores`, `cpus`, `cpupower_fields` (seven
`cpupower` fields per core), `perf_counts` (one value per supported event) and
`temperatures` (one per core).  `parse_cpu_data` builds the three blocks as one
flat list and `main` cuts it again by the block lengths.

When the `cpupower` output has a header, every core contributes exactly seven
fields and the cut falls on the block boundaries.  When it has none,
`parse_cpu_data` returns the perf counts and the temperatures without the
`cpupower` block, so the cut shifts the blocks.  An empty cpuset takes a
branch whose `print` is given `separators`, which `print` does not accept.

The `sensors` and `lscpu` parsing is taken as done: the monitor's
`temps_logical` is an input.  JSON serialisation is not modelled; the payload
is the dictionary `json.dumps` receives.
-/

namespace PowerCapping

namespace Predxnd

open Py Parse

/-- `range(start, end + 1)`. -/
def rangeInclusive (start stop : ℤ) : List ℤ :=
  (List.range (stop + 1 - start).toNat).map fun offset => start + offset

/-- One comma-separated part of `cpuset.cpus`: a range `a-b`, a single core,
or nothing when `int` raises `ValueError`. -/
def cpusetPart (part : List Char) : List ℤ :=
  if '-' ∈ part then
    match split '-' part with
    | [first, last] =>
        match int? first, int? last with
        | some start, some stop => rangeInclusive start stop
        | _, _ => []
    | _ => []
  else
    match int? part with
    | some core => [core]
    | none => []

/-- `get_cpuset_cores(cgroup_name)` on the content of `cpuset.cpus` (`none`
when the file does not exist). -/
def getCpusetCores : Option (List Char) → List ℤ
  | none => []
  | some content =>
      if strip content = [] then []
      else (split ',' (strip content)).flatMap cpusetPart

/-- `int(raw)`, else `float(raw)`. -/
def countValue (raw : List Char) : Option ℚ :=
  match int? raw with
  | some count => some count
  | none => float? raw

/-- The event a `perf stat -x,` line counts, and its count: the first
supported event the printed name starts with whose count converts. -/
def lineCount (events : List (List Char)) (raw printed : List Char) :
    Option (List Char × ℚ) :=
  match events with
  | [] => none
  | event :: rest =>
      if event <+: printed then
        match countValue (removeChar ',' raw) with
        | some count => some (event, count)
        | none => lineCount rest raw printed
      else lineCount rest raw printed

/-- The counts `run_perf_for_cores` reads from the `perf stat -x,` output,
the last line of an event winning. -/
def perfCounts (events : List (List Char)) (stderr : List Char) : List Char → Option ℚ :=
  (splitlines stderr).foldl (fun counts line =>
    let line := strip line
    if line = [] ∨ '#'.toString.toList <+: line then counts
    else
      match split ',' line with
      | raw :: _ :: printed :: _ =>
          match lineCount events raw printed with
          | some (event, count) => Function.update counts event (some count)
          | none => counts
      | _ => counts) fun _ => none

/-- `[perf_counts.get(m, 0) for m in supported]`. -/
def cpuMetrics (supported : List (List Char)) (stderr : List Char) : List ℚ :=
  supported.map fun event => (perfCounts supported stderr event).getD 0

/-- The fields `parse_cpu_data` keeps for each core. -/
def wantFields : List (List Char) :=
  ["C0".toList, "Cx".toList, "Freq".toList, "POLL".toList, "C1".toList, "C1E".toList,
    "C6".toList]

/-- `col_idx[name]`: the last position of a column name in the header. -/
def colIdx (header : List (List Char)) (name : List Char) : Option ℕ :=
  ((List.range header.length).filter fun index => header[index]? = some name).getLast?

/-- Whether a line is a header: it names both `CPU` and `C0`. -/
def isHeader (elems : List (List Char)) : Bool :=
  elems.contains "CPU".toList && elems.contains "C0".toList

/-- The seven wanted fields of a data row, `0.0` for a missing column or a
field that does not convert. -/
def coreRow (header elems : List (List Char)) : List ℚ :=
  wantFields.map fun key =>
    match colIdx header key with
    | some index => ((elems[index]?).bind float?).getD 0
    | none => 0

/-- `per_core_map` after the loop over the lines: each cpuset core's last row,
else seven zeros. -/
def perCoreMap (header : List (List Char)) (cpusetCores : List ℤ)
    (lines : List (List Char)) : ℤ → List ℚ :=
  lines.foldl (fun perCore line =>
    let elems := lineElements line
    if elems = [] ∨ isHeader elems then perCore
    else
      match (colIdx header "CPU".toList).bind (fun index => elems[index]?) >>= int? with
      | some cpu =>
          if cpu ∈ cpusetCores then Function.update perCore cpu (coreRow header elems)
          else perCore
      | none => perCore) fun _ => List.replicate 7 0

/-- `parse_cpu_data(output, cpu_metrics, temps_logical, cpuset_cores)` of the
monitor: the flat list and the sorted cores. -/
def monitorParseCpuData (output : List Char) (metrics : List ℚ) (tempsLogical : ℤ → Option ℚ)
    (cpusetCores : List ℤ) : List ℚ × List ℤ :=
  let lines := splitlines output
  let sortedCores := cpusetCores.insertionSort (· ≤ ·)
  let temperatures := sortedCores.map fun core => (tempsLogical core).getD 0
  match (lines.map lineElements).find? isHeader with
  | none => (metrics ++ temperatures, sortedCores)
  | some header =>
      ((sortedCores.flatMap (perCoreMap header cpusetCores lines)) ++ metrics ++ temperatures,
        sortedCores)

/-- What one iteration of `main`'s loop prints. -/
inductive Payload
  | error (message : List Char)
  | data (numCores : ℕ) (cpus : List ℤ) (cpupowerFields perfCounts temperatures : List ℚ)
  deriving DecidableEq, Repr

/-- One iteration of `main`'s loop: an exception ends the monitor.  The
inputs are `cpuset.cpus`, the `cpupower` and `perf` outputs and
`temps_logical`. -/
def mainIteration (supported : List (List Char)) (cpusetFile : Option (List Char))
    (cpupower perfStderr : List Char) (tempsLogical : ℤ → Option ℚ) :
    Except Py.Exception Payload :=
  let cpusetCores := getCpusetCores cpusetFile
  -- `print(json.dumps(...), separators=(",", ":"))` raises `TypeError`
  if cpusetCores = [] then throw .typeError
  else
    let (parsed, sortedCpus) := monitorParseCpuData cpupower
      (cpuMetrics supported perfStderr) tempsLogical cpusetCores
    if parsed = [] then pure (.error "no_data".toList)
    else
      let numCores := sortedCpus.length
      let cpupowerLen := numCores * 7
      let perfLen := supported.length
      pure (.data numCores sortedCpus (parsed.take cpupowerLen)
        ((parsed.drop cpupowerLen).take perfLen)
        ((parsed.drop (cpupowerLen + perfLen)).take numCores))

theorem length_coreRow (header elems : List (List Char)) : (coreRow header elems).length = 7 := by
  simp [coreRow, wantFields]

/-- Every core's entry of `per_core_map` has the seven wanted fields. -/
theorem length_perCoreMap (header : List (List Char)) (cpusetCores : List ℤ)
    (lines : List (List Char)) (core : ℤ) :
    (perCoreMap header cpusetCores lines core).length = 7 := by
  unfold perCoreMap
  -- the invariant of the loop over the lines: every core's entry has seven fields
  refine List.foldlRecOn
    (motive := fun perCore : ℤ → List ℚ => ∀ core, (perCore core).length = 7) lines _
    (fun _ => List.length_replicate) (fun perCore kept line _ => ?_) core
  intro core
  split_ifs with skipped
  · exact kept core
  -- the CPU id of the row, if its `CPU` field converts
  generalize (colIdx header "CPU".toList).bind (fun index => (lineElements line)[index]?) >>=
    int? = found
  cases found with
  | none => exact kept core
  | some cpu =>
      dsimp only
      split_ifs
      · rw [Function.update_apply]
        split_ifs
        · exact length_coreRow header _
        · exact kept core
      · exact kept core

theorem length_flatMap_perCoreMap (header : List (List Char)) (cpusetCores : List ℤ)
    (lines : List (List Char)) (cores : List ℤ) :
    (cores.flatMap (perCoreMap header cpusetCores lines)).length = cores.length * 7 := by
  induction cores with
  | nil => rfl
  | cons core rest ih =>
      rw [List.flatMap_cons, List.length_append, length_perCoreMap, ih, List.length_cons]
      ring

theorem length_cpuMetrics (supported : List (List Char)) (stderr : List Char) :
    (cpuMetrics supported stderr).length = supported.length :=
  List.length_map _

/-- With a `cpupower` header and a non-empty cpuset, the payload cuts the flat
list at its block boundaries: seven fields for each core in sorted order, one
count for each supported event, one temperature for each core. -/
theorem mainIteration_of_header {supported : List (List Char)}
    {cpusetFile : Option (List Char)} {cpupower perfStderr : List Char}
    {tempsLogical : ℤ → Option ℚ} {header : List (List Char)}
    (nonempty : getCpusetCores cpusetFile ≠ [])
    (found : ((splitlines cpupower).map lineElements).find? isHeader = some header) :
    mainIteration supported cpusetFile cpupower perfStderr tempsLogical =
      let cores := (getCpusetCores cpusetFile).insertionSort (· ≤ ·)
      .ok (.data cores.length cores
        (cores.flatMap (perCoreMap header (getCpusetCores cpusetFile) (splitlines cpupower)))
        (cpuMetrics supported perfStderr) (cores.map fun core => (tempsLogical core).getD 0)) := by
  dsimp only
  have fieldsLength := length_flatMap_perCoreMap header (getCpusetCores cpusetFile)
    (splitlines cpupower) ((getCpusetCores cpusetFile).insertionSort (· ≤ ·))
  have countsLength := length_cpuMetrics supported perfStderr
  -- sorting keeps the cores, so there is at least one and the flat list is not empty
  have sortedLength := List.length_insertionSort (· ≤ ·) (getCpusetCores cpusetFile)
  have somePos := List.length_pos_iff.mpr nonempty
  simp only [mainIteration, nonempty, if_false, monitorParseCpuData, found]
  rw [if_neg]
  · -- the three cuts fall on the block boundaries
    simp [List.drop_append, fieldsLength, countsLength, sortedLength,
      List.drop_eq_nil_of_le, List.take_of_length_le]
    rfl
  · intro empty
    have := congrArg List.length empty
    simp only [List.length_append, fieldsLength, List.length_nil] at this
    omega

/-- With one core, the supported event `instructions` of `METRICS` and no
`cpupower` header, the payload's `cpupower_fields` holds the perf count and
the temperature, and the other blocks are empty; with
an empty cpuset the iteration raises before printing. -/
theorem monitor_fallback_shifts_blocks :
    mainIteration ["instructions".toList] (some "0".toList) [] "5,,instructions".toList
        (fun _ => none) = .ok (.data 1 [0] [5, 0] [] []) ∧
      mainIteration ["instructions".toList] (some []) [] "5,,instructions".toList
        (fun _ => none) = .error .typeError := by
  decide +kernel

end Predxnd

end PowerCapping
