import PowerCapping.Attribution.Features
import PowerCapping.Attribution.Usage
import PowerCapping.Parse.Perf
import PowerCapping.Lib.Grouping

/-!
# The power attribution report

The main loop of `attribution/power_attr.py` runs `run_stress_ng` round after
round.  A round reads the per-CPU counters of `perf stat --no-aggr`
(`parse_perf_metrics`), the package power (`parse_power_consumption`, the
reference `truth`), the `cpupower` table and the groups of `cid_list_gen`, and
asks the power model about the whole machine and about each group alone.  A
group's power is its prediction above the idle power; the groups are printed
largest first, each with its share `power * (ref_power - idle_power) /
total_power` of the predicted active power, then a summary with the error of
the whole-machine prediction against `truth`.  Every exception of a round is
caught and printed, and the next round starts.

The only state kept from round to round is `cid_list_gen`'s
`pid_to_time_map`, which a round whose `cpupower` table cannot be read leaves
alone (`attribution_pidToTime_after_run`).

The arithmetic is `numpy`'s on exact rationals: a division by a zero total
gives `inf` or `nan`, which is `none` here, and the rounding of the doubles is
not modelled.  A printed line is modelled by the values it formats, before the
`.2f` of the line.
`perf_metrics`'s dictionary of CPUs is the log of its appends
(`Lib.Grouping`).
-/

namespace PowerCapping

namespace Attribution

open Py Pip Parse Grouping

/-! ## Reading `perf_metrics.dat` -/

/-- `CPU(\d+)\s+(\d+[\d,\.]*)` at the front: the CPU number and the count. -/
def cpuCountMatch (text : List Char) : Option (List Char × List Char) := do
  let rest ← literal "CPU".toList text
  match rest.span Char.isDigit with
  | ([], _) => Option.none
  | (cpu, afterCpu) => do
      let afterSpaces ← spaces1 afterCpu
      match afterSpaces.span isCountChar with
      | (first :: more, _) => if first.isDigit then some (cpu, first :: more) else Option.none
      | ([], _) => Option.none

/-- One line of the counter loop of `parse_perf_metrics`: the count it
appends to its CPU's list, when the line matches; `int` of a count with a
decimal point raises. -/
def cpuCountLine (line : List Char) : Except (List Char) (List (ℕ × ℚ)) :=
  match search cpuCountMatch line with
  | some (cpu, count) => do
      let cpuNumber ← intOrMessage cpu
      let value ← intOrMessage (removeChar ',' count)
      pure [(cpuNumber.toNat, (value : ℚ))]
  | Option.none => pure []

/-- `parse_perf_metrics()` of the attribution script, on the contents of
`perf_metrics.dat` and `core_temp.dat`: the appends to `extracted_values`
(each count per second when the elapsed time is positive) and the
temperatures; the message of `(None, "Error: ...")` on failure. -/
def parsePerfMetricsAttr (perfFile coreTempFile : Option (List Char)) :
    Except (List Char) (List (ℕ × ℚ) × List ℚ) :=
  Except.mapError ("Error: ".toList ++ ·) do
    let perfOutput ← readFile "./perf_metrics.dat".toList perfFile
    let elapsed ←
      match search elapsedPattern perfOutput with
      | some number => floatOrMessage number
      | Option.none => throw noGroupMessage
    let lines ← (split '\n' perfOutput).mapM cpuCountLine
    let extracted := lines.flatten
    -- `if time_elapsed > 0`: each list divided by the elapsed time
    let perSecond :=
      if 0 < elapsed then extracted.map fun entry => (entry.1, entry.2 / elapsed) else extracted
    let coreTempOutput ← readFile "./core_temp.dat".toList coreTempFile
    let temps ← coreTempValues (split '\n' coreTempOutput)
    pure (perSecond, temps)

/-! ## The report of a round -/

/-- A `numpy` float division: `none` stands for the `inf` or `nan` of a zero
divisor. -/
def numpyDiv (numerator denominator : ℚ) : Option ℚ :=
  if denominator = 0 then Option.none else some (numerator / denominator)

/-- What a round prints: a group's share of the active power
(`f"{command}: {relative_power:.2f}"`, with the value before the `.2f`), the
summary line, or the exception that ended the round. -/
inductive Printed
  | share (command : List Char) (relativePower : Option ℚ)
  | summary (activePower idlePower truth : ℚ) (error : Option ℚ)
  | failed (error : Py.Exception)
  deriving DecidableEq, Repr

/-- `command_power_pairs.sort(key=lambda x: x[1], reverse=True)`: a stable
sort, largest power first. -/
def sortByPower (pairs : List (List Char × ℚ)) : List (List Char × ℚ) :=
  pairs.mergeSort fun first second => second.2 ≤ first.2

/-- The detailed lines: each group of the sorted pairs with its share of the
active power, over the total of the powers. -/
def shares (pairs : List (List Char × ℚ)) (activePower : ℚ) : List Printed :=
  let totalPower := (pairs.map Prod.snd).sum
  (sortByPower pairs).map fun pair => .share pair.1 (numpyDiv (pair.2 * activePower) totalPower)

/-- The end of a round: the detailed lines, then the summary, or the
`TypeError` of `abs(ref_power - truth)` when `truth` is the error pair of
`parse_power_consumption`. -/
def report (pairs : List (List Char × ℚ)) (refPower idlePower : ℚ)
    (truth : Except (List Char) ℚ) : List Printed :=
  shares pairs (refPower - idlePower) ++
    match truth with
    | .ok truth =>
        [.summary (refPower - idlePower) idlePower truth
          ((numpyDiv |refPower - truth| truth).map (· * 100))]
    | .error _ => [.failed .typeError]

/-! ## A round and the main loop -/

/-- What the main block has when its loop starts: the output of `cpupower
monitor sleep 0` that `parse_cpu_info` read, `read_cpu_info()`, and the power
model's `predict`.  `parse_cpu_info` raised nothing, or the script would have
stopped there. -/
structure Setup where
  info : List Char
  cpuCount : ℕ
  predict : List Cell → ℚ
  supported : ∃ columns, parseCpuInfo info = .ok columns

/-- What one round reads: the files `perf` writes (`none` when missing), the
`cpupower` table, `/proc` when `cid_list_gen` walks it, and `idle.dat`. -/
structure Round where
  perfFile : Option (List Char)
  coreTempFile : Option (List Char)
  energyFile : Option (List Char)
  cpupower : List Char
  snapshot : Snapshot
  idleFile : Option (List Char)

/-- `open('../data/idle.dat').read()`. -/
def readIdleFile : Option (List Char) → Except Py.Exception (List Char)
  | some content => .ok content
  | Option.none => .error .osError

/-- The result of `parse_perf_metrics` where the round first indexes it: after
a failure `perf_metrics` is `None`, and `perf_metrics[0]` is a `TypeError`. -/
def perfMetricsOf :
    Except (List Char) (List (ℕ × ℚ) × List ℚ) → Except Py.Exception (List (ℕ × ℚ) × List ℚ)
  | .ok measured => .ok measured
  | .error _ => .error .typeError

/-- The part of `run_stress_ng` after `cid_list_gen`: the features, the
predictions and the report. -/
def predictRound (setup : Setup) (round : Round) (groups : List (List Char × List ℕ))
    (perf : Except (List Char) (List (ℕ × ℚ) × List ℚ)) (truth : Except (List Char) ℚ) :
    Except Py.Exception (List Printed) := do
  let idleData ← readIdleFile round.idleFile
  let idlePower ← floatValue ((split ',' idleData).getLastD [])
  let measured ← perfMetricsOf perf
  let features ← measurementFeatures setup.info setup.cpuCount round.cpupower
    (lookup? measured.1) measured.2 idleData groups
  let pairs := features.2.map fun app => (app.1, setup.predict app.2 - idlePower)
  pure (report pairs (setup.predict features.1) idlePower truth)

/-- `except Exception as e: print(...)`: the lines of a round that returned,
or the exception that ended it. -/
def caught : Except Py.Exception (List Printed) → List Printed
  | .ok printed => printed
  | .error error => [.failed error]

/-- One round of `run_stress_ng`: `pid_to_time_map` afterwards, and what it
prints.  `parse_cpu_data` runs before `cid_list_gen`, so a table it cannot
read leaves the map as it was. -/
def runStressNg (setup : Setup) (pidToTime : ℤ → Option ℤ) (round : Round) :
    (ℤ → Option ℤ) × List Printed :=
  let truth := parsePowerConsumption round.energyFile
  let perf := parsePerfMetricsAttr round.perfFile round.coreTempFile
  match attrParseCpuData round.cpupower with
  | .error error => (pidToTime, [.failed error])
  | .ok _ =>
      let listed := cidListGen setup.cpuCount pidToTime round.snapshot
      (listed.2, caught (listed.1 >>= fun groups => predictRound setup round groups perf truth))

/-- The main block: `cid_list_gen()` once while `cpu_count` is still `0`,
then the rounds of `while True`, one thread at a time. -/
def attributionMain (setup : Setup) (startup : Snapshot) (rounds : List Round) :
    (ℤ → Option ℤ) × List Printed :=
  Run.runOut (runStressNg setup) (cidListGen 0 (fun _ => Option.none) startup).2 rounds

/-! ## The main loop -/

/-- A round gets to `cid_list_gen` exactly when `parse_cpu_data` reads its
table. -/
theorem runStressNg_fst (setup : Setup) (pidToTime : ℤ → Option ℤ) (round : Round) :
    (runStressNg setup pidToTime round).1 =
      if (attrParseCpuData round.cpupower).isOk then
        (cidListGen setup.cpuCount pidToTime round.snapshot).2
      else pidToTime := by
  unfold runStressNg
  cases attrParseCpuData round.cpupower <;> rfl

/-- After any run of the main loop, `pid_to_time_map` holds for each pid the
time read at the last snapshot, of the start-up call or of a round whose
`cpupower` table was read, in which a running or sleeping task had that pid. -/
theorem attribution_pidToTime_after_run (setup : Setup) (startup : Snapshot)
    (rounds : List Round) (pid : ℤ) :
    (attributionMain setup startup rounds).1 pid =
      (Store.lastWrite ((startup :: ((rounds.filter fun round =>
          (attrParseCpuData round.cpupower).isOk).map Round.snapshot)).flatMap fun snapshot =>
        timeWrites snapshot.stat snapshot.entries) pid).getD Option.none := by
  have loop : (attributionMain setup startup rounds).1 = pidToTimeAfter setup.cpuCount startup
      ((rounds.filter fun round => (attrParseCpuData round.cpupower).isOk).map Round.snapshot) := by
    rw [attributionMain, Run.runOut_fst, pidToTimeAfter, List.foldl_map, List.foldl_filter]
    simp only [runStressNg_fst]
  rw [loop, pidToTime_after_run]

end Attribution

end PowerCapping
