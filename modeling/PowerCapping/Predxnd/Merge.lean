import PowerCapping.Parse.CpuPower

/-!
# The predxnd merge server's reading of a `cpupower` table

`predxnd/merge_pred_throttle.py` parses its own `cpupower monitor` output like
the other scripts, but it also records the CPU id printed in the third column
of every data row and keeps `cpu_index_map`, from a CPU id to the position of
its row.  It places a CPU's fields at that row; the PIP controller instead
places CPU `c` at row `c` of the flattened table.
-/

namespace PowerCapping

namespace Predxnd

open Py Pip Parse

/-- The fields of one line: `[e.strip() for e in line.split("|") if
e.strip()]`. -/
def lineParts (line : List Char) : List (List Char) :=
  ((split '|' line).map strip).filter fun field => !field.isEmpty

/-- The data rows of `parse_cpu_data` after the current line, each with the CPU
id of its third field and its fields from `C0` on converted with `float`.  A
row is kept once the `C0` header has been seen, when its first field is a
number and it reaches `C0`. -/
def mergeRows (c0 : Option ℕ) :
    List (List Char) → Except Py.Exception (List (ℤ × List Cell))
  | [] => pure []
  | line :: rest => do
      let parts := lineParts line
      if parts = [] then mergeRows c0 rest
      else
        match c0 with
        | Option.none =>
            if "C0".toList ∈ parts then mergeRows (some (parts.idxOf "C0".toList)) rest
            else mergeRows Option.none rest
        | some index =>
            if isDigitStr (parts.headD []) && decide (index < parts.length) then
              let cpu ←
                match parts[2]? with
                | some field =>
                    match int? field with
                    | some cpu => pure cpu
                    | Option.none => throw .valueError
                | Option.none => throw .indexError
              let vals ← (parts.drop index).mapM floatCell
              let later ← mergeRows c0 rest
              pure ((cpu, vals) :: later)
            else mergeRows c0 rest

/-- `{cpu: idx for idx, cpu in enumerate(ids)}` as a lookup: the last
position at which the id occurs. -/
def cpuIndexMap (ids : List ℤ) (cpu : ℤ) : Option ℕ :=
  ((List.range ids.length).filter fun idx => ids[idx]? = some cpu).getLast?

/-- `parse_cpu_data(output, cpu_metrics)` of the merge server: the fields of
the kept rows followed by the perf block, and `cpu_index_map`. -/
def mergeParseCpuData (output : List Char) (cpuMetrics : List Cell) :
    Except Py.Exception (List Cell × (ℤ → Option ℕ)) := do
  let rows ← mergeRows Option.none (splitlines output)
  pure ((rows.map Prod.snd).flatten ++ cpuMetrics, cpuIndexMap (rows.map Prod.fst))

/-- `cpupower` lists CPU 1 before CPU 0.  The controller simulates CPU 0 of
the user cgroup at position `0 * core_info_count`, where `parse_cpu_data` put
the C0 of CPU 1 (10); the merge server finds CPU 0's row, with C0 = 20. -/
theorem cpupower_rows_by_position :
    (let table := "PKG|CORE|CPU|C0|Cx|Freq|POLL|C1|C2|C3\n".toList ++
      "0|0|1|10|90|800|0|0|0|90\n0|0|0|20|80|900|0|0|0|80\n".toList ++
      "0|1|3|30|70|800|0|0|0|70\n0|1|2|40|60|900|0|0|0|60".toList
    let env := fourCoreEnv fun _ => 0
    0 ∈ getUserCores env ∧
      (parseCpuData table []).map (fun cells => cells[0 * env.coreInfoCount]?) =
        .ok (some (.num 10)) ∧
      (mergeParseCpuData table []).map (fun parsed =>
          (parsed.2 0).bind fun row => parsed.1[row * env.coreInfoCount]?) =
        .ok (some (.num 20))) := by
  decide +kernel

end Predxnd

end PowerCapping
