import PowerCapping.Pip.Basic

/-!
# Parsing `cpupower monitor` tables

`cpupower monitor` prints two header lines and one `|`-separated row per
logical CPU.  Every script that builds a feature vector flattens the columns
from `C0` on of every data row and appends the perf block after them.  Three
copies (the training logger, the PIP controller, the accuracy evaluator) are
the same text and detect the header as the first row with a `C0` field; the
idle-map recorder detects it as the first row with a `CPU` field, keeps the
fields as strings and does not drop rows too short to reach `C0`.
-/

namespace PowerCapping

namespace Parse

open Pip

/-- The fields of one line: `[e.strip() for e in line.strip().split("|") if
e.strip()]`. -/
def lineElements (line : List Char) : List (List Char) :=
  ((Py.split '|' (Py.strip line)).map Py.strip).filter fun field => !field.isEmpty

/-- The rows `parse_cpu_data` collects, from the lines after the current one;
`c0Index` is the position of `C0` once the header has been seen. -/
def collectRows (c0Index : Option ℕ) : List (List Char) → List (List (List Char))
  | [] => []
  | line :: rest =>
      let elements := lineElements line
      if elements = [] then collectRows c0Index rest
      else
        match c0Index with
        | Option.none =>
            if "C0".toList ∈ elements then
              collectRows (some (elements.idxOf "C0".toList)) rest
            else collectRows Option.none rest
        | some index =>
            if index < elements.length then
              elements.drop index :: collectRows (some index) rest
            else collectRows (some index) rest

/-- `float(x)` on a table field. -/
def floatCell (field : List Char) : Except Py.Exception Cell :=
  match Py.float? field with
  | some value => .ok (.num value)
  | Option.none => .error .valueError

/-- `parse_cpu_data(output, cpu_metrics)` as written in the training logger,
the PIP controller and the accuracy evaluator: the fields from `C0` on of every
data row, converted with `float`, then the perf block; empty when no row was
collected. -/
def parseCpuData (output : List Char) (cpuMetrics : List Cell) :
    Except Py.Exception (List Cell) :=
  let tmpData := collectRows Option.none (Py.split '\n' output)
  if tmpData = [] then .ok []
  else do
    let parsed ← tmpData.flatten.mapM floatCell
    pure (parsed ++ cpuMetrics)

/-- What `parsed_data.extend(cpu_metrics)` appends for a `parse_perf_metrics`
result: the values, or the two entries of the `(None, "Error: ...")` pair. -/
def metricCells : Except (List Char) (List ℚ) → List Cell
  | .ok values => values.map .num
  | .error message => [.none, .str message]

/-- The rows the idle-map recorder collects: the header is the first line with
a `CPU` field (`elements.index('C0')` raises when it has no `C0`), and every
later non-empty line contributes its fields from `C0` on, possibly none. -/
def collectRowsIdle (c0Index : Option ℕ) :
    List (List Char) → Except Py.Exception (List (List (List Char)))
  | [] => pure []
  | line :: rest => do
      let elements := lineElements line
      match c0Index with
      | Option.none =>
          if "CPU".toList ∈ elements then
            if "C0".toList ∈ elements then
              collectRowsIdle (some (elements.idxOf "C0".toList)) rest
            else throw .valueError
          else collectRowsIdle Option.none rest
      | some index =>
          let later ← collectRowsIdle (some index) rest
          if elements = [] then pure later else pure (elements.drop index :: later)

/-- `parse_cpu_data(output, cpu_metrics)` of `train_test/idle_map.py`: the
fields stay strings (`np.concatenate` of string rows), followed by the perf
block, when any row was collected. -/
def idleParseCpuData (output : List Char) (cpuMetrics : List Cell) :
    Except Py.Exception (List Cell) := do
  let tmpData ← collectRowsIdle Option.none (Py.split '\n' output)
  if tmpData = [] then pure []
  else pure (tmpData.flatten.map .str ++ cpuMetrics)

end Parse

end PowerCapping
