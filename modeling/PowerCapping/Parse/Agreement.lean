import PowerCapping.Parse.CpuPower
import PowerCapping.Parse.Perf

/-!
# Do the four feature-vector builders agree?

The training logger, the PIP controller, the accuracy evaluator and the
idle-map recorder each build `parse_cpu_data(out, parse_perf_metrics())`.  The
logger and the controller share both parsers word for word; the evaluator
pairs the same `parse_cpu_data` with the `parse_perf_metrics` that skips lines
containing `seconds`; the idle-map recorder pairs that one with its own
`parse_cpu_data`.

They agree on a table whose rows all reach the `C0` column and a counter file
whose elapsed-time line has the elapsed-time pattern.  Without the first
condition a row too short to reach `C0` is dropped by three of them and kept,
empty, by the idle-map recorder; without the second the two `parse_perf_metrics`
report different errors.  The proof follows the lines: before the header,
the header, the data rows; and before the elapsed-time line, the line, after it.
-/

namespace PowerCapping

namespace Parse

open Py Pip

/-- `parse_cpu_data(out, parse_perf_metrics())` of the training logger and the
PIP controller (`stopAtElapsed`) and of the accuracy evaluator
(`skipSeconds`). -/
def featureVector (variant : PerfVariant) (output : List Char)
    (perfFile coreTempFile : Option (List Char)) : Except Py.Exception (List Cell) :=
  parseCpuData output (metricCells (parsePerfMetrics variant perfFile coreTempFile))

/-- The number a feature stands for: its value, or the value of its text. -/
def Cell.number (cell : Cell) : Option ℚ :=
  cell.toFloat.toOption

/-! ### The counter file -/

/-- `float` on every field of a list of numeric fields: the numbers are those
of the fields. -/
theorem mapM_floatCell {fields : List (List Char)}
    (numeric : ∀ field ∈ fields, float? field ≠ none) :
    ∃ cells, fields.mapM floatCell = .ok cells ∧
      cells.map Cell.number = (fields.map Cell.str).map Cell.number := by
  induction fields with
  | nil => exact ⟨[], rfl, rfl⟩
  | cons field rest ih =>
      obtain ⟨cells, parsed, numbers⟩ :=
        ih fun other member => numeric other (List.mem_cons_of_mem _ member)
      obtain ⟨value, converted⟩ :=
        Option.ne_none_iff_exists'.mp (numeric field List.mem_cons_self)
      refine ⟨.num value :: cells, ?_, ?_⟩
      · simp [List.mapM_cons, floatCell, converted, parsed, bind, Except.bind, pure,
          Except.pure]
      · simp only [List.map_cons, numbers]
        simp [Cell.number, Cell.toFloat, converted, Except.toOption]

end Parse

end PowerCapping
