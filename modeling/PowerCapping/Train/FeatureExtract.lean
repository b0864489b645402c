import PowerCapping.Parse.Agreement

/-!
# The training-data logger

`train_test/feature_extract.py` samples the machine once a second and appends
`parse_cpu_data(out, parse_perf_metrics()) + [parse_power_consumption()]` to
`data/training-data.csv`; the first write also writes a header with one
`featureN` per entry and a `label`.  A `float` error in `parse_cpu_data` ends
the sample without a row.  The parsers' `(None, "Error: ...")` pairs are
written as they come: a failed perf parse puts `None` and the message in place
of the perf block, a failed energy parse puts the `str` of the pair in the
label column, and an empty `cpupower` table drops the perf block.

The file is the list of its rows, `none` before it exists.
-/

namespace PowerCapping

namespace Train

open Py Pip Parse

/-- The files and the `cpupower monitor` output one sample reads. -/
structure Sample where
  perfMetricsFile : Option (List Char)
  coreTempFile : Option (List Char)
  perfEnergyFile : Option (List Char)
  cpupower : List Char

/-- The `truth` entry of a row: the power, or the `str` of the
`(None, "Error: ...")` pair that `csv.writer` writes. -/
def truthCell : Except (List Char) ℚ → Cell
  | .ok power => .num power
  | .error message => .str ("(None, ".toList ++ strRepr message ++ ")".toList)

/-- `[f"feature{i+1}" for i in range(n)] + ["label"]`. -/
def headers (n : ℕ) : List Cell :=
  (List.range n).map (fun i => .str ("feature".toList ++ Nat.toDigits 10 (i + 1))) ++
    [.str "label".toList]

/-- `save_to_file(file_name, metric, power)`: the header first when the file
does not exist yet, then the row. -/
def saveToFile (file : Option (List (List Cell))) (metric : List Cell) (power : Cell) :
    List (List Cell) :=
  match file with
  | none => [headers metric.length, metric ++ [power]]
  | some rows => rows ++ [metric ++ [power]]

/-- One call of `run_stress_ng`. -/
def runStressNg (file : Option (List (List Cell))) (sample : Sample) :
    Option (List (List Cell)) :=
  let truth := parsePowerConsumption sample.perfEnergyFile
  match featureVector .stopAtElapsed sample.cpupower sample.perfMetricsFile
      sample.coreTempFile with
  | .ok metrics => some (saveToFile file metrics (truthCell truth))
  | .error _ => file

/-- The logger's `while True` loop over a run's samples, from no file. -/
def runLogger (samples : List Sample) : Option (List (List Cell)) :=
  samples.foldl runStressNg none

/-- A second sample whose `cpupower` printed nothing writes a row with the
power alone, under a header of four fields. -/
theorem empty_table_row_is_short :
    let perfMetricsFile := some " 2 cycles\n1.0 seconds time elapsed".toList
    let energy := some "10.0 Joules power/energy-pkg/\n1.0 seconds time elapsed".toList
    let full : Sample := ⟨perfMetricsFile, some "40".toList, energy, "CPU|C0\n0|5".toList⟩
    let empty : Sample := ⟨perfMetricsFile, some "40".toList, energy, []⟩
    (runLogger [full, empty]).map (List.map List.length) = some [4, 4, 1] ∧
      (runLogger [full, empty]).map List.getLast? = some (some [.num 10]) := by
  decide +kernel

/-- A CSV file whose header has `width` fields and whose every data row has
`width` fields, all numbers (no file yet counts as such). -/
def Rectangular (width : ℕ) (file : Option (List (List Cell))) : Prop :=
  ∀ rows, file = some rows → ∃ header data, rows = header :: data ∧ header.length = width ∧
    ∀ row ∈ data, row.length = width ∧ ∀ cell ∈ row, ∃ value, cell = .num value

theorem length_headers (n : ℕ) : (headers n).length = n + 1 := by
  simp [headers]

theorem mapM_floatCell_num {fields : List (List Char)} {cells : List Cell}
    (parsed : fields.mapM floatCell = .ok cells) :
    cells.length = fields.length ∧ ∀ cell ∈ cells, ∃ value, cell = .num value := by
  induction fields generalizing cells with
  | nil =>
      cases parsed
      exact ⟨rfl, fun _ member => absurd member List.not_mem_nil⟩
  | cons field rest ih =>
      simp only [List.mapM_cons, bind, Except.bind, floatCell] at parsed
      rcases converted : float? field with _ | value <;> simp only [converted] at parsed
      · cases parsed
      rcases later : rest.mapM floatCell with _ | tail <;> simp only [later] at parsed
      · cases parsed
      cases parsed
      obtain ⟨sameLength, numbers⟩ := ih later
      refine ⟨by simp [sameLength], ?_⟩
      intro cell member
      rcases List.mem_cons.mp member with rfl | inTail
      · exact ⟨value, rfl⟩
      · exact numbers cell inTail

/-- A sample whose parses succeed, with a table of `n > 0` numeric fields and
`m` perf values, gives `n + m` numbers. -/
theorem featureVector_numeric {sample : Sample} {n m : ℕ} (positive : 0 < n)
    (tableSize : (collectRows none (split '\n' sample.cpupower)).flatten.length = n)
    (tableNumeric : ∀ field ∈ (collectRows none (split '\n' sample.cpupower)).flatten,
      float? field ≠ none)
    {values : List ℚ}
    (perfParsed : parsePerfMetrics .stopAtElapsed sample.perfMetricsFile sample.coreTempFile =
      .ok values)
    (perfSize : values.length = m) :
    ∃ cells, featureVector .stopAtElapsed sample.cpupower sample.perfMetricsFile
        sample.coreTempFile = .ok cells ∧
      cells.length = n + m ∧ ∀ cell ∈ cells, ∃ value, cell = .num value := by
  have nonempty : collectRows none (split '\n' sample.cpupower) ≠ [] := by
    intro empty
    rw [empty] at tableSize
    simp at tableSize
    omega
  obtain ⟨parsedCells, parsed, -⟩ := mapM_floatCell tableNumeric
  obtain ⟨sameLength, numbers⟩ := mapM_floatCell_num parsed
  refine ⟨parsedCells ++ values.map .num, ?_, ?_, ?_⟩
  · simp only [featureVector, parseCpuData, nonempty, if_false, parsed, perfParsed,
      metricCells]
    rfl
  · simp [sameLength, tableSize, perfSize]
  · intro cell member
    rcases List.mem_append.mp member with inTable | inPerf
    · exact numbers cell inTable
    · obtain ⟨value, -, rfl⟩ := List.mem_map.mp inPerf
      exact ⟨value, rfl⟩

/-- A run whose every sample parses, with the same table size and the same
number of perf values, writes a rectangular numeric file. -/
theorem logger_rectangular {samples : List Sample} {n m : ℕ} (positive : 0 < n)
    (tableSize : ∀ sample ∈ samples,
      (collectRows none (split '\n' sample.cpupower)).flatten.length = n)
    (tableNumeric : ∀ sample ∈ samples,
      ∀ field ∈ (collectRows none (split '\n' sample.cpupower)).flatten, float? field ≠ none)
    (perfParsed : ∀ sample ∈ samples, ∃ values,
      parsePerfMetrics .stopAtElapsed sample.perfMetricsFile sample.coreTempFile = .ok values ∧
        values.length = m)
    (powerParsed : ∀ sample ∈ samples, ∃ power,
      parsePowerConsumption sample.perfEnergyFile = .ok power) :
    Rectangular (n + m + 1) (runLogger samples) := by
  unfold runLogger
  -- the invariant of the fold: the file so far is rectangular
  suffices step : ∀ (file : Option (List (List Cell))) (rest : List Sample),
      (∀ sample ∈ rest, sample ∈ samples) → Rectangular (n + m + 1) file →
        Rectangular (n + m + 1) (rest.foldl runStressNg file) from
    step none samples (fun _ member => member) fun _ absent => by cases absent
  intro file rest inSamples kept
  induction rest generalizing file with
  | nil => exact kept
  | cons sample later ih =>
      have member := inSamples sample List.mem_cons_self
      obtain ⟨values, parsed, valuesSize⟩ := perfParsed sample member
      obtain ⟨power, powered⟩ := powerParsed sample member
      obtain ⟨cells, built, cellsSize, numbers⟩ := featureVector_numeric positive
        (tableSize sample member) (tableNumeric sample member) parsed valuesSize
      apply ih _ (fun other inLater => inSamples other (List.mem_cons_of_mem _ inLater))
      -- the new row has the header's width and only numbers
      have rowShape : (cells ++ [truthCell (.ok power)]).length = n + m + 1 ∧
          ∀ cell ∈ cells ++ [truthCell (.ok power)], ∃ value, cell = .num value := by
        refine ⟨by simp [cellsSize], fun cell inRow => ?_⟩
        rcases List.mem_append.mp inRow with inCells | isTruth
        · exact numbers cell inCells
        · rw [List.mem_singleton.mp isTruth]
          exact ⟨power, rfl⟩
      simp only [runStressNg, built, powered]
      intro written isWritten
      cases file with
      | none =>
          -- the first write: the header, then the row
          refine ⟨headers cells.length, [cells ++ [truthCell (.ok power)]], ?_, ?_, ?_⟩
          · simpa [saveToFile] using isWritten.symm
          · simp [length_headers, cellsSize]
          · intro row inRows
            rw [List.mem_singleton.mp inRows]
            exact rowShape
      | some rows =>
          obtain ⟨header, data, rfl, headerWidth, dataShape⟩ := kept rows rfl
          refine ⟨header, data ++ [cells ++ [truthCell (.ok power)]], ?_, headerWidth, ?_⟩
          · simpa [saveToFile] using isWritten.symm
          · intro row inRows
            rcases List.mem_append.mp inRows with old | new
            · exact dataShape row old
            · rw [List.mem_singleton.mp new]
              exact rowShape

/-- Three samples of a two-CPU machine, each with two temperatures and two
counters, and different readings. -/
def threeSamples : List Sample :=
  [⟨some " 2 cycles\n 9 instructions\n1.0 seconds time elapsed".toList, some "40\n41".toList,
      some "10.0 Joules power/energy-pkg/\n1.0 seconds time elapsed".toList,
      "CPU|C0|Cx\n0|5|95\n1|7|93".toList⟩,
    ⟨some " 4 cycles\n 12 instructions\n2.0 seconds time elapsed".toList, some "42\n40".toList,
      some "30.0 Joules power/energy-pkg/\n2.0 seconds time elapsed".toList,
      "CPU|C0|Cx\n0|50|50\n1|20|80".toList⟩,
    ⟨some " 6 cycles\n 3 instructions\n1.0 seconds time elapsed".toList, some "45\n44".toList,
      some "12.5 Joules power/energy-pkg/\n1.0 seconds time elapsed".toList,
      "CPU|C0|Cx\n0|99|1\n1|0|100".toList⟩]

/-- The file of a three-sample run is rectangular: four table fields, two
temperatures and two counters, and the label. -/
theorem logger_rectangular_threeSamples :
    Rectangular (4 + 4 + 1) (runLogger threeSamples) := by
  refine logger_rectangular (by decide) (by decide +kernel) (by decide +kernel) ?_ ?_
  · intro sample member
    simp only [threeSamples, List.mem_cons, List.not_mem_nil, or_false] at member
    rcases member with rfl | rfl | rfl
    · exact ⟨[40, 41, 2, 9], by decide +kernel, rfl⟩
    · exact ⟨[42, 40, 2, 6], by decide +kernel, rfl⟩
    · exact ⟨[45, 44, 6, 3], by decide +kernel, rfl⟩
  · intro sample member
    simp only [threeSamples, List.mem_cons, List.not_mem_nil, or_false] at member
    rcases member with rfl | rfl | rfl
    · exact ⟨10, by decide +kernel⟩
    · exact ⟨15, by decide +kernel⟩
    · exact ⟨25 / 2, by decide +kernel⟩

end Train

end PowerCapping
