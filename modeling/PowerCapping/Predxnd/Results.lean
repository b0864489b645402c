import PowerCapping.Lib.Regex
import PowerCapping.Lib.Format
import PowerCapping.Lib.Run

/-!
# The benchmark's result files

`predxnd/run-bench.sh` runs each test in two phases and keeps one log per
test in `results-evaluation/`: a header with the test's configuration, the
`--- PREDICTION RESULTS ---` marker and what `merge_pred.py` prints while the
source machine sends it metrics, then the `--- GROUND TRUTH RESULTS ---`
marker and what `merge_pred.py` prints while the application runs locally.
The log is named after the test's three workloads.  `predxnd/get_result.py`
reads every log back: the workloads from the file name, the estimates from
the `Estimated Power:` fields of the prediction section and the measured
powers from the `Truth:` fields of the ground-truth section, and it reports
their means and the relative error of the one against the other.

The main results: the name gives back the workloads
(`matchResultName_resultName`); the scan of a log gives back exactly the
values the server printed, as they read after `.2f`, negative ones dropped
since `[\d.]+` does not take a sign (`scan_resultFile`); and so the report
over a set of tests holds the means of those values (`summaryRows_tests`).
They hold for workload names without a dash, a point or a line break, as the
bench's are, for a date in which no marker occurs, and for messages of the
server in which neither a marker nor a field occurs.

A file is modelled by its lines: the lines `echo` and `print` write, and the
lines `for line in f` reads back.
-/

namespace PowerCapping

namespace Predxnd

open Py Regex

-- The texts are irreducible: unfolding a string's `toList` is slow, and
-- the proofs decide what they need of these texts with the kernel.

/-- The marker run-bench.sh writes before the prediction phase. -/
@[irreducible]
def predictionMarker : List Char := "--- PREDICTION RESULTS ---".toList

/-- The marker run-bench.sh writes before the ground-truth phase. -/
@[irreducible]
def truthMarker : List Char := "--- GROUND TRUTH RESULTS ---".toList

/-- The field get_result.py reads in the prediction section. -/
@[irreducible]
def estimatedPowerField : List Char := "Estimated Power:".toList

/-- The field get_result.py reads in the ground-truth section. -/
@[irreducible]
def truthField : List Char := "Truth:".toList

/-! ## What the server prints -/

/-- The lines `server_loop` of `merge_pred.py` prints, and any other line of
the log (`stderr`): one that Python or the tools it runs write to the standard
error the server shares (a traceback), or the feature map that
`merge_pred_throttle.py` prints before each estimate.  An
exception of a connection (a payload `json.loads` cannot read, or `truth`
being `None` in the format) prints `socketError`; `truth` being `None` in the
last print prints `inferenceFailed`. -/
inductive Logged
  | listening
  | estimate (truth est : ℚ)
  | disconnected (addr : List Char)
  | socketError (message : List Char)
  | measured (truth : ℚ)
  | inferenceFailed (message : List Char)
  | stderr (line : List Char)
  deriving DecidableEq, Repr

namespace Logged

/-- The printed line, `HOST` being `0.0.0.0` and `PORT` `9999`;
`addr` is the text of the peer's address.  An estimate is printed by
`f"Truth: {truth:.2f} Estimated Power: {est:.2f}"`. -/
def render : Logged → List Char
  | listening => "Listening on 0.0.0.0:9999...".toList
  | estimate truth est =>
      truthField ++ ' ' :: (formatFixed2 truth ++ ' ' :: (estimatedPowerField ++ ' ' :: formatFixed2 est))
  | disconnected addr => "Disconnected ".toList ++ addr
  | socketError message => "Socket error: ".toList ++ message
  | measured truth => truthField ++ ' ' :: formatFixed2 truth
  | inferenceFailed message => "Inference failed: ".toList ++ message
  | stderr line => line

theorem render_estimate (truth est : ℚ) :
    (estimate truth est).render =
      truthField ++ ' ' :: (formatFixed2 truth ++ ' ' :: (estimatedPowerField ++ ' ' :: formatFixed2 est)) :=
  rfl

theorem render_measured (truth : ℚ) :
    (measured truth).render = truthField ++ ' ' :: formatFixed2 truth :=
  rfl

end Logged

/-! ## What run-bench.sh writes -/

/-- One test of run-bench.sh: the target application and the background
workloads of the target and the source machine (the first fields of their
`TARGET_APPS` entries), the output of `date`, and what merge_pred.py prints
in the two phases. -/
structure Test where
  app : List Char
  bgTarget : List Char
  bgSource : List Char
  timestamp : List Char
  prediction : List Logged
  truth : List Logged
  deriving DecidableEq, Repr

namespace Test

/-- The name of `RESULT_FILE`. -/
def resultName (test : Test) : List Char :=
  "app-".toList ++ (test.app ++ ("_tgt-bg-".toList ++ (test.bgTarget ++ ("_src-bg-".toList ++
    (test.bgSource ++ ".log".toList)))))

/-- The block that starts `RESULT_FILE`. -/
def configuration (test : Test) : List (List Char) :=
  ["## Test Configuration".toList,
    "## Target App: ".toList ++ test.app,
    "## Target BG:  ".toList ++ test.bgTarget,
    "## Source BG:  ".toList ++ test.bgSource,
    "## Timestamp:  ".toList ++ test.timestamp,
    "--------------------------------------------------------".toList]

/-- The lines of `RESULT_FILE`: `echo -e "\n..."` writes an empty line
before each marker, and both phases' servers append to the file. -/
def resultFile (test : Test) : List (List Char) :=
  test.configuration ++ [[], predictionMarker] ++ test.prediction.map Logged.render ++
    [[], truthMarker] ++ test.truth.map Logged.render ++
    ["========================================================".toList]

end Test

/-! ## What get_result.py reads -/

/-- `[\d.]`, with the ASCII digits. -/
def digitOrPoint (c : Char) : Bool :=
  c.isDigit || c == '.'

/-- `re.search(r'Estimated Power:\s*([\d.]+)', line)` and its group. -/
def estimatedPowerPattern : List Char → Option (List Char) :=
  literal estimatedPowerField (spacedRun digitOrPoint)

/-- `re.search(r'Truth:\s*([\d.]+)', line)` and its group. -/
def truthPattern : List Char → Option (List Char) :=
  literal truthField (spacedRun digitOrPoint)

/-- The variables of the `for line in f` loop. -/
structure Scan where
  predVals : List ℚ
  truthVals : List ℚ
  inPred : Bool
  inTruth : Bool
  deriving DecidableEq, Repr

/-- The variables before the loop. -/
def Scan.initial : Scan :=
  ⟨[], [], false, false⟩

/-- One `if in_…:` block of the loop: with the flag set and the pattern found,
`float` of the group is appended. -/
def readField (flag : Bool) (pattern : List Char → Option (List Char)) (line : List Char)
    (vals : List ℚ) : Except Py.Exception (List ℚ) :=
  if flag then
    match search pattern line with
    | some group => (floatValue group).map (vals ++ [·])
    | none => pure vals
  else pure vals

/-- The body of the loop: a marker switches the section, another line is read
by the blocks of the sections that are on. -/
def scanLine (scan : Scan) (line : List Char) : Except Py.Exception Scan :=
  if contains line predictionMarker then pure { scan with inPred := true, inTruth := false }
  else if contains line truthMarker then pure { scan with inPred := false, inTruth := true }
  else do
    let predVals ← readField scan.inPred estimatedPowerPattern line scan.predVals
    let truthVals ← readField scan.inTruth truthPattern line scan.truthVals
    pure { scan with predVals := predVals, truthVals := truthVals }

/-- `re.match(r'app-(.+?)_tgt-bg-(.+?)_src-bg-(.+?)\.log', base)` and
`m.groups()`. -/
def matchResultName (base : List Char) : Option (List Char × List Char × List Char) :=
  (literal "app-".toList
      (lazyGroup (literal "_tgt-bg-".toList
        (lazyGroup (literal "_src-bg-".toList
          (lazyGroup (literal ".log".toList fun _ => some ())))))) base).map
    fun (targetApp, targetBg, sourceBg, _) => (targetApp, targetBg, sourceBg)

/-- A row of `summary`. -/
structure Row where
  targetApp : List Char
  targetBg : List Char
  sourceBg : List Char
  avgPred : ℚ
  avgTruth : ℚ
  error : ℚ
  deriving DecidableEq, Repr

/-- `sum(vals) / len(vals)`. -/
def mean (vals : List ℚ) : ℚ :=
  vals.sum / vals.length

/-- `if pred_vals and truth_vals:` and the row it appends; the error divides
by `avg_truth`. -/
def summarize (targetApp targetBg sourceBg : List Char) (scan : Scan) :
    Except Py.Exception (Option Row) :=
  if scan.predVals = [] ∨ scan.truthVals = [] then pure none
  else if mean scan.truthVals = 0 then throw .zeroDivisionError
  else
    pure (some ⟨targetApp, targetBg, sourceBg, mean scan.predVals, mean scan.truthVals,
      |mean scan.predVals - mean scan.truthVals| / mean scan.truthVals * 100⟩)

/-- One file of the `for file in files` loop, by its base name and lines: a
name the pattern does not match is passed over before the file is read. -/
def fileRow (base : List Char) (lines : List (List Char)) : Except Py.Exception (Option Row) :=
  match matchResultName base with
  | none => pure none
  | some (targetApp, targetBg, sourceBg) =>
      lines.foldlM scanLine Scan.initial >>= summarize targetApp targetBg sourceBg

/-- `summary` after the loop over the files `glob` lists. -/
def summaryRows (files : List (List Char × List (List Char))) : Except Py.Exception (List Row) :=
  (files.mapM fun file => fileRow file.1 file.2).map List.reduceOption

/-! ## What a reader of the log sees -/

/-- What `[\d.]+` reads of `f"{value:.2f}"`: the rounded value, when it has
no sign. -/
def shown (value : ℚ) : Option ℚ :=
  if value < 0 then none else some (round2 value)

namespace Logged

/-- The estimate a line shows in the prediction section. -/
def shownEstimate : Logged → Option ℚ
  | estimate _ est => shown est
  | _ => none

/-- The measured power a line shows in the ground-truth section. -/
def shownTruth : Logged → Option ℚ
  | estimate truth _ => shown truth
  | measured truth => shown truth
  | _ => none

end Logged

/-- A line with neither section marker. -/
def Unmarked (line : List Char) : Prop :=
  ¬ predictionMarker <:+: line ∧ ¬ truthMarker <:+: line

instance : DecidablePred Unmarked :=
  fun _ => inferInstanceAs (Decidable (_ ∧ _))

/-- A line in which get_result.py finds nothing: no marker and no field. -/
def Quiet (line : List Char) : Prop :=
  Unmarked line ∧ ¬ estimatedPowerField <:+: line ∧ ¬ truthField <:+: line

instance : DecidablePred Quiet :=
  fun _ => inferInstanceAs (Decidable (_ ∧ _ ∧ _))

/-- The texts a printed line carries are quiet. -/
def Logged.Quiet : Logged → Prop
  | .disconnected addr => Predxnd.Quiet addr
  | .socketError message => Predxnd.Quiet message
  | .inferenceFailed message => Predxnd.Quiet message
  | .stderr line => Predxnd.Quiet line
  | _ => True

instance : (printed : Logged) → Decidable printed.Quiet
  | .listening => isTrue trivial
  | .estimate _ _ => isTrue trivial
  | .disconnected addr => inferInstanceAs (Decidable (Quiet addr))
  | .socketError message => inferInstanceAs (Decidable (Quiet message))
  | .measured _ => isTrue trivial
  | .inferenceFailed message => inferInstanceAs (Decidable (Quiet message))
  | .stderr line => inferInstanceAs (Decidable (Quiet line))

/-- A workload name that the file name keeps apart from the rest: not empty,
and without a dash, a point or a line break. -/
def Plain (name : List Char) : Prop :=
  name ≠ [] ∧ '-' ∉ name ∧ '.' ∉ name ∧ '\n' ∉ name

instance : DecidablePred Plain :=
  fun _ => inferInstanceAs (Decidable (_ ∧ _ ∧ _ ∧ _))

namespace Test

/-- The estimates the prediction section shows. -/
def estimates (test : Test) : List ℚ :=
  test.prediction.filterMap Logged.shownEstimate

/-- The measured powers the ground-truth section shows. -/
def truths (test : Test) : List ℚ :=
  test.truth.filterMap Logged.shownTruth

/-- The row a test should give: the means of the values its log shows, none
when a phase showed no value. -/
def row (test : Test) : Option Row :=
  if test.estimates = [] ∨ test.truths = [] then none
  else
    some ⟨test.app, test.bgTarget, test.bgSource, mean test.estimates, mean test.truths,
      |mean test.estimates - mean test.truths| / mean test.truths * 100⟩

end Test

/-! ## Reading the numbers back -/

theorem not_mem_formatFixed2 {c : Char} (notSign : c ≠ '-') (notPoint : c ≠ '.')
    (notDigit : c.isDigit = false) (value : ℚ) : c ∉ formatFixed2 value := by
  intro member
  rcases mem_formatFixed2 member with sign | point | digit
  · exact notSign sign
  · exact notPoint point
  · rw [notDigit] at digit
    cases digit

/-- The marker letter `R` and the fields' first letters are not printed by
`.2f`. -/
theorem letter_not_mem_formatFixed2 {c : Char} (letter : c = 'R' ∨ c = 'E' ∨ c = 'T')
    (value : ℚ) : c ∉ formatFixed2 value := by
  rcases letter with rfl | rfl | rfl <;>
    exact not_mem_formatFixed2 (by decide) (by decide) (by decide) value

theorem formatFixed2_of_neg {value : ℚ} (negative : value < 0) :
    ∃ digits, formatFixed2 value = '-' :: digits := by
  simp only [formatFixed2, if_pos negative]
  exact ⟨_, rfl⟩

theorem digitOrPoint_of_mem_formatFixed2 {value : ℚ} (nonneg : ¬ value < 0) {c : Char}
    (member : c ∈ formatFixed2 value) : digitOrPoint c = true := by
  rcases mem_formatFixed2 member with sign | point | digit
  · -- a value that is not negative is printed without a sign
    have unsigned : '-' ∉ formatFixed2 value := by
      simp only [formatFixed2, if_neg nonneg, List.nil_append, List.mem_append, List.mem_cons,
        List.not_mem_nil, or_false, not_or]
      refine ⟨fun digits => ?_, by decide, fun tens => ?_, fun ones => ?_⟩
      · exact absurd (isDigit_of_mem_toDigits digits) (by decide)
      · exact absurd (tens ▸ digitChar_isDigit (Nat.mod_lt _ (by norm_num))) (by decide)
      · exact absurd (ones ▸ digitChar_isDigit (Nat.mod_lt _ (by norm_num))) (by decide)
    exact absurd (sign ▸ member) unsigned
  · simp [digitOrPoint, point]
  · simp [digitOrPoint, digit]

/-- `\s*([\d.]+)` after a field followed by a space and a number: the
number's text, when it has no sign. -/
theorem spacedRun_formatFixed2 (value : ℚ) {rest : List Char}
    (stops : ∀ c ∈ rest.head?, digitOrPoint c = false) :
    spacedRun digitOrPoint (' ' :: (formatFixed2 value ++ rest)) =
      if value < 0 then none else some (formatFixed2 value) := by
  obtain ⟨first, digits, printed⟩ := List.exists_cons_of_ne_nil (formatFixed2_ne_nil value)
  have notSpace : isSpace first = false :=
    isSpace_of_mem_formatFixed2 (printed ▸ List.mem_cons_self)
  have skipped : (' ' :: (formatFixed2 value ++ rest)).dropWhile isSpace =
      formatFixed2 value ++ rest := by
    rw [printed, List.dropWhile_cons, if_pos (by decide), List.cons_append, List.dropWhile_cons,
      notSpace]
    rfl
  by_cases negative : value < 0
  · obtain ⟨digits, signed⟩ := formatFixed2_of_neg negative
    have stopped : ('-' :: (digits ++ rest)).takeWhile digitOrPoint = [] := by
      rw [List.takeWhile_cons, if_neg (by decide)]
    rw [spacedRun, skipped, signed, List.cons_append, stopped, if_pos negative]
  · have stopped : rest.takeWhile digitOrPoint = [] := by
      cases rest with
      | nil => rfl
      | cons c after => simp [stops c rfl]
    have run : (formatFixed2 value ++ rest).takeWhile digitOrPoint = formatFixed2 value := by
      rw [List.takeWhile_append_of_pos
        (fun c member => digitOrPoint_of_mem_formatFixed2 negative member), stopped,
        List.append_nil]
    rw [spacedRun, skipped, run, if_neg negative, printed]

/-- A field `c :: more` after a prefix without `c`, followed by a space, a
number and a rest, with no `c` after the field's first character: the search
finds the number's text, when it has no sign. -/
theorem search_field {c : Char} {more pre rest : List Char} {value : ℚ} (freshBefore : c ∉ pre)
    (freshAfter : c ∉ more ++ ' ' :: (formatFixed2 value ++ rest))
    (stops : ∀ d ∈ rest.head?, digitOrPoint d = false) :
    search (literal (c :: more) (spacedRun digitOrPoint))
        (pre ++ c :: (more ++ ' ' :: (formatFixed2 value ++ rest))) =
      if value < 0 then none else some (formatFixed2 value) := by
  rw [search_literal_append freshBefore, search_cons]
  have matched : literal (c :: more) (spacedRun digitOrPoint)
      (c :: (more ++ ' ' :: (formatFixed2 value ++ rest))) =
        spacedRun digitOrPoint (' ' :: (formatFixed2 value ++ rest)) :=
    literal_append (c :: more) _ _
  rw [matched, spacedRun_formatFixed2 value stops]
  by_cases negative : value < 0
  · rw [if_pos negative, Option.orElse_none]
    exact search_literal_eq_none (fun inside => freshAfter (inside.subset List.mem_cons_self)) _
  · rw [if_neg negative, Option.orElse_some]

/-- A field read in a line that shows `value`. -/
theorem readField_shown {pattern : List Char → Option (List Char)} {line : List Char}
    {value : ℚ} (found : search pattern line = if value < 0 then none else some (formatFixed2 value))
    (vals : List ℚ) : readField true pattern line vals = .ok (vals ++ (shown value).toList) := by
  by_cases negative : value < 0
  · simp [readField, found, negative, shown]
    rfl
  · simp [readField, found, negative, shown, floatValue, float?_formatFixed2]
    rfl

theorem readField_of_search_eq_none {pattern : List Char → Option (List Char)} {line : List Char}
    (absent : search pattern line = none) (flag : Bool) (vals : List ℚ) :
    readField flag pattern line vals = .ok vals := by
  cases flag <;> simp [readField, absent] <;> rfl

/-- A section that is off reads nothing. -/
theorem readField_false (pattern : List Char → Option (List Char)) (line : List Char)
    (vals : List ℚ) : readField false pattern line vals = .ok vals :=
  rfl

/-! ## The lines of a log -/

/-- A line without some character of both markers is unmarked. -/
theorem unmarked_of_not_mem {c : Char} {line : List Char} (inPrediction : c ∈ predictionMarker)
    (inTruth : c ∈ truthMarker) (absent : c ∉ line) : Unmarked line :=
  ⟨fun inside => absent (inside.subset inPrediction), fun inside => absent (inside.subset inTruth)⟩

theorem predictionMarker_eq : predictionMarker = '-' :: "-- PREDICTION RESULTS ---".toList := by
  unfold predictionMarker
  simp

theorem truthMarker_eq : truthMarker = '-' :: "-- GROUND TRUTH RESULTS ---".toList := by
  unfold truthMarker
  simp

theorem estimatedPowerField_eq : estimatedPowerField = 'E' :: "stimated Power:".toList := by
  unfold estimatedPowerField
  simp

theorem truthField_eq : truthField = 'T' :: "ruth:".toList := by
  unfold truthField
  simp

/-- An unmarked text stays unmarked after a prefix without a dash: both
markers start with one. -/
theorem Unmarked.append_left {pre text : List Char} (unmarked : Unmarked text)
    (noDash : '-' ∉ pre) : Unmarked (pre ++ text) := by
  obtain ⟨noPrediction, noTruthMarker⟩ := unmarked
  refine ⟨fun inside => noPrediction ?_, fun inside => noTruthMarker ?_⟩
  · rw [predictionMarker_eq] at inside ⊢
    exact infix_of_infix_append noDash inside
  · rw [truthMarker_eq] at inside ⊢
    exact infix_of_infix_append noDash inside

/-- A quiet text stays quiet after a prefix with none of the words' first
characters. -/
theorem Quiet.append_left {pre text : List Char} (quiet : Quiet text) (noDash : '-' ∉ pre)
    (noE : 'E' ∉ pre) (noT : 'T' ∉ pre) : Quiet (pre ++ text) := by
  obtain ⟨unmarked, noEstimated, noTruth⟩ := quiet
  refine ⟨unmarked.append_left noDash, fun inside => noEstimated ?_, fun inside => noTruth ?_⟩
  · rw [estimatedPowerField_eq] at inside ⊢
    exact infix_of_infix_append noE inside
  · rw [truthField_eq] at inside ⊢
    exact infix_of_infix_append noT inside

/-- In a quiet line the search for a field finds nothing. -/
theorem Quiet.search_estimatedPower {line : List Char} (quiet : Quiet line) :
    search estimatedPowerPattern line = none :=
  search_literal_eq_none quiet.2.1 _

theorem Quiet.search_truth {line : List Char} (quiet : Quiet line) :
    search truthPattern line = none :=
  search_literal_eq_none quiet.2.2 _

/-- A line the server prints about something else than power is quiet. -/
theorem quiet_render {printed : Logged} (quiet : printed.Quiet)
    (noEstimate : ∀ truth est, printed ≠ .estimate truth est)
    (noTruth : ∀ truth, printed ≠ .measured truth) : Quiet printed.render := by
  cases printed with
  | listening => simp [Quiet, Unmarked, predictionMarker_eq, truthMarker_eq, estimatedPowerField_eq, truthField_eq]; decide
  | estimate truth est => exact absurd rfl (noEstimate truth est)
  | disconnected addr =>
      exact Quiet.append_left quiet (by simp) (by simp) (by simp)
  | socketError message =>
      exact Quiet.append_left quiet (by simp) (by simp) (by simp)
  | measured truth => exact absurd rfl (noTruth truth)
  | inferenceFailed message =>
      exact Quiet.append_left quiet (by simp) (by simp) (by simp)
  | stderr line => exact quiet

theorem unmarked_render_estimate (truth est : ℚ) : Unmarked (Logged.estimate truth est).render := by
  refine unmarked_of_not_mem (c := 'R') (by simp [predictionMarker_eq]) (by simp [truthMarker_eq]) ?_
  rw [Logged.render_estimate]
  refine List.not_mem_append (by simp [truthField_eq]) (List.not_mem_cons_of_ne_of_not_mem (by decide)
    (List.not_mem_append (letter_not_mem_formatFixed2 (.inl rfl) truth)
      (List.not_mem_cons_of_ne_of_not_mem (by decide) ?_)))
  exact List.not_mem_append (by simp [estimatedPowerField_eq])
    (List.not_mem_cons_of_ne_of_not_mem (by decide) (letter_not_mem_formatFixed2 (.inl rfl) est))

theorem unmarked_render_measured (truth : ℚ) : Unmarked (Logged.measured truth).render := by
  refine unmarked_of_not_mem (c := 'R') (by simp [predictionMarker_eq]) (by simp [truthMarker_eq]) ?_
  rw [Logged.render_measured]
  exact List.not_mem_append (by simp [truthField_eq])
    (List.not_mem_cons_of_ne_of_not_mem (by decide) (letter_not_mem_formatFixed2 (.inl rfl) truth))

theorem search_estimatedPower_estimate (truth est : ℚ) :
    search estimatedPowerPattern (Logged.estimate truth est).render =
      if est < 0 then none else some (formatFixed2 est) := by
  have shape : (Logged.estimate truth est).render =
      (truthField ++ ' ' :: (formatFixed2 truth ++ [' '])) ++
        'E' :: ("stimated Power:".toList ++ ' ' :: (formatFixed2 est ++ [])) := by
    rw [Logged.render_estimate, estimatedPowerField_eq]
    simp only [List.append_assoc, List.cons_append, List.nil_append, List.append_nil]
  rw [shape, estimatedPowerPattern, estimatedPowerField_eq]
  refine search_field ?_ ?_ (by simp)
  · refine List.not_mem_append (by simp [truthField_eq]) (List.not_mem_cons_of_ne_of_not_mem (by decide)
      (List.not_mem_append (letter_not_mem_formatFixed2 (.inr (.inl rfl)) truth) (by decide)))
  · exact List.not_mem_append (by simp []) (List.not_mem_cons_of_ne_of_not_mem (by decide)
      (by simpa using letter_not_mem_formatFixed2 (.inr (.inl rfl)) est))

theorem search_truth_estimate (truth est : ℚ) :
    search truthPattern (Logged.estimate truth est).render =
      if truth < 0 then none else some (formatFixed2 truth) := by
  have shape : (Logged.estimate truth est).render =
      [] ++ 'T' :: ("ruth:".toList ++ ' ' ::
        (formatFixed2 truth ++ ' ' :: (estimatedPowerField ++ ' ' :: formatFixed2 est))) := by
    rw [Logged.render_estimate, truthField_eq]
    rfl
  rw [shape, truthPattern, truthField_eq]
  refine search_field List.not_mem_nil ?_ (by simp [digitOrPoint])
  refine List.not_mem_append (by simp []) (List.not_mem_cons_of_ne_of_not_mem (by decide) ?_)
  refine List.not_mem_append (letter_not_mem_formatFixed2 (.inr (.inr rfl)) truth)
    (List.not_mem_cons_of_ne_of_not_mem (by decide) ?_)
  exact List.not_mem_append (by simp [estimatedPowerField_eq])
    (List.not_mem_cons_of_ne_of_not_mem (by decide) (letter_not_mem_formatFixed2 (.inr (.inr rfl)) est))

theorem search_estimatedPower_measured (truth : ℚ) :
    search estimatedPowerPattern (Logged.measured truth).render = none := by
  have absent : 'E' ∉ (Logged.measured truth).render := by
    rw [Logged.render_measured]
    exact List.not_mem_append (by simp [truthField_eq]) (List.not_mem_cons_of_ne_of_not_mem (by decide)
      (letter_not_mem_formatFixed2 (.inr (.inl rfl)) truth))
  exact search_literal_eq_none (fun inside => absent (inside.subset (by simp [estimatedPowerField_eq]))) _

theorem search_truth_measured (truth : ℚ) :
    search truthPattern (Logged.measured truth).render =
      if truth < 0 then none else some (formatFixed2 truth) := by
  have shape : (Logged.measured truth).render =
      [] ++ 'T' :: ("ruth:".toList ++ ' ' :: (formatFixed2 truth ++ [])) := by
    rw [Logged.render_measured, truthField_eq, List.append_nil]
    rfl
  rw [shape, truthPattern, truthField_eq]
  refine search_field List.not_mem_nil ?_ (by simp)
  exact List.not_mem_append (by simp []) (List.not_mem_cons_of_ne_of_not_mem (by decide)
    (by simpa using letter_not_mem_formatFixed2 (.inr (.inr rfl)) truth))

/-! ## The scan, line by line -/

theorem scanLine_of_unmarked {line : List Char} (unmarked : Unmarked line) (scan : Scan) :
    scanLine scan line = (do
      let predVals ← readField scan.inPred estimatedPowerPattern line scan.predVals
      let truthVals ← readField scan.inTruth truthPattern line scan.truthVals
      pure { scan with predVals := predVals, truthVals := truthVals }) := by
  simp [scanLine, contains, unmarked.1, unmarked.2]

/-- A quiet line leaves the scan as it is. -/
theorem scanLine_quiet {line : List Char} (quiet : Quiet line) (scan : Scan) :
    scanLine scan line = .ok scan := by
  rw [scanLine_of_unmarked quiet.1, readField_of_search_eq_none quiet.search_estimatedPower,
    readField_of_search_eq_none quiet.search_truth]
  rfl

/-- Before the first marker only the markers are looked for. -/
theorem scanLine_idle {line : List Char} (unmarked : Unmarked line) (predVals truthVals : List ℚ) :
    scanLine ⟨predVals, truthVals, false, false⟩ line = .ok ⟨predVals, truthVals, false, false⟩ := by
  rw [scanLine_of_unmarked unmarked]
  rfl

theorem scanLine_predictionMarker (scan : Scan) :
    scanLine scan predictionMarker = .ok { scan with inPred := true, inTruth := false } := by
  rw [scanLine, if_pos (by simp [contains])]
  rfl

theorem scanLine_truthMarker (scan : Scan) :
    scanLine scan truthMarker = .ok { scan with inPred := false, inTruth := true } := by
  rw [scanLine, if_neg (by simp [contains, truthMarker_eq, predictionMarker_eq]; decide),
    if_pos (by simp [contains])]
  rfl

/-- In the prediction section a printed line adds the estimate it shows. -/
theorem scanLine_prediction {printed : Logged} (quiet : printed.Quiet) (predVals truthVals : List ℚ) :
    scanLine ⟨predVals, truthVals, true, false⟩ printed.render =
      .ok ⟨predVals ++ printed.shownEstimate.toList, truthVals, true, false⟩ := by
  cases printed with
  | estimate truth est =>
      rw [scanLine_of_unmarked (unmarked_render_estimate truth est),
        readField_shown (search_estimatedPower_estimate truth est)]
      rfl
  | measured truth =>
      rw [scanLine_of_unmarked (unmarked_render_measured truth),
        readField_of_search_eq_none (search_estimatedPower_measured truth)]
      simp [Logged.shownEstimate]
      rfl
  | _ =>
      rw [scanLine_quiet (quiet_render quiet (by simp) (by simp))]
      simp [Logged.shownEstimate]

/-- In the ground-truth section a printed line adds the measured power it
shows. -/
theorem scanLine_truth {printed : Logged} (quiet : printed.Quiet) (predVals truthVals : List ℚ) :
    scanLine ⟨predVals, truthVals, false, true⟩ printed.render =
      .ok ⟨predVals, truthVals ++ printed.shownTruth.toList, false, true⟩ := by
  cases printed with
  | estimate truth est =>
      rw [scanLine_of_unmarked (unmarked_render_estimate truth est), readField_false,
        Run.ok_bind, readField_shown (search_truth_estimate truth est)]
      rfl
  | measured truth =>
      rw [scanLine_of_unmarked (unmarked_render_measured truth), readField_false,
        Run.ok_bind, readField_shown (search_truth_measured truth)]
      rfl
  | _ =>
      rw [scanLine_quiet (quiet_render quiet (by simp) (by simp))]
      simp [Logged.shownTruth]

/-! ## The scan of a whole log -/

theorem scan_idle {lines : List (List Char)} (unmarked : ∀ line ∈ lines, Unmarked line)
    (predVals truthVals : List ℚ) :
    lines.foldlM scanLine ⟨predVals, truthVals, false, false⟩ =
      .ok ⟨predVals, truthVals, false, false⟩ := by
  induction lines with
  | nil => rfl
  | cons line rest ih =>
      rw [List.foldlM_cons, scanLine_idle (unmarked line List.mem_cons_self), Run.ok_bind]
      exact ih fun later member => unmarked later (List.mem_cons_of_mem line member)

/-- The prediction section collects the estimates its lines show, in order. -/
theorem scan_prediction {printed : List Logged} (quiet : ∀ line ∈ printed, line.Quiet)
    (predVals truthVals : List ℚ) :
    (printed.map Logged.render).foldlM scanLine ⟨predVals, truthVals, true, false⟩ =
      .ok ⟨predVals ++ printed.filterMap Logged.shownEstimate, truthVals, true, false⟩ := by
  induction printed generalizing predVals with
  | nil =>
      rw [List.filterMap_nil, List.append_nil]
      rfl
  | cons line rest ih =>
      rw [List.map_cons, List.foldlM_cons, scanLine_prediction (quiet line List.mem_cons_self),
        Run.ok_bind, ih (fun later member => quiet later (List.mem_cons_of_mem line member))]
      cases shownLine : line.shownEstimate <;> simp [shownLine]

/-- The ground-truth section collects the measured powers its lines show, in
order. -/
theorem scan_truth {printed : List Logged} (quiet : ∀ line ∈ printed, line.Quiet)
    (predVals truthVals : List ℚ) :
    (printed.map Logged.render).foldlM scanLine ⟨predVals, truthVals, false, true⟩ =
      .ok ⟨predVals, truthVals ++ printed.filterMap Logged.shownTruth, false, true⟩ := by
  induction printed generalizing truthVals with
  | nil =>
      rw [List.filterMap_nil, List.append_nil]
      rfl
  | cons line rest ih =>
      rw [List.map_cons, List.foldlM_cons, scanLine_truth (quiet line List.mem_cons_self),
        Run.ok_bind, ih (fun later member => quiet later (List.mem_cons_of_mem line member))]
      cases shownLine : line.shownTruth <;> simp [shownLine]

/-- The configuration block of a test whose names and date have no dash has
no marker. -/
theorem unmarked_configuration {test : Test} (app : '-' ∉ test.app)
    (bgTarget : '-' ∉ test.bgTarget) (bgSource : '-' ∉ test.bgSource)
    (timestamp : Unmarked test.timestamp) : ∀ line ∈ test.configuration, Unmarked line := by
  have dashed : ∀ {pre text : List Char}, '-' ∉ pre → '-' ∉ text → Unmarked (pre ++ text) :=
    fun noDash absent =>
      unmarked_of_not_mem (by simp [predictionMarker_eq]) (by simp [truthMarker_eq]) (List.not_mem_append noDash absent)
  intro line member
  simp only [Test.configuration, List.mem_cons, List.not_mem_nil, or_false] at member
  rcases member with rfl | rfl | rfl | rfl | rfl | rfl
  · simp [Unmarked, predictionMarker_eq, truthMarker_eq]; decide
  · exact dashed (by simp) app
  · exact dashed (by simp) bgTarget
  · exact dashed (by simp) bgSource
  · exact timestamp.append_left (by simp)
  · simp [Unmarked, predictionMarker_eq, truthMarker_eq]; decide

/-- get_result.py reads back from a log exactly the estimates and measured
powers the two phases' servers printed, as `.2f` shows them. -/
theorem scan_resultFile (test : Test) (app : '-' ∉ test.app) (bgTarget : '-' ∉ test.bgTarget)
    (bgSource : '-' ∉ test.bgSource) (timestamp : Unmarked test.timestamp)
    (quiet : ∀ printed ∈ test.prediction ++ test.truth, printed.Quiet) :
    test.resultFile.foldlM scanLine Scan.initial =
      .ok ⟨test.prediction.filterMap Logged.shownEstimate,
        test.truth.filterMap Logged.shownTruth, false, true⟩ := by
  have blank : Quiet [] := by simp [Quiet, Unmarked, predictionMarker_eq, truthMarker_eq, estimatedPowerField_eq, truthField_eq]
  -- the section markers, each after its empty line
  have opened : [[], predictionMarker].foldlM scanLine Scan.initial = .ok ⟨[], [], true, false⟩ := by
    rw [List.foldlM_cons, Scan.initial, scanLine_idle blank.1, Run.ok_bind, List.foldlM_cons,
      scanLine_predictionMarker]
    rfl
  have switched : ∀ predVals : List ℚ, [[], truthMarker].foldlM scanLine ⟨predVals, [], true, false⟩ =
      .ok ⟨predVals, [], false, true⟩ := by
    intro predVals
    rw [List.foldlM_cons, scanLine_quiet blank, Run.ok_bind, List.foldlM_cons,
      scanLine_truthMarker]
    rfl
  have closed : ∀ scan : Scan,
      ["========================================================".toList].foldlM scanLine scan =
        .ok scan := by
    intro scan
    rw [List.foldlM_cons, scanLine_quiet (by simp [Quiet, Unmarked, predictionMarker_eq, truthMarker_eq, estimatedPowerField_eq, truthField_eq]; decide), Run.ok_bind]
    rfl
  have header : test.configuration.foldlM scanLine Scan.initial = .ok Scan.initial :=
    scan_idle (unmarked_configuration app bgTarget bgSource timestamp) [] []
  have predicted := scan_prediction
    (fun printed member => quiet printed (List.mem_append_left _ member)) [] []
  have measured := scan_truth
    (fun printed member => quiet printed (List.mem_append_right _ member))
    (test.prediction.filterMap Logged.shownEstimate) []
  rw [List.nil_append] at predicted measured
  simp only [Test.resultFile, List.foldlM_append, header, Run.ok_bind, opened, predicted, switched,
    measured, closed]

/-! ## The name of a log -/

/-- The pattern of get_result.py gives back the names run-bench.sh puts in a
log's name. -/
theorem matchResultName_resultName (test : Test) (app : Plain test.app)
    (bgTarget : Plain test.bgTarget) (bgSource : Plain test.bgSource) :
    matchResultName test.resultName = some (test.app, test.bgTarget, test.bgSource) := by
  obtain ⟨appNonempty, appNoDash, -, appNoBreak⟩ := app
  obtain ⟨targetNonempty, targetNoDash, -, targetNoBreak⟩ := bgTarget
  obtain ⟨sourceNonempty, -, sourceNoPoint, sourceNoBreak⟩ := bgSource
  -- each lazy group ends where the word after it starts: the words are
  -- marked by a dash, or by the point of the extension
  have source : lazyGroup (literal ".log".toList fun _ => some ())
      (test.bgSource ++ ".log".toList) = some (test.bgSource, ()) :=
    lazyGroup_literal_end (p := 0) (by simp) (by simp) sourceNonempty sourceNoPoint
      sourceNoBreak rfl
  have target : lazyGroup (literal "_src-bg-".toList
      (lazyGroup (literal ".log".toList fun _ => some ())))
      (test.bgTarget ++ ("_src-bg-".toList ++ (test.bgSource ++ ".log".toList))) =
        some (test.bgTarget, test.bgSource, ()) :=
    lazyGroup_literal_append (p := 4) (by simp) (by simp) targetNonempty targetNoDash
      targetNoBreak source
  have named : lazyGroup (literal "_tgt-bg-".toList (lazyGroup (literal "_src-bg-".toList
      (lazyGroup (literal ".log".toList fun _ => some ())))))
      (test.app ++ ("_tgt-bg-".toList ++ (test.bgTarget ++ ("_src-bg-".toList ++
        (test.bgSource ++ ".log".toList))))) =
        some (test.app, test.bgTarget, test.bgSource, ()) :=
    lazyGroup_literal_append (p := 4) (by simp) (by simp) appNonempty appNoDash appNoBreak target
  rw [matchResultName, Test.resultName, literal_append, named]
  rfl

/-! ## The report -/

theorem summarize_shown (test : Test) (measured : test.truths ≠ [] → mean test.truths ≠ 0) :
    summarize test.app test.bgTarget test.bgSource ⟨test.estimates, test.truths, false, true⟩ =
      .ok test.row := by
  unfold summarize Test.row
  by_cases empty : test.estimates = [] ∨ test.truths = []
  · rw [if_pos empty, if_pos empty]
    rfl
  · have nonzero : mean test.truths ≠ 0 := measured fun noTruth => empty (.inr noTruth)
    rw [if_neg empty, if_neg empty, if_neg nonzero]
    rfl

/-- The row get_result.py makes of one test's log. -/
theorem fileRow_test {test : Test} (app : Plain test.app) (bgTarget : Plain test.bgTarget)
    (bgSource : Plain test.bgSource) (timestamp : Unmarked test.timestamp)
    (quiet : ∀ printed ∈ test.prediction ++ test.truth, printed.Quiet)
    (measured : test.truths ≠ [] → mean test.truths ≠ 0) :
    fileRow test.resultName test.resultFile = .ok test.row := by
  rw [fileRow, matchResultName_resultName test app bgTarget bgSource]
  dsimp only
  rw [scan_resultFile test app.2.1 bgTarget.2.1 bgSource.2.1 timestamp quiet, Run.ok_bind]
  exact summarize_shown test measured

/-- get_result.py's report over the logs of a set of tests: one row for each
test whose two phases both showed a value, in the order of the logs, with the
means of the values the servers printed and the error of the one against the
other. -/
theorem summaryRows_tests (tests : List Test)
    (named : ∀ test ∈ tests,
      Plain test.app ∧ Plain test.bgTarget ∧ Plain test.bgSource ∧ Unmarked test.timestamp)
    (quiet : ∀ test ∈ tests, ∀ printed ∈ test.prediction ++ test.truth, printed.Quiet)
    (measured : ∀ test ∈ tests, test.truths ≠ [] → mean test.truths ≠ 0) :
    summaryRows (tests.map fun test => (test.resultName, test.resultFile)) =
      .ok (tests.filterMap Test.row) := by
  have rows : ∀ test ∈ tests,
      ((fun file : List Char × List (List Char) => fileRow file.1 file.2) ∘
        fun test : Test => (test.resultName, test.resultFile)) test = .ok test.row := by
    intro test member
    obtain ⟨app, bgTarget, bgSource, timestamp⟩ := named test member
    exact fileRow_test app bgTarget bgSource timestamp (quiet test member) (measured test member)
  rw [summaryRows, List.mapM_map, Run.mapM_of_ok rows]
  -- `reduceOption` is `filterMap id`
  show Except.ok ((tests.map Test.row).filterMap id) = _
  rw [List.filterMap_map]
  rfl

/-- A test as the bench runs it: the prediction phase shows one estimate and
a peer that disconnects, the ground-truth phase one measured power. -/
def sampleTest : Test where
  app := "cnn_inf".toList
  bgTarget := "fileserver".toList
  bgSource := "social".toList
  timestamp := "Tue Nov 11 10:00:00 -03 2025".toList
  prediction := [.listening, .estimate 41 39, .disconnected "('10.0.0.2', 51234)".toList]
  truth := [.listening, .measured 40]

theorem summaryRows_sampleTest :
    (∀ test ∈ [sampleTest],
      Plain test.app ∧ Plain test.bgTarget ∧ Plain test.bgSource ∧ Unmarked test.timestamp) ∧
    (∀ test ∈ [sampleTest], ∀ printed ∈ test.prediction ++ test.truth, printed.Quiet) ∧
    (∀ test ∈ [sampleTest], test.truths ≠ [] → mean test.truths ≠ 0) ∧
    summaryRows ([sampleTest].map fun test => (test.resultName, test.resultFile)) =
      .ok ([sampleTest].filterMap Test.row) := by
  have named : ∀ test ∈ [sampleTest],
      Plain test.app ∧ Plain test.bgTarget ∧ Plain test.bgSource ∧ Unmarked test.timestamp := by
    simp only [List.mem_singleton, forall_eq]
    -- the sample's fields by its body, not by an equation lemma that compares the texts
    delta sampleTest
    refine ⟨by simp [Plain], by simp [Plain], by simp [Plain], ?_⟩
    -- the numeric zone has a dash, but no marker
    simp [Unmarked, predictionMarker_eq, truthMarker_eq]
    decide
  have quiet : ∀ test ∈ [sampleTest], ∀ printed ∈ test.prediction ++ test.truth,
      printed.Quiet := by
    intro test member printed printedMember
    rw [List.mem_singleton] at member
    subst member
    delta sampleTest at printedMember
    simp only [List.cons_append, List.nil_append, List.mem_cons, List.not_mem_nil,
      or_false] at printedMember
    rcases printedMember with rfl | rfl | rfl | rfl | rfl
    · trivial
    · trivial
    · simp [Logged.Quiet, Quiet, Unmarked, predictionMarker_eq, truthMarker_eq,
        estimatedPowerField_eq, truthField_eq]
      decide
    · trivial
    · trivial
  have truths : sampleTest.truths = [round2 40] := by
    have measuredShown : Logged.shownTruth (.measured 40) = some (round2 40) := by
      simp [Logged.shownTruth, shown]
    show [Logged.listening, Logged.measured 40].filterMap Logged.shownTruth = _
    rw [List.filterMap_cons_none rfl, List.filterMap_cons_some measuredShown, List.filterMap_nil]
  have measured : ∀ test ∈ [sampleTest], test.truths ≠ [] → mean test.truths ≠ 0 := by
    intro test member _
    rw [List.mem_singleton] at member
    subst member
    rw [truths]
    norm_num [mean, round2, roundHalfEven]
  exact ⟨named, quiet, measured, summaryRows_tests [sampleTest] named quiet measured⟩

end Predxnd

end PowerCapping
