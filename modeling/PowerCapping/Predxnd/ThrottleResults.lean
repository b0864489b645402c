import PowerCapping.Predxnd.Results

/-!
# The result files of the throttle benchmark

`predxnd/run-bench-throttle.sh` runs the tests of run-bench.sh with a CPU
limit for each machine, drawn before each test as `(RANDOM % 10 + 1) * 10`
percent and written into the log's name; its servers are
`merge_pred_throttle.py`, which print the lines merge_pred.py prints and,
before each estimate, the merged feature map.  `predxnd/get_result_throttle.py`
reads the logs back as get_result.py does, with the two limits from the name,
and with `elif in_truth:` where get_result.py has `if in_truth:`.

The `elif` changes nothing: no line sets both section flags, so the block it
guards is never one the `if` would also have run, and on every file the two
scans agree (`scanThrottle_eq_scan`).  The pattern gives back the workloads
and the limits (`matchThrottleName_resultName`), and the report over a set of
tests holds the limits and the means of the values the servers printed
(`throttleSummaryRows_tests`).
-/

namespace PowerCapping

namespace Predxnd

open Py Regex

/-! ## What run-bench-throttle.sh writes -/

/-- One test of run-bench-throttle.sh: a test of run-bench.sh, and the two
values of `$RANDOM` its limits are drawn from. -/
structure ThrottleTest extends Test where
  targetRandom : ℕ
  sourceRandom : ℕ
  deriving DecidableEq, Repr

/-- `$(( (RANDOM % 10 + 1) * 10 ))`. -/
def drawLimit (random : ℕ) : ℕ :=
  (random % 10 + 1) * 10

namespace ThrottleTest

/-- `tg_limit`, set for the target machine's `user` cgroup. -/
def tgLimit (test : ThrottleTest) : ℕ :=
  drawLimit test.targetRandom

/-- `src_limit`, set for the source machine's `user` cgroup. -/
def srcLimit (test : ThrottleTest) : ℕ :=
  drawLimit test.sourceRandom

/-- The name of `RESULT_FILE`; the shell prints a limit in decimal. -/
def resultName (test : ThrottleTest) : List Char :=
  "app-".toList ++ (test.app ++ ("_tgt-bg-".toList ++ (test.bgTarget ++ ('-' ::
    (Nat.toDigits 10 test.tgLimit ++ ("_src-bg-".toList ++ (test.bgSource ++ ('-' ::
      (Nat.toDigits 10 test.srcLimit ++ ".log".toList)))))))))

/-- The lines of `RESULT_FILE`: the header and the markers of run-bench.sh,
which do not show the limits. -/
def resultFile (test : ThrottleTest) : List (List Char) :=
  test.toTest.resultFile

end ThrottleTest

/-! ## What get_result_throttle.py reads -/

/-- The body of get_result_throttle.py's loop: get_result.py's, with the
ground-truth block under `elif in_truth:`. -/
def scanLineThrottle (scan : Scan) (line : List Char) : Except Py.Exception Scan :=
  if contains line predictionMarker then pure { scan with inPred := true, inTruth := false }
  else if contains line truthMarker then pure { scan with inPred := false, inTruth := true }
  else if scan.inPred then do
    let predVals ← readField true estimatedPowerPattern line scan.predVals
    pure { scan with predVals := predVals }
  else do
    let truthVals ← readField scan.inTruth truthPattern line scan.truthVals
    pure { scan with truthVals := truthVals }

/-- `re.match(r'app-(.+?)_tgt-bg-(.+?)-(\d+)_src-bg-(.+?)-(\d+)\.log', base)`
and `m.groups()`. -/
def matchThrottleName (base : List Char) :
    Option (List Char × List Char × List Char × List Char × List Char) :=
  (literal "app-".toList
      (lazyGroup (literal "_tgt-bg-".toList
        (lazyGroup (literal ['-'] (greedyRun Char.isDigit (literal "_src-bg-".toList
          (lazyGroup (literal ['-'] (greedyRun Char.isDigit
            (literal ".log".toList fun _ => some ())))))))))) base).map
    fun (targetApp, targetBg, targetThr, sourceBg, sourceThr, _) =>
      (targetApp, targetBg, targetThr, sourceBg, sourceThr)

/-- A row of get_result_throttle.py's `summary`: get_result.py's row with the
two limits. -/
structure ThrottleRow extends Row where
  targetThr : ℤ
  sourceThr : ℤ
  deriving DecidableEq, Repr

/-- One file of the `for file in files` loop: the limits are read with `int`
before the file is opened, and the row is made as in get_result.py. -/
def throttleFileRow (base : List Char) (lines : List (List Char)) :
    Except Py.Exception (Option ThrottleRow) :=
  match matchThrottleName base with
  | none => pure none
  | some (targetApp, targetBg, targetThr, sourceBg, sourceThr) => do
      let targetThr ← intValue targetThr
      let sourceThr ← intValue sourceThr
      let scan ← lines.foldlM scanLineThrottle Scan.initial
      let row ← summarize targetApp targetBg sourceBg scan
      pure (row.map fun row => ⟨row, targetThr, sourceThr⟩)

/-- `summary` after the loop over the files `glob` lists. -/
def throttleSummaryRows (files : List (List Char × List (List Char))) :
    Except Py.Exception (List ThrottleRow) :=
  (files.mapM fun file => throttleFileRow file.1 file.2).map List.reduceOption

/-- The row a test should give: the row of run-bench.sh's test, with the
limits the bench drew. -/
def ThrottleTest.row (test : ThrottleTest) : Option ThrottleRow :=
  test.toTest.row.map fun row => ⟨row, test.tgLimit, test.srcLimit⟩

/-! ## The two scans agree -/

/-- At most one section is on. -/
def Scan.Exclusive (scan : Scan) : Prop :=
  scan.inPred = true → scan.inTruth = false

theorem Scan.exclusive_initial : Scan.initial.Exclusive :=
  fun _ => rfl

/-- Each line of get_result.py's loop turns one section on, or keeps the
flags. -/
theorem scanLine_flags {scan next : Scan} {line : List Char}
    (stepped : scanLine scan line = .ok next) :
    (next.inPred = true ∧ next.inTruth = false) ∨ (next.inPred = false ∧ next.inTruth = true) ∨
      (next.inPred = scan.inPred ∧ next.inTruth = scan.inTruth) := by
  unfold scanLine at stepped
  split_ifs at stepped
  · cases stepped
    exact .inl ⟨rfl, rfl⟩
  · cases stepped
    exact .inr (.inl ⟨rfl, rfl⟩)
  · -- the blocks append to the lists and leave the flags alone
    rcases predRead : readField scan.inPred estimatedPowerPattern line scan.predVals with
      e | predVals <;> rw [predRead] at stepped
    · cases stepped
    rw [Run.ok_bind] at stepped
    rcases truthRead : readField scan.inTruth truthPattern line scan.truthVals with
      e | truthVals <;> rw [truthRead] at stepped
    · cases stepped
    cases stepped
    exact .inr (.inr ⟨rfl, rfl⟩)

theorem Scan.Exclusive.scanLine {scan next : Scan} {line : List Char} (exclusive : scan.Exclusive)
    (stepped : Predxnd.scanLine scan line = .ok next) : next.Exclusive := by
  intro predOn
  rcases scanLine_flags stepped with ⟨_, truthOff⟩ | ⟨predOff, _⟩ | ⟨samePred, sameTruth⟩
  · exact truthOff
  · rw [predOff] at predOn
    cases predOn
  · rw [sameTruth]
    exact exclusive (samePred ▸ predOn)

/-- With at most one section on, the `elif` runs the block the `if` runs. -/
theorem scanLineThrottle_eq_scanLine {scan : Scan} (exclusive : scan.Exclusive)
    (line : List Char) : scanLineThrottle scan line = scanLine scan line := by
  unfold scanLineThrottle scanLine
  split_ifs with predictionLine truthLine predOn
  · rfl
  · rfl
  · -- the prediction section is on, so the ground-truth block reads nothing
    have truthOff : scan.inTruth = false := exclusive predOn
    rw [predOn, truthOff]
    cases readField true estimatedPowerPattern line scan.predVals <;> rfl
  · -- the prediction block reads nothing
    rw [Bool.not_eq_true] at predOn
    rw [predOn, readField_false, Run.ok_bind]

theorem foldlM_scanLineThrottle (lines : List (List Char)) {start : Scan}
    (exclusive : start.Exclusive) :
    lines.foldlM scanLineThrottle start = lines.foldlM scanLine start :=
  Run.foldlM_eq_of_agree Scan.Exclusive
    (fun _ line exclusive => scanLineThrottle_eq_scanLine exclusive line)
    (fun _ _ _ exclusive stepped => exclusive.scanLine stepped) lines exclusive

/-- get_result_throttle.py and get_result.py scan every file alike, raising
or not. -/
theorem scanThrottle_eq_scan (lines : List (List Char)) :
    lines.foldlM scanLineThrottle Scan.initial = lines.foldlM scanLine Scan.initial :=
  foldlM_scanLineThrottle lines Scan.exclusive_initial

/-! ## The name of a log -/

/-- The pattern of get_result_throttle.py gives back the names and the limits
run-bench-throttle.sh puts in a log's name. -/
theorem matchThrottleName_resultName (test : ThrottleTest) (app : Plain test.app)
    (bgTarget : Plain test.bgTarget) (bgSource : Plain test.bgSource) :
    matchThrottleName test.resultName =
      some (test.app, test.bgTarget, Nat.toDigits 10 test.tgLimit, test.bgSource,
        Nat.toDigits 10 test.srcLimit) := by
  obtain ⟨appNonempty, appNoDash, -, appNoBreak⟩ := app
  obtain ⟨targetNonempty, targetNoDash, -, targetNoBreak⟩ := bgTarget
  obtain ⟨sourceNonempty, sourceNoDash, -, sourceNoBreak⟩ := bgSource
  have digits : ∀ limit : ℕ, ∀ c ∈ Nat.toDigits 10 limit, c.isDigit = true :=
    fun _ _ member => isDigit_of_mem_toDigits member
  -- a limit's digits are followed by `_` or `.`, which end the greedy group;
  -- each lazy group ends at the dash after it
  have sourceLimit : greedyRun Char.isDigit (literal ".log".toList fun _ => some ())
      (Nat.toDigits 10 test.srcLimit ++ ".log".toList) =
        some (Nat.toDigits 10 test.srcLimit, ()) :=
    greedyRun_append (digits _) Nat.toDigits_ne_nil (by simp) (literal_self _ _)
  have source : lazyGroup (literal ['-'] (greedyRun Char.isDigit
      (literal ".log".toList fun _ => some ())))
      (test.bgSource ++ ('-' :: (Nat.toDigits 10 test.srcLimit ++ ".log".toList))) =
        some (test.bgSource, Nat.toDigits 10 test.srcLimit, ()) :=
    lazyGroup_literal_append (p := 0) rfl (by simp) sourceNonempty sourceNoDash sourceNoBreak
      sourceLimit
  have targetLimit : greedyRun Char.isDigit (literal "_src-bg-".toList
      (lazyGroup (literal ['-'] (greedyRun Char.isDigit
        (literal ".log".toList fun _ => some ())))))
      (Nat.toDigits 10 test.tgLimit ++ ("_src-bg-".toList ++ (test.bgSource ++ ('-' ::
        (Nat.toDigits 10 test.srcLimit ++ ".log".toList))))) =
        some (Nat.toDigits 10 test.tgLimit, test.bgSource, Nat.toDigits 10 test.srcLimit, ()) :=
    greedyRun_append (digits _) Nat.toDigits_ne_nil (by simp) (by rw [literal_append]; exact source)
  have target : lazyGroup (literal ['-'] (greedyRun Char.isDigit (literal "_src-bg-".toList
      (lazyGroup (literal ['-'] (greedyRun Char.isDigit
        (literal ".log".toList fun _ => some ())))))))
      (test.bgTarget ++ ('-' :: (Nat.toDigits 10 test.tgLimit ++ ("_src-bg-".toList ++
        (test.bgSource ++ ('-' :: (Nat.toDigits 10 test.srcLimit ++ ".log".toList))))))) =
        some (test.bgTarget, Nat.toDigits 10 test.tgLimit, test.bgSource,
          Nat.toDigits 10 test.srcLimit, ()) :=
    lazyGroup_literal_append (p := 0) rfl (by simp) targetNonempty targetNoDash targetNoBreak
      targetLimit
  have named : lazyGroup (literal "_tgt-bg-".toList (lazyGroup (literal ['-'] (greedyRun Char.isDigit
      (literal "_src-bg-".toList (lazyGroup (literal ['-'] (greedyRun Char.isDigit
        (literal ".log".toList fun _ => some ())))))))))
      (test.app ++ ("_tgt-bg-".toList ++ (test.bgTarget ++ ('-' :: (Nat.toDigits 10 test.tgLimit ++
        ("_src-bg-".toList ++ (test.bgSource ++ ('-' ::
          (Nat.toDigits 10 test.srcLimit ++ ".log".toList))))))))) =
        some (test.app, test.bgTarget, Nat.toDigits 10 test.tgLimit, test.bgSource,
          Nat.toDigits 10 test.srcLimit, ()) :=
    lazyGroup_literal_append (p := 4) (by simp) (by simp) appNonempty appNoDash appNoBreak target
  rw [matchThrottleName, ThrottleTest.resultName, literal_append, named]
  rfl

/-! ## The report -/

/-- The row get_result_throttle.py makes of one test's log. -/
theorem throttleFileRow_test {test : ThrottleTest} (app : Plain test.app)
    (bgTarget : Plain test.bgTarget) (bgSource : Plain test.bgSource)
    (timestamp : Unmarked test.timestamp)
    (quiet : ∀ printed ∈ test.prediction ++ test.truth, printed.Quiet)
    (measured : test.truths ≠ [] → mean test.truths ≠ 0) :
    throttleFileRow test.resultName test.resultFile = .ok test.row := by
  have scanned : test.resultFile.foldlM scanLineThrottle Scan.initial =
      .ok ⟨test.estimates, test.truths, false, true⟩ := by
    rw [foldlM_scanLineThrottle _ Scan.exclusive_initial]
    exact scan_resultFile test.toTest app.2.1 bgTarget.2.1 bgSource.2.1 timestamp quiet
  rw [throttleFileRow, matchThrottleName_resultName test app bgTarget bgSource]
  dsimp only
  rw [intValue_toDigits, Run.ok_bind, intValue_toDigits, Run.ok_bind, scanned, Run.ok_bind,
    summarize_shown test.toTest measured, Run.ok_bind]
  rfl

/-- get_result_throttle.py's report over the logs of a set of tests: one row
for each test whose two phases both showed a value, in the order of the logs,
with the two limits the bench drew, the means of the values the servers
printed and the error of the one against the other. -/
theorem throttleSummaryRows_tests (tests : List ThrottleTest)
    (named : ∀ test ∈ tests,
      Plain test.app ∧ Plain test.bgTarget ∧ Plain test.bgSource ∧ Unmarked test.timestamp)
    (quiet : ∀ test ∈ tests, ∀ printed ∈ test.prediction ++ test.truth, printed.Quiet)
    (measured : ∀ test ∈ tests, test.truths ≠ [] → mean test.truths ≠ 0) :
    throttleSummaryRows (tests.map fun test => (test.resultName, test.resultFile)) =
      .ok (tests.filterMap ThrottleTest.row) := by
  have rows : ∀ test ∈ tests,
      ((fun file : List Char × List (List Char) => throttleFileRow file.1 file.2) ∘
        fun test : ThrottleTest => (test.resultName, test.resultFile)) test = .ok test.row := by
    intro test member
    obtain ⟨app, bgTarget, bgSource, timestamp⟩ := named test member
    exact throttleFileRow_test app bgTarget bgSource timestamp (quiet test member)
      (measured test member)
  rw [throttleSummaryRows, List.mapM_map, Run.mapM_of_ok rows]
  -- `reduceOption` is `filterMap id`
  show Except.ok ((tests.map ThrottleTest.row).filterMap id) = _
  rw [List.filterMap_map]
  rfl

/-- A test as the throttle bench runs it: the prediction phase shows the
merged feature map and one estimate, the ground-truth phase one measured
power. -/
def sampleThrottleTest : ThrottleTest where
  app := "cnn_inf".toList
  bgTarget := "fileserver".toList
  bgSource := "social".toList
  timestamp := "Wed Nov 12 09:30:00 UTC 2025".toList
  prediction := [.listening, .stderr "[0.5, 1.25, 3.0]".toList, .estimate 52 48]
  truth := [.listening, .measured 50]
  targetRandom := 12345
  sourceRandom := 7

theorem throttleSummaryRows_sampleThrottleTest :
    (∀ test ∈ [sampleThrottleTest],
      Plain test.app ∧ Plain test.bgTarget ∧ Plain test.bgSource ∧ Unmarked test.timestamp) ∧
    (∀ test ∈ [sampleThrottleTest], ∀ printed ∈ test.prediction ++ test.truth, printed.Quiet) ∧
    (∀ test ∈ [sampleThrottleTest], test.truths ≠ [] → mean test.truths ≠ 0) ∧
    throttleSummaryRows ([sampleThrottleTest].map fun test => (test.resultName, test.resultFile)) =
      .ok ([sampleThrottleTest].filterMap ThrottleTest.row) := by
  have named : ∀ test ∈ [sampleThrottleTest],
      Plain test.app ∧ Plain test.bgTarget ∧ Plain test.bgSource ∧ Unmarked test.timestamp := by
    simp only [List.mem_singleton, forall_eq]
    -- the sample's fields by its body, not by an equation lemma that compares the texts
    delta sampleThrottleTest
    refine ⟨by simp [Plain], by simp [Plain], by simp [Plain], ?_⟩
    simp [Unmarked, predictionMarker_eq, truthMarker_eq]
    decide
  have quiet : ∀ test ∈ [sampleThrottleTest], ∀ printed ∈ test.prediction ++ test.truth,
      printed.Quiet := by
    intro test member printed printedMember
    rw [List.mem_singleton] at member
    subst member
    delta sampleThrottleTest at printedMember
    simp only [List.cons_append, List.nil_append, List.mem_cons, List.not_mem_nil,
      or_false] at printedMember
    rcases printedMember with rfl | rfl | rfl | rfl | rfl
    · trivial
    · simp [Logged.Quiet, Quiet, Unmarked, predictionMarker_eq, truthMarker_eq,
        estimatedPowerField_eq, truthField_eq]
      decide
    · trivial
    · trivial
    · trivial
  have truths : sampleThrottleTest.truths = [round2 50] := by
    have measuredShown : Logged.shownTruth (.measured 50) = some (round2 50) := by
      simp [Logged.shownTruth, shown]
    show [Logged.listening, Logged.measured 50].filterMap Logged.shownTruth = _
    rw [List.filterMap_cons_none rfl, List.filterMap_cons_some measuredShown, List.filterMap_nil]
  have measured : ∀ test ∈ [sampleThrottleTest], test.truths ≠ [] → mean test.truths ≠ 0 := by
    intro test member _
    rw [List.mem_singleton] at member
    subst member
    rw [truths]
    norm_num [mean, round2, roundHalfEven]
  exact ⟨named, quiet, measured,
    throttleSummaryRows_tests [sampleThrottleTest] named quiet measured⟩

end Predxnd

end PowerCapping
