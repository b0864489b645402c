import PowerCapping.Lib.Python

/-!
# Parsing `perf stat` output

The scripts that build feature vectors read two `perf stat -o` files: the
counter file `perf_metrics.dat`, turned into per-second counter values, and the
energy file `perf_energy.dat`, turned into watts.  They also read the core
temperatures the sampling helper writes to `core_temp.dat`.  Both parsers
catch every exception and return the pair `(None, "Error: ...")` instead; here
the error is the second entry of that pair.

The patterns they search for are matched at a position without backtracking
(each repeated class is followed by a character outside it), so a match at a
position is computed directly and `re.search` tries the positions from the
left.  `\d` is taken to be an ASCII digit.

Two copies of `parse_perf_metrics` exist.  The training logger and the PIP
controller stop at the first line containing `seconds time elapsed` and raise
their own `ValueError` when the elapsed time is missing; the idle-map recorder
and the accuracy evaluator skip every line containing `seconds`, and call
`.group` on the failed search.
-/

namespace PowerCapping

namespace Parse

open Py

/-- `\s+` at the front: the rest after the whole run of whitespace. -/
def spaces1 : List Char → Option (List Char)
  | c :: rest => if isSpace c then some (rest.dropWhile isSpace) else none
  | [] => none

/-- A literal at the front: the rest after it. -/
def literal (word text : List Char) : Option (List Char) :=
  if word <+: text then some (text.drop word.length) else none

/-- `\d+\.\d+` at the front: the matched text and the rest. -/
def decimal (text : List Char) : Option (List Char × List Char) :=
  match text.span Char.isDigit with
  | (whole, '.' :: rest) =>
      match rest.span Char.isDigit with
      | (fraction, after) =>
          if whole ≠ [] ∧ fraction ≠ [] then some (whole ++ '.' :: fraction, after)
          else none
  | _ => none

/-- `(\d+\.\d+)\s+w₁\s+w₂…` at the front: the text of the group. -/
def quantityBefore (words : List (List Char)) (text : List Char) : Option (List Char) := do
  let (number, rest) ← decimal text
  let _ ← words.foldlM (fun rest word => spaces1 rest >>= literal word) rest
  pure number

/-- `(\d+\.\d+)\s+seconds\s+time\s+elapsed`. -/
def elapsedPattern : List Char → Option (List Char) :=
  quantityBefore ["seconds".toList, "time".toList, "elapsed".toList]

/-- `(\d+\.\d+)\s+Joules\s+power/energy-pkg/`. -/
def energyPattern : List Char → Option (List Char) :=
  quantityBefore ["Joules".toList, "power/energy-pkg/".toList]

/-- `[\d,\.]`. -/
def isCountChar (c : Char) : Bool :=
  c.isDigit || c = ',' || c = '.'

/-- An ASCII letter, a dash or a slash: the class of the event name. -/
def isEventChar (c : Char) : Bool :=
  c.isAlpha || c = '-' || c = '/'

/-- The counter-line search of `parse_perf_metrics`: spaces, a run of
digits, commas and points, whitespace, then an event name; the text of the
count when the line matches. -/
def metricMatch (line : List Char) : Option (List Char) :=
  match (line.dropWhile (· = ' ')).span isCountChar with
  | ([], _) => none
  | (count, rest) =>
      match spaces1 rest with
      | some (c :: _) => if isEventChar c then some count else none
      | _ => none

/-- The message of `str(e)` for `FileNotFoundError` on opening `path`. -/
def fileNotFound (path : List Char) : List Char :=
  "[Errno 2] No such file or directory: ".toList ++ strRepr path

/-- The message of the `AttributeError` from `.group` on a failed search. -/
def noGroupMessage : List Char :=
  "'NoneType' object has no attribute 'group'".toList

/-- The message of a float division by zero. -/
def divisionMessage : List Char :=
  "float division by zero".toList

/-- `open(path).read()`, with the file's content when it exists. -/
def readFile (path : List Char) : Option (List Char) → Except (List Char) (List Char)
  | some content => .ok content
  | none => .error (fileNotFound path)

/-- The two copies of `parse_perf_metrics`. -/
inductive PerfVariant
  | stopAtElapsed
  | skipSeconds
  deriving DecidableEq, Repr

/-- One counter line: the count with its commas removed, per second, rounded
to two decimals. -/
def countPerSecond (timeElapsed : ℚ) (count : List Char) : Except (List Char) ℚ := do
  let value ← floatOrMessage (removeChar ',' count)
  if timeElapsed = 0 then throw divisionMessage
  pure (round2 (value / timeElapsed))

/-- The counter loop of `parse_perf_metrics` over the lines. -/
def perfValues (variant : PerfVariant) (timeElapsed : ℚ) :
    List (List Char) → Except (List Char) (List ℚ)
  | [] => pure []
  | line :: rest =>
      let counted : Except (List Char) (List ℚ) :=
        match metricMatch line with
        | some count => do
            let value ← countPerSecond timeElapsed count
            let later ← perfValues variant timeElapsed rest
            pure (value :: later)
        | none => perfValues variant timeElapsed rest
      match variant with
      | .stopAtElapsed =>
          if contains line "seconds time elapsed".toList then pure [] else counted
      | .skipSeconds =>
          if contains line "seconds".toList then perfValues variant timeElapsed rest
          else counted

/-- The loop over `core_temp.dat`: every non-blank line is a temperature. -/
def coreTempValues : List (List Char) → Except (List Char) (List ℚ)
  | [] => pure []
  | line :: rest =>
      if strip line = [] then coreTempValues rest
      else do
        let value ← floatOrMessage (strip line)
        let later ← coreTempValues rest
        pure (value :: later)

/-- The elapsed time of the counter file; the two copies fail differently
when the pattern is missing. -/
def timeElapsed (variant : PerfVariant) (perfOutput : List Char) :
    Except (List Char) ℚ :=
  match search elapsedPattern perfOutput with
  | some number => floatOrMessage number
  | none =>
      match variant with
      | .stopAtElapsed => .error "Elapsed time not found in perf_metrics.dat".toList
      | .skipSeconds => .error noGroupMessage

/-- `parse_perf_metrics()` on the contents of `perf_metrics.dat` and
`core_temp.dat`: the temperatures, then the counter values. -/
def parsePerfMetrics (variant : PerfVariant) (perfFile coreTempFile : Option (List Char)) :
    Except (List Char) (List ℚ) :=
  Except.mapError ("Error: ".toList ++ ·) do
    let perfOutput ← readFile "./perf_metrics.dat".toList perfFile
    let elapsed ← timeElapsed variant perfOutput
    let counts ← perfValues variant elapsed (split '\n' perfOutput)
    let coreTempOutput ← readFile "./core_temp.dat".toList coreTempFile
    let temps ← coreTempValues (split '\n' coreTempOutput)
    pure (temps ++ counts)

/-- `parse_power_consumption()` on the contents of `perf_energy.dat`: package
energy over elapsed time, rounded to two decimals. -/
def parsePowerConsumption (energyFile : Option (List Char)) : Except (List Char) ℚ :=
  Except.mapError ("Error: ".toList ++ ·) do
    let perfOutput ← readFile "./perf_energy.dat".toList energyFile
    let pkgEnergy ←
      match search energyPattern perfOutput with
      | some number => floatOrMessage number
      | none => throw noGroupMessage
    let elapsed ←
      match search elapsedPattern perfOutput with
      | some number => floatOrMessage number
      | none => throw noGroupMessage
    if elapsed = 0 then throw divisionMessage
    pure (round2 (pkgEnergy / elapsed))

end Parse

end PowerCapping
