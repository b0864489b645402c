import Mathlib.Data.List.Induction

/-!
# Runs of controller loops

A control loop is modelled by a step function taking the loop state and the
observations of one iteration.  Python code can raise, so a step may fail;
`Reachable` collects the states reached by runs in which no step raised.
Loops that emit events (writes, bandwidth changes) are run by `runOut`, which
keeps the events in order; a fold whose steps may fail is the run of a loop
that can raise.  Each comes with the induction rule that turns a one-step
preservation lemma into a statement about every run.
-/

namespace PowerCapping

namespace Run

universe u

variable {State Input Output : Type*}

/-- The states reached from `start` by finitely many steps that all succeed. -/
inductive Reachable (step : State → Input → Option State) (start : State) :
    State → Prop
  | start : Reachable step start start
  | step {state next : State} {input : Input} :
      Reachable step start state → step state input = some next →
        Reachable step start next

/-- An invariant that holds at the start and is kept by every successful step
holds at every reachable state. -/
theorem Reachable.invariant {step : State → Input → Option State}
    {start state : State} (invariant : State → Prop)
    (initial : invariant start)
    (preserves : ∀ current input next, invariant current →
      step current input = some next → invariant next)
    (reachable : Reachable step start state) : invariant state := by
  induction reachable with
  | start => exact initial
  | step _ stepped ih => exact preserves _ _ _ ih stepped

/-- The state after a fold from a reachable state, all of whose steps
succeed, is reachable: the fold is the run itself. -/
theorem Reachable.of_foldlM {step : State → Input → Option State} {start : State} :
    ∀ {inputs : List Input} {state final : State}, Reachable step start state →
      inputs.foldlM step state = some final → Reachable step start final := by
  intro inputs
  induction inputs with
  | nil =>
      intro state final reachable folded
      cases folded
      exact reachable
  | cons input rest ih =>
      intro state final reachable folded
      rw [List.foldlM_cons] at folded
      rcases stepped : step state input with _ | next <;> rw [stepped] at folded
      · cases folded
      · exact ih (reachable.step stepped) folded

/-- Run a total step function that emits events over a list of inputs; the
events of later iterations follow those of earlier ones. -/
def runOut (step : State → Input → State × List Output) :
    State → List Input → State × List Output
  | state, [] => (state, [])
  | state, input :: rest =>
      let current := step state input
      let later := runOut step current.1 rest
      (later.1, current.2 ++ later.2)

@[simp]
theorem runOut_nil (step : State → Input → State × List Output)
    (state : State) : runOut step state [] = (state, []) :=
  rfl

theorem runOut_append (step : State → Input → State × List Output)
    (state : State) (first second : List Input) :
    runOut step state (first ++ second) =
      ((runOut step (runOut step state first).1 second).1,
        (runOut step state first).2 ++
          (runOut step (runOut step state first).1 second).2) := by
  induction first generalizing state with
  | nil => simp
  | cons input rest ih => simp [runOut, ih, List.append_assoc]

@[simp]
theorem runOut_concat (step : State → Input → State × List Output)
    (state : State) (inputs : List Input) (input : Input) :
    runOut step state (inputs ++ [input]) =
      ((step (runOut step state inputs).1 input).1,
        (runOut step state inputs).2 ++
          (step (runOut step state inputs).1 input).2) := by
  rw [runOut_append]
  simp [runOut]

/-- The state after a run is the fold of the step's state part: what a step
emits never feeds back. -/
theorem runOut_fst (step : State → Input → State × List Output) (state : State)
    (inputs : List Input) :
    (runOut step state inputs).1 = inputs.foldl (fun state input => (step state input).1) state := by
  induction inputs generalizing state with
  | nil => rfl
  | cons input rest ih => exact ih _

/-- An invariant of the state together with the events emitted so far, kept by
every step, holds after every run. -/
theorem runOut_invariant (step : State → Input → State × List Output)
    (invariant : State → List Output → Prop) {start : State}
    (initial : invariant start [])
    (preserves : ∀ state emitted input, invariant state emitted →
      invariant (step state input).1 (emitted ++ (step state input).2))
    (inputs : List Input) :
    invariant (runOut step start inputs).1 (runOut step start inputs).2 := by
  induction inputs using List.reverseRecOn with
  | nil => simpa using initial
  | append_singleton inputs input ih =>
      rw [runOut_concat]
      exact preserves _ _ input ih

/-- A step that succeeds passes its value on. -/
@[simp]
theorem ok_bind {ε α β : Type u} (value : α) (rest : α → Except ε β) :
    (Except.ok value >>= rest) = rest value :=
  rfl

/-- A fold whose steps may fail: an invariant kept by every step that
succeeds holds after a fold that succeeds. -/
theorem foldlM_invariant {ε : Type _} {step : State → Input → Except ε State}
    (invariant : State → Prop)
    (preserves : ∀ state input next, invariant state → step state input = .ok next →
      invariant next)
    {start final : State} {inputs : List Input} (initial : invariant start)
    (folded : inputs.foldlM step start = .ok final) : invariant final := by
  induction inputs generalizing start with
  | nil =>
      rw [List.foldlM_nil] at folded
      cases folded
      exact initial
  | cons input rest ih =>
      rw [List.foldlM_cons] at folded
      rcases stepped : step start input with e | next <;> rw [stepped] at folded
      · cases folded
      · exact ih (preserves _ _ _ initial stepped) folded

/-- A fold whose steps may fail, with an invariant of the inputs done so far:
when every step from a state of the invariant succeeds and extends the
invariant by its input, the whole fold succeeds with the invariant of all the
inputs. -/
theorem foldlM_ok_of_prefix {ε : Type _} {step : State → Input → Except ε State}
    (invariant : List Input → State → Prop) {inputs : List Input}
    (steps : ∀ done input rest state, done ++ input :: rest = inputs → invariant done state →
      ∃ next, step state input = .ok next ∧ invariant (done ++ [input]) next)
    {start : State} (initial : invariant [] start) :
    ∃ final, inputs.foldlM step start = .ok final ∧ invariant inputs final := by
  -- the fold of what is left from the state after the inputs done so far
  have left : ∀ (rest done : List Input) (state : State), done ++ rest = inputs →
      invariant done state →
      ∃ final, rest.foldlM step state = .ok final ∧ invariant inputs final := by
    intro rest
    induction rest with
    | nil =>
        intro done state whole current
        rw [List.append_nil] at whole
        exact ⟨state, rfl, whole ▸ current⟩
    | cons input rest ih =>
        intro done state whole current
        obtain ⟨next, stepped, extended⟩ := steps done input rest state whole current
        rw [List.foldlM_cons, stepped]
        exact ih (done ++ [input]) next (by rw [List.append_assoc]; exact whole) extended
  exact left inputs [] start rfl initial

/-- Two folds whose steps may fail agree from a state of an invariant that
the first keeps, when their steps agree on the states of the invariant. -/
theorem foldlM_eq_of_agree {ε : Type _} {step other : State → Input → Except ε State}
    (invariant : State → Prop)
    (agree : ∀ state input, invariant state → other state input = step state input)
    (preserves : ∀ state input next, invariant state → step state input = .ok next →
      invariant next) :
    ∀ (inputs : List Input) {start : State}, invariant start →
      inputs.foldlM other start = inputs.foldlM step start := by
  intro inputs
  induction inputs with
  | nil => intro _ _; rfl
  | cons input rest ih =>
      intro start initial
      rw [List.foldlM_cons, List.foldlM_cons, agree start input initial]
      rcases stepped : step start input with e | next
      · rfl
      · exact ih (preserves _ _ _ initial stepped)

/-- A map whose steps may fail: when every step that succeeds returns the
value of `g`, a map that succeeds is the map of `g`. -/
theorem mapM_eq_map {ε : Type _} {f : Input → Except ε Output} {g : Input → Output}
    (agrees : ∀ input output, f input = .ok output → output = g input) :
    ∀ {inputs : List Input} {outputs : List Output}, inputs.mapM f = .ok outputs →
      outputs = inputs.map g := by
  intro inputs
  induction inputs with
  | nil =>
      intro outputs mapped
      cases mapped
      rfl
  | cons input rest ih =>
      intro outputs mapped
      rw [List.mapM_cons] at mapped
      rcases stepped : f input with e | output <;> rw [stepped] at mapped
      · cases mapped
      · rcases restMapped : rest.mapM f with e | later <;> rw [restMapped] at mapped
        · cases mapped
        · cases mapped
          rw [List.map_cons, agrees input output stepped, ih restMapped]

/-- A map whose steps all succeed returns the map of their values. -/
theorem mapM_of_ok {ε : Type _} {f : Input → Except ε Output} {g : Input → Output} :
    ∀ {inputs : List Input}, (∀ input ∈ inputs, f input = .ok (g input)) →
      inputs.mapM f = .ok (inputs.map g) := by
  intro inputs
  induction inputs with
  | nil => intro _; rfl
  | cons input rest ih =>
      intro each
      rw [List.mapM_cons, each input List.mem_cons_self,
        ih fun later member => each later (List.mem_cons_of_mem input member)]
      rfl

end Run

end PowerCapping
