import PowerCapping.Lib.Exec

/-!
# Frame rules for Python functions over globals

A function keeps a view of the globals (one global, or several) when no path
through it, raising or returning, changes that view.  The rules below build
such a fact statement by statement, following the function's own `do` block:
`get`, `pure`, `throw`, a computation that reads no globals, a `modify` whose
update keeps the view, and sequencing.
-/

namespace PowerCapping

namespace Py

variable {ε σ α β γ : Type}

/-- Running `code` from any globals leaves `view` of them as it was, whether
or not it raises. -/
def Keeps (view : σ → γ) (code : PyM ε σ α) : Prop :=
  ∀ globals, view (exec code globals).2 = view globals

variable {view : σ → γ}

theorem keeps_pure (value : α) : Keeps view (pure value : PyM ε σ α) :=
  fun _ => rfl

theorem keeps_throw (e : ε) : Keeps view (throw e : PyM ε σ α) :=
  fun _ => rfl

theorem keeps_get : Keeps view (get : PyM ε σ σ) :=
  fun _ => rfl

theorem keeps_fromExcept (result : Except ε α) : Keeps view (fromExcept result : PyM ε σ α) :=
  fun globals => by rw [exec_fromExcept]

theorem keeps_modify {update : σ → σ}
    (kept : ∀ globals, view (update globals) = view globals) :
    Keeps view (modify update : PyM ε σ Unit) :=
  kept

/-- The view after a given run of a function that keeps it. -/
theorem Keeps.of_exec {code : PyM ε σ α} (keeps : Keeps view code) {globals after : σ}
    {result : Except ε α} (ran : exec code globals = (result, after)) :
    view after = view globals := by
  have kept := keeps globals
  rw [ran] at kept
  exact kept

/-- Sequencing keeps a view when the first statement and every continuation
keep it. -/
theorem Keeps.bind {code : PyM ε σ α} {rest : α → PyM ε σ β} (first : Keeps view code)
    (later : ∀ value, Keeps view (rest value)) : Keeps view (code >>= rest) := by
  intro globals
  rw [exec_bind]
  split
  · rw [later]
    exact first globals
  · exact first globals

/-- `try`/`except` keeps a view when the code and every handler keep it. -/
theorem Keeps.tryCatch {code : PyM ε σ α} {handler : ε → PyM ε σ α} (first : Keeps view code)
    (handled : ∀ e, Keeps view (handler e)) : Keeps view (tryCatch code handler) := by
  intro globals
  rw [exec_tryCatch]
  rcases ran : exec code globals with ⟨_ | value, after⟩
  · rw [handled, first.of_exec ran]
  · exact first.of_exec ran

/-- A loop keeps a view when its body does, for every element. -/
theorem keeps_forM {xs : List β} {body : β → PyM ε σ PUnit}
    (each : ∀ x ∈ xs, Keeps view (body x)) : Keeps view (xs.forM body) := by
  induction xs with
  | nil => exact keeps_pure _
  | cons x rest ih =>
      rw [List.forM_eq_forM, List.forM_cons, ← List.forM_eq_forM]
      exact (each x List.mem_cons_self).bind fun _ =>
        ih fun other member => each other (List.mem_cons_of_mem x member)

end Py

end PowerCapping
