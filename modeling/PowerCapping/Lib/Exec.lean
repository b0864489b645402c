import Mathlib.Control.Basic

/-!
# Python functions over module globals

A Python function that reads and writes module globals and may raise is a
computation in `ExceptT ε (StateM σ)`: an exception ends the function, and the
globals it has already written keep their new values, exactly as a `global`
assignment before a `raise` survives in Python.  `exec` runs such a function
from given globals; the lemmas below take it apart one statement at a time, so
that the specification of a caller cites the specification of each callee and
never unfolds it.
-/

namespace PowerCapping

namespace Py

/-- Python code over globals `σ` raising exceptions `ε`. -/
abbrev PyM (ε σ : Type) := ExceptT ε (StateM σ)

variable {ε σ α β : Type}

/-- Run Python code from the given globals: the result or the exception, and
the globals afterwards. -/
def exec (code : PyM ε σ α) (globals : σ) : Except ε α × σ :=
  code.run.run globals

theorem exec_bind (code : PyM ε σ α) (rest : α → PyM ε σ β) (globals : σ) :
    exec (code >>= rest) globals =
      match (exec code globals).1 with
      | .ok value => exec (rest value) (exec code globals).2
      | .error e => (.error e, (exec code globals).2) := by
  simp only [exec, ExceptT.run_bind, StateT.run_bind]
  rcases code.run.run globals with ⟨_ | value, after⟩ <;> rfl

@[simp]
theorem exec_pure (value : α) (globals : σ) :
    exec (pure value : PyM ε σ α) globals = (.ok value, globals) :=
  rfl

@[simp]
theorem exec_throw (e : ε) (globals : σ) :
    exec (throw e : PyM ε σ α) globals = (.error e, globals) :=
  rfl

@[simp]
theorem exec_get (globals : σ) :
    exec (get : PyM ε σ σ) globals = (.ok globals, globals) :=
  rfl

@[simp]
theorem exec_modify (update : σ → σ) (globals : σ) :
    exec (modify update : PyM ε σ Unit) globals = (.ok (), update globals) :=
  rfl

/-- Run a computation that reads no globals and may raise. -/
def fromExcept : Except ε α → PyM ε σ α
  | .ok value => pure value
  | .error e => throw e

@[simp]
theorem exec_fromExcept (result : Except ε α) (globals : σ) :
    exec (fromExcept result : PyM ε σ α) globals = (result, globals) := by
  cases result <;> rfl

/-- `try: code` with `except Exception: handler(e)`: the handler runs from the
globals the failed code left. -/
theorem exec_tryCatch (code : PyM ε σ α) (handler : ε → PyM ε σ α) (globals : σ) :
    exec (tryCatch code handler) globals =
      match exec code globals with
      | (.ok value, after) => (.ok value, after)
      | (.error e, after) => exec (handler e) after := by
  unfold exec
  show (ExceptT.tryCatch code handler).run.run globals = _
  simp only [ExceptT.tryCatch, ExceptT.run_mk, StateT.run_bind]
  show _ = match StateT.run code globals with
    | (Except.ok value, after) => (Except.ok value, after)
    | (Except.error e, after) => (handler e).run.run after
  rcases StateT.run code globals with ⟨_ | value, after⟩ <;> rfl

/-- A sequence that returned normally ran its first statement normally. -/
theorem exec_bind_ok {code : PyM ε σ α} {rest : α → PyM ε σ β}
    {globals last : σ} {result : β}
    (ran : exec (code >>= rest) globals = (.ok result, last)) :
    ∃ value middle, exec code globals = (.ok value, middle) ∧
      exec (rest value) middle = (.ok result, last) := by
  rw [exec_bind] at ran
  rcases first : exec code globals with ⟨_ | value, middle⟩ <;>
    simp only [first] at ran
  · cases ran
  · exact ⟨value, middle, rfl, ran⟩

/-- A statement that raised makes the whole sequence raise with the globals it
left. -/
theorem exec_bind_of_error {code : PyM ε σ α} {rest : α → PyM ε σ β}
    {globals after : σ} {e : ε}
    (raised : exec code globals = (.error e, after)) :
    exec (code >>= rest) globals = (.error e, after) := by
  simp only [exec_bind, raised]

theorem exec_bind_of_ok {code : PyM ε σ α} {rest : α → PyM ε σ β}
    {globals after : σ} {value : α}
    (ran : exec code globals = (.ok value, after)) :
    exec (code >>= rest) globals = exec (rest value) after := by
  simp only [exec_bind, ran]

/-- A statement followed by a `return` leaves the globals the statement
left. -/
theorem exec_bind_pure_snd (code : PyM ε σ α) (value : β) (globals : σ) :
    (exec (code >>= fun _ => pure value) globals).2 = (exec code globals).2 := by
  rw [exec_bind]
  split <;> rfl

end Py

end PowerCapping
