import Mathlib.Logic.Function.Basic
import Mathlib.Data.List.Induction

/-!
# A store written key by key

A map written by a sequence of writes holds, at each key, the value of the
last write to that key, and its old value where no write touched it.  The
writes of several batches are the writes of their concatenation, so the rule
holds over whole runs.
-/

namespace PowerCapping

namespace Store

variable {κ ν : Type*} [DecidableEq κ]

/-- Apply writes in order. -/
def writeAll (store : κ → ν) (writes : List (κ × ν)) : κ → ν :=
  writes.foldl (fun current write => Function.update current write.1 write.2) store

/-- The value of the last write to a key. -/
def lastWrite (writes : List (κ × ν)) (key : κ) : Option ν :=
  ((writes.filter fun write => write.1 = key).getLast?).map Prod.snd

@[simp]
theorem writeAll_nil (store : κ → ν) : writeAll store [] = store :=
  rfl

theorem writeAll_append (store : κ → ν) (first second : List (κ × ν)) :
    writeAll store (first ++ second) = writeAll (writeAll store first) second := by
  simp [writeAll, List.foldl_append]

theorem lastWrite_append (first second : List (κ × ν)) (key : κ) :
    lastWrite (first ++ second) key = (lastWrite second key).or (lastWrite first key) := by
  simp only [lastWrite, List.filter_append, List.getLast?_append]
  cases (second.filter fun write => write.1 = key).getLast? <;> simp

/-- Each key holds its last write, else its old value. -/
theorem writeAll_apply (store : κ → ν) (writes : List (κ × ν)) (key : κ) :
    writeAll store writes key = (lastWrite writes key).getD (store key) := by
  induction writes using List.reverseRecOn with
  | nil => simp [lastWrite]
  | append_singleton writes write ih =>
      rw [writeAll_append, lastWrite_append]
      by_cases written : write.1 = key
      · -- the new write is to this key
        subst written
        simp [writeAll, lastWrite]
      · have untouched : writeAll (writeAll store writes) [write] key = writeAll store writes key := by
          simp [writeAll, Function.update_of_ne (Ne.symm written)]
        have noWrite : lastWrite [write] key = none := by
          simp [lastWrite, written]
        rw [untouched, noWrite, Option.none_or, ih]

end Store

end PowerCapping
