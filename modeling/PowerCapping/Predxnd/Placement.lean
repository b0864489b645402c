import PowerCapping.Predxnd.Server
import PowerCapping.Predxnd.Merge

/-!
# Where the merge server puts a remote core

`merge_remote_data` takes the remote row and temperature it writes for the
`i`-th core of the server's own cgroup from position `i` of the payload.  On a
local list of the layout the payload describes, `merge_places_each_core` gives
the whole merged list: the row of each core placed as `placedField` says from
the remote row at the core's position in `cgroup_cpus`, its temperature slot
written, the perf block added with the remote counts scaled, and every other
entry kept.  It rests on the invariant of the loop over the cgroup's cores,
`Placed`, which each iteration extends by one core (`Placed.mergeCore`).

The monitor orders a payload by its sorted `cpus`, which the server never
reads: the rows land on the right cores only when the two cgroups list the
same cores at the same positions (`merge_places_by_cgroup_position`).
-/

namespace PowerCapping

namespace Predxnd

open Py

/-! ## Positions in a list of rows -/

theorem row_div {featsPer row offset : ℕ} (inside : offset < featsPer) :
    (row * featsPer + offset) / featsPer = row := by
  rw [Nat.add_comm, Nat.add_mul_div_right _ _ (by omega), Nat.div_eq_of_lt inside, Nat.zero_add]

theorem row_offset_lt {featsPer row offset cores : ℕ} (inside : offset < featsPer)
    (below : row < cores) :
    row * featsPer + offset < featsPer * cores :=
  calc row * featsPer + offset < row * featsPer + featsPer := by omega
    _ = (row + 1) * featsPer := (Nat.add_one_mul row featsPer).symm
    _ ≤ cores * featsPer := Nat.mul_le_mul_right featsPer below
    _ = featsPer * cores := Nat.mul_comm cores featsPer

/-- Distinct positions of a list without duplicates hold distinct entries. -/
theorem Nodup.getElem?_inj {α : Type*} {xs : List α} (distinct : xs.Nodup) {i j : ℕ} {x : α}
    (atI : xs[i]? = some x) (atJ : xs[j]? = some x) : i = j := by
  obtain ⟨iBound, iEq⟩ := List.getElem?_eq_some_iff.mp atI
  obtain ⟨jBound, jEq⟩ := List.getElem?_eq_some_iff.mp atJ
  exact (distinct.getElem_inj_iff).mp (iEq.trans jEq.symm)

theorem getElem?_append_three_left {α : Type*} {xs ys zs : List α} {j : ℕ}
    (inside : j < xs.length) : (xs ++ ys ++ zs)[j]? = xs[j]? := by
  rw [List.append_assoc, List.getElem?_append_left inside]

theorem getElem?_append_three_middle {α : Type*} {xs ys zs : List α} {j : ℕ}
    (inside : j < ys.length) : (xs ++ ys ++ zs)[xs.length + j]? = ys[j]? := by
  rw [List.append_assoc, List.getElem?_append_right (by omega), Nat.add_sub_cancel_left,
    List.getElem?_append_left inside]

theorem getElem?_append_three_right {α : Type*} {xs ys zs : List α} (j : ℕ) :
    (xs ++ ys ++ zs)[xs.length + ys.length + j]? = zs[j]? := by
  rw [List.getElem?_append_right (by simp), List.length_append, Nat.add_sub_cancel_left]

/-! ## One row -/

/-- The field at `offset` of a local row that takes the remote row `remote`
(from its `C0` on) under the throttle: `C0` capped at the throttle, `Cx` and
the sixth field `100 - throttle` when capped and the remote ones otherwise,
`Freq` the remote one, and the other fields kept. -/
def placedField (throttle : ℚ) (remote : List ℚ) (offset : ℕ) (old : ℚ) : ℚ :=
  if offset = 0 then min (remote.getD 0 0) throttle
  else if offset = 1 ∨ offset = 5 then
    if throttle < remote.getD 0 0 then 100 - throttle else remote.getD offset 0
  else if offset = 2 then remote.getD 2 0
  else old

theorem placedField_of_six_le {offset : ℕ} (past : 6 ≤ offset) (throttle : ℚ)
    (remote : List ℚ) (old : ℚ) : placedField throttle remote offset old = old := by
  unfold placedField
  rw [if_neg (by omega), if_neg (by omega), if_neg (by omega)]

/-- The local list with the six fields from `lidx` on replaced as
`placedField` gives for the remote row `remote`. -/
def placeRow (throttle : ℚ) (remote lc : List ℚ) (lidx : ℕ) : List ℚ :=
  lc.mapIdx fun j old =>
    if lidx ≤ j ∧ j < lidx + 6 then placedField throttle remote (j - lidx) old else old

@[simp]
theorem length_placeRow (throttle : ℚ) (remote lc : List ℚ) (lidx : ℕ) :
    (placeRow throttle remote lc lidx).length = lc.length :=
  List.length_mapIdx

theorem getElem?_placeRow (throttle : ℚ) (remote lc : List ℚ) (lidx j : ℕ) :
    (placeRow throttle remote lc lidx)[j]? = lc[j]?.map fun old =>
      if lidx ≤ j ∧ j < lidx + 6 then placedField throttle remote (j - lidx) old else old := by
  rw [placeRow, List.getElem?_mapIdx]

/-- The `if rp_cp[ridx] > throttle` block, on six fields of each row at least,
places the row. -/
theorem mergeRow_eq_placeRow (throttle : ℚ) {rpCp lc : List ℚ} {lidx ridx : ℕ}
    (fits : lidx + 6 ≤ lc.length) (remoteFits : ridx + 6 ≤ rpCp.length) :
    mergeRow rpCp throttle lc lidx ridx = .ok (placeRow throttle (rpCp.drop ridx) lc lidx) := by
  -- the indices of the fields, as the natural numbers they are
  have local1 : (lidx : ℤ) + 1 = ((lidx + 1 : ℕ) : ℤ) := by omega
  have local2 : (lidx : ℤ) + 2 = ((lidx + 2 : ℕ) : ℤ) := by omega
  have local5 : (lidx : ℤ) + 5 = ((lidx + 5 : ℕ) : ℤ) := by omega
  have remote1 : (ridx : ℤ) + 1 = ((ridx + 1 : ℕ) : ℤ) := by omega
  have remote2 : (ridx : ℤ) + 2 = ((ridx + 2 : ℕ) : ℤ) := by omega
  have remote5 : (ridx : ℤ) + 5 = ((ridx + 5 : ℕ) : ℤ) := by omega
  unfold mergeRow
  rw [local1, local2, local5, remote1, remote2, remote5]
  simp (disch := ((try simp only [List.length_set]); omega)) only [getItem_natCast,
    assignItem_natCast, Run.ok_bind]
  split_ifs with capped
  all_goals
    congr 1
    apply List.ext_getElem?
    intro j
    rw [getElem?_placeRow]
    by_cases inRow : lidx ≤ j ∧ j < lidx + 6
    · obtain ⟨offset, rfl⟩ : ∃ offset, j = lidx + offset := ⟨j - lidx, by omega⟩
      -- one case for each of the six fields
      rcases (by omega : offset = 0 ∨ offset = 1 ∨ offset = 2 ∨ offset = 3 ∨ offset = 4 ∨
          offset = 5) with rfl | rfl | rfl | rfl | rfl | rfl <;>
        simp (disch := omega) [List.getElem?_set, placedField, capped] <;>
        first | omega | exact capped.le | exact not_lt.mp capped
    · have apart : lidx ≠ j ∧ lidx + 1 ≠ j ∧ lidx + 2 ≠ j ∧ lidx + 5 ≠ j := by omega
      simp [inRow, apart]

/-- `lt[c] = rp_temps[i]` for a core with a slot and a remote temperature. -/
theorem mergeTemp_eq {rpTemps lt : List ℚ} {i k : ℕ} (nonempty : rpTemps ≠ [])
    (remoteFits : i < rpTemps.length) (within : k < lt.length) :
    mergeTemp rpTemps lt i k = .ok (lt.set k rpTemps[i]) := by
  rw [mergeTemp, if_pos nonempty, getItem_natCast remoteFits, Run.ok_bind,
    assignItem_natCast within]

/-- Placing a row writes each of its fields as `placedField` gives; past the
sixth both keep the entry. -/
theorem placeRow_places (throttle : ℚ) (remote rows : List ℚ) (lidx offset : ℕ) :
    (placeRow throttle remote rows lidx)[lidx + offset]? =
      rows[lidx + offset]?.map (placedField throttle remote offset) := by
  rw [getElem?_placeRow]
  by_cases early : offset < 6
  · have inRow : lidx ≤ lidx + offset ∧ lidx + offset < lidx + 6 := by omega
    simp [inRow]
  · have keeps : placedField throttle remote offset = id :=
      funext (placedField_of_six_le (not_lt.mp early) throttle remote)
    simp [keeps]

/-- Placing a row changes no entry outside it. -/
theorem placeRow_keeps {featsPer : ℕ} (six : 6 ≤ featsPer) (throttle : ℚ) (remote rows : List ℚ)
    {row j : ℕ} (outside : j / featsPer ≠ row) :
    (placeRow throttle remote rows (row * featsPer))[j]? = rows[j]? := by
  have notInRow : ¬(row * featsPer ≤ j ∧ j < row * featsPer + 6) := by
    rintro ⟨low, high⟩
    apply outside
    rw [← Nat.add_sub_cancel' low]
    exact row_div (by omega)
  rw [getElem?_placeRow]
  simp [notInRow]

/-! ## The loop over the cgroup's cores -/

section Placing

variable (cpuIndexMap : ℤ → Option ℕ) (cgroupCpus : List ℤ)

/-- Core `i` of the cgroup has its row at `row` of the local block. -/
def RowOf (i row : ℕ) : Prop :=
  ∃ c, cgroupCpus[i]? = some c ∧ cpuIndexMap c = some row

theorem RowOf.lt_length {i row : ℕ} (rowOf : RowOf cpuIndexMap cgroupCpus i row) :
    i < cgroupCpus.length := by
  obtain ⟨c, at', -⟩ := rowOf
  exact (List.getElem?_eq_some_iff.mp at').1

variable (featsPer : ℕ) (rpCp rpTemps : List ℚ) (throttle : ℚ) (lc lt : List ℚ)

/-- The local blocks after the loop has merged the first `done` cores of the
cgroup: the row of each of them placed from the core's own position in the
payload, its temperature slot written, and every other entry as it was. -/
structure Placed (done : ℕ) (blocks : List ℚ × List ℚ) : Prop where
  rowsLength : blocks.1.length = lc.length
  tempsLength : blocks.2.length = lt.length
  placed : ∀ i < done, ∀ row, RowOf cpuIndexMap cgroupCpus i row → ∀ offset < featsPer,
    blocks.1[row * featsPer + offset]? =
      lc[row * featsPer + offset]?.map (placedField throttle (rpCp.drop (i * featsPer)) offset)
  kept : ∀ j, (∀ i < done, ∀ row, RowOf cpuIndexMap cgroupCpus i row → j / featsPer ≠ row) →
    blocks.1[j]? = lc[j]?
  tempPlaced : rpTemps ≠ [] → ∀ i < done, ∀ k : ℕ, cgroupCpus[i]? = some (k : ℤ) →
    blocks.2[k]? = rpTemps[i]?
  tempKept : ∀ j : ℕ, (rpTemps = [] ∨ ∀ i < done, cgroupCpus[i]? ≠ some (j : ℤ)) →
    blocks.2[j]? = lt[j]?

variable {cpuIndexMap cgroupCpus featsPer rpCp rpTemps throttle lc lt}

theorem Placed.initial :
    Placed cpuIndexMap cgroupCpus featsPer rpCp rpTemps throttle lc lt 0 (lc, lt) :=
  ⟨rfl, rfl, fun _ none => absurd none (Nat.not_lt_zero _), fun _ _ => rfl,
    fun _ _ none => absurd none (Nat.not_lt_zero _), fun _ _ => rfl⟩

/-- One iteration of the loop extends the invariant by the next core, whose
row lies in the local block and has a remote row in the payload, and which
differs from the cores merged before, as its row does from theirs. -/
theorem Placed.mergeCore {done : ℕ} {blocks : List ℚ × List ℚ} {c : ℤ} {row : ℕ}
    (placed : Placed cpuIndexMap cgroupCpus featsPer rpCp rpTemps throttle lc lt done blocks)
    (six : 6 ≤ featsPer) (core : cgroupCpus[done]? = some c) (rowed : cpuIndexMap c = some row)
    (rowFits : (row + 1) * featsPer ≤ lc.length) (remoteFits : (done + 1) * featsPer ≤ rpCp.length)
    (distinctRows : ∀ i < done, ¬RowOf cpuIndexMap cgroupCpus i row)
    (distinctCpus : ∀ i < done, cgroupCpus[i]? ≠ some c)
    (tempFits : rpTemps ≠ [] → done < rpTemps.length ∧ ∃ k : ℕ, c = k ∧ k < lt.length) :
    ∃ next, Predxnd.mergeCore cpuIndexMap featsPer rpCp rpTemps throttle blocks (done, c) =
      .ok next ∧ Placed cpuIndexMap cgroupCpus featsPer rpCp rpTemps throttle lc lt (done + 1) next := by
  obtain ⟨rows, temps⟩ := blocks
  have rowOf : RowOf cpuIndexMap cgroupCpus done row := ⟨c, core, rowed⟩
  -- a core of the cgroup merged so far has its row, and its slot, apart from this one
  have rowOnly : ∀ i < done + 1, ∀ other, RowOf cpuIndexMap cgroupCpus i other →
      i = done ∧ other = row ∨ i < done ∧ other ≠ row := by
    intro i bound other ⟨c', at', rowed'⟩
    rcases Nat.lt_succ_iff_lt_or_eq.mp bound with earlier | rfl
    · exact .inr ⟨earlier, fun same => distinctRows i earlier (same ▸ ⟨c', at', rowed'⟩)⟩
    · rw [core, Option.some.injEq] at at'
      subst at'
      exact .inl ⟨rfl, Option.some.inj (rowed'.symm.trans rowed)⟩
  have rowEq : mergeRow rpCp throttle rows ↑(row * featsPer) ↑(done * featsPer) =
      .ok (placeRow throttle (rpCp.drop (done * featsPer)) rows (row * featsPer)) := by
    rw [Nat.add_one_mul] at rowFits remoteFits
    exact mergeRow_eq_placeRow throttle (by rw [placed.rowsLength]; omega) (by omega)
  have rowsPlaced : ∀ i < done + 1, ∀ other, RowOf cpuIndexMap cgroupCpus i other →
      ∀ offset < featsPer,
        (placeRow throttle (rpCp.drop (done * featsPer)) rows (row * featsPer))[
            other * featsPer + offset]? =
          lc[other * featsPer + offset]?.map
            (placedField throttle (rpCp.drop (i * featsPer)) offset) := by
    intro i bound other rowOf' offset inside
    rcases rowOnly i bound other rowOf' with ⟨rfl, rfl⟩ | ⟨earlier, apart⟩
    · -- this core's row: placed over entries no earlier core wrote
      rw [placeRow_places, placed.kept]
      intro i' earlier' other' rowOf''
      rw [row_div inside]
      rcases rowOnly i' (by omega) other' rowOf'' with ⟨same, -⟩ | ⟨-, apart'⟩
      · omega
      · exact apart'.symm
    · rw [placeRow_keeps six throttle _ rows (by rw [row_div inside]; exact apart)]
      exact placed.placed i earlier other rowOf' offset inside
  have rowsKept : ∀ j, (∀ i < done + 1, ∀ other, RowOf cpuIndexMap cgroupCpus i other →
      j / featsPer ≠ other) →
        (placeRow throttle (rpCp.drop (done * featsPer)) rows (row * featsPer))[j]? = lc[j]? := by
    intro j outside
    rw [placeRow_keeps six throttle _ rows (outside done (by omega) row rowOf)]
    exact placed.kept j fun i earlier => outside i (by omega)
  have merged : ∀ temps', mergeTemp rpTemps temps done c = .ok temps' →
      Predxnd.mergeCore cpuIndexMap featsPer rpCp rpTemps throttle (rows, temps) (done, c) =
        .ok (placeRow throttle (rpCp.drop (done * featsPer)) rows (row * featsPer), temps') := by
    intro temps' tempEq
    simp only [Predxnd.mergeCore, rowed, getKey, Run.ok_bind, ← Nat.cast_mul, rowEq, tempEq]
    rfl
  by_cases empty : rpTemps = []
  · -- no temperatures: the temperature block is kept
    have tempEq : mergeTemp rpTemps temps done c = .ok temps := by
      rw [mergeTemp, if_neg (not_not.mpr empty)]
      rfl
    exact ⟨_, merged temps tempEq, by simp [placed.rowsLength], placed.tempsLength, rowsPlaced,
      rowsKept, fun nonempty => absurd empty nonempty, fun j _ => placed.tempKept j (.inl empty)⟩
  · obtain ⟨remoteFits', k, rfl, within⟩ := tempFits empty
    have tempEq : mergeTemp rpTemps temps done k = .ok (temps.set k rpTemps[done]) :=
      mergeTemp_eq empty remoteFits' (by rw [placed.tempsLength]; exact within)
    refine ⟨_, merged _ tempEq, by simp [placed.rowsLength], by simp [placed.tempsLength],
      rowsPlaced, rowsKept, ?_, ?_⟩
    · intro _ i bound other at'
      rcases Nat.lt_succ_iff_lt_or_eq.mp bound with earlier | rfl
      · -- an earlier core has another slot
        have apart : k ≠ other := by
          rintro rfl
          exact distinctCpus i earlier at'
        rw [List.getElem?_set_ne apart]
        exact placed.tempPlaced empty i earlier other at'
      · have same : k = other := by
          rw [core, Option.some.injEq] at at'
          exact_mod_cast at'
        subst same
        rw [List.getElem?_set_self (by rw [placed.tempsLength]; exact within),
          List.getElem?_eq_getElem remoteFits']
    · rintro j (empty' | apart)
      · exact absurd empty' empty
      · have other : k ≠ j := by
          rintro rfl
          exact apart done (by omega) core
        rw [List.getElem?_set_ne other]
        exact placed.tempKept j (.inr fun i earlier => apart i (by omega))

/-- The loop over `enumerate(cgroup_cpus)` succeeds and places every core of
the cgroup, when each core has a row inside the local block and a remote row
in the payload, the cores have distinct rows and, when the payload has
temperatures, one for each core and a slot in the local block. -/
theorem foldlM_mergeCore_placed (six : 6 ≤ featsPer)
    (hasRow : ∀ c ∈ cgroupCpus, ∃ row, cpuIndexMap c = some row ∧
      (row + 1) * featsPer ≤ lc.length)
    (remoteFits : cgroupCpus.length * featsPer ≤ rpCp.length)
    (distinct : (cgroupCpus.map cpuIndexMap).Nodup)
    (tempsFit : rpTemps ≠ [] → cgroupCpus.length ≤ rpTemps.length ∧
      ∀ c ∈ cgroupCpus, ∃ k : ℕ, c = k ∧ k < lt.length) :
    ∃ blocks, ((List.range cgroupCpus.length).zip cgroupCpus).foldlM
        (mergeCore cpuIndexMap featsPer rpCp rpTemps throttle) (lc, lt) = .ok blocks ∧
      Placed cpuIndexMap cgroupCpus featsPer rpCp rpTemps throttle lc lt cgroupCpus.length
        blocks := by
  have enumerated : ((List.range cgroupCpus.length).zip cgroupCpus).length =
      cgroupCpus.length := by simp
  have steps : ∀ done input rest blocks,
      done ++ input :: rest = (List.range cgroupCpus.length).zip cgroupCpus →
      Placed cpuIndexMap cgroupCpus featsPer rpCp rpTemps throttle lc lt done.length blocks →
      ∃ next, mergeCore cpuIndexMap featsPer rpCp rpTemps throttle blocks input = .ok next ∧
        Placed cpuIndexMap cgroupCpus featsPer rpCp rpTemps throttle lc lt
          (done ++ [input]).length next := by
    intro done ⟨i, c⟩ rest blocks whole placed
    -- the input after those done is the core at their count
    have next : ((List.range cgroupCpus.length).zip cgroupCpus)[done.length]? = some (i, c) := by
      rw [← whole]
      simp
    obtain ⟨inRange, core⟩ := List.getElem?_zip_eq_some.mp next
    have bound : done.length < cgroupCpus.length := (List.getElem?_eq_some_iff.mp core).1
    rw [List.getElem?_range bound, Option.some.injEq] at inRange
    subst inRange
    obtain ⟨row, rowed, rowFits⟩ := hasRow c (List.mem_of_getElem? core)
    have distinctCpus : ∀ i < done.length, cgroupCpus[i]? ≠ some c := by
      intro i earlier same
      have := Nodup.getElem?_inj distinct.of_map same core
      omega
    have distinctRows : ∀ i < done.length, ¬RowOf cpuIndexMap cgroupCpus i row := by
      rintro i earlier ⟨c', at', rowed'⟩
      have mapped : (cgroupCpus.map cpuIndexMap)[i]? = some (some row) := by simp [at', rowed']
      have mapped' : (cgroupCpus.map cpuIndexMap)[done.length]? = some (some row) := by
        simp [core, rowed]
      have := Nodup.getElem?_inj distinct mapped mapped'
      omega
    have remoteFit : (done.length + 1) * featsPer ≤ rpCp.length :=
      (Nat.mul_le_mul_right featsPer bound).trans remoteFits
    obtain ⟨next, stepped, placedNext⟩ := placed.mergeCore six core rowed rowFits remoteFit
      distinctRows distinctCpus fun nonempty =>
        ⟨by have := (tempsFit nonempty).1; omega,
          (tempsFit nonempty).2 c (List.mem_of_getElem? core)⟩
    exact ⟨next, stepped, by simpa using placedNext⟩
  obtain ⟨blocks, folded, placed⟩ := Run.foldlM_ok_of_prefix
    (fun done blocks =>
      Placed cpuIndexMap cgroupCpus featsPer rpCp rpTemps throttle lc lt done.length blocks)
    steps Placed.initial
  exact ⟨blocks, folded, enumerated ▸ placed⟩

end Placing

/-! ## The merged list -/

section Layout

variable {featsPer cores perfCount remoteNum : ℕ} {localList : List ℚ} {payload : Remote}
  {rpCp rpPerf rpTemps : List ℚ} {remoteLim : ℚ}

/-- On a local list of the layout the payload describes, `merge_remote_data`
cuts it into its `cpupower`, temperature and perf blocks, runs the loop over
the cgroup's cores on the first two and adds the scaled remote perf counts to
the third. -/
theorem mergeRemoteData_eq (layout : localList.length = featsPer * cores + cores + perfCount)
    (numCores : payload.numCores = some (remoteNum : ℤ)) (positive : 0 < remoteNum)
    (fields : payload.cpupowerFields = some rpCp) (rowsLength : rpCp.length = featsPer * remoteNum)
    (perfCounts : payload.perfCounts = some rpPerf) (perfLength : rpPerf.length = perfCount)
    (temperatures : payload.temperatures.getD [] = rpTemps)
    (limit : payload.cpuLimitRemote = some remoteLim) (limitPositive : 0 < remoteLim)
    (cpuIndexMap : ℤ → Option ℕ) (cgroupCpus : List ℤ) (throttle : ℚ) :
    mergeRemoteData cpuIndexMap localList payload cgroupCpus throttle =
      ((List.range cgroupCpus.length).zip cgroupCpus).foldlM
          (mergeCore cpuIndexMap featsPer rpCp rpTemps throttle)
          (localList.take (featsPer * cores),
            (localList.take (featsPer * cores + cores)).drop (featsPer * cores)) >>=
        fun blocks => pure (blocks.1 ++ blocks.2 ++
          (((localList.take (featsPer * cores + cores + perfCount)).drop
            (featsPer * cores + cores)).zip rpPerf).map fun x => x.1 + x.2 * (throttle / remoteLim)) := by
  -- the two divisions recover the row width and the number of local cores
  have featsEq : floorDiv ((featsPer * remoteNum : ℕ) : ℤ) remoteNum = .ok (featsPer : ℤ) := by
    rw [Nat.cast_mul]
    exact floorDiv_mul_cancel _ (by omega)
  have coresEq : floorDiv ((localList.length : ℤ) - (rpPerf.length : ℤ)) ((featsPer : ℤ) + 1) =
      .ok (cores : ℤ) := by
    rw [layout, perfLength,
      show ((featsPer * cores + cores + perfCount : ℕ) : ℤ) - perfCount = cores * (featsPer + 1) by
        push_cast; ring]
    exact floorDiv_mul_cancel _ (by omega)
  simp only [mergeRemoteData, numCores, fields, perfCounts, limit, temperatures, getKey,
    Run.ok_bind, rowsLength, featsEq, coresEq, if_pos limitPositive]
  -- the slices, at the bounds as natural numbers
  rw [← Nat.cast_mul, ← Nat.cast_add, ← Nat.cast_add, perfLength,
    ← (Nat.cast_zero : ((0 : ℕ) : ℤ) = 0), slice_natCast (Nat.zero_le _) (by omega),
    slice_natCast (by omega) (by omega), slice_natCast (by omega) (by omega), List.drop_zero]

section Merged

variable {cpuIndexMap : ℤ → Option ℕ} {cgroupCpus : List ℤ} {throttle : ℚ}
  {rows temps perf : List ℚ} (fits : featsPer * cores + cores ≤ localList.length)
  (placed : Placed cpuIndexMap cgroupCpus featsPer rpCp rpTemps throttle
    (localList.take (featsPer * cores))
    ((localList.take (featsPer * cores + cores)).drop (featsPer * cores)) cgroupCpus.length
    (rows, temps))
include fits placed

theorem Placed.rows_length : rows.length = featsPer * cores := by
  rw [placed.rowsLength, List.length_take]
  omega

theorem Placed.temps_length : temps.length = cores := by
  rw [placed.tempsLength, List.length_drop, List.length_take]
  omega

/-- In the merged list a core's row is placed from the core's own position. -/
theorem Placed.merged_placed {i row offset : ℕ} (rowOf : RowOf cpuIndexMap cgroupCpus i row)
    (below : row < cores) (inside : offset < featsPer) :
    (rows ++ temps ++ perf)[row * featsPer + offset]? = localList[row * featsPer + offset]?.map
      (placedField throttle (rpCp.drop (i * featsPer)) offset) := by
  have within := row_offset_lt inside below
  rw [getElem?_append_three_left (by rw [placed.rows_length fits]; exact within),
    placed.placed i rowOf.lt_length row rowOf offset inside, List.getElem?_take_of_lt within]

/-- Outside the rows of the cgroup's cores the `cpupower` block is the local
one. -/
theorem Placed.merged_kept {j : ℕ} (below : j < featsPer * cores)
    (outside : ∀ i row, RowOf cpuIndexMap cgroupCpus i row → j / featsPer ≠ row) :
    (rows ++ temps ++ perf)[j]? = localList[j]? := by
  rw [getElem?_append_three_left (by rw [placed.rows_length fits]; exact below),
    placed.kept j fun i _ row rowOf => outside i row rowOf, List.getElem?_take_of_lt below]

/-- A core's temperature slot holds the remote temperature at the core's
position. -/
theorem Placed.merged_temp (nonempty : rpTemps ≠ []) {i k : ℕ}
    (at' : cgroupCpus[i]? = some (k : ℤ)) (below : k < cores) :
    (rows ++ temps ++ perf)[featsPer * cores + k]? = rpTemps[i]? := by
  have slot : k < temps.length := by
    rw [placed.temps_length fits]
    exact below
  rw [← placed.rows_length fits, getElem?_append_three_middle slot,
    placed.tempPlaced nonempty i (List.getElem?_eq_some_iff.mp at').1 k at']

/-- The slots of the other cores keep the local temperature. -/
theorem Placed.merged_tempKept {j : ℕ} (below : j < cores)
    (outside : rpTemps = [] ∨ ∀ c ∈ cgroupCpus, c ≠ j) :
    (rows ++ temps ++ perf)[featsPer * cores + j]? = localList[featsPer * cores + j]? := by
  have slot : j < temps.length := by
    rw [placed.temps_length fits]
    exact below
  have outside' : rpTemps = [] ∨ ∀ i < cgroupCpus.length, cgroupCpus[i]? ≠ some (j : ℤ) := by
    rcases outside with empty | apart
    · exact .inl empty
    · exact .inr fun i _ at' => apart _ (List.mem_of_getElem? at') rfl
  rw [← placed.rows_length fits, getElem?_append_three_middle slot, placed.tempKept j outside',
    List.getElem?_drop, List.getElem?_take_of_lt (by omega), placed.rows_length fits]

end Merged

/-- What `merge_remote_data` returns: for the `i`-th core of `cgroup_cpus`,
with its row at `cpu_index_map[c]`, the row placed from the `i`-th remote row
(`placedField`), and slot `c` of the temperature block the `i`-th remote
temperature when the payload has temperatures; the perf block is the local
counts plus the remote ones scaled by the ratio of the throttles; every other
entry is the local one.  The local list has the layout the payload describes,
and the cgroup's cores have distinct rows in the local block, remote rows in
the payload and, when the payload has temperatures, one each and a slot. -/
theorem merge_places_each_core (six : 6 ≤ featsPer)
    (layout : localList.length = featsPer * cores + cores + perfCount)
    (numCores : payload.numCores = some (remoteNum : ℤ)) (positive : 0 < remoteNum)
    (fields : payload.cpupowerFields = some rpCp) (rowsLength : rpCp.length = featsPer * remoteNum)
    (perfCounts : payload.perfCounts = some rpPerf) (perfLength : rpPerf.length = perfCount)
    (temperatures : payload.temperatures.getD [] = rpTemps)
    (limit : payload.cpuLimitRemote = some remoteLim) (limitPositive : 0 < remoteLim)
    {cpuIndexMap : ℤ → Option ℕ} {cgroupCpus : List ℤ} (fewer : cgroupCpus.length ≤ remoteNum)
    (hasRow : ∀ c ∈ cgroupCpus, ∃ row < cores, cpuIndexMap c = some row)
    (distinct : (cgroupCpus.map cpuIndexMap).Nodup)
    (tempsFit : rpTemps ≠ [] → cgroupCpus.length ≤ rpTemps.length ∧
      ∀ c ∈ cgroupCpus, 0 ≤ c ∧ c < cores)
    (throttle : ℚ) :
    ∃ merged, mergeRemoteData cpuIndexMap localList payload cgroupCpus throttle = .ok merged ∧
      merged.length = localList.length ∧
      (∀ i row, RowOf cpuIndexMap cgroupCpus i row → ∀ offset < featsPer,
        merged[row * featsPer + offset]? = localList[row * featsPer + offset]?.map
          (placedField throttle (rpCp.drop (i * featsPer)) offset)) ∧
      (∀ j < featsPer * cores,
        (∀ i row, RowOf cpuIndexMap cgroupCpus i row → j / featsPer ≠ row) →
          merged[j]? = localList[j]?) ∧
      (rpTemps ≠ [] → ∀ i k : ℕ, cgroupCpus[i]? = some (k : ℤ) →
        merged[featsPer * cores + k]? = rpTemps[i]?) ∧
      (∀ j < cores, (rpTemps = [] ∨ ∀ c ∈ cgroupCpus, c ≠ j) →
        merged[featsPer * cores + j]? = localList[featsPer * cores + j]?) ∧
      (∀ j < perfCount, ∀ a b, localList[featsPer * cores + cores + j]? = some a →
        rpPerf[j]? = some b →
          merged[featsPer * cores + cores + j]? = some (a + b * (throttle / remoteLim))) := by
  have fits : featsPer * cores + cores ≤ localList.length := by omega
  have rowOf_lt : ∀ i row, RowOf cpuIndexMap cgroupCpus i row → row < cores := by
    rintro i row ⟨c, at', rowed⟩
    obtain ⟨other, below, rowed'⟩ := hasRow c (List.mem_of_getElem? at')
    rw [rowed, Option.some.injEq] at rowed'
    exact rowed' ▸ below
  have slot_lt : rpTemps ≠ [] → ∀ i k : ℕ, cgroupCpus[i]? = some (k : ℤ) → k < cores := by
    intro nonempty i k at'
    have := ((tempsFit nonempty).2 _ (List.mem_of_getElem? at')).2
    omega
  -- the loop, on the blocks the layout cuts out
  have folding : ∃ blocks, ((List.range cgroupCpus.length).zip cgroupCpus).foldlM
      (mergeCore cpuIndexMap featsPer rpCp rpTemps throttle)
      (localList.take (featsPer * cores),
        (localList.take (featsPer * cores + cores)).drop (featsPer * cores)) = .ok blocks ∧
      Placed cpuIndexMap cgroupCpus featsPer rpCp rpTemps throttle
        (localList.take (featsPer * cores))
        ((localList.take (featsPer * cores + cores)).drop (featsPer * cores)) cgroupCpus.length
        blocks := by
    refine foldlM_mergeCore_placed six ?_ ?_ distinct ?_
    · intro c member
      obtain ⟨row, below, rowed⟩ := hasRow c member
      refine ⟨row, rowed, ?_⟩
      rw [List.length_take, Nat.min_eq_left (by omega), Nat.mul_comm featsPer cores]
      exact Nat.mul_le_mul_right featsPer below
    · rw [rowsLength, Nat.mul_comm featsPer remoteNum]
      exact Nat.mul_le_mul_right featsPer fewer
    · intro nonempty
      refine ⟨(tempsFit nonempty).1, fun c member => ?_⟩
      obtain ⟨nonneg, below⟩ := (tempsFit nonempty).2 c member
      refine ⟨c.toNat, (Int.toNat_of_nonneg nonneg).symm, ?_⟩
      simp only [List.length_drop, List.length_take]
      omega
  obtain ⟨⟨rows, temps⟩, folded, placed⟩ := folding
  refine ⟨_, by rw [mergeRemoteData_eq layout numCores positive fields rowsLength perfCounts
    perfLength temperatures limit limitPositive, folded]; rfl, ?_,
    fun i row rowOf _ inside => placed.merged_placed fits rowOf (rowOf_lt i row rowOf) inside,
    fun _ below outside => placed.merged_kept fits below outside,
    fun nonempty i k at' => placed.merged_temp fits nonempty at' (slot_lt nonempty i k at'),
    fun _ below outside => placed.merged_tempKept fits below outside, ?_⟩
  · simp only [List.length_append, List.length_map, List.length_zip, List.length_drop,
      List.length_take, placed.rows_length fits, placed.temps_length fits, layout, perfLength]
    omega
  · -- the perf block: the local count plus the remote one scaled by the throttles
    intro j below a b atA atB
    have local' : ((localList.take (featsPer * cores + cores + perfCount)).drop
        (featsPer * cores + cores))[j]? = some a := by
      rw [List.getElem?_drop, List.getElem?_take_of_lt (by omega), atA]
    have zipped : (((localList.take (featsPer * cores + cores + perfCount)).drop
        (featsPer * cores + cores)).zip rpPerf)[j]? = some (a, b) :=
      List.getElem?_zip_eq_some.mpr ⟨local', atB⟩
    rw [← placed.rows_length fits, ← placed.temps_length fits, getElem?_append_three_right,
      List.getElem?_map, placed.rows_length fits, placed.temps_length fits, zipped]
    rfl

end Layout

/-- The input of `merge_places_by_cgroup_position`: CPU 1 of the server's
cgroup takes the payload's first row and temperature, CPU 2 the second. -/
theorem merge_places_each_core_twoCores :
    let fields : List ℚ := [10, 0, 0, 0, 0, 0, 0, 20, 0, 0, 0, 0, 0, 0, 30, 0, 0, 0, 0, 0, 0]
    let payload := (Payload.data 3 [0, 1, 2] fields [5] [40, 41, 42]).withLimit 50
    let localList : List ℚ := List.replicate 21 0 ++ [30, 30, 30] ++ [1]
    ∃ merged, mergeRemoteData (cpuIndexMap [0, 1, 2]) localList payload [1, 2] 100 = .ok merged ∧
      merged.length = 25 ∧ merged[1 * 7]? = some 10 ∧ merged[2 * 7]? = some 20 ∧
      merged[7 * 3 + 1]? = some 40 ∧ merged[7 * 3 + 2]? = some 41 ∧
      merged[7 * 3 + 3 + 0]? = some 11 := by
  intro fields payload localList
  obtain ⟨merged, ran, sized, rows, -, temps, -, perf⟩ :=
    @merge_places_each_core 7 3 1 3 localList payload fields [5] [40, 41, 42] 50 (by norm_num)
      (by decide) rfl (by norm_num) rfl (by decide) rfl rfl rfl rfl (by norm_num)
      (cpuIndexMap [0, 1, 2]) [1, 2] (by decide) (by decide) (by decide) (by decide) 100
  refine ⟨merged, ran, sized, ?_, ?_, ?_, ?_, ?_⟩
  · rw [rows 0 1 ⟨1, rfl, by decide⟩ 0 (by norm_num)]
    norm_num [localList, fields, placedField]
  · rw [rows 1 2 ⟨2, rfl, by decide⟩ 0 (by norm_num)]
    norm_num [localList, fields, placedField]
  · exact temps (by simp) 0 1 rfl
  · exact temps (by simp) 1 2 rfl
  · rw [perf 0 (by norm_num) 1 5 (by simp [localList]) rfl]
    norm_num

/-- The remote cgroup holds cores 0-2 and the server's cgroup cores 1-2, both
listed in order, with the server's rows in the order of its CPU ids.  The
server writes the row and temperature of CPU 0 of the payload (C0 = 10, 40°)
onto its CPU 1, and those of CPU 1 (C0 = 20, 41°) onto its CPU 2, although the
payload lists CPU 1 at position 1 and CPU 2 at position 2. -/
theorem merge_places_by_cgroup_position :
    (let fields : List ℚ := [10, 0, 0, 0, 0, 0, 0, 20, 0, 0, 0, 0, 0, 0, 30, 0, 0, 0, 0, 0, 0]
    let payload := Payload.data 3 [0, 1, 2] fields [5] [40, 41, 42]
    let localList : List ℚ := List.replicate 21 0 ++ [30, 30, 30] ++ [1]
    mergeRemoteData (cpuIndexMap [0, 1, 2]) localList (payload.withLimit 50) [1, 2] 100 =
        .ok (List.replicate 7 0 ++ 10 :: List.replicate 6 0 ++ 20 :: List.replicate 6 0 ++
          [30, 40, 41, 11]) ∧
      [0, 1, 2].idxOf (1 : ℤ) = 1 ∧ fields[1 * 7]? = some 20 ∧
      [0, 1, 2].idxOf (2 : ℤ) = 2 ∧ fields[2 * 7]? = some 30 ∧
      ([40, 41, 42] : List ℚ)[1]? = some 41 ∧ ([40, 41, 42] : List ℚ)[2]? = some 42) := by
  decide +kernel

end Predxnd

end PowerCapping
