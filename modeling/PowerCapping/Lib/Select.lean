import Mathlib

/-!
# The first fit in a list sorted by decreasing key

Selecting "the largest level that fits" by walking the levels from the top
and returning the first that fits gives the largest key among the entries
that fit (`find?_largest_of_sorted`); and a test that accepts more never
selects a smaller key (`find?_key_le_of_sorted`).
-/

namespace PowerCapping

namespace Select

variable {α β : Type*} [LinearOrder β] {key : α → β}

/-- The first entry that fits, in an order of decreasing keys, has the
largest key of those that fit. -/
theorem find?_largest_of_sorted {fits : α → Bool} {entries : List α}
    (sorted : entries.Pairwise fun first second => key second ≤ key first) {found : α}
    (first : entries.find? fits = some found) :
    found ∈ entries ∧ fits found ∧ ∀ other ∈ entries, fits other → key other ≤ key found := by
  induction entries with
  | nil => cases first
  | cons head rest ih =>
      obtain ⟨headFirst, restSorted⟩ := List.pairwise_cons.mp sorted
      rw [List.find?_cons] at first
      cases fitsHead : fits head with
      | true =>
          -- the head fits, and every later key is at most its key
          rw [fitsHead] at first
          cases first
          refine ⟨List.mem_cons_self, fitsHead, fun other member _ => ?_⟩
          rcases List.mem_cons.mp member with rfl | later
          · exact le_refl _
          · exact headFirst other later
      | false =>
          rw [fitsHead] at first
          obtain ⟨foundMember, fitsFound, largest⟩ := ih restSorted first
          refine ⟨List.mem_cons_of_mem head foundMember, fitsFound, fun other member fitsOther => ?_⟩
          rcases List.mem_cons.mp member with rfl | later
          · rw [fitsHead] at fitsOther
            cases fitsOther
          · exact largest other later fitsOther

/-- A test that accepts every entry another accepts finds a key at least as
large. -/
theorem find?_key_le_of_sorted {fits fitsMore : α → Bool} {entries : List α}
    (sorted : entries.Pairwise fun first second => key second ≤ key first)
    (weaker : ∀ entry, fits entry → fitsMore entry) {found foundMore : α}
    (first : entries.find? fits = some found) (firstMore : entries.find? fitsMore = some foundMore) :
    key found ≤ key foundMore := by
  obtain ⟨member, fitsFound, -⟩ := find?_largest_of_sorted sorted first
  exact (find?_largest_of_sorted sorted firstMore).2.2 found member (weaker found fitsFound)

end Select

end PowerCapping
