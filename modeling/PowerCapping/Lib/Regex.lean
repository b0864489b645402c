import PowerCapping.Lib.Python
import Mathlib.Data.List.Infix

/-!
# Backtracking matches of simple patterns

`re.match` and `re.search` of the few patterns the scripts use, written as
matchers: a matcher takes the text from one position on and returns what the
pattern captures there, and `Py.search` tries the positions from the left.
A literal is matched as a prefix (`literal`); `\s*(C+)` ending a pattern,
for a class `C` of characters that are not whitespace, takes the spaces and
then the longest run of `C` (`spacedRun`); a greedy group `(C+)` followed by
more of the pattern takes the longest run of `C` after which the rest matches
(`greedyRun`); a lazy group `(.+?)` takes the shortest non-empty run of
characters after which the rest of the pattern matches (`lazyGroup`).

The lemmas say when a search finds nothing (`search_literal_eq_none`), when
it passes over a prefix (`search_append`), where a word can occur in a
concatenation (`infix_of_infix_append`), and where a lazy group stops
(`lazyGroup_append`, with `not_prefix_of_mark` for the positions before,
and `lazyGroup_literal_append` for a group followed by a word), and that a
greedy group takes a whole run the rest matches after (`greedyRun_append`).
-/

namespace PowerCapping

namespace Regex

open Py

variable {α : Type*}

/-- A literal `word` in a pattern, followed by the rest of the pattern. -/
def literal (word : List Char) (rest : List Char → Option α) (text : List Char) : Option α :=
  if word.isPrefixOf text then rest (text.drop word.length) else none

/-- `\s*(C+)` ending a pattern, for a class `C` without whitespace: greedy
`\s*` takes every space, and giving one back never helps since `C+` cannot
start at a space; the group is the longest run of `C` after the spaces. -/
def spacedRun (inClass : Char → Bool) (text : List Char) : Option (List Char) :=
  match (text.dropWhile isSpace).takeWhile inClass with
  | [] => none
  | run => some run

/-- `(C+)` followed by the rest of the pattern, with `length` characters of
the run of `C` still to try: the group takes the longest of them and gives one
back each time the rest fails. -/
def greedyFrom (rest : List Char → Option α) (text : List Char) : ℕ → Option (List Char × α)
  | 0 => none
  | length + 1 =>
      match rest (text.drop (length + 1)) with
      | some result => some (text.take (length + 1), result)
      | none => greedyFrom rest text length

/-- `(C+)` followed by the rest of the pattern: greedy, with backtracking. -/
def greedyRun (inClass : Char → Bool) (rest : List Char → Option α) (text : List Char) :
    Option (List Char × α) :=
  greedyFrom rest text (text.takeWhile inClass).length

/-- `(.+?)` followed by the rest of the pattern, with `taken` already in the
group: the rest is tried first, and on failure the group takes one more
character, any but a line break. -/
def lazyFrom (rest : List Char → Option α) (taken : List Char) :
    List Char → Option (List Char × α)
  | [] => (rest []).map (taken, ·)
  | c :: text =>
      match rest (c :: text) with
      | some result => some (taken, result)
      | none => if c = '\n' then none else lazyFrom rest (taken ++ [c]) text

/-- `(.+?)` followed by the rest of the pattern: the group holds at least one
character. -/
def lazyGroup (rest : List Char → Option α) : List Char → Option (List Char × α)
  | [] => none
  | c :: text => if c = '\n' then none else lazyFrom rest [c] text

@[simp]
theorem literal_append (word : List Char) (rest : List Char → Option α) (text : List Char) :
    literal word rest (word ++ text) = rest text := by
  simp [literal, List.isPrefixOf_iff_prefix]

theorem literal_self (word : List Char) (rest : List Char → Option α) :
    literal word rest word = rest [] := by
  simpa using literal_append word rest []

theorem literal_eq_none {word text : List Char} (absent : ¬ word <+: text)
    (rest : List Char → Option α) : literal word rest text = none := by
  simp [literal, List.isPrefixOf_iff_prefix, absent]

/-- A literal fails where the text starts with another character. -/
theorem literal_cons_eq_none {c d : Char} {more text : List Char} (differs : c ≠ d)
    (rest : List Char → Option α) : literal (c :: more) rest (d :: text) = none :=
  literal_eq_none (fun first => differs (List.cons_prefix_cons.mp first).1) rest

@[simp]
theorem search_cons (matchAt : List Char → Option α) (c : Char) (text : List Char) :
    search matchAt (c :: text) = (matchAt (c :: text)).orElse fun _ => search matchAt text :=
  rfl

/-- A search finds nothing when the matcher fails at every position. -/
theorem search_eq_none {matchAt : List Char → Option α} {text : List Char}
    (fails : ∀ suffix, suffix <:+ text → matchAt suffix = none) : search matchAt text = none := by
  induction text with
  | nil => exact fails [] (List.suffix_refl [])
  | cons c rest ih =>
      rw [search_cons, fails (c :: rest) (List.suffix_refl _), Option.orElse_none]
      exact ih fun suffix later => fails suffix (later.trans (List.suffix_cons c rest))

/-- A pattern that starts with a literal finds nothing in a text without the
literal. -/
theorem search_literal_eq_none {word text : List Char} (absent : ¬ word <:+: text)
    (rest : List Char → Option α) : search (literal word rest) text = none :=
  search_eq_none fun _ later =>
    literal_eq_none (fun first => absent (first.isInfix.trans later.isInfix)) rest

/-- A search passes over a prefix at whose positions the matcher fails. -/
theorem search_append {matchAt : List Char → Option α} {first : List Char} (rest : List Char)
    (fails : ∀ suffix, suffix <:+ first → suffix ≠ [] → matchAt (suffix ++ rest) = none) :
    search matchAt (first ++ rest) = search matchAt rest := by
  induction first with
  | nil => rfl
  | cons c more ih =>
      have here : matchAt (c :: (more ++ rest)) = none :=
        fails (c :: more) (List.suffix_refl _) (List.cons_ne_nil c more)
      rw [List.cons_append, search_cons, here, Option.orElse_none]
      exact ih fun suffix later nonempty =>
        fails suffix (later.trans (List.suffix_cons c more)) nonempty

/-- A literal whose first character is not in a prefix fails at every
position of the prefix. -/
theorem search_literal_append {c : Char} {more first : List Char} (fresh : c ∉ first)
    (rest : List Char → Option α) (text : List Char) :
    search (literal (c :: more) rest) (first ++ text) = search (literal (c :: more) rest) text := by
  refine search_append text fun suffix later nonempty => ?_
  obtain ⟨d, after, rfl⟩ := List.exists_cons_of_ne_nil nonempty
  have member : d ∈ first := later.subset List.mem_cons_self
  exact literal_cons_eq_none (fun same : c = d => fresh (same ▸ member)) rest

/-- A word whose first character is not in `first` occurs in `first ++ text`
only inside `text`. -/
theorem infix_of_infix_append {c : Char} {more first text : List Char} (fresh : c ∉ first)
    (inside : c :: more <:+: first ++ text) : c :: more <:+: text := by
  obtain ⟨before, after, split⟩ := inside
  rw [List.append_assoc] at split
  rcases List.append_eq_append_iff.mp split with ⟨middle, rfl, rest⟩ | ⟨middle, rfl, rest⟩
  · -- the word starts inside `first`, or right at its end
    cases middle with
    | nil => exact ⟨[], after, by simpa using rest⟩
    | cons d middle =>
        have same : c = d := (List.cons_eq_cons.mp (by simpa using rest)).1
        exact absurd (List.mem_append_right before (same ▸ List.mem_cons_self)) fresh
  · exact ⟨middle, after, by rw [rest, List.append_assoc]⟩

/-- A word with the character `d` at position `p`, and no `d` before it, is
not a prefix of `x ++ word ++ rest` for a non-empty `x` without `d`: the `d`
would fall inside `x`, or inside the word before position `p`. -/
theorem not_prefix_of_mark {word : List Char} {p : ℕ} {d : Char} (mark : word[p]? = some d)
    (fresh : d ∉ word.take p) {x : List Char} (nonempty : x ≠ []) (free : d ∉ x)
    (rest : List Char) : ¬ word <+: x ++ (word ++ rest) := by
  intro first
  have inWord : p < word.length := (List.getElem?_eq_some_iff.mp mark).1
  have atMark : (x ++ (word ++ rest))[p]? = some d := by
    rw [← mark, List.prefix_iff_getElem?.mp first p inWord, List.getElem?_eq_getElem inWord]
  by_cases short : p < x.length
  · rw [List.getElem?_append_left short] at atMark
    exact free (List.mem_of_getElem? atMark)
  · have positive : 0 < x.length := List.length_pos_iff.mpr nonempty
    have earlier : p - x.length < p := by omega
    rw [List.getElem?_append_right (by omega),
      List.getElem?_append_left (by omega : p - x.length < word.length)] at atMark
    have inTake : (word.take p)[p - x.length]? = some d := by
      rw [List.getElem?_take, if_pos earlier, atMark]
    exact fresh (List.mem_of_getElem? inTake)

/-- A run of `C` after which the text does not go on with `C`, and after which
the rest of the pattern matches: the group is the whole run. -/
theorem greedyRun_append {inClass : Char → Bool} {rest : List Char → Option α}
    {run text : List Char} {result : α} (inRun : ∀ c ∈ run, inClass c = true)
    (nonempty : run ≠ []) (stops : ∀ c ∈ text.head?, inClass c = false)
    (matched : rest text = some result) :
    greedyRun inClass rest (run ++ text) = some (run, result) := by
  have stopped : text.takeWhile inClass = [] := by
    cases text with
    | nil => rfl
    | cons c after => simp [stops c rfl]
  have taken : (run ++ text).takeWhile inClass = run := by
    rw [List.takeWhile_append_of_pos inRun, stopped, List.append_nil]
  obtain ⟨length, runLength⟩ : ∃ length, run.length = length + 1 :=
    Nat.exists_eq_succ_of_ne_zero (List.length_pos_iff.mpr nonempty).ne'
  -- the longest run is tried first, and the rest matches after it
  rw [greedyRun, taken, runLength, greedyFrom, ← runLength, List.drop_left, matched,
    List.take_left]

theorem lazyFrom_of_match {rest : List Char → Option α} (taken : List Char) {text : List Char}
    {result : α} (matched : rest text = some result) :
    lazyFrom rest taken text = some (taken, result) := by
  cases text with
  | nil => simp [lazyFrom, matched]
  | cons c text => simp [lazyFrom, matched]

/-- A lazy group that has taken `taken` goes on over `group`, where the rest
of the pattern fails at every position, to the first place where it
matches. -/
theorem lazyFrom_append {rest : List Char → Option α} {group text : List Char} {result : α}
    (noBreak : '\n' ∉ group) (matched : rest text = some result)
    (fails : ∀ suffix, suffix <:+ group → suffix ≠ [] → rest (suffix ++ text) = none)
    (taken : List Char) :
    lazyFrom rest taken (group ++ text) = some (taken ++ group, result) := by
  induction group generalizing taken with
  | nil => simpa using lazyFrom_of_match taken matched
  | cons c group ih =>
      have notBreak : c ≠ '\n' := fun same => noBreak (same ▸ List.mem_cons_self)
      have here : rest (c :: (group ++ text)) = none :=
        fails (c :: group) (List.suffix_refl _) (List.cons_ne_nil c group)
      rw [List.cons_append, lazyFrom, here]
      simp only [notBreak, if_false]
      rw [ih (fun member => noBreak (List.mem_cons_of_mem c member))
        (fun suffix later => fails suffix (later.trans (List.suffix_cons c group)))]
      simp

/-- A lazy group over `first :: group` when the rest of the pattern matches
after it and fails at every position inside. -/
theorem lazyGroup_append {rest : List Char → Option α} {first : Char} {group text : List Char}
    {result : α} (firstNotBreak : first ≠ '\n') (noBreak : '\n' ∉ group)
    (matched : rest text = some result)
    (fails : ∀ suffix, suffix <:+ group → suffix ≠ [] → rest (suffix ++ text) = none) :
    lazyGroup rest (first :: group ++ text) = some (first :: group, result) := by
  rw [List.cons_append, lazyGroup, if_neg firstNotBreak, lazyFrom_append noBreak matched fails]
  rfl

/-- A lazy group over a non-empty name, followed by a word with the character
`d` at position `p`, none before it and none in the name: the group is the
name. -/
theorem lazyGroup_literal_append {rest : List Char → Option α} {name word text : List Char}
    {p : ℕ} {d : Char} {result : α} (mark : word[p]? = some d) (fresh : d ∉ word.take p)
    (nonempty : name ≠ []) (free : d ∉ name) (noBreak : '\n' ∉ name)
    (matched : rest text = some result) :
    lazyGroup (literal word rest) (name ++ (word ++ text)) = some (name, result) := by
  obtain ⟨first, group, rfl⟩ := List.exists_cons_of_ne_nil nonempty
  refine lazyGroup_append (fun same => noBreak (same ▸ List.mem_cons_self))
    (fun member => noBreak (List.mem_cons_of_mem first member))
    (by rw [literal_append]; exact matched) fun suffix later notEmpty => ?_
  -- inside the name the word cannot start: its `d` would fall in the name
  exact literal_eq_none (not_prefix_of_mark mark fresh notEmpty
    (fun member => free (List.mem_cons_of_mem first (later.subset member))) text) rest

/-- The same, for the word that ends the text. -/
theorem lazyGroup_literal_end {rest : List Char → Option α} {name word : List Char}
    {p : ℕ} {d : Char} {result : α} (mark : word[p]? = some d) (fresh : d ∉ word.take p)
    (nonempty : name ≠ []) (free : d ∉ name) (noBreak : '\n' ∉ name)
    (matched : rest [] = some result) :
    lazyGroup (literal word rest) (name ++ word) = some (name, result) := by
  have grouped := lazyGroup_literal_append mark fresh nonempty free noBreak matched
  rwa [List.append_nil] at grouped

end Regex

end PowerCapping
