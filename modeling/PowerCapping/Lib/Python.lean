import Mathlib.Algebra.Order.Floor.Ring
import Mathlib.Data.Rat.Floor
import Mathlib.Data.List.Infix
import Mathlib.Data.List.DropRight

/-!
# The Python builtins the controllers use

The scripts read tool output as text, convert fields with `float`, round with
`f"{value:.2f}"`, walk descending `range`s and index lists.  This file gives
those builtins their documented meaning over exact arithmetic: a Python `str`
is a list of characters, a `float` is a rational (so the rounding error of
binary floating point is not modelled), and list indexing with a non-negative
index fails exactly when Python raises `IndexError`.

`float` accepts the decimal grammar of the language reference (sign, digit
groups joined by single underscores, fraction, exponent) with ASCII digits; the
non-finite spellings `inf` and `nan` have no rational value and are rejected
here.
-/

namespace PowerCapping

namespace Py

/-- The exceptions the modelled scripts can raise. -/
inductive Exception
  | typeError
  | valueError
  | indexError
  | zeroDivisionError
  | attributeError
  | unboundLocalError
  | keyError
  | nameError
  | osError
  deriving DecidableEq, Repr

/-- `str.isspace` on one character: the ASCII separators and the Unicode space
characters. -/
def isSpace (c : Char) : Bool :=
  let n := c.toNat
  (9 ≤ n && n ≤ 13) || (28 ≤ n && n ≤ 32) || n == 0x85 || n == 0xA0 ||
    n == 0x1680 || (0x2000 ≤ n && n ≤ 0x200A) || n == 0x2028 ||
    n == 0x2029 || n == 0x202F || n == 0x205F || n == 0x3000

/-- `str.strip()` with no argument. -/
def strip (text : List Char) : List Char :=
  (text.dropWhile isSpace).rdropWhile isSpace

/-- `str.split(sep)` for a one-character separator: every occurrence splits,
and empty pieces are kept. -/
def split (sep : Char) (text : List Char) : List (List Char) :=
  text.splitOn sep

/-- `text.replace(old, new)` for a non-empty `old`: the occurrences of `old`,
found from the left without overlap, replaced by `new`. -/
def replace (old new : List Char) : List Char → List Char
  | [] => []
  | c :: rest =>
      if _ : old ≠ [] ∧ old <+: c :: rest then
        new ++ replace old new ((c :: rest).drop old.length)
      else c :: replace old new rest
termination_by text => text.length
decreasing_by
  · have positive : 0 < old.length := List.length_pos_iff.mpr ‹old ≠ [] ∧ old <+: c :: rest›.1
    simp only [List.length_drop, List.length_cons]
    omega
  · simp

/-- `sep.join(pieces)`. -/
def join (sep : List Char) (pieces : List (List Char)) : List Char :=
  sep.intercalate pieces

/-- `str(n)` for an integer. -/
def strInt (n : ℤ) : List Char :=
  if n < 0 then '-' :: Nat.toDigits 10 n.natAbs else Nat.toDigits 10 n.natAbs

/-- `str.split()` with no argument: the runs of non-space characters. -/
def splitWhitespace (text : List Char) : List (List Char) :=
  (text.splitOnP isSpace).filter fun piece => !piece.isEmpty

/-- `needle in haystack` for strings. -/
def contains (haystack needle : List Char) : Bool :=
  decide (needle <:+: haystack)

/-- `text.replace(old, "")` for a one-character `old`. -/
def removeChar (old : Char) (text : List Char) : List Char :=
  text.filter (· ≠ old)

/-- Scan a `digitpart` (digits, single underscores between digits) from the
front of the text, accumulating its value and digit count. -/
def digitPart (value count : ℕ) : List Char → ℕ × ℕ × List Char
  | c :: rest =>
      if c.isDigit then digitPart (10 * value + (c.toNat - 48)) (count + 1) rest
      else if c = '_' ∧ 0 < count then
        match rest with
        | d :: after =>
            if d.isDigit then
              digitPart (10 * value + (d.toNat - 48)) (count + 1) after
            else (value, count, c :: rest)
        | [] => (value, count, [c])
      else (value, count, c :: rest)
  | [] => (value, count, [])

/-- The optional sign in front of a number. -/
def sign : List Char → Bool × List Char
  | '-' :: rest => (true, rest)
  | '+' :: rest => (false, rest)
  | rest => (false, rest)

/-- The exponent part `("e" | "E") [sign] digitpart`, or none at the end of the
text; `none` when anything else is left over. -/
def exponent : List Char → Option ℤ
  | [] => some 0
  | c :: rest =>
      if c = 'e' ∨ c = 'E' then
        let (negative, digits) := sign rest
        match digitPart 0 0 digits with
        | (value, count, []) =>
            if 0 < count then some (if negative then -(value : ℤ) else value)
            else none
        | _ => none
      else none

/-- `float(text)` on a string: surrounding whitespace is ignored, and the
mantissa needs at least one digit on either side of the point. -/
def float? (text : List Char) : Option ℚ :=
  let (negative, unsigned) := sign (strip text)
  let (whole, wholeDigits, afterWhole) := digitPart 0 0 unsigned
  let (fraction, fractionDigits, afterFraction) :=
    match afterWhole with
    | '.' :: rest => digitPart 0 0 rest
    | rest => (0, 0, rest)
  if wholeDigits + fractionDigits = 0 then none
  else
    (exponent afterFraction).map fun power =>
      let magnitude : ℚ :=
        ((whole : ℚ) + (fraction : ℚ) / 10 ^ fractionDigits) * 10 ^ power
      if negative then -magnitude else magnitude

/-- `int(text)` on a string: surrounding whitespace, an optional sign and a
`digitpart`, nothing else. -/
def int? (text : List Char) : Option ℤ :=
  let (negative, unsigned) := sign (strip text)
  match digitPart 0 0 unsigned with
  | (value, count, []) =>
      if 0 < count then some (if negative then -(value : ℤ) else value) else none
  | _ => none

/-- `str.isdigit()` with ASCII digits: not empty, and every character a
digit. -/
def isDigitStr (text : List Char) : Bool :=
  !text.isEmpty && text.all Char.isDigit

/-- The characters `str.splitlines` breaks at (`\r\n` counts as one break). -/
def isLineBreak (c : Char) : Bool :=
  let n := c.toNat
  (10 ≤ n && n ≤ 13) || (28 ≤ n && n ≤ 30) || n == 0x85 || n == 0x2028 || n == 0x2029

/-- `str.splitlines()` from a partly read line (kept reversed): a break ends
the line, and no empty line follows a final break. -/
def splitlinesFrom (line : List Char) : List Char → List (List Char)
  | [] => if line = [] then [] else [line.reverse]
  | '\r' :: '\n' :: rest => line.reverse :: splitlinesFrom [] rest
  | c :: rest =>
      if isLineBreak c then line.reverse :: splitlinesFrom [] rest
      else splitlinesFrom (c :: line) rest

/-- `str.splitlines()`. -/
def splitlines (text : List Char) : List (List Char) :=
  splitlinesFrom [] text

/-- `re.search` of a pattern whose match at a position is determined by the
text from there on: the match at the leftmost position that has one. -/
def search {α : Type*} (matchAt : List Char → Option α) : List Char → Option α
  | [] => matchAt []
  | c :: rest => (matchAt (c :: rest)).orElse fun _ => search matchAt rest

/-- The escape of one character in the `repr` of a string quoted with
`quote`: backslash, the quote, `\n`, `\r`, `\t`, and the other control
characters as `\xhh`. -/
def reprChar (quote c : Char) : List Char :=
  let backslash := Char.ofNat 92
  if c = backslash then [backslash, backslash]
  else if c = quote then [backslash, c]
  else if c = '\n' then [backslash, 'n']
  else if c = '\r' then [backslash, 'r']
  else if c = '\t' then [backslash, 't']
  else if c.toNat < 32 ∨ (127 ≤ c.toNat ∧ c.toNat < 160) then
    backslash :: 'x' :: (List.replicate (2 - (Nat.toDigits 16 c.toNat).length) '0' ++
      Nat.toDigits 16 c.toNat)
  else [c]

/-- `repr(text)` for a string: single quotes, or double quotes when the text
holds a single quote and no double quote. -/
def strRepr (text : List Char) : List Char :=
  let single := Char.ofNat 39
  let double := Char.ofNat 34
  let quote := if single ∈ text ∧ double ∉ text then double else single
  quote :: text.flatMap (reprChar quote) ++ [quote]

/-- The message of the `ValueError` raised by `float(text)`. -/
def floatErrorMessage (text : List Char) : List Char :=
  "could not convert string to float: ".toList ++ strRepr text

/-- `float(text)` with the message of its `ValueError`. -/
def floatOrMessage (text : List Char) : Except (List Char) ℚ :=
  match float? text with
  | some value => .ok value
  | none => .error (floatErrorMessage text)

/-- The message of the `ValueError` raised by `int(text)`. -/
def intErrorMessage (text : List Char) : List Char :=
  "invalid literal for int() with base 10: ".toList ++ strRepr text

/-- `int(text)` with the message of its `ValueError`. -/
def intOrMessage (text : List Char) : Except (List Char) ℤ :=
  match int? text with
  | some value => .ok value
  | none => .error (intErrorMessage text)

/-- Rounding of an exact value to the nearest integer, ties to even, as the
`format` of a float rounds its exact value. -/
def roundHalfEven (value : ℚ) : ℤ :=
  let down := ⌊value⌋
  let fraction := value - down
  if fraction < 1 / 2 then down
  else if 1 / 2 < fraction then down + 1
  else if down % 2 = 0 then down else down + 1

/-- `float(f"{value:.2f}")` on the exact value.  Python formats the double
nearest to what it computed, so on a value whose hundredths end in a half the
two can round apart (`10.03 / 2.0` shows `5.01` in Python and `5.02` here). -/
def round2 (value : ℚ) : ℚ :=
  (roundHalfEven (value * 100) : ℚ) / 100

/-- `int(value)` for a float: its integer part, rounding toward zero. -/
def truncate (value : ℚ) : ℤ :=
  if 0 ≤ value then ⌊value⌋ else ⌈value⌉

/-- `range(start, stop, -step)` for a positive `step`: `start`, `start - step`,
… while above `stop`. -/
def rangeDown (start stop step : ℕ) : List ℕ :=
  (List.range ((start - stop + step - 1) / step)).map fun k => start - k * step

/-- `xs[index] = value` for a non-negative index: `none` is `IndexError`. -/
def setItem? {α : Type*} (xs : List α) (index : ℕ) (value : α) :
    Option (List α) :=
  if index < xs.length then some (xs.set index value) else none

/-- `float(text)`, raising `ValueError` on what it cannot read. -/
def floatValue (text : List Char) : Except Exception ℚ :=
  match float? text with
  | some value => .ok value
  | none => .error .valueError

/-- `int(text)`, raising `ValueError` on what it cannot read. -/
def intValue (text : List Char) : Except Exception ℤ :=
  match int? text with
  | some value => .ok value
  | none => .error .valueError

/-- `dictionary[key]` for a key that may be missing: `KeyError`. -/
def getKey {α : Type*} : Option α → Except Exception α
  | some value => .ok value
  | none => .error .keyError

@[simp]
theorem getKey_eq_ok {α : Type*} {entry : Option α} {value : α} :
    getKey entry = .ok value ↔ entry = some value := by
  cases entry <;> simp [getKey]

/-- `a // b` on integers: the floor of the quotient, `ZeroDivisionError` for
a zero divisor. -/
def floorDiv (a b : ℤ) : Except Exception ℤ :=
  if b = 0 then .error .zeroDivisionError else .ok (a.fdiv b)

/-- The position `xs[index]` stands for in a list of the given length: a
negative index counts from the end; `none` is `IndexError`. -/
def position? (length : ℕ) (index : ℤ) : Option ℕ :=
  let index := if index < 0 then index + length else index
  if 0 ≤ index ∧ index < length then some index.toNat else none

/-- `xs[index]` for any integer index. -/
def getItem {α : Type*} (xs : List α) (index : ℤ) : Except Exception α :=
  match (position? xs.length index).bind fun position => xs[position]? with
  | some value => .ok value
  | none => .error .indexError

/-- `xs[index] = value` for any integer index. -/
def assignItem {α : Type*} (xs : List α) (index : ℤ) (value : α) :
    Except Exception (List α) :=
  match position? xs.length index with
  | some position => .ok (xs.set position value)
  | none => .error .indexError

theorem position?_natCast (length i : ℕ) :
    position? length i = if i < length then some i else none := by
  have nonneg : ¬(i : ℤ) < 0 := by omega
  simp only [position?, nonneg, if_false, Nat.cast_nonneg, true_and, Nat.cast_lt,
    Int.toNat_natCast]

/-- `xs[i]` for a non-negative index succeeds exactly with the entry at `i`. -/
theorem getItem_natCast_eq_ok {α : Type*} {xs : List α} {i : ℕ} {value : α} :
    getItem xs i = .ok value ↔ xs[i]? = some value := by
  rw [getItem, position?_natCast]
  -- past the end both sides fail
  by_cases within : i < xs.length <;> simp [within]

/-- `xs[i]` for a non-negative index inside the list. -/
theorem getItem_natCast {α : Type*} {xs : List α} {i : ℕ} (within : i < xs.length) :
    getItem xs i = .ok xs[i] := by
  rw [getItem, position?_natCast, if_pos within]
  simp [within]

/-- `xs[i] = value` for a non-negative index inside the list. -/
theorem assignItem_natCast {α : Type*} {xs : List α} {i : ℕ} (within : i < xs.length)
    (value : α) : assignItem xs i value = .ok (xs.set i value) := by
  rw [assignItem, position?_natCast, if_pos within]

/-- `a * b // b` is `a`. -/
theorem floorDiv_mul_cancel (a : ℤ) {b : ℤ} (nonzero : b ≠ 0) : floorDiv (a * b) b = .ok a := by
  rw [floorDiv, if_neg nonzero, Int.mul_fdiv_cancel a nonzero]

theorem length_of_assignItem {α : Type*} {xs ys : List α} {index : ℤ} {value : α}
    (assigned : assignItem xs index value = .ok ys) : ys.length = xs.length := by
  unfold assignItem at assigned
  split at assigned
  · cases assigned
    exact List.length_set
  · cases assigned

/-- A computation that reads no globals returned normally exactly when its
first statement did and the rest did from there. -/
theorem bind_eq_ok {β γ : Type} {first : Except Exception β} {rest : β → Except Exception γ}
    {result : γ} :
    first >>= rest = .ok result ↔ ∃ value, first = .ok value ∧ rest value = .ok result := by
  rcases first with e | value
  · constructor
    · intro ran
      cases ran
    · rintro ⟨_, ran, -⟩
      cases ran
  · constructor
    · intro ran
      exact ⟨value, rfl, ran⟩
    · rintro ⟨_, ran, later⟩
      cases ran
      exact later

/-- Every list the computation returns normally has length `n`: the
property kept by code that only assigns to items of a list. -/
def ReturnsLength {α : Type} (n : ℕ) (result : Except Exception (List α)) : Prop :=
  ∀ ys, result = .ok ys → ys.length = n

section ReturnsLength

variable {α β : Type} {n : ℕ}

theorem ReturnsLength.pure {xs : List α} (same : xs.length = n) :
    ReturnsLength n (Pure.pure xs : Except Exception (List α)) := by
  intro ys returned
  cases returned
  exact same

theorem ReturnsLength.assign {xs : List α} {index : ℤ} {value : α} (same : xs.length = n) :
    ReturnsLength n (assignItem xs index value) := fun _ assigned =>
  (length_of_assignItem assigned).trans same

/-- A statement whose result is not tracked, then code that keeps the
length. -/
theorem ReturnsLength.bind {first : Except Exception β} {rest : β → Except Exception (List α)}
    (later : ∀ value, ReturnsLength n (rest value)) : ReturnsLength n (first >>= rest) := by
  intro ys returned
  rcases ran : first with e | value <;> rw [ran] at returned
  · cases returned
  · exact later value ys returned

/-- An assignment, then code that keeps the length of the assigned list. -/
theorem ReturnsLength.assign_bind {xs : List α} {index : ℤ} {value : α}
    {rest : List α → Except Exception (List α)} (same : xs.length = n)
    (later : ∀ ys, ys.length = n → ReturnsLength n (rest ys)) :
    ReturnsLength n (assignItem xs index value >>= rest) := by
  intro ys returned
  rcases assigned : assignItem xs index value with e | assignedList <;> rw [assigned] at returned
  · cases returned
  · exact later assignedList ((length_of_assignItem assigned).trans same) ys returned

end ReturnsLength

/-- A slice bound: a negative bound counts from the end, and the bound is then
clamped to `0..length`. -/
def sliceBound (length : ℕ) (bound : ℤ) : ℕ :=
  let bound := if bound < 0 then bound + length else bound
  (max 0 (min bound length)).toNat

/-- `xs[start:stop]`. -/
def slice {α : Type*} (xs : List α) (start stop : ℤ) : List α :=
  (xs.take (sliceBound xs.length stop)).drop (sliceBound xs.length start)

/-- `xs[start:stop] = ys`: the slice is replaced by `ys` whatever its length,
so the list grows or shrinks by the difference; a stop before the start
inserts at the start. -/
def assignSlice {α : Type*} (xs : List α) (start stop : ℤ) (ys : List α) : List α :=
  let lo := sliceBound xs.length start
  xs.take lo ++ ys ++ xs.drop (max lo (sliceBound xs.length stop))

theorem sliceBound_natCast {length bound : ℕ} (within : bound ≤ length) :
    sliceBound length bound = bound := by
  unfold sliceBound
  simp only [Nat.cast_nonneg, not_lt.mpr, if_false]
  omega

theorem slice_natCast {α : Type*} {xs : List α} {start stop : ℕ} (ordered : start ≤ stop)
    (within : stop ≤ xs.length) :
    slice xs start stop = (xs.take stop).drop start := by
  rw [slice, sliceBound_natCast within, sliceBound_natCast (ordered.trans within)]

theorem assignSlice_natCast {α : Type*} {xs ys : List α} {start stop : ℕ} (ordered : start ≤ stop)
    (within : stop ≤ xs.length) :
    assignSlice xs start stop ys = xs.take start ++ ys ++ xs.drop stop := by
  rw [assignSlice, sliceBound_natCast within, sliceBound_natCast (ordered.trans within),
    max_eq_right ordered]

/-- Assigning a slice a list of its own length keeps the length, and changes
the positions of the slice only. -/
theorem getElem?_assignSlice {α : Type*} {xs ys : List α} {start width : ℕ}
    (fits : start + width ≤ xs.length) (sized : ys.length = width) (j : ℕ) :
    (assignSlice xs start (start + width) ys)[j]? =
      if start ≤ j ∧ j < start + width then ys[j - start]? else xs[j]? := by
  rw [← Nat.cast_add, assignSlice_natCast (by omega) fits]
  have taken : (xs.take start).length = start := by
    simp only [List.length_take]
    omega
  split_ifs with inSlice
  · rw [List.getElem?_append_left (by simp only [List.length_append]; omega),
      List.getElem?_append_right (by omega), taken]
  · by_cases before : j < start
    · rw [List.getElem?_append_left (by simp only [List.length_append]; omega),
        List.getElem?_append_left (by omega), List.getElem?_take_of_lt before]
    · rw [List.getElem?_append_right (by simp only [List.length_append]; omega),
        List.getElem?_drop, List.length_append, taken, sized]
      congr 1
      omega

theorem length_assignSlice {α : Type*} {xs ys : List α} {start width : ℕ}
    (fits : start + width ≤ xs.length) (sized : ys.length = width) :
    (assignSlice xs start (start + width) ys).length = xs.length := by
  rw [← Nat.cast_add, assignSlice_natCast (by omega) fits]
  simp only [List.length_append, List.length_take, List.length_drop, sized]
  omega

theorem mem_rangeDown {start stop step value : ℕ} (positive : 0 < step)
    (member : value ∈ rangeDown start stop step) :
    stop < value ∧ value ≤ start := by
  simp only [rangeDown, List.mem_map, List.mem_range] at member
  obtain ⟨k, below, rfl⟩ := member
  have bound : (k + 1) * step ≤ start - stop + step - 1 :=
    (Nat.le_div_iff_mul_le positive).mp below
  rw [Nat.add_mul, Nat.one_mul] at bound
  omega

end Py

end PowerCapping
