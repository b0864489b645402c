import PowerCapping.Lib.Python

/-!
# Printing numbers and reading them back

`f"{value:.2f}"` prints a value rounded to two decimals: a minus sign for a
negative value, the digits of the whole part, a point and two digits.  The
scripts write such text to files that other scripts read with `float`, and
`str` of a count is read back with `int`.  Reading the text back gives the
rounded value (`float?_formatFixed2`) and the count (`int?_toDigits`): both
rest on how `digitPart` scans the digits `Nat.toDigits` prints
(`digitPart_digits`, `digitsValue_toDigits`).
-/

namespace PowerCapping

namespace Py

/-- `f"{value:.2f}"`, rounding the exact value half to even. -/
def formatFixed2 (value : ℚ) : List Char :=
  let hundredths := (roundHalfEven (value * 100)).natAbs
  (if value < 0 then ['-'] else []) ++ Nat.toDigits 10 (hundredths / 100) ++
    ['.', Nat.digitChar (hundredths / 10 % 10), Nat.digitChar (hundredths % 10)]

/-- The value of a run of digits read from the front, after `value`. -/
def digitsValue (value : ℕ) (digits : List Char) : ℕ :=
  digits.foldl (fun total c => 10 * total + (c.toNat - 48)) value

/-- A run of digits followed by a character that ends a `digitpart` is
scanned whole. -/
theorem digitPart_digits {digits rest : List Char} (allDigits : ∀ c ∈ digits, c.isDigit)
    (stops : ∀ c ∈ rest.head?, c.isDigit = false ∧ c ≠ '_') (value count : ℕ) :
    digitPart value count (digits ++ rest) =
      (digitsValue value digits, count + digits.length, rest) := by
  induction digits generalizing value count with
  | nil =>
      cases rest with
      | nil => rfl
      | cons c after =>
          obtain ⟨notDigit, notUnderscore⟩ := stops c rfl
          unfold digitPart
          simp [digitsValue, notDigit, notUnderscore]
  | cons c digits ih =>
      have isDigit := allDigits c List.mem_cons_self
      rw [List.cons_append]
      unfold digitPart
      rw [if_pos isDigit,
        ih (fun d member => allDigits d (List.mem_cons_of_mem c member))]
      simp only [digitsValue, List.foldl_cons, List.length_cons, Prod.mk.injEq, true_and,
        and_true]
      omega

theorem digitChar_isDigit {d : ℕ} (small : d < 10) : (Nat.digitChar d).isDigit := by
  simp [small]

theorem digitsValue_append (value : ℕ) (first second : List Char) :
    digitsValue value (first ++ second) = digitsValue (digitsValue value first) second := by
  simp [digitsValue, List.foldl_append]

theorem digitsValue_digitChar (value : ℕ) {d : ℕ} (small : d < 10) :
    digitsValue value [Nat.digitChar d] = 10 * value + d := by
  simp [digitsValue, Nat.toNat_digitChar_sub_48_of_lt_ten small]

/-- The digits `str` prints for a count have the count as their value. -/
theorem digitsValue_toDigits (n : ℕ) : digitsValue 0 (Nat.toDigits 10 n) = n := by
  induction n using Nat.strong_induction_on with
  | _ n ih =>
      rcases Nat.lt_or_ge n 10 with small | large
      · rw [Nat.toDigits_of_lt_base small, digitsValue_digitChar 0 small]
        omega
      · -- the last digit comes off the end
        have lastDigit : n % 10 < 10 := Nat.mod_lt n (by norm_num)
        rw [Nat.toDigits_of_base_le (by norm_num) large, digitsValue_append,
          ih (n / 10) (by omega), digitsValue_digitChar _ lastDigit]
        omega

theorem isDigit_of_mem_toDigits {c : Char} {n : ℕ} (member : c ∈ Nat.toDigits 10 n) :
    c.isDigit :=
  Nat.isDigit_of_mem_toDigits (by norm_num) (by norm_num) member

theorem isSpace_of_isDigit {c : Char} (digit : c.isDigit) : isSpace c = false := by
  simp only [Char.isDigit, Bool.and_eq_true, decide_eq_true_eq] at digit
  have low : 48 ≤ c.toNat := digit.1
  have high : c.toNat ≤ 57 := digit.2
  simp only [isSpace]
  grind

/-- `str.strip()` leaves a text with no space in it as it is. -/
theorem strip_of_no_space {text : List Char} (noSpace : ∀ c ∈ text, isSpace c = false) :
    strip text = text := by
  have front : text.dropWhile isSpace = text := by
    cases text with
    | nil => rfl
    | cons c rest =>
        rw [List.dropWhile_cons_of_neg (by simp [noSpace c List.mem_cons_self])]
  rw [strip, front, List.rdropWhile_eq_self_iff]
  intro nonempty
  simp [noSpace _ (List.getLast_mem nonempty)]

/-- A digit is no sign. -/
theorem sign_of_digit {first : Char} (digit : first.isDigit) (rest : List Char) :
    sign (first :: rest) = (false, first :: rest) := by
  have notMinus : first ≠ '-' := fun minus => by simp [minus] at digit
  have notPlus : first ≠ '+' := fun plus => by simp [plus] at digit
  simp [sign, notMinus, notPlus]

theorem sign_toDigits_append (n : ℕ) (rest : List Char) :
    sign (Nat.toDigits 10 n ++ rest) = (false, Nat.toDigits 10 n ++ rest) := by
  obtain ⟨first, after, digits⟩ := List.exists_cons_of_ne_nil (@Nat.toDigits_ne_nil n 10)
  rw [digits, List.cons_append]
  exact sign_of_digit (isDigit_of_mem_toDigits (digits ▸ List.mem_cons_self)) _

theorem length_toDigits_pos (n : ℕ) : 0 < (Nat.toDigits 10 n).length :=
  List.length_pos_iff.mpr Nat.toDigits_ne_nil

/-- `int(str(n))` is `n`. -/
theorem int?_toDigits (n : ℕ) : int? (Nat.toDigits 10 n) = some n := by
  have noSpace : ∀ c ∈ Nat.toDigits 10 n, isSpace c = false :=
    fun c member => isSpace_of_isDigit (isDigit_of_mem_toDigits member)
  have unsigned := sign_toDigits_append n []
  have scanned := @digitPart_digits (Nat.toDigits 10 n) []
    (fun c member => isDigit_of_mem_toDigits member) (by simp) 0 0
  rw [List.append_nil] at unsigned scanned
  simp only [int?, strip_of_no_space noSpace, unsigned, scanned, digitsValue_toDigits,
    zero_add, length_toDigits_pos n, if_true]
  rfl

/-- `int(str(n))` raises nothing. -/
theorem intValue_toDigits (n : ℕ) : intValue (Nat.toDigits 10 n) = .ok n := by
  rw [intValue, int?_toDigits]
  rfl

theorem roundHalfEven_nonneg {value : ℚ} (nonneg : 0 ≤ value) : 0 ≤ roundHalfEven value := by
  have floorNonneg : 0 ≤ ⌊value⌋ := Int.floor_nonneg.mpr nonneg
  unfold roundHalfEven
  dsimp only
  split_ifs <;> omega

theorem roundHalfEven_nonpos {value : ℚ} (negative : value < 0) : roundHalfEven value ≤ 0 := by
  have floorNeg : ⌊value⌋ < 0 := Int.floor_lt.mpr (by simpa using negative)
  unfold roundHalfEven
  dsimp only
  split_ifs <;> omega

/-- `float` of a text with an optional minus sign, a whole part and two
decimals. -/
theorem float?_fixedPoint (negative : Bool) (whole : ℕ) {tens ones : ℕ} (tensDigit : tens < 10)
    (onesDigit : ones < 10) :
    float? ((if negative then ['-'] else []) ++ Nat.toDigits 10 whole ++
        ['.', Nat.digitChar tens, Nat.digitChar ones]) =
      some (if negative then -((whole : ℚ) + ((10 * tens + ones : ℕ) : ℚ) / 100)
        else (whole : ℚ) + ((10 * tens + ones : ℕ) : ℚ) / 100) := by
  set decimals := [Nat.digitChar tens, Nat.digitChar ones]
  have decimalDigits : ∀ c ∈ decimals, c.isDigit := by
    simp [decimals, tensDigit, onesDigit]
  have noSpace : ∀ c ∈ Nat.toDigits 10 whole ++ '.' :: decimals, isSpace c = false := by
    intro c member
    rcases List.mem_append.mp member with digit | rest
    · exact isSpace_of_isDigit (isDigit_of_mem_toDigits digit)
    · rcases List.mem_cons.mp rest with point | decimal
      · rw [point]
        decide
      · exact isSpace_of_isDigit (decimalDigits c decimal)
  -- the whole part stops at the point, the decimals at the end of the text
  have wholePart := @digitPart_digits (Nat.toDigits 10 whole) ('.' :: decimals)
    (fun c member => isDigit_of_mem_toDigits member) (by simp) 0 0
  have fraction := @digitPart_digits decimals [] decimalDigits (by simp) 0 0
  have fractionValue : digitsValue 0 decimals = 10 * tens + ones := by
    simp only [decimals, digitsValue, List.foldl_cons, List.foldl_nil,
      Nat.toNat_digitChar_sub_48_of_lt_ten tensDigit, Nat.toNat_digitChar_sub_48_of_lt_ten onesDigit]
    omega
  rw [List.append_nil] at fraction
  have twoDecimals : decimals.length = 2 := rfl
  have counted := length_toDigits_pos whole
  cases negative with
  | true =>
      have noSpaceSigned : ∀ c ∈ '-' :: (Nat.toDigits 10 whole ++ '.' :: decimals),
          isSpace c = false := by
        intro c member
        rcases List.mem_cons.mp member with minus | unsigned
        · rw [minus]
          decide
        · exact noSpace c unsigned
      simp only [if_true, List.cons_append, List.nil_append]
      simp only [float?, strip_of_no_space noSpaceSigned, sign, wholePart, fraction,
        fractionValue, digitsValue_toDigits]
      simp [Nat.pos_iff_ne_zero.mp counted, exponent, twoDecimals]
      norm_num
  | false =>
      simp only [Bool.false_eq_true, if_false, List.nil_append]
      simp only [float?, strip_of_no_space noSpace, sign_toDigits_append, wholePart, fraction,
        fractionValue, digitsValue_toDigits]
      simp [Nat.pos_iff_ne_zero.mp counted, exponent, twoDecimals]
      norm_num

/-- The hundredths of a value as a whole part and two decimals. -/
theorem hundredths_digits (hundredths : ℕ) :
    ((hundredths / 100 : ℕ) : ℚ) + ((10 * (hundredths / 10 % 10) + hundredths % 10 : ℕ) : ℚ) / 100 =
      (hundredths : ℚ) / 100 := by
  have twoDigits : 10 * (hundredths / 10 % 10) + hundredths % 10 = hundredths % 100 := by
    omega
  have split : (hundredths : ℚ) = 100 * (hundredths / 100 : ℕ) + (hundredths % 100 : ℕ) := by
    exact_mod_cast (Nat.div_add_mod hundredths 100).symm
  rw [twoDigits, split]
  ring

/-- `float(f"{value:.2f}")` is the value rounded to two decimals. -/
theorem float?_formatFixed2 (value : ℚ) : float? (formatFixed2 value) = some (round2 value) := by
  unfold formatFixed2 round2
  set rounded := roundHalfEven (value * 100)
  have tens : rounded.natAbs / 10 % 10 < 10 := Nat.mod_lt _ (by norm_num)
  have ones : rounded.natAbs % 10 < 10 := Nat.mod_lt _ (by norm_num)
  have parsed := float?_fixedPoint (decide (value < 0)) (rounded.natAbs / 100) tens ones
  simp only [decide_eq_true_eq, hundredths_digits] at parsed
  rw [parsed]
  by_cases negative : value < 0
  · -- the printed magnitude is the rounded value without its sign
    have nonpos : rounded ≤ 0 := roundHalfEven_nonpos (by linarith)
    have magnitude : ((rounded.natAbs : ℕ) : ℚ) = -(rounded : ℚ) := by
      rw [← Int.cast_natCast, Int.ofNat_natAbs_of_nonpos nonpos, Int.cast_neg]
    simp only [negative, if_true, magnitude, neg_div, neg_neg]
  · have nonneg : 0 ≤ rounded := roundHalfEven_nonneg (by linarith)
    have magnitude : ((rounded.natAbs : ℕ) : ℚ) = (rounded : ℚ) := by
      rw [← Int.cast_natCast, Int.natAbs_of_nonneg nonneg]
    simp only [negative, if_false, magnitude]

theorem mem_formatFixed2 {value : ℚ} {c : Char} (member : c ∈ formatFixed2 value) :
    c = '-' ∨ c = '.' ∨ c.isDigit := by
  unfold formatFixed2 at member
  simp only [List.mem_append, List.mem_cons, List.not_mem_nil, or_false] at member
  rcases member with (sign | digit) | point | tens | ones
  · split_ifs at sign
    · exact .inl (List.mem_singleton.mp sign)
    · cases sign
  · exact .inr (.inr (isDigit_of_mem_toDigits digit))
  · exact .inr (.inl point)
  · exact .inr (.inr (tens ▸ digitChar_isDigit (Nat.mod_lt _ (by norm_num))))
  · exact .inr (.inr (ones ▸ digitChar_isDigit (Nat.mod_lt _ (by norm_num))))

theorem isSpace_of_mem_formatFixed2 {value : ℚ} {c : Char} (member : c ∈ formatFixed2 value) :
    isSpace c = false := by
  rcases mem_formatFixed2 member with minus | point | digit
  · rw [minus]
    decide
  · rw [point]
    decide
  · exact isSpace_of_isDigit digit

theorem formatFixed2_ne_nil (value : ℚ) : formatFixed2 value ≠ [] := by
  simp [formatFixed2]

end Py

end PowerCapping
