import Reckoner.Decimal.Reader

/-!
# Digits

Numerals are made of the ten ASCII digits. A list of numbers below ten spells a text of digits,
every text of digits is spelled by one, and reading gives the list back. What is known of the
length of a numeral follows from the size of its number, and the other way round.
-/

namespace Reckoner

namespace Text

/-- The character of a digit. -/
def digitPoint (digit : Fin 10) : CodePoint := .char (Nat.digitChar digit)

/-- The text of digits, most significant first. -/
def spelled (digits : List (Fin 10)) : Text := digits.map digitPoint

/-! ## Single digits -/

/-- A digit is read as itself. -/
theorem digitValue?_digitPoint : ∀ digit : Fin 10, digitValue? (digitPoint digit) = some digit.val := by
  decide

/-- No digit is one of the marks of a numeral, an underscore or a blank. -/
theorem digitPoint_ne_mark : ∀ digit : Fin 10, digitPoint digit ≠ '-' ∧ digitPoint digit ≠ '+' ∧
    digitPoint digit ≠ '.' ∧ digitPoint digit ≠ 'e' ∧ digitPoint digit ≠ '_' ∧
      isBlank (digitPoint digit) = false := by
  decide

/-- The ASCII digits are the code points from 48 to 57. -/
theorem isAsciiDigit_iff {c : CodePoint} :
    c.isAsciiDigit = true ↔ 48 ≤ c.toNat ∧ c.toNat ≤ 57 := by
  rw [CodePoint.isAsciiDigit, Bool.and_eq_true, decide_eq_true_eq, decide_eq_true_eq]
  exact Iff.rfl

/-- Every ASCII digit is the character of a digit. -/
theorem exists_digitPoint {c : CodePoint} (digit : c.isAsciiDigit = true) :
    ∃ value, digitPoint value = c := by
  have bounds := isAsciiDigit_iff.1 digit
  refine ⟨⟨c.toNat - 48, by omega⟩, CodePoint.toNat_injective ?_⟩
  have places : ∀ value : Fin 10, (digitPoint value).toNat = 48 + value.val := by decide
  rw [places]
  simp only
  omega

/-! ## Texts of digits -/

/-- A text has as many characters as it has digits. -/
theorem spelled_length (digits : List (Fin 10)) : (spelled digits).length = digits.length :=
  List.length_map _

/-- A text of ASCII digits only. -/
def AllDigits (text : Text) : Prop := ∀ c ∈ text, c.isAsciiDigit = true

/-- A text of ASCII digits is spelled by digits. -/
theorem exists_spelled {text : Text} (digits : text.AllDigits) :
    ∃ values, spelled values = text := by
  induction text with
  | nil => exact ⟨[], rfl⟩
  | cons c rest ih =>
    obtain ⟨value, first⟩ := exists_digitPoint (digits c (List.mem_cons_self ..))
    obtain ⟨values, others⟩ := ih fun c member => digits c (List.mem_cons_of_mem _ member)
    exact ⟨value :: values, by rw [← first, ← others]; rfl⟩

/-- The numeral of a number has digits only. -/
theorem allDigits_ofNat (n : Nat) : (ofNat n).AllDigits := by
  intro c member
  obtain ⟨char, written, rfl⟩ := List.mem_map.1 member
  have digit : char.isDigit = true := Nat.isDigit_of_mem_toDigits (by decide) (by decide) written
  simp only [Char.isDigit, Bool.and_eq_true, decide_eq_true_eq, ge_iff_le,
    UInt32.le_iff_toNat_le] at digit
  exact isAsciiDigit_iff.2 digit

/-- The numeral of a number has a digit. -/
theorem ofNat_ne_nil (n : Nat) : ofNat n ≠ [] := fun empty =>
  Nat.toDigits_ne_nil (List.map_eq_nil_iff.1 empty)

/-- Zeros are digits. -/
theorem allDigits_zeros (count : Nat) : (zeros count).AllDigits := by
  intro c member
  rw [List.eq_of_mem_replicate member]
  decide

/-- Digits after digits are digits. -/
theorem AllDigits.append {front back : Text} (front_digits : front.AllDigits)
    (back_digits : back.AllDigits) : (front ++ back).AllDigits := fun c member =>
  (List.mem_append.1 member).elim (front_digits c) (back_digits c)

/-- Some of the characters of a text of digits are digits. -/
theorem AllDigits.sublist {part text : Text} (digits : text.AllDigits)
    (sublist : part.Sublist text) : part.AllDigits := fun c member =>
  digits c (sublist.subset member)

/-- Trimming takes characters away. -/
theorem trimEnd_sublist (drop : CodePoint → Bool) (text : Text) :
    (trimEnd drop text).Sublist text := by
  have reversed := (List.dropWhile_sublist drop (l := text.reverse)).reverse
  rwa [List.reverse_reverse] at reversed

/-! ## Lengths -/

/-- A number has at most so many digits if it is below that power of ten. -/
theorem digitCount_le_iff {n k : Nat} (positive : 0 < k) : digitCount n ≤ k ↔ n < 10 ^ k := by
  rw [digitCount, ofNat, List.length_map]
  exact Nat.length_toDigits_le_iff (by decide) positive

/-- Every number has a digit. -/
theorem digitCount_pos (n : Nat) : 0 < digitCount n := by
  rw [digitCount, ofNat, List.length_map]
  exact Nat.length_toDigits_pos

/-- A positive number is not below the power of ten of its first digit. -/
theorem pow_digitCount_le {n : Nat} (positive : 0 < n) : 10 ^ (digitCount n - 1) ≤ n := by
  rcases Nat.eq_zero_or_pos (digitCount n - 1) with single | more
  · rw [single]
    exact positive
  · refine Nat.le_of_not_lt fun below => ?_
    have fewer := (digitCount_le_iff more).2 below
    omega

/-- A number is below the power of ten of its number of digits. -/
theorem lt_pow_digitCount (n : Nat) : n < 10 ^ digitCount n :=
  (digitCount_le_iff (digitCount_pos n)).1 (Nat.le_refl _)

/-- A smaller number has no more digits. -/
theorem digitCount_mono {n m : Nat} (le : n ≤ m) : digitCount n ≤ digitCount m :=
  (digitCount_le_iff (digitCount_pos m)).2
    (Nat.lt_of_le_of_lt le (lt_pow_digitCount m))

/-! ## Reading -/

/-- Reading digits stops behind them if no digit follows. -/
theorem spanDigits_spelled (digits : List (Fin 10)) {rest : Text}
    (stop : ∀ c ∈ rest.head?, digitValue? c = none) :
    spanDigits (spelled digits ++ rest) = (digits.map Fin.val, rest) := by
  induction digits with
  | nil =>
    cases rest with
    | nil => rfl
    | cons c rest =>
      have none : digitValue? c = none := stop c rfl
      simp only [spelled, List.map_nil, List.nil_append, spanDigits, none]
  | cons digit digits ih =>
    have others : spanDigits (digits.map digitPoint ++ rest) = (digits.map Fin.val, rest) := ih
    simp only [spelled, List.map_cons, List.cons_append, spanDigits, digitValue?_digitPoint, others]

/-- Digits read after a number stay below the next number with as many zeros. -/
theorem digitsValue_lt (before : Nat) (digits : List (Fin 10)) :
    digitsValue before (digits.map Fin.val) < (before + 1) * 10 ^ digits.length := by
  induction digits generalizing before with
  | nil => simp [digitsValue]
  | cons digit digits ih =>
    have step : digitsValue before ((digit :: digits).map Fin.val) =
        digitsValue (before * 10 + digit) (digits.map Fin.val) := rfl
    rw [step, List.length_cons, Nat.pow_succ']
    refine Nat.lt_of_lt_of_le (ih _) ?_
    rw [← Nat.mul_assoc]
    exact Nat.mul_le_mul_right _ (by omega)

end Text

end Reckoner
