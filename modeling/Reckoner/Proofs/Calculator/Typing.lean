import Reckoner.Calculator.Entry
import Reckoner.Proofs.Decimal.Whole

/-!
# Typing a whole number

A digit that is typed replaces a lone zero, and joins what is typed otherwise, unless that has
fifteen digits already. So zeros at the front leave no trace, and what is shown at any time is the
numeral of the number that the first fifteen of the other digits make. Changing the sign shows the
numeral of the opposite number, and none of zero.
-/

namespace Reckoner

/-- A whole number as it is typed: digits, and possibly a change of sign after them. -/
structure TypedNumber where
  digits : List (Fin 10)
  negated : Bool
  /-- A digit is typed. -/
  digits_ne : digits ≠ []

namespace TypedNumber

/-- The digits that count: not the zeros at the front, and no more than fifteen. -/
def significant (digits : List (Fin 10)) : List (Fin 10) := (digits.dropWhile (· = 0)).take 15

/-- The number that typed digits make. -/
def magnitude (digits : List (Fin 10)) : Nat :=
  Text.digitsValue 0 ((significant digits).map Fin.val)

/-- The number that is typed. -/
def value (typed : TypedNumber) : Int :=
  if typed.negated then -(magnitude typed.digits : Int) else magnitude typed.digits

/-- The names of the buttons that are pressed. -/
def names (typed : TypedNumber) : List Text :=
  typed.digits.map (fun digit => [Text.digitPoint digit]) ++
    if typed.negated then [("±" : Text)] else []

/-! ## Digits that count -/

/-- No more than fifteen digits count. -/
theorem significant_length (digits : List (Fin 10)) : (significant digits).length ≤ 15 := by
  rw [significant, List.length_take]
  exact Nat.min_le_left _ _

/-- The digits that count do not begin with zero. -/
theorem significant_head (digits : List (Fin 10)) : (significant digits).head? ≠ some 0 := by
  intro zero
  have first : (digits.dropWhile (· = 0)).head? = some 0 := by
    rw [significant, List.head?_take, if_neg (by decide)] at zero
    exact zero
  obtain ⟨rest, leading⟩ := List.head?_eq_some_iff.1 first
  have nonzero := List.head_dropWhile_not (p := fun digit : Fin 10 => decide (digit = 0))
    (l := digits) (by rw [leading]; exact List.cons_ne_nil _ _)
  simp only [leading, List.head_cons] at nonzero
  cases nonzero

/-- Another digit counts, unless it is a zero at the front or there are fifteen already. -/
theorem significant_concat (digits : List (Fin 10)) (digit : Fin 10) :
    significant (digits ++ [digit]) =
      if 15 ≤ (significant digits).length then significant digits
      else if significant digits = [] ∧ digit = 0 then []
      else significant digits ++ [digit] := by
  unfold significant
  rw [List.dropWhile_append]
  cases leading : digits.dropWhile (· = 0) with
  | nil =>
    by_cases zero : digit = 0
    · simp [zero]
    · simp [zero]
  | cons first rest =>
    have some_digit : (first :: rest).take 15 ≠ [] := List.cons_ne_nil _ _
    rw [if_neg (by simp), if_neg (fun none : _ ∧ _ => some_digit none.1), List.length_take]
    generalize first :: rest = counted
    by_cases full : 15 ≤ counted.length
    · rw [if_pos (by omega), List.take_append_of_le_length full]
    · rw [if_neg (by omega), List.take_of_length_le (by omega : counted.length ≤ 15)]
      exact List.take_of_length_le (by rw [List.length_append, List.length_singleton]; omega)

/-- What is shown of typed digits are those that count, or a lone zero. -/
theorem ofNat_magnitude (digits : List (Fin 10)) : Text.ofNat (magnitude digits) =
    if significant digits = [] then State.zero else Text.spelled (significant digits) := by
  unfold magnitude
  split
  · rename_i none
    rw [none]
    decide
  · rename_i some_digit
    exact (Text.spelled_eq_ofNat some_digit (significant_head digits)).1.symm

/-- Fifteen digits make a number of fifteen digits at most. -/
theorem magnitude_lt (digits : List (Fin 10)) : magnitude digits < 10 ^ 15 := by
  calc magnitude digits < (0 + 1) * 10 ^ (significant digits).length := Text.digitsValue_lt 0 _
    _ = 10 ^ (significant digits).length := by rw [Nat.zero_add, Nat.one_mul]
    _ ≤ 10 ^ 15 := Nat.pow_le_pow_right (by decide) (significant_length digits)

/-- The numeral of a typed number may be written. -/
theorem value_short (typed : TypedNumber) : Text.exceedsDigitLimit typed.value = false := by
  have size : typed.value.natAbs = magnitude typed.digits := by
    unfold value
    split
    · rw [Int.natAbs_neg, Int.natAbs_natCast]
    · exact Int.natAbs_natCast _
  rw [Text.exceedsDigitLimit_eq_false, size]
  exact Nat.lt_of_lt_of_le (magnitude_lt _) (Nat.pow_le_pow_right (by decide) (by decide))

end TypedNumber

namespace State

open TypedNumber (significant magnitude)

/-! ## Typing digits -/

/-- Digits have no sign to take off. -/
theorem unsignedOperand_spelled (digits : List (Fin 10)) :
    unsignedOperand (Text.spelled digits) = Text.spelled digits := by
  cases digits with
  | nil => rfl
  | cons digit digits =>
    unfold unsignedOperand Text.spelled
    rw [List.map_cons]
    split
    · rename_i same
      exact absurd (List.cons.inj same).1 (Text.digitPoint_ne_mark digit).1
    · rfl

/-- Digits that do not begin with zero are no lone zero. -/
theorem spelled_ne_zero {digits : List (Fin 10)} (leading : digits.head? ≠ some 0) :
    Text.spelled digits ≠ zero := by
  intro same
  cases digits with
  | nil => cases same
  | cons digit digits =>
    have first : Text.digitPoint digit = Text.digitPoint 0 := (List.cons.inj same).1
    have values := congrArg Text.digitValue? first
    rw [Text.digitValue?_digitPoint, Text.digitValue?_digitPoint] at values
    exact leading (congrArg some (Fin.ext (Option.some.inj values)))

/-- A digit is typed behind digits. -/
theorem typeDigit_magnitude (digits : List (Fin 10)) (chosen : Option Chosen) (digit : Fin 10) :
    (entering (Text.ofNat (magnitude digits)) chosen).typeDigit [Text.digitPoint digit] =
      entering (Text.ofNat (magnitude (digits ++ [digit]))) chosen := by
  have leading := TypedNumber.significant_head digits
  have length := TypedNumber.significant_length digits
  rw [TypedNumber.ofNat_magnitude, TypedNumber.ofNat_magnitude, TypedNumber.significant_concat]
  generalize significant digits = counted at leading length
  by_cases none : counted = []
  · subst none
    simp only [↓reduceIte, typeDigit, operandWith, List.length_nil]
    have single : unsignedOperand [Text.digitPoint digit] = [Text.digitPoint digit] :=
      unsignedOperand_spelled [digit]
    rw [single, if_neg (by decide : ¬15 ≤ 0)]
    by_cases zero : digit = 0
    · subst zero
      rfl
    · simp [zero, Text.spelled, longestOperand]
  · have pushed : operandWith (Text.spelled counted) [Text.digitPoint digit] =
        Text.spelled (counted ++ [digit]) := by
      rw [operandWith, if_neg (spelled_ne_zero leading), Text.spelled, Text.spelled,
        List.map_append]
      rfl
    simp only [none, false_and, ↓reduceIte, typeDigit, pushed, unsignedOperand_spelled,
      Text.spelled_length, List.length_append, List.length_singleton, longestOperand]
    by_cases full : 15 ≤ counted.length
    · rw [if_neg (by omega), if_pos full, if_neg none]
    · rw [if_pos (by omega), if_neg full, if_neg (by simp)]

/-- A first digit stands alone. -/
theorem magnitude_single (digit : Fin 10) :
    Text.ofNat (magnitude [digit]) = [Text.digitPoint digit] := by
  revert digit
  decide

/-! ## Changing the sign -/

/-- Changing the sign of a number that is shown shows the opposite number. -/
theorem negateOperand_ofNat (n : Nat) : negateOperand (Text.ofNat n) = Text.ofInt (-(n : Int)) := by
  rcases Nat.eq_zero_or_pos n with rfl | positive
  · rfl
  · obtain ⟨digits, nonempty, numeral, value⟩ := Text.exists_digits n
    have nonzero : Text.ofNat n ≠ zero := by
      intro same
      rw [← numeral] at same
      cases digits with
      | nil => exact nonempty rfl
      | cons digit digits =>
        obtain ⟨first, rest⟩ := List.cons.inj same
        obtain rfl : digits = [] := List.map_eq_nil_iff.1 rest
        have values := congrArg Text.digitValue? first
        rw [Text.digitValue?_digitPoint] at values
        have none : digit.val = 0 := Option.some.inj values
        rw [← value, List.map_singleton, none] at positive
        exact absurd positive (by decide)
    rw [Text.ofInt_neg positive]
    unfold negateOperand
    rw [if_neg nonzero, ← numeral]
    cases digits with
    | nil => exact absurd rfl nonempty
    | cons digit digits =>
      unfold Text.spelled
      rw [List.map_cons]
      split
      · rename_i same
        exact absurd (List.cons.inj same).1 (Text.digitPoint_ne_mark digit).1
      · rfl

end State

end Reckoner
