import Mathlib.Data.List.Induction
import Reckoner.Proofs.Decimal.Spelling

/-!
# Numerals of integers

The numeral of a number is made of the digits of that number, most significant first, and no other
digits without a leading zero spell it. So what is written for an integer is read back as the
decimal with that integer and no fraction.
-/

namespace Reckoner

namespace Text

/-! ## Digits and their number -/

/-- A single digit is its own numeral. -/
theorem ofNat_digit : ∀ digit : Fin 10, ofNat digit = [digitPoint digit] := by
  decide

/-- A digit behind a numeral makes the numeral of ten times the number and the digit. -/
theorem ofNat_push {n : Nat} (positive : 0 < n) (digit : Fin 10) :
    ofNat (n * 10 + digit) = ofNat n ++ [digitPoint digit] := by
  have grown := Nat.toDigits_append_toDigits (b := 10) (by decide) positive digit.isLt
  rw [Nat.toDigits_of_lt_base digit.isLt, Nat.mul_comm] at grown
  rw [ofNat, ← grown, List.map_append]
  rfl

/-- The last digit counts once, and the digits before it ten times. -/
theorem digitsValue_concat (before : Nat) (digits : List Nat) (digit : Nat) :
    digitsValue before (digits ++ [digit]) = digitsValue before digits * 10 + digit := by
  rw [digitsValue, List.foldl_append]
  rfl

/-- Digits that do not begin with zero spell the numeral of their number. -/
theorem spelled_eq_ofNat {digits : List (Fin 10)} (nonempty : digits ≠ [])
    (leading : digits.head? ≠ some 0) :
    spelled digits = ofNat (digitsValue 0 (digits.map Fin.val)) ∧
      0 < digitsValue 0 (digits.map Fin.val) := by
  induction digits using List.reverseRecOn with
  | nil => exact absurd rfl nonempty
  | append_singleton front digit ih =>
    rw [List.map_append, List.map_singleton, digitsValue_concat, spelled, List.map_append]
    by_cases single : front = []
    · subst single
      have positive : 0 < digit.val := Nat.pos_of_ne_zero fun zero =>
        leading (congrArg some (Fin.ext zero))
      rw [List.map_nil, List.map_nil, List.nil_append, show digitsValue 0 [] = 0 from rfl,
        Nat.zero_mul, Nat.zero_add, ofNat_digit]
      exact ⟨rfl, positive⟩
    · have same : (front ++ [digit]).head? = front.head? := by
        cases front with
        | nil => exact absurd rfl single
        | cons first rest => rfl
      obtain ⟨numeral, positive⟩ := ih single (same ▸ leading)
      rw [ofNat_push positive, ← numeral]
      exact ⟨rfl, by omega⟩

/-- Every number has digits that spell its numeral. -/
theorem exists_digits (n : Nat) : ∃ digits : List (Fin 10), digits ≠ [] ∧
    spelled digits = ofNat n ∧ digitsValue 0 (digits.map Fin.val) = n := by
  induction n using Nat.strongRecOn with
  | ind n ih =>
    have last : n % 10 < 10 := Nat.mod_lt _ (by decide)
    by_cases small : n < 10
    · refine ⟨[⟨n, small⟩], by simp, (ofNat_digit ⟨n, small⟩).symm, ?_⟩
      show 0 * 10 + n = n
      omega
    · obtain ⟨front, -, numeral, value⟩ := ih (n / 10) (by omega)
      have split : n = n / 10 * 10 + n % 10 := by omega
      refine ⟨front ++ [⟨n % 10, last⟩], by simp, ?_, ?_⟩
      · conv_rhs => rw [split, ofNat_push (by omega) ⟨n % 10, last⟩, ← numeral]
        rw [spelled, List.map_append]
        rfl
      · rw [List.map_append, List.map_singleton, digitsValue_concat, value, ← split]

/-! ## Integers -/

/-- An integer with a sign. -/
theorem ofInt_eq_signed (n : Int) : ofInt n = Display.signed (decide (n < 0)) (ofNat n.natAbs) := by
  cases n with
  | ofNat n => rfl
  | negSucc n =>
    rw [decide_eq_true (Int.negSucc_lt_zero n)]
    rfl

/-- The numeral of the opposite of a positive number. -/
theorem ofInt_neg {n : Nat} (positive : 0 < n) : ofInt (-(n : Int)) = ('-' : CodePoint) :: ofNat n := by
  rw [ofInt_eq_signed, decide_eq_true (by omega), Int.natAbs_neg, Int.natAbs_natCast]
  rfl

/-- An integer whose numeral may be written has no more digits than the limit. -/
theorem exceedsDigitLimit_eq_false {n : Int} :
    exceedsDigitLimit n = false ↔ n.natAbs < 10 ^ digitLimit := by
  rw [exceedsDigitLimit, decide_eq_false_iff_not, Nat.not_le]

end Text

namespace Decimal

/-- The decimal of an integer. -/
def ofInt (n : Int) : Decimal := ⟨decide (n < 0), n.natAbs, 0⟩

/-- The integer in the decimal of an integer is the integer itself. -/
theorem truncate_ofInt (n : Int) : (ofInt n).truncate = n := by
  have whole : (ofInt n).wholePart = n.natAbs := by
    unfold wholePart ofInt
    simp only
    split
    · rename_i zero
      exact zero.symm
    · exact Nat.mul_one _
  unfold truncate
  rw [whole]
  by_cases negative : n < 0
  · rw [if_pos (show (ofInt n).negative = true from decide_eq_true negative)]
    omega
  · rw [if_neg (by simp [ofInt, negative])]
    omega

/-- The numeral of an integer, if it may be written, is read as the decimal of that integer. -/
theorem ofText?_ofInt {n : Int} (short : Text.exceedsDigitLimit n = false) :
    ofText? (Text.ofInt n) = some (ofInt n) := by
  obtain ⟨digits, nonempty, numeral, value⟩ := Text.exists_digits n.natAbs
  have few : digits.length ≤ 10 ^ 15 := by
    have count : Text.digitCount n.natAbs ≤ digitLimit :=
      (Text.digitCount_le_iff (by decide)).2 (Text.exceedsDigitLimit_eq_false.1 short)
    rw [Text.digitCount, ← numeral, Text.spelled_length] at count
    exact Nat.le_trans count (by decide)
  let spelling : Spelling := ⟨⟨decide (n < 0), digits, none, nonempty⟩, none⟩
  have written : spelling.text = Text.ofInt n := by
    rw [Text.ofInt_eq_signed, ← numeral]
    simp only [spelling, Spelling.text, Mantissa.before, Mantissa.unsignedBefore, Text.pointed,
      Spelling.powerText, Option.map_none, Option.getD_none, List.append_nil]
  have read : spelling.decimal = ofInt n := by
    simp only [spelling, Spelling.decimal, Mantissa.numeral, Mantissa.decimals, Numeral.toDecimal,
      Option.getD_none, Option.map_none, List.map_nil, value, ofInt]
    rfl
  have fits : spelling.Short := ⟨⟨few, Nat.zero_le _⟩, fun power none => absurd none (by simp [spelling])⟩
  rw [← written, fits.ofText?_text, read]

end Decimal

end Reckoner
