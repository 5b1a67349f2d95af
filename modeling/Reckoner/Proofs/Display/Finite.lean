import Reckoner.Display
import Reckoner.Proofs.Double.Shortest

/-!
# Rounding to twelve digits stays finite

A result is shown as the double next to its decimal with twelve significant digits. Were this to
overflow, a finite result would be shown as an error. It does not: below the last decade of the
doubles there is room up to the next power of ten, and within that decade the greatest double is
itself rounded down.
-/

namespace Reckoner

/-! ## Decimals next to finite doubles -/

/-- The double next to a whole decimal is finite up to the greatest finite magnitude. -/
theorem Decimal.toDouble_isFinite_ofNat (negative : Bool) {coefficient shift : Nat}
    (fits : coefficient * 10 ^ shift * unitsPerOne ≤ greatestUnits) :
    (Decimal.toDouble ⟨negative, coefficient, .ofNat shift⟩).isFinite = true := by
  unfold toDouble
  simp only
  by_cases zero : coefficient = 0
  · rw [if_pos zero]
    rfl
  · have moderate : ¬400 < shift := by
      have limit : greatestUnits < unitsPerOne * 10 ^ 400 := by decide +kernel
      have some_digit : 10 ^ shift ≤ coefficient * 10 ^ shift :=
        Nat.le_mul_of_pos_left _ (Nat.pos_of_ne_zero zero)
      have less : unitsPerOne * 10 ^ shift < unitsPerOne * 10 ^ 400 := by
        refine Nat.lt_of_le_of_lt ?_ limit
        rw [Nat.mul_comm]
        exact Nat.le_trans (Nat.mul_le_mul_right unitsPerOne some_digit) fits
      have exponent : shift < 400 := lt_of_mul_pow_lt less
      omega
    rw [if_neg zero, if_neg moderate]
    exact Double.round_isFinite negative (by decide) (by rwa [Nat.one_mul])

/-- The double next to a decimal with a fraction is finite up to the greatest finite magnitude. -/
theorem Decimal.toDouble_isFinite_negSucc (negative : Bool) {coefficient shift : Nat}
    (fits : coefficient * unitsPerOne ≤ 10 ^ (shift + 1) * greatestUnits) :
    (Decimal.toDouble ⟨negative, coefficient, .negSucc shift⟩).isFinite = true := by
  unfold toDouble
  simp only
  by_cases zero : coefficient = 0
  · rw [if_pos zero]
    rfl
  · rw [if_neg zero]
    by_cases tiny : coefficient.log2 + 400 < shift
    · rw [if_pos tiny]
      rfl
    · rw [if_neg tiny]
      exact Double.round_isFinite negative (Nat.pow_pos (by decide)) fits

namespace Display

/-- The steps of the last decade of the doubles, and the greatest finite double in these steps. -/
theorem last_decade :
    2 * greatestUnits < unitsPerOne * 10 ^ 297 * (2 * 179769313486 + 1) ∧
      179769313486 * 10 ^ 297 * unitsPerOne ≤ greatestUnits := by
  decide +kernel

/-- A finite magnitude rounded to twelve significant digits is finite. -/
theorem rounded_isFinite (negative : Bool) {units : Nat} (positive : 0 < units)
    (exact : Representable units) : (rounded negative units).isFinite = true := by
  have bounds := leadingExponent_bounds positive exact.lt_limit
  have steps := inSteps_lt positive unitsPerOne_pos (show 0 < resultDigits by decide)
  unfold rounded toSignificant Scaled.toDouble
  simp only
  cases exponent : leadingExponent units unitsPerOne - ((resultDigits - 1 : Nat) : Int) with
  | negSucc shift =>
    rw [exponent, inSteps] at steps
    rw [inSteps]
    have coefficient := roundHalfEven_le_of_le unitsPerOne_pos (Nat.le_of_lt steps)
    refine Decimal.toDouble_isFinite_negSucc negative ?_
    have room : 10 ^ resultDigits * unitsPerOne ≤ greatestUnits := by decide +kernel
    exact Nat.le_trans (Nat.mul_le_mul_right _ coefficient)
      (Nat.le_trans room (Nat.le_mul_of_pos_left _ (Nat.pow_pos (by decide))))
  | ofNat shift =>
    rw [exponent, inSteps] at steps
    rw [inSteps]
    have step_pos : 0 < unitsPerOne * 10 ^ shift :=
      Nat.mul_pos unitsPerOne_pos (Nat.pow_pos (by decide))
    refine Decimal.toDouble_isFinite_ofNat negative ?_
    have last : shift ≤ 297 := by
      have digits : resultDigits = 12 := rfl
      simp only [digits, Int.ofNat_eq_natCast] at exponent
      omega
    by_cases lower : shift ≤ 296
    · have coefficient := roundHalfEven_le_of_le step_pos (Nat.le_of_lt steps)
      have room : 10 ^ resultDigits * 10 ^ 296 * unitsPerOne ≤ greatestUnits := by decide +kernel
      exact Nat.le_trans (Nat.mul_le_mul_right _ (mul_pow_le_mul_pow coefficient lower)) room
    · obtain rfl : shift = 297 := by omega
      have doubled := Nat.mul_le_mul_left 2 exact.le_greatestUnits
      have coefficient := roundHalfEven_le (Nat.lt_of_le_of_lt doubled last_decade.1)
      exact Nat.le_trans (Nat.mul_le_mul_right _ (Nat.mul_le_mul_right _ coefficient))
        last_decade.2

end Display

end Reckoner
