import Mathlib.Data.Nat.Cast.Field
import Reckoner.Proofs.Decimal.Layout
import Reckoner.Proofs.Display.Finite

/-!
# How a result is shown

A result that is not a quotient is rounded to a decimal with twelve significant digits, and what is
written out is the double next to that decimal: exactly, if it is a whole number below 10^21, and as
its shortest decimal otherwise. In both forms the text is read as that double again.
-/

namespace Reckoner

namespace Display

/-- The layout of results writes powers of ten except near the point. -/
theorem layout_near : layout.Near := ⟨by decide, by decide, by decide⟩

/-! ## Rounding to twelve digits -/

section Rounding

variable {units : ℕ}

/-- The decimal with twelve significant digits to which a magnitude is rounded. -/
def significant (units : ℕ) : Scaled :=
  toSignificant roundHalfEven resultDigits units unitsPerOne

/-- A magnitude is rounded in steps of its twelfth digit. -/
theorem significant_eq (units : ℕ) : significant units =
    ⟨roundHalfEven (inSteps units unitsPerOne (lastExponent 12 units)).1
      (inSteps units unitsPerOne (lastExponent 12 units)).2, lastExponent 12 units⟩ := by
  have exponent : leadingExponent units unitsPerOne - (resultDigits - 1 : ℕ) =
      lastExponent 12 units := lastExponent_eq (show 0 < 12 by decide)
  rw [significant, toSignificant]
  simp only [exponent]

/-- A magnitude is rounded to the nearest multiple of the step of its twelfth digit. -/
theorem significant_nearest (units : ℕ) :
    NearestEven ((units : ℚ) / unitsPerOne / 10 ^ lastExponent 12 units)
      ((significant units).coefficient : ℕ) := by
  obtain ⟨steps_pos, ratio⟩ := inSteps_div units unitsPerOne_pos (lastExponent 12 units)
  have near := nearestEven_roundHalfEven (inSteps units unitsPerOne (lastExponent 12 units)).1
    steps_pos
  have coefficient : (significant units).coefficient =
      roundHalfEven (inSteps units unitsPerOne (lastExponent 12 units)).1
        (inSteps units unitsPerOne (lastExponent 12 units)).2 := by
    rw [significant_eq]
  rwa [coefficient, ← ratio]

/-- The decimal to which a magnitude is rounded, as a rational. -/
theorem significant_toRat (units : ℕ) : (significant units).toRat =
    (significant units).coefficient * 10 ^ lastExponent 12 units := by
  rw [Scaled.toRat, significant_eq]

/-- A magnitude is rounded to a number of twelve digits, or to the next power of ten. -/
theorem significant_bounds (positive : 0 < units) :
    10 ^ 11 ≤ (significant units).coefficient ∧ (significant units).coefficient ≤ 10 ^ 12 := by
  obtain ⟨least, greatest⟩ := (leadsAt_units positive).div_step (show 0 < 12 by decide)
  have near := significant_nearest units
  constructor
  · exact_mod_cast near.ge_of_ge (l := ((10 ^ 11 : ℕ) : ℤ)) (by rw [Int.cast_natCast]; exact least)
  · exact_mod_cast near.le_of_le (l := ((10 ^ 12 : ℕ) : ℤ))
      (by rw [Int.cast_natCast]; exact greatest.le)

/-- The decimal to which a magnitude is rounded lies in the same decade, or begins the next one. -/
theorem significant_ge (positive : 0 < units) :
    10 ^ leadingExponent units unitsPerOne ≤ (significant units).toRat := by
  rw [significant_toRat, ← pow_mul_step units (show 0 < 12 by decide)]
  exact mul_le_mul_of_nonneg_right (Nat.cast_le.2 (significant_bounds positive).1)
    (ten_zpow_pos _).le

/-- The decimal to which a magnitude is rounded has twelve digits. -/
theorem significant_hasDigits (positive : 0 < units) : HasDigits 12 (significant units).toRat :=
  hasDigits_of_le (by decide) (significant_bounds positive).2 _

/-- The decimal to which a magnitude is rounded is positive. -/
theorem significant_pos (positive : 0 < units) : 0 < (significant units).toRat := by
  exact (ten_zpow_pos _).trans_le (significant_ge positive)

/-- The decimal to which a magnitude is rounded is at most half a step away. -/
theorem significant_within (units : ℕ) :
    |(units : ℚ) / unitsPerOne - (significant units).toRat| ≤ 10 ^ lastExponent 12 units / 2 := by
  have within := (significant_nearest units).within_steps
  rwa [Int.cast_natCast, ← significant_toRat] at within

/-- The twelfth digit of a magnitude is worth at most 10^-11 of it. -/
theorem step_mul_le (positive : 0 < units) :
    (10 : ℚ) ^ lastExponent 12 units * 10 ^ 11 ≤ units / unitsPerOne := by
  have least := ((leadsAt_units positive).div_step (show 0 < 12 by decide)).1
  rw [le_div_iff₀ (ten_zpow_pos _), Nat.cast_pow, Nat.cast_ofNat, mul_comm] at least
  exact least

/-- The double next to the decimal to which a magnitude is rounded is finite and not zero. -/
theorem exists_rounded (negative : Bool) (positive : 0 < units) (exact : Representable units) :
    ∃ others, ∃ exact' : Representable others,
      rounded negative units = .finite negative others exact' ∧
      UnitsNear ((significant units).toRat * unitsPerOne) others ∧ 0 < others := by
  obtain ⟨sign, others, exact', read⟩ :=
    Double.exists_finite (rounded_isFinite negative positive exact)
  have decimal : rounded negative units = ((significant units).decimal negative).toDouble := rfl
  obtain ⟨rfl, near⟩ := Scaled.toDouble_eq_finite_iff.1 (decimal.symm.trans read)
  refine ⟨others, exact', read, near, Nat.pos_of_ne_zero ?_⟩
  rintro rfl
  -- The decimal is more than half a unit.
  have nonneg := mul_units_nonneg (significant_pos positive).le
  have one : (1 : ℚ) ≤ units := by exact_mod_cast positive
  have close := mul_units_le ((le_abs_self _).trans (significant_within units))
  have step := mul_units_le (step_mul_le positive)
  rw [units_div_mul] at step
  rw [sub_mul, units_div_mul] at close
  rcases near.error nonneg with half | fraction
  · rw [Nat.cast_zero, sub_zero, abs_of_nonneg nonneg] at half
    linarith
  · rw [Nat.cast_zero, sub_zero, abs_of_nonneg nonneg] at fraction
    linarith

/-- A result is shown as the magnitude of the double next to its decimal with twelve digits. -/
theorem exists_result (negative : Bool) (positive : 0 < units) (exact : Representable units) :
    ∃ others, Representable others ∧ UnitsNear ((significant units).toRat * unitsPerOne) others ∧
      0 < others ∧ result (.finite negative units exact) = signed negative (magnitude others) := by
  obtain ⟨others, exact', read, near, some_units⟩ := exists_rounded negative positive exact
  refine ⟨others, exact', near, some_units, ?_⟩
  rw [result]
  simp only [if_neg positive.ne', read, if_neg some_units.ne']

end Rounding

/-! ## Writing out -/

/-- A magnitude is a whole number that is written out exactly. -/
def IsWrittenOut (units : ℕ) : Prop := units % unitsPerOne = 0 ∧ units < 10 ^ 21 * unitsPerOne

/-- What is written for a magnitude: the magnitude itself, or its shortest decimal. -/
theorem magnitude_spells {units : ℕ} (positive : 0 < units) (exact : Representable units) :
    ∃ shown : ℚ, (magnitude units).Spells shown ∧ 0 ≤ shown ∧
      UnitsNear (shown * unitsPerOne) units ∧
      (IsWrittenOut units → shown = units / unitsPerOne) ∧
      (¬IsWrittenOut units → shown = (shortest units).toRat) := by
  unfold magnitude
  by_cases whole : IsWrittenOut units
  · have written : units % unitsPerOne = 0 ∧ units < 10 ^ 21 * unitsPerOne := whole
    rw [if_pos written]
    obtain ⟨digits, plain, -, numeral, value⟩ := Text.exists_whole (units / unitsPerOne)
    have few : digits.length ≤ 10 ^ 15 := by
      have count := (Text.digitCount_le_iff (by decide)).2
        ((Nat.div_lt_iff_lt_mul unitsPerOne_pos).2 written.2)
      rw [Text.digitCount, ← numeral, Text.spelled_length] at count
      exact Nat.le_trans count (by decide)
    have spells := Text.spells_pointed _ none plain (Option.some_ne_none _).symm few (by simp)
    rw [Text.pointed, List.append_nil, Option.getD_none, List.append_nil, List.length_nil, pow_zero,
      div_one, numeral, value, Nat.cast_div (Nat.dvd_of_mod_eq_zero written.1)
        Double.unitsPerOne_cast_pos.ne'] at spells
    refine ⟨units / unitsPerOne, spells, div_nonneg (Nat.cast_nonneg _) (Nat.cast_nonneg _), ?_,
      fun _ => rfl, fun differs => absurd whole differs⟩
    rw [units_div_mul]
    exact UnitsNear.self exact.spacing_dvd
  · have written : ¬(units % unitsPerOne = 0 ∧ units < 10 ^ 21 * unitsPerOne) := whole
    rw [if_neg written]
    have near := shortest_near positive exact
    have some_digit := shortest_coefficient_pos positive exact
    have moderate := shortest_moderate positive exact.lt_limit
    refine ⟨_, Layout.spells_write layout_near moderate some_digit, ?_, near,
      fun whole' => absurd whole' whole, fun _ => rfl⟩
    exact mul_nonneg (Nat.cast_nonneg _) (ten_zpow_pos _).le

end Display

end Reckoner
