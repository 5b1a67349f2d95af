import Reckoner.Proofs.Display.Quotient
import Reckoner.Proofs.Display.Result

/-!
# Shown results are stable

A shown result that is read again as the nearest double is shown as before. For quotients the
magnitude decides: below 2^19 neighbouring doubles are so close that the double read is rounded to
the multiple that was shown, and from there on they are so far apart that it is the quotient itself.
Other results have twelve digits, and the double next to a decimal with twelve digits is rounded to
a decimal that is read as the same double.
-/

namespace Reckoner

namespace Display

/-- What is shown for a value is a decimal with a nearest double, and every double nearest to it is
shown like the value. -/
def Rereads (shown : Double → Text) (value : Double) : Prop :=
  ∃ decimal, Decimal.ofText? (shown value) = some decimal ∧
    decimal.toDouble.IsNearest decimal.toRat ∧
    ∀ read : Double, read.IsNearest decimal.toRat → shown read = shown value

/-- Magnitudes with a sign are equal only if they are both zero or have the same sign. -/
theorem signedUnits_eq {left right : Bool} {m n : ℕ}
    (same : Double.signedUnits left m = Double.signedUnits right n) :
    m = n ∧ (left = right ∨ n = 0) := by
  unfold Double.signedUnits at same
  cases left <;> cases right <;> simp at same ⊢ <;> omega

/-- A form in which values are shown is stable at a value if the text denotes a rational, and the
magnitude nearest to that rational is shown like the value, with its sign. -/
theorem rereads_of {shown : Double → Text} {value : Double} {negative : Bool} {q : ℚ} {units : ℕ}
    (denotes : (shown value).Denotes (signedRat negative q)) (nonneg : 0 ≤ q)
    (near : UnitsNear (q * unitsPerOne) units) (exact : Representable units)
    (same : ∀ sign, sign = negative ∨ units = 0 →
      shown (.finite sign units exact) = shown value) : Rereads shown value := by
  obtain ⟨decimal, read, denoted⟩ := denotes
  have size : decimal.size = q := by
    rw [← abs_signedRat decimal.negative decimal.size_nonneg]
    exact (congrArg abs denoted).trans (abs_signedRat negative nonneg)
  have found : decimal.toDouble = .finite decimal.negative units exact :=
    Decimal.toDouble_eq_finite_iff.2 ⟨rfl, size.symm ▸ near⟩
  refine ⟨decimal, read, Decimal.isNearest_toDouble (by rw [found]; rfl), fun read nearest => ?_⟩
  rw [denoted, ← Double.signedRat_units_div] at nearest
  have value_eq := Double.IsNearest.toRat_eq near (mul_units_nonneg nonneg) exact nearest
  obtain ⟨sign, others, held, rfl⟩ := Double.exists_finite nearest.finite
  have counted := (div_left_inj' Double.unitsPerOne_cast_pos.ne').1 value_eq
  obtain ⟨rfl, sign_eq⟩ := signedUnits_eq (Int.cast_injective counted)
  exact same sign sign_eq

/-! ## Quotients -/

/-- The magnitude from which neighbouring doubles are farther apart than 10^-10. -/
def coarseUnits : ℕ := 2 ^ 19 * unitsPerOne

/-- From there on the spacing is more than 10^-10, and less than twice that. -/
theorem spacing_coarseUnits : coarseUnits = 2 ^ 52 * spacing coarseUnits ∧
    1 < spacing coarseUnits ∧ unitsPerOne < spacing coarseUnits * 10 ^ 10 ∧
      spacing coarseUnits * 10 ^ 10 < 2 * unitsPerOne := by
  decide +kernel

/-- Below that magnitude the spacing is at most half of what it is from there on. -/
theorem two_mul_spacing_of_fine {m : ℕ} (fine : m < coarseUnits) :
    2 * spacing m ≤ spacing coarseUnits := by
  obtain ⟨bits, wide, -⟩ := spacing_coarseUnits
  have le : spacing m ≤ spacing coarseUnits :=
    Nat.le_of_dvd (spacing_pos _) (spacing_dvd_of_lt (by omega))
  refine two_mul_spacing_le (lt_of_le_of_ne le fun same => ?_)
  have least : 2 ^ 52 * spacing m ≤ m := mul_spacing_le (by omega)
  omega

/-- The same bounds among the rationals. -/
theorem spacing_coarse_cast : (unitsPerOne : ℚ) < spacing coarseUnits * 10 ^ 10 ∧
    (spacing coarseUnits : ℚ) * 10 ^ 10 < 2 * unitsPerOne := by
  obtain ⟨-, -, large, small⟩ := spacing_coarseUnits
  have large' : (unitsPerOne : ℚ) < (spacing coarseUnits * 10 ^ 10 : ℕ) := Nat.cast_lt.2 large
  have small' : ((spacing coarseUnits * 10 ^ 10 : ℕ) : ℚ) < (2 * unitsPerOne : ℕ) :=
    Nat.cast_lt.2 small
  rw [Nat.cast_mul, Nat.cast_pow, Nat.cast_ofNat] at large' small'
  rw [Nat.cast_mul, Nat.cast_ofNat] at small'
  exact ⟨large', small'⟩

/-- That magnitude as a rational. -/
theorem coarseUnits_cast : (coarseUnits : ℚ) = 2 ^ 19 * unitsPerOne := by
  rw [coarseUnits, Nat.cast_mul, Nat.cast_pow, Nat.cast_ofNat]

section Quotients

variable {units steps others : ℕ}

/-- The magnitude of some steps of 10^-10. -/
def stepsSize (steps : ℕ) : ℚ := steps / 10 ^ 10

/-- The distance between a number of steps and a magnitude, in steps and in units. -/
theorem abs_steps_mul (units steps : ℕ) :
    |(units : ℚ) / unitsPerOne * 10 ^ 10 - (steps : ℤ)| * unitsPerOne =
      |stepsSize steps * unitsPerOne - units| * 10 ^ 10 := by
  have units_pos := Double.unitsPerOne_cast_pos
  have scale : (0 : ℚ) < 10 ^ 10 := by norm_num
  have parts : ((units : ℚ) / unitsPerOne * 10 ^ 10 - (steps : ℤ)) * unitsPerOne =
      -((stepsSize steps * unitsPerOne - units) * 10 ^ 10) := by
    have whole := units_div_mul units
    rw [stepsSize, Int.cast_natCast]
    field_simp
    ring
  have sizes := congrArg abs parts
  rwa [abs_mul, abs_of_pos units_pos, abs_neg, abs_mul, abs_of_pos scale] at sizes

/-- Where doubles are close, the double next to a multiple of 10^-10 is rounded to that multiple. -/
theorem nearest_of_fine (fine : stepsSize steps * unitsPerOne < coarseUnits)
    (read : UnitsNear (stepsSize steps * unitsPerOne) others) :
    NearestEven ((others : ℚ) / unitsPerOne * 10 ^ 10) (steps : ℤ) := by
  have units_pos := Double.unitsPerOne_cast_pos
  have nonneg : 0 ≤ stepsSize steps * unitsPerOne :=
    mul_units_nonneg (div_nonneg (Nat.cast_nonneg _) (by norm_num))
  have halved := two_mul_spacing_of_fine ((Nat.floor_lt nonneg).2 fine)
  have halved' : 2 * (spacing ⌊stepsSize steps * unitsPerOne⌋₊ : ℚ) ≤ spacing coarseUnits := by
    exact_mod_cast halved
  have small := spacing_coarse_cast.2
  refine nearestEven_of_lt (lt_of_mul_lt_mul_right ?_ units_pos.le)
  rw [abs_steps_mul]
  have within := read.within
  linarith

/-- Where doubles are far apart, the double next to the multiple of 10^-10 nearest to a double is
that double. -/
theorem eq_of_coarse (exact : Representable units) (coarse : coarseUnits ≤ units)
    (near : NearestEven ((units : ℚ) / unitsPerOne * 10 ^ 10) (steps : ℤ))
    (read : UnitsNear (stepsSize steps * unitsPerOne) others) : others = units := by
  obtain ⟨bits, -⟩ := spacing_coarseUnits
  have units_pos := Double.unitsPerOne_cast_pos
  have nonneg : 0 ≤ stepsSize steps * unitsPerOne :=
    mul_units_nonneg (div_nonneg (Nat.cast_nonneg _) (by norm_num))
  have start : (coarseUnits : ℚ) ≤ stepsSize steps * unitsPerOne := by
    have scaled : (2 ^ 19 : ℚ) ≤ units / unitsPerOne := by
      rw [le_div_iff₀ units_pos, ← coarseUnits_cast]
      exact Nat.cast_le.2 coarse
    have least : ((2 ^ 19 * 10 ^ 10 : ℤ) : ℚ) ≤ units / unitsPerOne * 10 ^ 10 := by
      rw [Int.cast_mul, Int.cast_pow, Int.cast_pow, Int.cast_ofNat, Int.cast_ofNat]
      exact mul_le_mul_of_nonneg_right scaled (by norm_num)
    have many : (2 ^ 19 * 10 ^ 10 : ℚ) ≤ steps := by exact_mod_cast near.ge_of_ge least
    rw [coarseUnits_cast, stepsSize]
    exact mul_units_le ((le_div_iff₀ (by norm_num)).2 many)
  have multiple : spacing coarseUnits ∣ coarseUnits := ⟨2 ^ 52, by rw [Nat.mul_comm]; exact bits⟩
  have coarse' : coarseUnits ≤ others :=
    (UnitsNear.self multiple).mono read (Nat.cast_nonneg _) start
  have close : |(units : ℚ) - others| * 10 ^ 10 ≤ unitsPerOne := by
    have within := mul_le_mul_of_nonneg_right near.within units_pos.le
    rw [abs_steps_mul] at within
    have closest := read.closest nonneg exact.spacing_dvd
    have triangle := abs_sub_le (units : ℚ) (stepsSize steps * unitsPerOne) others
    rw [abs_sub_comm (units : ℚ) (stepsSize steps * unitsPerOne)] at triangle
    linarith
  have multiple {m : ℕ} (coarse : coarseUnits ≤ m) (multiple : spacing m ∣ m) :
      (spacing coarseUnits : ℤ) ∣ m :=
    Int.natCast_dvd_natCast.2 ((spacing_dvd_of_le (bits ▸ coarse)).trans multiple)
  have apart : |(units : ℤ) - others| < spacing coarseUnits := by
    have : |(units : ℚ) - others| < spacing coarseUnits :=
      lt_of_mul_lt_mul_right (close.trans_lt spacing_coarse_cast.1) (by norm_num)
    exact_mod_cast this
  have same := Int.eq_zero_of_abs_lt_dvd
    ((multiple coarse exact.spacing_dvd).sub (multiple coarse' read.spacing_dvd)) apart
  omega

/-- The double next to the multiple of 10^-10 nearest to a double is finite, and rounded to the same
multiple. -/
theorem nearest_of_read (exact : Representable units)
    (near : NearestEven ((units : ℚ) / unitsPerOne * 10 ^ 10) (steps : ℤ))
    (read : UnitsNear (stepsSize steps * unitsPerOne) others) :
    Representable others ∧ NearestEven ((others : ℚ) / unitsPerOne * 10 ^ 10) (steps : ℤ) := by
  obtain ⟨bits, -⟩ := spacing_coarseUnits
  have units_pos := Double.unitsPerOne_cast_pos
  have self : UnitsNear (coarseUnits : ℚ) coarseUnits :=
    UnitsNear.self ⟨2 ^ 52, by rw [Nat.mul_comm]; exact bits⟩
  have limit : coarseUnits < unitsLimit := by
    rw [coarseUnits, unitsPerOne, ← Nat.pow_add]
    exact Nat.pow_lt_pow_right (by decide) (by decide)
  by_cases coarse : coarseUnits ≤ units
  · obtain rfl := eq_of_coarse exact coarse near read
    exact ⟨exact, near⟩
  · have scaled : (units : ℚ) / unitsPerOne ≤ 2 ^ 19 := by
      rw [div_le_iff₀ units_pos, ← coarseUnits_cast]
      exact Nat.cast_le.2 (Nat.le_of_not_le coarse)
    have greatest : (units : ℚ) / unitsPerOne * 10 ^ 10 ≤ ((2 ^ 19 * 10 ^ 10 : ℤ) : ℚ) := by
      rw [Int.cast_mul, Int.cast_pow, Int.cast_pow, Int.cast_ofNat, Int.cast_ofNat]
      exact mul_le_mul_of_nonneg_right scaled (by norm_num)
    have few : (steps : ℚ) ≤ 2 ^ 19 * 10 ^ 10 := by exact_mod_cast near.le_of_le greatest
    have le : stepsSize steps * unitsPerOne ≤ coarseUnits := by
      rw [coarseUnits_cast, stepsSize]
      exact mul_units_le ((div_le_iff₀ (by norm_num)).2 few)
    have nonneg : 0 ≤ stepsSize steps * unitsPerOne :=
      mul_units_nonneg (div_nonneg (Nat.cast_nonneg _) (by norm_num))
    refine ⟨⟨read.spacing_dvd, (read.mono self nonneg le).trans_lt limit⟩, ?_⟩
    rcases le.lt_or_eq with fine | same
    · exact nearest_of_fine fine read
    · -- The multiple is itself a double.
      rw [same] at read
      have whole : (coarseUnits : ℚ) / unitsPerOne * 10 ^ 10 = (steps : ℤ) := by
        rw [← same, mul_div_cancel_right₀ _ units_pos.ne', stepsSize, Int.cast_natCast,
          div_mul_cancel₀ _ (by norm_num)]
      rw [read.unique self, whole]
      exact nearestEven_self steps

/-- A shown quotient is stable. -/
theorem rereads_quotient {value : Double} (finite : value.isFinite = true) :
    Rereads quotient value := by
  obtain ⟨negative, units, exact, rfl⟩ := Double.exists_finite finite
  have few : (Double.signedUnits negative (countSteps units)).natAbs < 10 ^ 1000 := by
    rw [Double.natAbs_signedUnits]
    exact countSteps_lt exact
  have denotes := (stepsText_spec few).2
  have nonneg : 0 ≤ stepsSize (countSteps units) := div_nonneg (Nat.cast_nonneg _) (by norm_num)
  have size : ((Double.signedUnits negative (countSteps units) : ℤ) : ℚ) / 10 ^ quotientPlaces =
      signedRat negative (stepsSize (countSteps units)) :=
    Double.signedUnits_div ..
  rw [size, ← quotient_finite negative exact] at denotes
  obtain ⟨others, read⟩ := exists_unitsNear (mul_units_nonneg nonneg)
  obtain ⟨exact', near⟩ := nearest_of_read exact (countSteps_nearest units) read
  refine rereads_of denotes nonneg read exact' fun sign same => ?_
  have count : countSteps others = countSteps units := by
    exact_mod_cast (countSteps_nearest others).unique near
  rw [quotient_finite, quotient_finite, count]
  rcases same with rfl | rfl
  · rfl
  · have none : countSteps units = 0 := by
      rw [← count]
      exact Nat.le_zero.1 (roundHalfEven_le_of_le unitsPerOne_pos (by rw [Nat.zero_mul]; omega))
    rw [none]
    cases sign <;> cases negative <;> rfl

end Quotients

/-! ## Other results -/

/-- Any other shown result is stable. -/
theorem rereads_result {value : Double} (finite : value.isFinite = true) :
    Rereads result value := by
  obtain ⟨negative, units, exact, rfl⟩ := Double.exists_finite finite
  rcases Nat.eq_zero_or_pos units with rfl | positive
  · have zero (sign : Bool) (exact : Representable 0) : result (.finite sign 0 exact) = "0" := by
      rw [result]
      exact if_pos rfl
    have denotes : Text.Denotes (result (.finite negative 0 exact)) (signedRat false 0) := by
      rw [zero]
      exact Text.denotes_zero
    have near : UnitsNear (0 * unitsPerOne) 0 := by
      rw [zero_mul]
      exact_mod_cast UnitsNear.self (Nat.dvd_zero _)
    exact rereads_of denotes le_rfl near exact fun sign _ => by rw [zero, zero]
  · obtain ⟨others, exact', near, some_units, shown⟩ := exists_result negative positive exact
    obtain ⟨size, spells, nonneg, read, -⟩ := magnitude_spells some_units exact'
    have denotes := spells.denotes negative
    rw [← shown] at denotes
    refine rereads_of denotes nonneg read exact' fun sign same => ?_
    obtain rfl : sign = negative := same.resolve_right some_units.ne'
    obtain ⟨again, -, near', -, shown'⟩ := exists_result sign some_units exact'
    have twice := (significant_hasDigits positive).near_of_nearest (significant_pos positive).le near
      some_units exact' (significant_nearest others)
    rw [← significant_toRat] at twice
    rw [shown', shown, near'.unique twice]

/-- Shown results are stable: for every finite double, what is shown as a quotient or as any other
result denotes a decimal, and the doubles nearest to that decimal, of which reading the text gives
one, are shown as the same text again. -/
theorem shown_rereads {value : Double} (finite : value.isFinite = true) :
    Rereads quotient value ∧ Rereads result value :=
  ⟨rereads_quotient finite, rereads_result finite⟩

/-- A third is finite and stable in both forms. -/
theorem oneThird_rereads : oneThird.isFinite = true ∧ Rereads quotient oneThird ∧
    Rereads result oneThird :=
  ⟨oneThird_isFinite, shown_rereads oneThird_isFinite⟩

end Display

end Reckoner
