import Reckoner.Proofs.Display.Quotient
import Reckoner.Proofs.Display.Result

/-!
# Which results are shown with twelve digits

The decimal with twelve significant digits to which a result is rounded is not itself what is shown:
the double next to it is. Where this is written out, a whole number below 10^21, it is shown as it
is, and has more digits if no double is the decimal. Everywhere else the shortest decimal of the
double is shown. For a normal double there is only one with at most twelve digits, so it is the
decimal rounded to; below the normal doubles a decimal with fewer digits can be read as the same
double, and is shown instead.
-/

namespace Reckoner

namespace Display

/-- If a decimal is a whole number below 10^21, then it is a double. -/
def WholeHeld (d : ℚ) : Prop :=
  ∀ n : ℕ, |d| = n → n < 10 ^ 21 → ∃ held : Double, held.isFinite = true ∧ held.toRat = d

/-- No decimal that is read as the same double has fewer digits. -/
def Fewest (d : ℚ) : Prop :=
  ∀ left right : Decimal, left.toRat = d → right.toDouble = left.toDouble →
    ∀ digits, HasDigits digits right.toRat → HasDigits digits d

section Rounded

variable {units others : ℕ}

/-! ## Written out -/

/-- A magnitude below 10^21 has twelve digits and is at least 10^9 below it. -/
theorem le_of_hasDigits {n : ℕ} (few : HasDigits 12 n) (below : n < 10 ^ 21) :
    n ≤ 10 ^ 21 - 10 ^ 9 := by
  by_cases lower : n < 10 ^ 20
  · omega
  · have ge : (10 : ℚ) ^ (20 : ℤ) ≤ n := by exact_mod_cast not_lt.1 lower
    obtain ⟨steps, value⟩ := few.exists_steps ge
    have exponent : (20 : ℤ) + 1 - (12 : ℕ) = (9 : ℕ) := by norm_num
    rw [exponent, zpow_natCast] at value
    have counted : n = steps * 10 ^ 9 := by exact_mod_cast value
    omega

/-- Below the last decimal with twelve digits before 10^21, a decimal is not read as 10^21. -/
theorem lt_of_whole {n : ℕ} (few : HasDigits 12 n) (below : n < 10 ^ 21)
    (near : UnitsNear ((n : ℚ) * unitsPerOne) others) : others < 10 ^ 21 * unitsPerOne := by
  have self : UnitsNear (((5 ^ 21 - 1) * 2 ^ (21 + unitExponent) : ℕ) : ℚ)
      ((5 ^ 21 - 1) * 2 ^ (21 + unitExponent)) :=
    UnitsNear.self (spacing_dvd_mul_pow (by decide))
  have value : (5 ^ 21 - 1) * 2 ^ (21 + unitExponent) = (5 ^ 21 - 1) * 2 ^ 21 * unitsPerOne := by
    rw [Nat.pow_add, ← Nat.mul_assoc, unitsPerOne]
  rw [value] at self
  have le : (n : ℚ) * unitsPerOne ≤ ((5 ^ 21 - 1) * 2 ^ 21 * unitsPerOne : ℕ) := by
    rw [← Nat.cast_mul]
    have bound := le_of_hasDigits few below
    exact Nat.cast_le.2 (Nat.mul_le_mul_right _ (by omega))
  have nonneg : (0 : ℚ) ≤ n * unitsPerOne := mul_units_nonneg (Nat.cast_nonneg n)
  refine Nat.lt_of_le_of_lt (near.mono self nonneg le) ?_
  exact Nat.mul_lt_mul_of_pos_right (by decide) unitsPerOne_pos

/-- A whole number is read as a whole number. -/
theorem whole_of_whole {n : ℕ} (near : UnitsNear ((n : ℚ) * unitsPerOne) others) :
    unitsPerOne ∣ others := by
  have floor : ⌊(n : ℚ) * unitsPerOne⌋₊ = n * unitsPerOne := by
    rw [← Nat.cast_mul, Nat.floor_natCast]
  rcases Nat.le_total unitExponent ((n * unitsPerOne).log2 - 52) with coarse | fine
  · obtain ⟨steps, -, counted⟩ := near
    rw [counted, floor]
    exact (Nat.pow_dvd_pow 2 coarse).mul_left steps
  · have multiple : spacing (n * unitsPerOne) ∣ n * unitsPerOne :=
      (Nat.pow_dvd_pow 2 fine).mul_left n
    have self := UnitsNear.self multiple
    rw [Nat.cast_mul] at self
    rw [near.unique self]
    exact Nat.dvd_mul_left _ _

/-- A whole number is read from decimals with twelve digits only if they are whole numbers. -/
theorem exists_whole_of_whole {coefficient n : ℕ} {exponent : ℤ} (few : coefficient ≤ 10 ^ 12)
    (normal : 2 ^ 51 ≤ n * unitsPerOne)
    (near : UnitsNear (coefficient * 10 ^ exponent * unitsPerOne) (n * unitsPerOne)) :
    ∃ m : ℕ, (coefficient : ℚ) * 10 ^ exponent = m := by
  have step := ten_zpow_pos exponent
  have units_pos := Double.unitsPerOne_cast_pos
  cases exponent with
  | ofNat shift =>
    exact ⟨coefficient * 10 ^ shift, by
      rw [Int.ofNat_eq_natCast, zpow_natCast, Nat.cast_mul, Nat.cast_pow, Nat.cast_ofNat]⟩
  | negSucc shift =>
    have nonneg : (0 : ℚ) ≤ coefficient * 10 ^ Int.negSucc shift * unitsPerOne :=
      mul_units_nonneg (mul_nonneg (Nat.cast_nonneg _) step.le)
    have error := near.relative_error nonneg normal
    -- The whole number is a multiple of the step as well, and less than a step away.
    obtain ⟨count, counted⟩ : ∃ count : ℕ, (n : ℚ) = count * 10 ^ Int.negSucc shift := by
      refine ⟨n * 10 ^ (shift + 1), ?_⟩
      rw [zpow_negSucc, Nat.cast_mul, Nat.cast_pow, Nat.cast_ofNat,
        mul_inv_cancel_right₀ (pow_ne_zero _ (by norm_num))]
    rw [Nat.cast_mul, counted, ← sub_mul, ← sub_mul, mul_assoc, abs_mul, mul_assoc (count : ℚ),
      abs_of_pos (mul_pos step units_pos), mul_right_comm,
      mul_le_mul_iff_of_pos_right (mul_pos step units_pos)] at error
    have apart : |(coefficient : ℤ) - count| < 1 := by
      have less : |(coefficient : ℚ) - count| < 1 := by
        have few' : (coefficient : ℚ) ≤ 10 ^ 12 := by exact_mod_cast few
        have below := (abs_le.1 (le_refl |(coefficient : ℚ) - count|)).1
        linarith
      exact_mod_cast less
    have same : coefficient = count := by
      have := Int.abs_lt_one_iff.1 apart
      omega
    exact ⟨n, by rw [counted, same]⟩

/-- A positive whole number is a normal magnitude. -/
theorem normal_of_dvd (whole : unitsPerOne ∣ others) (some_units : 0 < others) :
    2 ^ 51 ≤ others := by
  have limit : 2 ^ 51 ≤ unitsPerOne := Nat.pow_le_pow_right (by decide) (by decide)
  exact Nat.le_trans limit (Nat.le_of_dvd some_units whole)

/-- The double next to the decimal with twelve digits is written out exactly if the decimal is a
whole number below 10^21. -/
theorem isWrittenOut_iff (positive : 0 < units) (some_units : 0 < others)
    (near : UnitsNear ((significant units).toRat * unitsPerOne) others) :
    IsWrittenOut others ↔ ∃ n : ℕ, (significant units).toRat = n ∧ n < 10 ^ 21 := by
  constructor
  · rintro ⟨whole, below⟩
    have multiple := Nat.dvd_of_mod_eq_zero whole
    have normal := normal_of_dvd multiple some_units
    obtain ⟨count, counted⟩ := multiple
    rw [Nat.mul_comm] at counted
    have near' := near
    rw [counted, significant_toRat] at near'
    obtain ⟨m, value⟩ :=
      exists_whole_of_whole (significant_bounds positive).2 (counted ▸ normal) near'
    rw [← significant_toRat] at value
    refine ⟨m, value, not_le.1 fun reached => ?_⟩
    -- The power of ten is a double, and the double next to a greater decimal is not less.
    have self : UnitsNear ((5 ^ 21 * 2 ^ (21 + unitExponent) : ℕ) : ℚ)
        (5 ^ 21 * 2 ^ (21 + unitExponent)) := UnitsNear.self (spacing_dvd_mul_pow (by decide))
    have power : 5 ^ 21 * 2 ^ (21 + unitExponent) = 10 ^ 21 * unitsPerOne := by
      rw [Nat.pow_add, ← Nat.mul_assoc, unitsPerOne]
    rw [power] at self
    rw [value, ← Nat.cast_mul] at near
    have grown := self.mono near (Nat.cast_nonneg _)
      (Nat.cast_le.2 (Nat.mul_le_mul_right unitsPerOne reached))
    omega
  · rintro ⟨n, value, below⟩
    have few := value ▸ significant_hasDigits positive
    rw [value] at near
    exact ⟨Nat.mod_eq_zero_of_dvd (whole_of_whole near), lt_of_whole few below near⟩

/-- If the decimal is written out whole, it is held by a double exactly if the double next to it is
the decimal itself. -/
theorem wholeHeld_iff (negative : Bool) (positive : 0 < units) (some_units : 0 < others)
    (exact : Representable others)
    (near : UnitsNear ((significant units).toRat * unitsPerOne) others) :
    WholeHeld (signedRat negative (significant units).toRat) ↔
      (IsWrittenOut others → (significant units).toRat = others / unitsPerOne) := by
  have units_pos := Double.unitsPerOne_cast_pos
  have pos := significant_pos positive
  unfold WholeHeld
  rw [abs_signedRat negative pos.le, isWrittenOut_iff positive some_units near]
  constructor
  · rintro held ⟨n, value, below⟩
    obtain ⟨double, finite, double_eq⟩ := held n value below
    obtain ⟨sign, units', held, rfl⟩ := Double.exists_finite finite
    rw [Double.toRat_finite] at double_eq
    have size : (units' : ℚ) / unitsPerOne = (significant units).toRat := by
      have nonneg : (0 : ℚ) ≤ units' / unitsPerOne :=
        div_nonneg (Nat.cast_nonneg _) (Nat.cast_nonneg _)
      rw [← abs_signedRat sign nonneg, double_eq, abs_signedRat negative pos.le]
    have self := UnitsNear.self held.spacing_dvd
    rw [← units_div_mul, size] at self
    rw [← size, near.unique self]
  · intro same n value below
    exact ⟨.finite negative others exact, rfl, by rw [Double.toRat_finite, same ⟨n, value, below⟩]⟩

/-! ## Below the normal doubles -/

/-- Below 2^53 units a decimal is at most half a unit from the magnitude that it is read as. -/
theorem within_half {q : ℚ} (near : UnitsNear q others) (nonneg : 0 ≤ q) (small : q < 2 ^ 53) :
    |q - others| ≤ 1 / 2 := by
  have within := near.within
  have floor : ⌊q⌋₊ < 2 ^ 53 := (Nat.floor_lt nonneg).2 (by exact_mod_cast small)
  rwa [spacing_eq_one floor, Nat.cast_one] at within

/-- The decimal with twelve digits to which a magnitude is rounded is at most double the magnitude. -/
theorem significant_le_double (positive : 0 < units) :
    (significant units).toRat * unitsPerOne ≤ 2 * units := by
  have within := (abs_le.1 (significant_within units)).1
  have step := step_mul_le positive
  have step_pos := ten_zpow_pos (lastExponent 12 units)
  have le : (significant units).toRat ≤ 2 * (units / unitsPerOne) := by linarith
  have scaled := mul_units_le le
  rwa [mul_assoc, units_div_mul] at scaled

/-- From the beginning of a decade on, decimals with twelve digits that differ do so by a step. -/
theorem step_le_of_ne {p q : ℚ} {lead : ℤ} (left : HasDigits 12 p) (right : HasDigits 12 q)
    (p_ge : 10 ^ lead ≤ p) (q_ge : 10 ^ lead ≤ q) (differs : p ≠ q) :
    10 ^ (lead + 1 - (12 : ℕ)) ≤ |p - q| := by
  obtain ⟨a, rfl⟩ := left.exists_steps p_ge
  obtain ⟨b, rfl⟩ := right.exists_steps q_ge
  have step := ten_zpow_pos (lead + 1 - (12 : ℕ))
  have apart : (1 : ℚ) ≤ |(a : ℚ) - b| := by
    have : (1 : ℤ) ≤ |(a : ℤ) - b| := Int.one_le_abs fun same => differs (by
      rw [show a = b by omega])
    exact_mod_cast this
  rw [← sub_mul, abs_mul, abs_of_pos step]
  exact le_mul_of_one_le_left step.le apart

/-- A decimal read as the same magnitude as the decimal to which one below the normal ones is rounded
is at most a unit from the latter, which itself is at most half a unit from the magnitude. -/
theorem within_unit (positive : 0 < units) (subnormal : units < 2 ^ 52)
    (near : UnitsNear ((significant units).toRat * unitsPerOne) others) {t : ℚ} (nonneg : 0 ≤ t)
    (read : UnitsNear (t * unitsPerOne) others) :
    |(significant units).toRat * unitsPerOne - others| ≤ 1 / 2 ∧
      |t - (significant units).toRat| * unitsPerOne ≤ 1 := by
  have subnormal' : (units : ℚ) + 1 ≤ 2 ^ 52 := by exact_mod_cast subnormal
  have double := significant_le_double positive
  have from_rounded := within_half near (mul_units_nonneg (significant_pos positive).le)
    (by linarith)
  obtain ⟨least, greatest⟩ := abs_le.1 from_rounded
  have others_lt : others < 2 ^ 53 := by
    have : (others : ℚ) < 2 ^ 53 := by linarith
    exact_mod_cast this
  have small : t * unitsPerOne < 2 ^ 53 := by
    refine not_le.1 fun large => ?_
    have grown := (UnitsNear.self (Decimal.spacing_dvd_two_pow 53)).mono read (Nat.cast_nonneg _)
      (by exact_mod_cast large)
    omega
  obtain ⟨least', greatest'⟩ := abs_le.1 (within_half read (mul_units_nonneg nonneg) small)
  refine ⟨from_rounded, ?_⟩
  rw [abs_sub_mul_units]
  exact abs_le.2 ⟨by linarith, by linarith⟩

/-- If the decimal to which a magnitude is rounded is read as another one, though at most half a unit
from that, then a step of its last digit is more than a unit. -/
theorem one_lt_last_step (differs : units ≠ others)
    (close : |(significant units).toRat * unitsPerOne - others| ≤ 1 / 2) :
    (1 : ℚ) < 10 ^ lastExponent 12 units * unitsPerOne := by
  have away : (1 : ℚ) ≤ |(units : ℚ) - others| := by
    have : (1 : ℤ) ≤ |(units : ℤ) - others| := Int.one_le_abs (by omega)
    exact_mod_cast this
  have within := mul_units_le (significant_within units)
  rw [abs_sub_mul_units, units_div_mul] at within
  have triangle := abs_sub_le (units : ℚ) ((significant units).toRat * unitsPerOne) others
  refine one_lt_step (not_lt.1 fun fine => ?_)
  have := step_lt_one fine
  linarith

/-- Where a step is more than a unit, a decimal with twelve digits in the decade of the one rounded
to is that one if it is at most a unit away. -/
theorem eq_of_within_unit (positive : 0 < units)
    (coarse : (1 : ℚ) < 10 ^ lastExponent 12 units * unitsPerOne) {p : ℚ} (few : HasDigits 12 p)
    (ge : 10 ^ leadingExponent units unitsPerOne ≤ p)
    (close : |p - (significant units).toRat| * unitsPerOne ≤ 1) : p = (significant units).toRat := by
  by_contra differs
  have apart := mul_units_le (step_le_of_ne few (significant_hasDigits positive) ge
    (significant_ge positive) differs)
  exact absurd (coarse.trans_le apart) (not_lt.2 close)

/-- Two decimals that a magnitude is read from and that have the fewest digits are the same, if one
of them is the decimal with twelve digits to which another magnitude below the normal ones is
rounded. -/
theorem eq_of_other (positive : 0 < units) (subnormal : units < 2 ^ 52) (differs : units ≠ others)
    (near : UnitsNear ((significant units).toRat * unitsPerOne) others) {t : ℚ} {fewest : ℕ}
    (few : HasDigits fewest t) (le : fewest ≤ 12) (nonneg : 0 ≤ t)
    (read : UnitsNear (t * unitsPerOne) others)
    (least : ∀ digits, HasDigits digits (significant units).toRat → fewest ≤ digits) :
    t = (significant units).toRat := by
  obtain ⟨from_rounded, close⟩ := within_unit positive subnormal near nonneg read
  have coarse := one_lt_last_step differs from_rounded
  have power : HasDigits 1 ((10 : ℚ) ^ leadingExponent units unitsPerOne) := by
    have single := hasDigits_of_le (show 0 < 1 by decide) (show 1 ≤ 10 ^ 1 by decide)
      (leadingExponent units unitsPerOne)
    rwa [Nat.cast_one, one_mul] at single
  rcases le_or_gt (10 ^ leadingExponent units unitsPerOne) t with ge | lower
  · exact eq_of_within_unit positive coarse (few.mono le) ge close
  · -- Only the beginning of the decade can be that close, and it has a single digit.
    exfalso
    have start : (10 : ℚ) ^ leadingExponent units unitsPerOne = (significant units).toRat := by
      refine eq_of_within_unit positive coarse (power.mono (by decide)) le_rfl (le_trans ?_ close)
      refine mul_units_le ?_
      rw [abs_sub_comm, abs_of_nonneg (sub_nonneg.2 (significant_ge positive)), abs_sub_comm,
        abs_of_nonneg (sub_nonneg.2 (lower.le.trans (significant_ge positive)))]
      linarith
    have one_digit : HasDigits 1 t := few.mono (least 1 (start ▸ power))
    have gap := mul_lt_mul_of_pos_right (one_digit.lt_gap power nonneg lower)
      Double.unitsPerOne_cast_pos
    have first := pow_mul_step units (show 0 < 12 by decide)
    have wide : (10 : ℚ) ^ 11 * 1 ≤ 10 ^ leadingExponent units unitsPerOne * unitsPerOne := by
      rw [← first, Nat.cast_pow, Nat.cast_ofNat, mul_assoc]
      exact mul_le_mul_of_nonneg_left coarse.le (by norm_num)
    rw [← start, abs_sub_comm, abs_of_pos (sub_pos.2 lower), sub_mul] at close
    rw [mul_right_comm, sub_mul] at gap
    linarith

/-- If a magnitude is read from the decimal with twelve digits to which it is rounded, and that
decimal has fewer digits, then it is also the nearest one with so many digits. -/
theorem eq_of_same (positive : 0 < units) (exact : Representable units)
    (near : UnitsNear ((significant units).toRat * unitsPerOne) units) {fewest : ℕ} {s : Scaled}
    (some_digit : 0 < fewest) (le : fewest ≤ 12) (few : HasDigits fewest (significant units).toRat)
    (found : neighbourReadingBack? fewest units = some s) : s.toRat = (significant units).toRat := by
  obtain ⟨steps, value⟩ := few.exists_steps (significant_ge positive)
  have value' : (significant units).toRat = steps * 10 ^ lastExponent fewest units := value
  have nearest :
      NearestEven ((units : ℚ) / unitsPerOne / 10 ^ lastExponent fewest units) (steps : ℤ) := by
    have step := ten_zpow_pos (lastExponent fewest units)
    rcases le.lt_or_eq with fewer | rfl
    · have coarser : (10 : ℚ) ^ lastExponent 12 units < 10 ^ lastExponent fewest units := by
        refine ten_zpow_lt.2 ?_
        unfold lastExponent
        omega
      refine nearestEven_of_steps ?_
      rw [Int.cast_natCast, ← value']
      have within := significant_within units
      linarith
    · have same : (significant units).coefficient = steps := by
        rw [significant_toRat] at value'
        exact_mod_cast mul_right_cancel₀ step.ne' value'
      rw [← same]
      exact significant_nearest units
  rw [value'] at near
  rw [neighbourReadingBack?_nearest some_digit exact nearest near] at found
  rw [← Option.some.inj found, value', Scaled.toRat]

/-- Having the fewest digits, said of magnitudes. -/
theorem fewest_iff (negative : Bool) (positive : 0 < units) (exact : Representable others)
    (near : UnitsNear ((significant units).toRat * unitsPerOne) others) :
    Fewest (signedRat negative (significant units).toRat) ↔
      ∀ digits t, HasDigits digits t → 0 ≤ t → UnitsNear (t * unitsPerOne) others →
        HasDigits digits (significant units).toRat := by
  have pos := significant_pos positive
  constructor
  · rintro fewest digits t ⟨coefficient, exponent, bound, value⟩ nonneg read
    rw [abs_of_nonneg nonneg] at value
    let right : Scaled := ⟨coefficient, exponent⟩
    have right_value : right.toRat = t := value.symm
    have left_read : ((significant units).decimal negative).toDouble =
        .finite negative others exact := Scaled.toDouble_eq_finite_iff.2 ⟨rfl, near⟩
    have right_read : (right.decimal negative).toDouble = .finite negative others exact :=
      Scaled.toDouble_eq_finite_iff.2 ⟨rfl, right_value.symm ▸ read⟩
    have few : HasDigits digits (right.decimal negative).toRat := by
      rw [Scaled.toRat_decimal, hasDigits_signedRat, right_value]
      exact ⟨coefficient, exponent, bound, by rw [abs_of_nonneg nonneg, value]⟩
    exact hasDigits_signedRat.1 (fewest _ _ (Scaled.toRat_decimal _ negative)
      (right_read.trans left_read.symm) digits few)
  · intro least left right value same digits few
    have size : left.size = (significant units).toRat := by
      rw [← abs_signedRat left.negative left.size_nonneg, ← abs_signedRat negative pos.le]
      exact congrArg abs value
    have left_read : left.toDouble = .finite left.negative others exact :=
      Decimal.toDouble_eq_finite_iff.2 ⟨rfl, size.symm ▸ near⟩
    obtain ⟨-, read⟩ := Decimal.toDouble_eq_finite_iff.1 (same.trans left_read)
    exact hasDigits_signedRat.2
      (least digits _ (hasDigits_signedRat.1 few) right.size_nonneg read)

/-- The magnitudes below 2^-1022. -/
theorem lt_normal_iff (units : ℕ) :
    (units : ℚ) / unitsPerOne < 2 ^ (-1022 : ℤ) ↔ units < 2 ^ 52 := by
  have moved (k : ℕ) (units : ℕ) :
      (units : ℚ) / (2 ^ (k + 52) : ℕ) < 2 ^ (-(k : ℤ)) ↔ units < 2 ^ 52 := by
    have power : (0 : ℚ) < 2 ^ k := pow_pos (by norm_num) k
    rw [zpow_neg, zpow_natCast, Nat.cast_pow, Nat.cast_ofNat, pow_add,
      div_lt_iff₀ (mul_pos power (by norm_num)), inv_mul_cancel_left₀ power.ne']
    exact_mod_cast Iff.rfl
  unfold unitsPerOne
  rw [show unitExponent = 1022 + 52 from rfl]
  exact moved 1022 units

/-- A magnitude below the normal ones is not written out. -/
theorem not_isWrittenOut (positive : 0 < units) (subnormal : units < 2 ^ 52) (some_units : 0 < others)
    (near : UnitsNear ((significant units).toRat * unitsPerOne) others) :
    ¬IsWrittenOut others := by
  rintro ⟨whole, -⟩
  have double := significant_le_double positive
  have le : (significant units).toRat * unitsPerOne ≤ (2 ^ 53 : ℕ) := by
    have subnormal' : (units : ℚ) ≤ 2 ^ 52 := by exact_mod_cast subnormal.le
    push_cast
    linarith
  have small := near.mono (UnitsNear.self (Decimal.spacing_dvd_two_pow 53))
    (mul_units_nonneg (significant_pos positive).le) le
  have large := Nat.le_of_dvd some_units (Nat.dvd_of_mod_eq_zero whole)
  have limit : 2 ^ 53 < unitsPerOne := Nat.pow_lt_pow_right (by decide) (by decide)
  omega

/-- The double next to the decimal to which a normal magnitude is rounded is normal. -/
theorem normal_of_normal (positive : 0 < units) (normal : 2 ^ 52 ≤ units)
    (near : UnitsNear ((significant units).toRat * unitsPerOne) others) : 2 ^ 51 ≤ others := by
  refine (UnitsNear.self (Decimal.spacing_dvd_two_pow 51)).mono near (Nat.cast_nonneg _) ?_
  have within := mul_units_le ((abs_le.1 (significant_within units)).2)
  have step := mul_units_le (step_mul_le positive)
  have step_pos := ten_zpow_pos (lastExponent 12 units)
  rw [units_div_mul] at step
  rw [sub_mul, units_div_mul] at within
  have normal' : (2 ^ 52 : ℚ) ≤ units := by exact_mod_cast normal
  push_cast
  linarith

/-- What is shown for a magnitude is the decimal with twelve digits to which it is rounded exactly
if that decimal is a double where it is a whole number below 10^21, and has the fewest digits of all
decimals that are read as the same double where the magnitude is below the normal ones. -/
theorem shown_eq_iff (negative : Bool) (positive : 0 < units) (exact : Representable units)
    (some_units : 0 < others) (exact' : Representable others)
    (near : UnitsNear ((significant units).toRat * unitsPerOne) others) {shown : ℚ}
    (whole : IsWrittenOut others → shown = others / unitsPerOne)
    (fraction : ¬IsWrittenOut others → shown = (shortest others).toRat) :
    (shown = (significant units).toRat ↔ WholeHeld (signedRat negative (significant units).toRat) ∧
      (units < 2 ^ 52 → Fewest (signedRat negative (significant units).toRat))) ∧
    (HasDigits 12 shown ↔ WholeHeld (signedRat negative (significant units).toRat)) := by
  have twelve := significant_hasDigits positive
  have pos := significant_pos positive
  rw [wholeHeld_iff negative positive some_units exact' near]
  by_cases written : IsWrittenOut others
  · have not_small : ¬units < 2 ^ 52 := fun subnormal =>
      not_isWrittenOut positive subnormal some_units near written
    rw [whole written]
    refine ⟨⟨fun same => ⟨fun _ => same.symm, fun subnormal => absurd subnormal not_small⟩,
      fun both => (both.1 written).symm⟩, fun few _ => ?_, fun same => same written ▸ twelve⟩
    have self := UnitsNear.self exact'.spacing_dvd
    rw [← units_div_mul] at self
    exact twelve.eq_of_near few pos.le (div_nonneg (Nat.cast_nonneg _) (Nat.cast_nonneg _)) near
      self (normal_of_dvd (Nat.dvd_of_mod_eq_zero written.1) some_units)
  · have read := shortest_near some_units exact'
    have shortest_nonneg : 0 ≤ (shortest others).toRat :=
      mul_nonneg (Nat.cast_nonneg _) (ten_zpow_pos _).le
    obtain ⟨fewest, s, some_digit, found, value, few, least⟩ :=
      shortest_fewest some_units exact' twelve (by decide) pos.le near
    have le := least 12 _ twelve pos.le near
    rw [fraction written]
    refine ⟨?_, fun _ held => absurd held written, fun _ => few.mono le⟩
    rw [fewest_iff negative positive exact' near]
    constructor
    · intro same
      refine ⟨fun held => absurd held written, fun _ digits t few' nonneg near' => ?_⟩
      exact (same ▸ few).mono (least digits t few' nonneg near')
    · rintro ⟨-, fewer⟩
      by_cases subnormal : units < 2 ^ 52
      · have few' := fewer subnormal fewest _ few shortest_nonneg read
        rcases eq_or_ne units others with rfl | differs
        · rw [value]
          exact eq_of_same positive exact near some_digit le few' found
        · exact eq_of_other positive subnormal differs near few le shortest_nonneg read
            fun digits few'' => least digits _ few'' pos.le near
      · exact (few.mono le).eq_of_near twelve shortest_nonneg pos.le read near
          (normal_of_normal positive (not_lt.1 subnormal) near)

end Rounded

/-- A decimal with twelve digits to which a magnitude is rounded, with a sign. -/
theorem roundsTo_significant (negative : Bool) {units : ℕ} (positive : 0 < units) :
    RoundsTo 12 (signedRat negative (units / unitsPerOne))
      (signedRat negative (significant units).toRat) := by
  have size_nonneg : (0 : ℚ) ≤ units / unitsPerOne :=
    div_nonneg (Nat.cast_nonneg _) (Nat.cast_nonneg _)
  have near := significant_nearest units
  refine .inr ⟨leadingExponent units unitsPerOne,
    Double.signedUnits negative (significant units).coefficient, ?_, ?_, ?_⟩
  · rw [abs_signedRat negative size_nonneg]
    exact leadsAt_units positive
  · unfold signedRat Double.signedUnits
    split
    · rw [neg_div]
      exact near.neg
    · exact near
  · rw [significant_toRat]
    unfold signedRat Double.signedUnits lastExponent
    split
    · rw [Int.cast_neg, Int.cast_natCast, neg_mul]
    · rw [Int.cast_natCast]

/-- Every finite double that is not a quotient is shown as a decimal. It is the decimal to which the
double is rounded with twelve significant digits exactly if that decimal, where it is a whole number
below 10^21, is a double, and where the double is below 2^-1022, has the fewest digits of all
decimals that are read as the same double. The digits shown are no more than twelve exactly if the
first of these conditions holds. -/
theorem result_significant_iff {value : Double} (finite : value.isFinite = true) :
    ∃ rounded shown : ℚ, RoundsTo 12 value.toRat rounded ∧ (result value).Denotes shown ∧
      (shown = rounded ↔
        WholeHeld rounded ∧ (|value.toRat| < 2 ^ (-1022 : ℤ) → Fewest rounded)) ∧
      (HasDigits 12 shown ↔ WholeHeld rounded) := by
  obtain ⟨negative, units, exact, rfl⟩ := Double.exists_finite finite
  rw [Double.toRat_finite]
  rcases Nat.eq_zero_or_pos units with rfl | positive
  · have zero : signedRat negative (((0 : ℕ) : ℚ) / unitsPerOne) = 0 := by
      rw [Nat.cast_zero, zero_div, signedRat, neg_zero, ite_self]
    have shown : result (.finite negative 0 exact) = "0" := by
      rw [result]
      exact if_pos rfl
    have few (digits : ℕ) : HasDigits digits 0 :=
      ⟨0, 0, Nat.pow_pos (by decide), by rw [abs_zero, Nat.cast_zero, zero_mul]⟩
    have held : WholeHeld 0 := fun _ _ _ =>
      ⟨.finite false 0 exact, rfl, by rw [Double.toRat_finite, Nat.cast_zero, zero_div]; rfl⟩
    refine ⟨0, 0, .inl ⟨zero, rfl⟩, ?_, ⟨fun _ => ⟨held, fun _ => ?_⟩, fun _ => rfl⟩,
      ⟨fun _ => held, fun _ => few 12⟩⟩
    · rw [shown]
      exact Text.denotes_zero
    · exact fun _ _ _ _ digits _ => few digits
  · obtain ⟨others, exact', near, some_units, text⟩ := exists_result negative positive exact
    obtain ⟨shown, spells, -, -, whole, fraction⟩ := magnitude_spells some_units exact'
    obtain ⟨equal, digits⟩ :=
      shown_eq_iff negative positive exact some_units exact' near whole fraction
    have size_nonneg : (0 : ℚ) ≤ units / unitsPerOne :=
      div_nonneg (Nat.cast_nonneg _) (Nat.cast_nonneg _)
    refine ⟨signedRat negative (significant units).toRat, signedRat negative shown,
      roundsTo_significant negative positive, text ▸ spells.denotes negative, ?_, ?_⟩
    · rw [signedRat_inj, abs_signedRat negative size_nonneg, lt_normal_iff]
      exact equal
    · rw [hasDigits_signedRat]
      exact digits

/-- A third is shown with twelve digits. -/
theorem oneThird_significant : oneThird.isFinite = true ∧ ∃ rounded shown : ℚ,
    RoundsTo 12 oneThird.toRat rounded ∧ (result oneThird).Denotes shown ∧
      (HasDigits 12 shown ↔ WholeHeld rounded) := by
  obtain ⟨rounded, shown, rounds, denotes, -, digits⟩ := result_significant_iff oneThird_isFinite
  exact ⟨oneThird_isFinite, rounded, shown, rounds, denotes, digits⟩

/-- The double next to a whole number with twelve significant digits that is no double. -/
def bigWhole : Double := .ofInt 123456789012000000000

/-- A whole number that is no double is shown as the double next to it, with twenty-one digits, and
not as the decimal to which that double is rounded. -/
theorem bigWhole_shown : bigWhole.isFinite = true ∧
    RoundsTo 12 bigWhole.toRat 123456789012000000000 ∧
    result bigWhole = "123456789011999997952" ∧
    (result bigWhole).Denotes 123456789011999997952 ∧
    ¬(result bigWhole).Denotes 123456789012000000000 ∧
    ¬HasDigits 12 123456789011999997952 := by
  have shown : result bigWhole = "123456789011999997952" := by decide +kernel
  obtain ⟨exact, value⟩ : ∃ exact,
      bigWhole = .finite false (123456789011999997952 * unitsPerOne) exact :=
    ⟨by decide +kernel, by decide +kernel⟩
  have size : bigWhole.toRat = 123456789011999997952 := by
    rw [value, Double.toRat_finite, Nat.cast_mul,
      mul_div_cancel_right₀ _ Double.unitsPerOne_cast_pos.ne']
    rfl
  have denotes : (result bigWhole).Denotes 123456789011999997952 := by
    rw [shown]
    refine ⟨⟨false, 123456789011999997952, 0⟩, by decide +kernel, ?_⟩
    norm_num [Decimal.toRat, Decimal.size, signedRat]
  have finite : bigWhole.isFinite = true := by
    rw [value]
    rfl
  refine ⟨finite, .inr ⟨20, 123456789012, ?_, ?_, ?_⟩, shown, denotes, fun other => ?_, ?_⟩
  · rw [size]
    constructor <;> norm_num
  · rw [size]
    exact nearestEven_of_lt (by norm_num [abs_lt])
  · norm_num
  · exact absurd (denotes.unique other) (by norm_num)
  · intro few
    have ge : (10 : ℚ) ^ (20 : ℤ) ≤ 123456789011999997952 := by norm_num
    obtain ⟨steps, counted⟩ := few.exists_steps ge
    have exponent : (20 : ℤ) + 1 - (12 : ℕ) = (9 : ℕ) := by norm_num
    rw [exponent, zpow_natCast] at counted
    have whole : 123456789011999997952 = steps * 10 ^ 9 := by exact_mod_cast counted
    omega

end Display

end Reckoner
