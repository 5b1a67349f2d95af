import Reckoner.Proofs.Decimal.Value
import Reckoner.Proofs.Double.Shortest

/-!
# Significant digits

A positive rational lies in one decade, and the steps of its last significant digit are counted
from there. Decimals with so many digits are the multiples of that step, from the beginning of the
decade on; those below it can be finer, but the beginning of the decade is closer than they are. So
rounding to significant digits finds the closest decimal with so many digits.
-/

namespace Reckoner

/-! ## Decades -/

/-- The first digit of a positive rational stands at an exponent. -/
structure LeadsAt (x : ℚ) (lead : ℤ) : Prop where
  le : 10 ^ lead ≤ x
  lt : x < 10 ^ (lead + 1)

/-- A power of ten is positive. -/
theorem ten_zpow_pos (k : ℤ) : (0 : ℚ) < 10 ^ k := zpow_pos (by norm_num) k

/-- Powers of ten compare like their exponents. -/
theorem ten_zpow_le {j k : ℤ} : (10 : ℚ) ^ j ≤ 10 ^ k ↔ j ≤ k := zpow_le_zpow_iff_right₀ (by norm_num)

/-- Powers of ten compare like their exponents. -/
theorem ten_zpow_lt {j k : ℤ} : (10 : ℚ) ^ j < 10 ^ k ↔ j < k := zpow_lt_zpow_iff_right₀ (by norm_num)

/-- Exponents of powers of ten are added. -/
theorem ten_zpow_add (j k : ℤ) : (10 : ℚ) ^ (j + k) = 10 ^ j * 10 ^ k :=
  zpow_add₀ (by norm_num) j k

/-- A power of ten is so many times a smaller one. -/
theorem exists_ten_zpow {j k : ℤ} (le : j ≤ k) : ∃ n : ℕ, k = j + n ∧
    (10 : ℚ) ^ k = (10 ^ n : ℕ) * 10 ^ j := by
  obtain ⟨n, rfl⟩ := Int.le.dest le
  refine ⟨n, rfl, ?_⟩
  rw [ten_zpow_add, zpow_natCast, mul_comm, Nat.cast_pow, Nat.cast_ofNat]

/-- What leads at an exponent is positive. -/
theorem LeadsAt.pos {x : ℚ} {lead : ℤ} (leads : LeadsAt x lead) : 0 < x :=
  (ten_zpow_pos lead).trans_le leads.le

/-- The exponent of the first digit of a ratio is where it leads. -/
theorem leadsAt_leadingExponent {n d : ℕ} (n_pos : 0 < n) (d_pos : 0 < d) :
    LeadsAt ((n : ℚ) / d) (leadingExponent n d) := by
  have d_cast : (0 : ℚ) < d := Nat.cast_pos.2 d_pos
  rcases leadingExponent_cases n_pos d_pos with ⟨k, leading, le, lt⟩ | ⟨k, leading, lt, le⟩
  · have next : (k : ℤ) + 1 = (k + 1 : ℕ) := by omega
    rw [leading]
    constructor
    · rw [zpow_natCast, le_div_iff₀ d_cast, mul_comm]
      exact_mod_cast le
    · rw [next, zpow_natCast, div_lt_iff₀ d_cast, mul_comm]
      exact_mod_cast lt
  · have power : (0 : ℚ) < 10 ^ k := pow_pos (by norm_num) k
    have power' : (0 : ℚ) < 10 ^ (k + 1) := pow_pos (by norm_num) (k + 1)
    have next : (-(k + 1 : ℕ) : ℤ) + 1 = -(k : ℤ) := by omega
    rw [leading]
    constructor
    · rw [zpow_neg, zpow_natCast, inv_eq_one_div, div_le_div_iff₀ power' d_cast, one_mul]
      exact_mod_cast le
    · rw [next, zpow_neg, zpow_natCast, inv_eq_one_div, div_lt_div_iff₀ d_cast power, one_mul]
      exact_mod_cast lt

/-- A ratio measured in steps is the ratio divided by the step. -/
theorem inSteps_div (n : ℕ) {d : ℕ} (positive : 0 < d) (exponent : ℤ) :
    0 < (inSteps n d exponent).2 ∧
      ((inSteps n d exponent).1 : ℚ) / (inSteps n d exponent).2 = n / d / 10 ^ exponent := by
  cases exponent with
  | ofNat shift =>
    refine ⟨Nat.mul_pos positive (Nat.pow_pos (by decide)), ?_⟩
    rw [inSteps, Int.ofNat_eq_natCast, zpow_natCast, Nat.cast_mul, Nat.cast_pow, Nat.cast_ofNat,
      div_div]
  | negSucc shift =>
    refine ⟨positive, ?_⟩
    rw [inSteps, zpow_negSucc, div_inv_eq_mul, Nat.cast_mul, Nat.cast_pow, Nat.cast_ofNat,
      mul_div_right_comm]

/-! ## Numbers of digits -/

/-- A rational has no more than so many significant digits. -/
def HasDigits (digits : ℕ) (q : ℚ) : Prop :=
  ∃ (coefficient : ℕ) (exponent : ℤ), coefficient < 10 ^ digits ∧ |q| = coefficient * 10 ^ exponent

variable {digits : ℕ} {q x : ℚ} {lead : ℤ}

/-- The sign is not among the digits. -/
theorem hasDigits_signedRat {negative : Bool} :
    HasDigits digits (signedRat negative q) ↔ HasDigits digits q := by
  have size : |signedRat negative q| = |q| := by
    unfold signedRat
    split
    · exact abs_neg q
    · rfl
  rw [HasDigits, HasDigits, size]

/-- More digits are enough. -/
theorem HasDigits.mono {more : ℕ} (few : HasDigits digits q) (le : digits ≤ more) :
    HasDigits more q := by
  obtain ⟨coefficient, exponent, bound, value⟩ := few
  exact ⟨coefficient, exponent, bound.trans_le (Nat.pow_le_pow_right (by decide) le), value⟩

/-- Up to a power of ten, a coefficient has as many digits as its exponent. -/
theorem hasDigits_of_le (some_digit : 0 < digits) {coefficient : ℕ} (le : coefficient ≤ 10 ^ digits)
    (exponent : ℤ) : HasDigits digits (coefficient * 10 ^ exponent) := by
  have nonneg : (0 : ℚ) ≤ coefficient * 10 ^ exponent :=
    mul_nonneg (Nat.cast_nonneg _) (ten_zpow_pos exponent).le
  rcases le.lt_or_eq with less | rfl
  · exact ⟨coefficient, exponent, less, abs_of_nonneg nonneg⟩
  · refine ⟨1, digits + exponent, Nat.one_lt_pow some_digit.ne' (by decide), ?_⟩
    rw [abs_of_nonneg nonneg, ten_zpow_add, zpow_natCast, Nat.cast_pow, Nat.cast_ofNat,
      Nat.cast_one, one_mul]

/-- From the beginning of a decade on, decimals with so many digits are multiples of the step of the
last of them. -/
theorem HasDigits.exists_steps (few : HasDigits digits q) (ge : 10 ^ lead ≤ q) :
    ∃ steps : ℕ, q = steps * 10 ^ (lead + 1 - digits) := by
  obtain ⟨coefficient, exponent, bound, value⟩ := few
  rw [abs_of_pos ((ten_zpow_pos lead).trans_le ge)] at value
  have exceeds : (10 : ℚ) ^ lead < 10 ^ (digits + exponent) := by
    rw [ten_zpow_add, zpow_natCast]
    refine (ge.trans_eq value).trans_lt (mul_lt_mul_of_pos_right ?_ (ten_zpow_pos exponent))
    exact_mod_cast bound
  have finer : lead + 1 - digits ≤ exponent := by
    have := ten_zpow_lt.1 exceeds
    omega
  obtain ⟨shift, -, power⟩ := exists_ten_zpow finer
  exact ⟨coefficient * 10 ^ shift, by rw [value, power, Nat.cast_mul, mul_assoc]⟩

/-! ## Rounding -/

/-- A rational is rounded to so many significant digits: to the nearest multiple of the step of the
last of them, a tie going to the even multiple. -/
def RoundsTo (digits : ℕ) (x d : ℚ) : Prop :=
  x = 0 ∧ d = 0 ∨ ∃ lead steps : ℤ, LeadsAt |x| lead ∧
    NearestEven (x / 10 ^ (lead + 1 - digits)) steps ∧ d = steps * 10 ^ (lead + 1 - digits)

/-- Measured in steps of the last of so many digits, a rational is a number of so many digits. -/
theorem LeadsAt.div_step (leads : LeadsAt x lead) (some_digit : 0 < digits) :
    ((10 ^ (digits - 1) : ℕ) : ℚ) ≤ x / 10 ^ (lead + 1 - digits) ∧
      x / 10 ^ (lead + 1 - digits) < (10 ^ digits : ℕ) := by
  have step := ten_zpow_pos (lead + 1 - digits)
  have first : (10 : ℚ) ^ lead = (10 ^ (digits - 1) : ℕ) * 10 ^ (lead + 1 - digits) := by
    rw [Nat.cast_pow, Nat.cast_ofNat, ← zpow_natCast, ← ten_zpow_add]
    congr 1
    omega
  have next : (10 : ℚ) ^ (lead + 1) = (10 ^ digits : ℕ) * 10 ^ (lead + 1 - digits) := by
    rw [Nat.cast_pow, Nat.cast_ofNat, ← zpow_natCast, ← ten_zpow_add]
    congr 1
    omega
  rw [le_div_iff₀ step, div_lt_iff₀ step, ← first, ← next]
  exact ⟨leads.le, leads.lt⟩

/-- The distance of a rational from a number of steps. -/
theorem abs_sub_steps (x : ℚ) (k exponent : ℤ) :
    |x - k * 10 ^ exponent| = |x / 10 ^ exponent - k| * 10 ^ exponent := by
  have step := ten_zpow_pos exponent
  rw [← abs_of_pos step, ← abs_mul, abs_of_pos step, sub_mul, div_mul_cancel₀ _ step.ne']

/-- A number of steps that is less than half a step away is nearest. -/
theorem nearestEven_of_steps {k exponent : ℤ}
    (close : |x - k * 10 ^ exponent| < 10 ^ exponent / 2) : NearestEven (x / 10 ^ exponent) k := by
  refine nearestEven_of_lt ?_
  rw [← mul_lt_mul_iff_of_pos_right (ten_zpow_pos exponent), ← abs_sub_steps]
  linarith

/-- The nearest number of steps is at most half a step away. -/
theorem NearestEven.within_steps {k exponent : ℤ} (near : NearestEven (x / 10 ^ exponent) k) :
    |x - k * 10 ^ exponent| ≤ 10 ^ exponent / 2 := by
  have within := mul_le_mul_of_nonneg_right near.within (ten_zpow_pos exponent).le
  rw [← abs_sub_steps] at within
  linarith

end Reckoner
