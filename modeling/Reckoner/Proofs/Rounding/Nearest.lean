import Mathlib.Algebra.Order.Field.Rat
import Mathlib.Tactic.FieldSimp
import Mathlib.Tactic.Linarith
import Mathlib.Tactic.Positivity
import Reckoner.Rounding

/-!
# Nearest whole numbers

What it means for a whole number to be nearest to a rational, a half going to the even neighbour.
There is only one such number, it grows with the rational, and no whole number is closer. The
rounding rule of the calculator gives it for every quotient of numbers.
-/

namespace Reckoner

/-- The whole number nearest to a rational; of two equally near ones, the even one. -/
structure NearestEven (x : ℚ) (k : ℤ) : Prop where
  within : |x - k| ≤ 1 / 2
  even : |x - k| = 1 / 2 → Even k

variable {x y : ℚ} {k l : ℤ}

/-- A whole number less than a half away is the nearest one. -/
theorem nearestEven_of_lt (close : |x - k| < 1 / 2) : NearestEven x k :=
  ⟨close.le, fun half => absurd half close.ne⟩

/-- A whole number is nearest to itself. -/
theorem nearestEven_self (k : ℤ) : NearestEven k k :=
  nearestEven_of_lt (by simp)

namespace NearestEven

/-- Opposite rationals have opposite nearest numbers. -/
theorem neg (near : NearestEven x k) : NearestEven (-x) (-k) := by
  have distance : |-x - ((-k : ℤ) : ℚ)| = |x - k| := by
    rw [Int.cast_neg, ← neg_sub', abs_neg]
  exact ⟨distance ▸ near.within, fun half => (near.even (distance ▸ half)).neg⟩

/-- Two numbers that are both nearest, one of them greater: the rational is halfway between
neighbours, which cannot both be even. -/
theorem not_below (left : NearestEven x k) (right : NearestEven y l) (le : x ≤ y) : ¬l < k := by
  intro less
  have step : (l : ℚ) + 1 ≤ k := by exact_mod_cast less
  have below := abs_le.1 left.within
  have above := abs_le.1 right.within
  have upper : x - k = -(1 / 2) := by linarith
  have lower : y - l = 1 / 2 := by linarith
  have neighbours : k = l + 1 := by
    have : (k : ℚ) = l + 1 := by linarith
    exact_mod_cast this
  have even_upper : Even k := left.even (by rw [upper, abs_neg, abs_of_pos (by norm_num)])
  have even_lower : Even l := right.even (by rw [lower, abs_of_pos (by norm_num)])
  rw [neighbours] at even_upper
  exact Int.not_even_iff_odd.2 even_lower.add_one even_upper

/-- The nearest number grows with the rational. -/
theorem mono (left : NearestEven x k) (right : NearestEven y l) (le : x ≤ y) : k ≤ l :=
  not_lt.1 (left.not_below right le)

/-- Only one number is nearest. -/
theorem unique (left : NearestEven x k) (right : NearestEven x l) : k = l :=
  le_antisymm (left.mono right le_rfl) (right.mono left le_rfl)

/-- Another number is farther than the nearest one, unless they are neighbours and the rational is
halfway between them. -/
theorem lt_or_tie (near : NearestEven x k) (other : l ≠ k) :
    |x - k| < |x - l| ∨ |x - k| = 1 / 2 ∧ |x - l| = 1 / 2 := by
  have within := near.within
  have apart : (1 : ℚ) ≤ |(l : ℚ) - k| := by
    have : (1 : ℤ) ≤ |l - k| := Int.one_le_abs (sub_ne_zero.2 other)
    exact_mod_cast this
  have triangle := abs_sub_le (l : ℚ) x k
  rw [abs_sub_comm (l : ℚ) x] at triangle
  rcases lt_or_ge |x - k| |x - l| with less | not_less
  · exact .inl less
  · exact .inr ⟨by linarith, by linarith⟩

/-- No number is closer than the nearest one. -/
theorem closest (near : NearestEven x k) (l : ℤ) : |x - k| ≤ |x - l| := by
  rcases eq_or_ne l k with rfl | other
  · exact le_rfl
  · rcases near.lt_or_tie other with less | ⟨half, half'⟩
    · exact less.le
    · rw [half, half']

/-- Of two equally near numbers, the nearest one is even and the other one is odd. -/
theorem parity_of_tie (near : NearestEven x k) (tie : |x - l| = |x - k|) (other : l ≠ k) :
    Even k ∧ ¬Even l := by
  rcases near.lt_or_tie other with less | ⟨half, half'⟩
  · exact absurd tie less.ne'
  · have also : Even l → NearestEven x l := fun even => ⟨half'.le, fun _ => even⟩
    exact ⟨near.even half, fun even => other ((also even).unique near)⟩

/-- A rational up to a whole number has its nearest number up to there. -/
theorem le_of_le (near : NearestEven x k) (le : x ≤ l) : k ≤ l :=
  near.mono (nearestEven_self l) le

/-- A rational from a whole number on has its nearest number from there on. -/
theorem ge_of_ge (near : NearestEven x k) (ge : l ≤ x) : l ≤ k :=
  (nearestEven_self l).mono near ge

end NearestEven

/-- Rounding a quotient of numbers gives the nearest whole number. -/
theorem nearestEven_roundHalfEven (n : ℕ) {d : ℕ} (positive : 0 < d) :
    NearestEven ((n : ℚ) / d) (roundHalfEven n d : ℕ) := by
  have divisor : (0 : ℚ) < d := by exact_mod_cast positive
  have parts : (d : ℚ) * (n / d : ℕ) + (n % d : ℕ) = n := by exact_mod_cast Nat.div_add_mod n d
  have rest : ((n % d : ℕ) : ℚ) < d := by exact_mod_cast Nat.mod_lt n positive
  have rest_nonneg : (0 : ℚ) ≤ (n % d : ℕ) := Nat.cast_nonneg _
  -- The distance to a number, in units of the divisor.
  have distance (k : ℤ) : |(n : ℚ) / d - k| = |(n : ℚ) - d * k| / d := by
    rw [← abs_of_pos divisor, ← abs_div, abs_of_pos divisor, sub_div,
      mul_div_cancel_left₀ _ divisor.ne']
  have half (k : ℤ) : |(n : ℚ) / d - k| = 1 / 2 ↔ 2 * |(n : ℚ) - d * k| = d := by
    rw [distance, div_eq_div_iff divisor.ne' two_ne_zero, one_mul, mul_comm]
  unfold roundHalfEven
  simp only
  split
  · rename_i below
    have below' : 2 * ((n % d : ℕ) : ℚ) < d := by exact_mod_cast below
    apply nearestEven_of_lt
    rw [distance, div_lt_iff₀ divisor, ← parts, Int.cast_natCast, add_sub_cancel_left,
      abs_of_nonneg rest_nonneg]
    linarith
  · split
    · rename_i above
      have above' : (d : ℚ) < 2 * ((n % d : ℕ) : ℚ) := by exact_mod_cast above
      apply nearestEven_of_lt
      rw [distance, div_lt_iff₀ divisor, ← parts, Int.cast_natCast, Nat.cast_add, Nat.cast_one,
        mul_add, mul_one, add_sub_add_left_eq_sub, abs_of_nonpos (by linarith)]
      linarith
    · have tie : 2 * ((n % d : ℕ) : ℚ) = d := by
        have : 2 * (n % d) = d := by omega
        exact_mod_cast this
      have away : 2 * |(n : ℚ) - d * ((n / d + n / d % 2 : ℕ) : ℤ)| = d := by
        rcases Nat.mod_two_eq_zero_or_one (n / d) with even | odd
        · rw [even, ← parts, Int.cast_natCast, Nat.add_zero, add_sub_cancel_left,
            abs_of_nonneg rest_nonneg]
          exact tie
        · rw [odd, ← parts, Int.cast_natCast, Nat.cast_add, Nat.cast_one, mul_add, mul_one,
            add_sub_add_left_eq_sub, abs_of_nonpos (by linarith)]
          linarith
      refine ⟨((half _).2 away).le, fun _ => ?_⟩
      rw [Int.even_coe_nat, Nat.even_iff]
      omega

end Reckoner
