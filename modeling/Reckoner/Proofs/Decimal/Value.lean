import Mathlib.Algebra.Order.Field.Power
import Reckoner.Double.Shortest
import Reckoner.Proofs.Double.Nearest

/-!
# Decimals as rationals

A decimal is exactly a rational, and the double next to it is the double nearest to that rational:
the exponents that are settled without computing their powers of ten are so great or so small that
rounding gives the same. So reading a decimal depends on its sign and its value alone.
-/

namespace Reckoner

namespace Decimal

/-- The rational that a decimal is, without its sign. -/
def size (d : Decimal) : ℚ := d.coefficient * 10 ^ d.exponent

/-- The rational that a decimal is. -/
def toRat (d : Decimal) : ℚ := signedRat d.negative d.size

/-- A magnitude is not negative. -/
theorem size_nonneg (d : Decimal) : 0 ≤ d.size := by
  unfold size
  positivity

/-- A magnitude is not a negative number of units. -/
theorem units_nonneg (d : Decimal) : 0 ≤ d.size * unitsPerOne :=
  mul_nonneg d.size_nonneg (Nat.cast_nonneg _)

/-! ## Exponents out of range -/

/-- What a power of ten exceeds, any multiple of a greater one exceeds too. -/
theorem le_mul_pow {limit unit a coefficient shift : ℕ} (base : limit ≤ 10 ^ a * unit)
    (nonzero : coefficient ≠ 0) (great : a ≤ shift) : limit ≤ coefficient * 10 ^ shift * unit := by
  refine Nat.le_trans base (Nat.mul_le_mul_right unit ?_)
  exact Nat.le_trans (Nat.pow_le_pow_right (by decide) great)
    (Nat.le_mul_of_pos_left _ (Nat.pos_of_ne_zero nonzero))

/-- A magnitude with an exponent far below its bits is small. -/
theorem mul_lt_pow {unit a coefficient shift : ℕ} (base : 2 * unit ≤ 10 ^ a) (positive : 0 < unit)
    (small : coefficient.log2 + a ≤ shift) : coefficient * unit < 10 ^ shift := by
  have bits : coefficient < 2 ^ coefficient.log2 * 2 := by
    rw [← Nat.pow_succ]
    exact Nat.lt_log2_self
  calc coefficient * unit
      < 2 ^ coefficient.log2 * 2 * unit := Nat.mul_lt_mul_of_pos_right bits positive
    _ = 2 ^ coefficient.log2 * (2 * unit) := Nat.mul_assoc ..
    _ ≤ 10 ^ coefficient.log2 * 10 ^ a :=
        Nat.mul_le_mul (Nat.pow_le_pow_left (by decide) _) base
    _ = 10 ^ (coefficient.log2 + a) := (Nat.pow_add ..).symm
    _ ≤ 10 ^ shift := Nat.pow_le_pow_right (by decide) small

/-- From 10^401 on a magnitude has too many units. -/
theorem unitsLimit_le {coefficient shift : ℕ} (nonzero : coefficient ≠ 0) (great : 400 < shift) :
    unitsLimit ≤ coefficient * 10 ^ shift * unitsPerOne :=
  le_mul_pow (a := 400) (by decide +kernel) nonzero (Nat.le_of_lt great)

/-- A magnitude with an exponent far below its bits is less than half a unit. -/
theorem two_mul_lt {coefficient shift : ℕ} (small : coefficient.log2 + 400 < shift) :
    coefficient * (2 * unitsPerOne) < 10 ^ (shift + 1) :=
  mul_lt_pow (a := 400) (by decide +kernel) (Nat.mul_pos (by decide) unitsPerOne_pos)
    (by omega)

/-! ## The nearest double -/

/-- A power of two is a multiple of its spacing. -/
theorem spacing_dvd_two_pow (k : ℕ) : spacing (2 ^ k) ∣ 2 ^ k := by
  have power := spacing_dvd_mul_pow (m := 1) (k := k) (by decide)
  rwa [Nat.one_mul] at power

/-- The double with a magnitude, or an infinity if the magnitude is too great. -/
def limited (negative : Bool) (units : ℕ) : Double :=
  if exact : Representable units then .finite negative units exact else .infinite negative

/-- No magnitude is that of zero. -/
theorem limited_zero (negative : Bool) : limited negative 0 = .zero negative :=
  dif_pos representable_zero

/-- Rounding gives the nearest magnitude, or an infinity. -/
theorem round_eq_limited (negative : Bool) (n d : ℕ) :
    Double.round negative n d = limited negative (nearestUnits n d) := by
  unfold Double.round limited
  by_cases below : nearestUnits n d < unitsLimit
  · rw [dif_pos below, dif_pos ⟨spacing_nearestUnits_dvd n d, below⟩]
  · rw [dif_neg below, dif_neg fun exact => below exact.lt_limit]

/-- From 10^401 on the nearest magnitude is that of no finite double. -/
theorem limited_of_great (negative : Bool) {coefficient shift : ℕ} (nonzero : coefficient ≠ 0)
    (great : 400 < shift) :
    limited negative (nearestUnits (coefficient * 10 ^ shift * unitsPerOne) 1) =
      .infinite negative := by
  have near := nearestUnits_near (coefficient * 10 ^ shift * unitsPerOne) Nat.one_pos
  rw [Nat.cast_one, div_one] at near
  have limit : unitsLimit ≤ nearestUnits (coefficient * 10 ^ shift * unitsPerOne) 1 :=
    (UnitsNear.self (spacing_dvd_two_pow limitExponent)).mono near (Nat.cast_nonneg _)
      (Nat.cast_le.2 (unitsLimit_le nonzero great))
  exact dif_neg fun exact => Nat.not_le.2 exact.lt_limit limit

/-- With an exponent far below its bits a magnitude is nearest to nothing. -/
theorem nearestUnits_of_small {coefficient shift : ℕ} (small : coefficient.log2 + 400 < shift) :
    nearestUnits (coefficient * unitsPerOne) (10 ^ (shift + 1)) = 0 := by
  have positive : 0 < 10 ^ (shift + 1) := Nat.pow_pos (by decide)
  have nonneg : (0 : ℚ) ≤ (coefficient * unitsPerOne : ℕ) / (10 ^ (shift + 1) : ℕ) :=
    div_nonneg (Nat.cast_nonneg _) (Nat.cast_nonneg _)
  refine (nearestUnits_near _ positive).eq_of_lt_half nonneg (Nat.dvd_zero _) ?_
  have less := two_mul_lt small
  rw [Nat.mul_left_comm] at less
  rw [Nat.cast_zero, sub_zero, abs_of_nonneg nonneg, div_lt_div_iff₀
    (Nat.cast_pos.2 positive) two_pos, one_mul, mul_comm]
  exact_mod_cast less

/-- The double next to a decimal has the magnitude nearest to it, if there is a finite one. -/
theorem exists_units (d : Decimal) : ∃ units, UnitsNear (d.size * unitsPerOne) units ∧
    d.toDouble = limited d.negative units := by
  obtain ⟨negative, coefficient, exponent⟩ := d
  unfold toDouble size
  simp only
  by_cases zero : coefficient = 0
  · refine ⟨0, ?_, by rw [if_pos zero, limited_zero]⟩
    rw [zero, Nat.cast_zero, zero_mul, zero_mul]
    exact_mod_cast UnitsNear.self (Nat.dvd_zero _)
  · rw [if_neg zero]
    cases exponent with
    | ofNat shift =>
      have near := nearestUnits_near (coefficient * 10 ^ shift * unitsPerOne) Nat.one_pos
      have value : ((coefficient * 10 ^ shift * unitsPerOne : ℕ) : ℚ) / (1 : ℕ) =
          coefficient * 10 ^ Int.ofNat shift * unitsPerOne := by
        rw [Nat.cast_one, div_one, Int.ofNat_eq_natCast, zpow_natCast]
        push_cast
        rfl
      refine ⟨_, value ▸ near, ?_⟩
      simp only
      split
      · rename_i great
        exact (limited_of_great negative zero great).symm
      · exact round_eq_limited ..
    | negSucc shift =>
      have positive : 0 < 10 ^ (shift + 1) := Nat.pow_pos (by decide)
      have near := nearestUnits_near (coefficient * unitsPerOne) positive
      have value : ((coefficient * unitsPerOne : ℕ) : ℚ) / (10 ^ (shift + 1) : ℕ) =
          coefficient * 10 ^ Int.negSucc shift * unitsPerOne := by
        rw [zpow_negSucc, ← div_eq_mul_inv, div_mul_eq_mul_div]
        push_cast
        rfl
      refine ⟨_, value ▸ near, ?_⟩
      simp only
      split
      · rename_i small
        rw [nearestUnits_of_small small, limited_zero]
      · exact round_eq_limited ..

variable {d e : Decimal} {units : ℕ}

/-- The double next to a decimal, from the nearest magnitude. -/
theorem toDouble_eq (near : UnitsNear (d.size * unitsPerOne) units) :
    d.toDouble = limited d.negative units := by
  obtain ⟨others, also, read⟩ := d.exists_units
  rw [read, near.unique also]

/-- A decimal is read as a finite double exactly if that one has the nearest magnitude. -/
theorem toDouble_eq_finite_iff {negative : Bool} {exact : Representable units} :
    d.toDouble = .finite negative units exact ↔
      d.negative = negative ∧ UnitsNear (d.size * unitsPerOne) units := by
  constructor
  · intro read
    obtain ⟨others, near, found⟩ := d.exists_units
    rw [found, limited] at read
    split at read
    · injection read with sign same
      exact ⟨sign, same ▸ near⟩
    · cases read
  · rintro ⟨rfl, near⟩
    rw [toDouble_eq near, limited, dif_pos exact]

/-- The double next to a decimal is the nearest one, if it is finite. -/
theorem isNearest_toDouble (finite : d.toDouble.isFinite = true) :
    d.toDouble.IsNearest d.toRat := by
  obtain ⟨negative, units, exact, read⟩ := Double.exists_finite finite
  obtain ⟨sign, near⟩ := toDouble_eq_finite_iff.1 read
  have nearest := Double.isNearest_finite near d.units_nonneg negative exact
  rw [Double.signedRat_units_div] at nearest
  rwa [read, toRat, sign]

end Decimal

end Reckoner
