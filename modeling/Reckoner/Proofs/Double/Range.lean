import Reckoner.Double.Arithmetic

/-!
# The range of finite doubles

Overflow is the only way in which rounding a ratio leaves the finite doubles, and it cannot happen
up to the greatest finite magnitude: that one is a multiple of every spacing, and rounding never
passes a multiple of the step to which it rounds. So operations that make nothing greater, such as
taking a hundredth, keep numbers finite.
-/

namespace Reckoner

/-- One is not zero units. -/
theorem unitsPerOne_pos : 0 < unitsPerOne := Nat.two_pow_pos unitExponent

/-! ## Powers

Stated for arbitrary exponents, so that no power of this size is ever written out. -/

/-- A power of two divides the multiples of greater ones. -/
theorem pow_dvd_mul_pow {a b : Nat} (le : a ≤ b) (m : Nat) : 2 ^ a ∣ m * 2 ^ b :=
  Nat.dvd_trans (Nat.pow_dvd_pow 2 le) (Nat.dvd_mul_left _ _)

/-- Powers of ten in the same unit compare like their exponents. -/
theorem lt_of_mul_pow_lt {unit a b : Nat} (less : unit * 10 ^ a < unit * 10 ^ b) : a < b :=
  (Nat.pow_lt_pow_iff_right (by decide)).1 (Nat.lt_of_mul_lt_mul_left less)

/-- More of a greater power of ten is more. -/
theorem mul_pow_le_mul_pow {m n a b : Nat} (le : m ≤ n) (exponents : a ≤ b) :
    m * 10 ^ a ≤ n * 10 ^ b :=
  Nat.mul_le_mul le (Nat.pow_le_pow_right (by decide) exponents)

/-! ## Rounding and its step -/

/-- A ratio below the middle of a whole number and its successor is not rounded above it. -/
theorem roundHalfEven_le {n d m : Nat} (below : 2 * n < d * (2 * m + 1)) :
    roundHalfEven n d ≤ m := by
  have parts := Nat.div_add_mod n d
  have split : d * (2 * m + 1) = 2 * (d * m) + d := by
    rw [Nat.mul_add, Nat.mul_one, Nat.mul_left_comm]
  rcases Nat.lt_or_ge (n / d) m with less | greater
  · exact Nat.le_trans (roundHalfEven_le_succ n d) less
  · have grown : d * m ≤ d * (n / d) := Nat.mul_le_mul_left d greater
    have equal : n / d = m := by
      rcases Nat.lt_or_ge m (n / d) with more | same
      · have passed : d * (m + 1) ≤ d * (n / d) := Nat.mul_le_mul_left d more
        rw [Nat.mul_add, Nat.mul_one] at passed
        omega
      · exact Nat.le_antisymm same greater
    have small : 2 * (n % d) < d := by
      rw [equal] at parts
      omega
    simp only [roundHalfEven, small, ↓reduceIte]
    exact Nat.le_of_eq equal

/-- A ratio that does not exceed a whole number is not rounded above it. -/
theorem roundHalfEven_le_of_le {n d m : Nat} (positive : 0 < d) (le : n ≤ d * m) :
    roundHalfEven n d ≤ m := by
  refine roundHalfEven_le ?_
  rw [Nat.mul_add, Nat.mul_one, Nat.mul_left_comm]
  omega

/-! ## The greatest finite magnitude -/

/-- The exponent of the spacing between the greatest finite doubles. -/
def greatestSpacing : Nat := limitExponent - 53

/-- The greatest number of units of a finite double: 53 bits that are all set. -/
def greatestUnits : Nat := (2 ^ 53 - 1) * 2 ^ greatestSpacing

/-- The greatest finite magnitude does not overflow. -/
theorem greatestUnits_lt : greatestUnits < unitsLimit := by
  decide +kernel

/-- The greatest finite magnitude is a multiple of every spacing between finite doubles. -/
theorem spacing_dvd_greatestUnits {units : Nat} (finite : units < unitsLimit) :
    spacing units ∣ greatestUnits := by
  have exponent : units.log2 - 52 ≤ greatestSpacing := by
    by_cases zero : units = 0
    · subst zero
      decide
    · have bits : units.log2 < limitExponent := (Nat.log2_lt zero).2 finite
      unfold greatestSpacing limitExponent at *
      omega
  rw [spacing, greatestUnits]
  exact pow_dvd_mul_pow exponent _

/-- No finite magnitude is greater. -/
theorem Representable.le_greatestUnits {units : Nat} (exact : Representable units) :
    units ≤ greatestUnits := by
  by_cases small : units < 2 ^ (limitExponent - 1)
  · have half : 2 ^ (limitExponent - 1) ≤ greatestUnits := by decide +kernel
    exact Nat.le_trans (Nat.le_of_lt small) half
  · have large : 2 ^ (limitExponent - 1) ≤ units := Nat.le_of_not_lt small
    have positive : units ≠ 0 := Nat.pos_iff_ne_zero.1
      (Nat.lt_of_lt_of_le (Nat.two_pow_pos _) large)
    have step : spacing units = 2 ^ greatestSpacing := by
      have upper : units.log2 < limitExponent := (Nat.log2_lt positive).2 exact.lt_limit
      have lower : limitExponent - 1 ≤ units.log2 := (Nat.le_log2 positive).2 large
      have exponent : units.log2 - 52 = greatestSpacing := by
        unfold greatestSpacing
        omega
      rw [spacing, exponent]
    obtain ⟨steps, counted⟩ := exact.spacing_dvd
    rw [step, Nat.mul_comm] at counted
    have few : steps < 2 ^ 53 := by
      have bits : 53 + greatestSpacing = limitExponent := by decide
      have below : steps * 2 ^ greatestSpacing < 2 ^ 53 * 2 ^ greatestSpacing := by
        rw [← counted, ← Nat.pow_add, bits]
        exact exact.lt_limit
      exact Nat.lt_of_mul_lt_mul_right below
    rw [counted, greatestUnits]
    exact Nat.mul_le_mul_right _ (Nat.le_sub_one_of_lt few)

/-! ## Rounding to a finite double -/

/-- A magnitude that does not exceed the greatest finite one is not rounded above it. -/
theorem nearestUnits_le_greatestUnits {n d : Nat} (positive : 0 < d)
    (le : n ≤ d * greatestUnits) : nearestUnits n d ≤ greatestUnits := by
  have quotient : n / d ≤ greatestUnits := Nat.div_le_of_le_mul le
  obtain ⟨steps, counted⟩ :=
    spacing_dvd_greatestUnits (Nat.lt_of_le_of_lt quotient greatestUnits_lt)
  have rounded : roundHalfEven n (d * spacing (n / d)) ≤ steps := by
    refine roundHalfEven_le_of_le (Nat.mul_pos positive (spacing_pos _)) ?_
    rw [Nat.mul_assoc, ← counted]
    exact le
  rw [nearestUnits]
  calc roundHalfEven n (d * spacing (n / d)) * spacing (n / d)
      ≤ steps * spacing (n / d) := Nat.mul_le_mul_right _ rounded
    _ = greatestUnits := by rw [Nat.mul_comm, ← counted]

namespace Double

/-- Rounding gives a finite double up to the greatest finite magnitude. -/
theorem round_isFinite (negative : Bool) {n d : Nat} (positive : 0 < d)
    (le : n ≤ d * greatestUnits) : (round negative n d).isFinite = true := by
  have below : nearestUnits n d < unitsLimit :=
    Nat.lt_of_le_of_lt (nearestUnits_le_greatestUnits positive le) greatestUnits_lt
  rw [round, dif_pos below]
  rfl

/-! ## Hundredths -/

/-- One hundred is a double. -/
theorem ofInt_hundred : ∃ exact, ofInt 100 = .finite false (100 * unitsPerOne) exact :=
  ⟨by decide +kernel, by decide +kernel⟩

/-- A hundredth is finite exactly if the whole is. -/
theorem hundredth_isFinite (value : Double) : value.hundredth.isFinite = value.isFinite := by
  obtain ⟨exact, hundred⟩ := ofInt_hundred
  have hundredth : value.hundredth = value.div (ofInt 100) := rfl
  rw [hundredth, hundred]
  cases value with
  | nan => rfl
  | infinite negative => rfl
  | finite negative units representable =>
    have nonzero : 100 * unitsPerOne ≠ 0 := by decide +kernel
    simp only [div, if_neg nonzero]
    refine round_isFinite _ (Nat.pos_of_ne_zero nonzero) ?_
    calc units * unitsPerOne
        ≤ greatestUnits * (100 * unitsPerOne) :=
          Nat.mul_le_mul representable.le_greatestUnits (Nat.le_mul_of_pos_left _ (by decide))
      _ = 100 * unitsPerOne * greatestUnits := Nat.mul_comm _ _

end Double

end Reckoner
