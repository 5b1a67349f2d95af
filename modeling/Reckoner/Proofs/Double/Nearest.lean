import Mathlib.Algebra.Order.Floor.Semifield
import Mathlib.Data.Rat.Floor
import Reckoner.Proofs.Double.Range
import Reckoner.Proofs.Rounding.Nearest

/-!
# The nearest double

A finite double stands for a rational, and rounding finds the double nearest to a rational, a tie
going to the even significand. The argument counts in units: the representable magnitudes near a
rational are the multiples of the spacing there, and those below the power of two under it are
farther than that power itself. So the nearest magnitude depends on the rational alone, grows with
it, and is not farther than any other.
-/

namespace Reckoner

/-! ## Spacing -/

/-- A magnitude has at most 53 bits in its own spacing. -/
theorem lt_mul_spacing (units : ℕ) : units < 2 ^ 53 * spacing units := by
  rw [spacing, ← Nat.pow_add]
  exact Nat.lt_of_lt_of_le Nat.lt_log2_self (Nat.pow_le_pow_right (by decide) (by omega))

/-- Where neighbours are apart by more than a unit, a magnitude has no fewer than 53 bits. -/
theorem mul_spacing_le {units : ℕ} (wide : spacing units ≠ 1) : 2 ^ 52 * spacing units ≤ units := by
  have bits : 52 ≤ units.log2 := by
    by_contra few
    exact wide (by rw [spacing, Nat.sub_eq_zero_of_le (by omega), Nat.pow_zero])
  have nonzero : units ≠ 0 := by
    rintro rfl
    exact absurd bits (by decide)
  rw [spacing, ← Nat.pow_add, Nat.add_sub_cancel' bits]
  exact Nat.log2_self_le nonzero

/-- The spacing at a magnitude divides the spacing at greater ones. -/
theorem spacing_dvd_spacing {m n : ℕ} (le : m ≤ n) : spacing m ∣ spacing n := by
  refine Nat.pow_dvd_pow 2 (Nat.sub_le_sub_right ?_ 52)
  by_cases zero : m = 0
  · subst zero
    exact Nat.zero_le _
  · exact (Nat.le_log2 (by omega)).2 (Nat.le_trans (Nat.log2_self_le zero) le)

/-- Spacings that differ are apart by a factor of two at least. -/
theorem two_mul_spacing_le {m n : ℕ} (less : spacing m < spacing n) :
    2 * spacing m ≤ spacing n := by
  have exponents : m.log2 - 52 < n.log2 - 52 := (Nat.pow_lt_pow_iff_right (by decide)).1 less
  rw [spacing, ← Nat.pow_succ']
  exact Nat.pow_le_pow_right (by decide) exponents

/-- The spacing at a power of two times a spacing and below it. -/
theorem spacing_dvd_of_lt {m n : ℕ} (below : m < 2 ^ 53 * spacing n) : spacing m ∣ spacing n := by
  refine Nat.pow_dvd_pow 2 ?_
  by_cases zero : m = 0
  · subst zero
    exact Nat.zero_le _
  · rw [spacing, ← Nat.pow_add] at below
    have := (Nat.log2_lt zero).2 below
    omega

/-- The spacing from a power of two times a spacing on. -/
theorem spacing_dvd_of_le {m n : ℕ} (above : 2 ^ 52 * spacing n ≤ m) : spacing n ∣ spacing m := by
  refine Nat.pow_dvd_pow 2 ?_
  have nonzero : m ≠ 0 := by
    have := Nat.mul_pos (Nat.two_pow_pos 52) (spacing_pos n)
    omega
  rw [spacing, ← Nat.pow_add] at above
  have := (Nat.le_log2 nonzero).2 above
  omega

/-! ## The nearest magnitude -/

/-- A number of units is the multiple of the spacing at a rational that is nearest to it. -/
def UnitsNear (q : ℚ) (units : ℕ) : Prop :=
  ∃ steps : ℕ, NearestEven (q / spacing ⌊q⌋₊) steps ∧ units = steps * spacing ⌊q⌋₊

/-- Rounding a quotient finds the nearest number of units. -/
theorem nearestUnits_near (n : ℕ) {d : ℕ} (positive : 0 < d) :
    UnitsNear ((n : ℚ) / d) (nearestUnits n d) := by
  have floor : ⌊(n : ℚ) / d⌋₊ = n / d := Nat.floor_div_eq_div n d
  refine ⟨roundHalfEven n (d * spacing (n / d)), ?_, by rw [floor, nearestUnits]⟩
  have steps : (n : ℚ) / d / spacing (n / d) = n / (d * spacing (n / d) : ℕ) := by
    rw [Nat.cast_mul, div_div]
  rw [floor, steps]
  exact nearestEven_roundHalfEven n (Nat.mul_pos positive (spacing_pos _))

namespace UnitsNear

variable {q r : ℚ} {units others : ℕ}

/-- Only one number of units is nearest. -/
theorem unique (left : UnitsNear q units) (right : UnitsNear q others) : units = others := by
  obtain ⟨steps, near, rfl⟩ := left
  obtain ⟨steps', near', rfl⟩ := right
  have same : (steps : ℤ) = steps' := near.unique near'
  rw [Int.ofNat_inj.1 same]

/-- The spacing is a positive rational. -/
theorem spacing_cast_pos (n : ℕ) : (0 : ℚ) < spacing n := by
  exact_mod_cast spacing_pos n

/-- Up to a multiple of the spacing the nearest number of units stays up to it. -/
theorem le_of_le (near : UnitsNear q units) (multiple : spacing ⌊q⌋₊ ∣ others)
    (le : q ≤ others) : units ≤ others := by
  obtain ⟨steps, nearest, rfl⟩ := near
  obtain ⟨count, rfl⟩ := multiple
  have bound : q / spacing ⌊q⌋₊ ≤ (count : ℤ) := by
    rw [div_le_iff₀ (spacing_cast_pos _), Int.cast_natCast, mul_comm]
    exact_mod_cast le
  rw [Nat.mul_comm]
  exact Nat.mul_le_mul_left _ (Int.ofNat_le.1 (nearest.le_of_le bound))

/-- From a multiple of the spacing on the nearest number of units stays from it on. -/
theorem ge_of_ge (near : UnitsNear q units) (multiple : spacing ⌊q⌋₊ ∣ others)
    (ge : others ≤ q) : others ≤ units := by
  obtain ⟨steps, nearest, rfl⟩ := near
  obtain ⟨count, rfl⟩ := multiple
  have bound : ((count : ℤ) : ℚ) ≤ q / spacing ⌊q⌋₊ := by
    rw [le_div_iff₀ (spacing_cast_pos _), Int.cast_natCast, mul_comm]
    exact_mod_cast ge
  rw [Nat.mul_comm steps]
  exact Nat.mul_le_mul_left _ (Int.ofNat_le.1 (nearest.ge_of_ge bound))

/-- A rational is below 2^53 times the spacing there. -/
theorem lt_mul_spacing_floor (q : ℚ) : q < (2 ^ 53 * spacing ⌊q⌋₊ : ℕ) := by
  refine (Nat.lt_floor_add_one q).trans_le ?_
  exact_mod_cast lt_mul_spacing ⌊q⌋₊

/-- A rational where the spacing is more than a unit is from 2^52 times the spacing on. -/
theorem mul_spacing_floor_le (nonneg : 0 ≤ q) (wide : spacing ⌊q⌋₊ ≠ 1) :
    ((2 ^ 52 * spacing ⌊q⌋₊ : ℕ) : ℚ) ≤ q :=
  (Nat.cast_le.2 (mul_spacing_le wide)).trans (Nat.floor_le nonneg)

/-- The distance to a multiple of the spacing, in steps of it. -/
theorem distance_steps (q : ℚ) (count : ℕ) : |q - (count * spacing ⌊q⌋₊ : ℕ)| =
    |q / spacing ⌊q⌋₊ - (count : ℤ)| * spacing ⌊q⌋₊ := by
  have positive := spacing_cast_pos ⌊q⌋₊
  rw [← abs_of_pos positive, ← abs_mul, abs_of_pos positive, sub_mul,
    div_mul_cancel₀ _ positive.ne', Nat.cast_mul, Int.cast_natCast]

/-- The nearest number of units is at most half a spacing away. -/
theorem within (near : UnitsNear q units) : |q - units| ≤ spacing ⌊q⌋₊ / 2 := by
  obtain ⟨steps, nearest, rfl⟩ := near
  rw [distance_steps]
  calc |q / spacing ⌊q⌋₊ - (steps : ℤ)| * spacing ⌊q⌋₊
      ≤ 1 / 2 * spacing ⌊q⌋₊ :=
        mul_le_mul_of_nonneg_right nearest.within (spacing_cast_pos _).le
    _ = spacing ⌊q⌋₊ / 2 := by rw [one_div, inv_mul_eq_div]

/-- No multiple of the spacing is closer than the nearest number of units. -/
theorem closest_steps (near : UnitsNear q units) (count : ℕ) :
    |q - units| ≤ |q - (count * spacing ⌊q⌋₊ : ℕ)| := by
  obtain ⟨steps, nearest, rfl⟩ := near
  rw [distance_steps, distance_steps]
  exact mul_le_mul_of_nonneg_right (nearest.closest _) (spacing_cast_pos _).le

/-- The steps of the nearest number of units have at most 53 bits, or are 2^53. -/
theorem steps_le {steps : ℕ} (nearest : NearestEven (q / spacing ⌊q⌋₊) steps) :
    steps ≤ 2 ^ 53 := by
  have bound : q / spacing ⌊q⌋₊ ≤ ((2 ^ 53 : ℕ) : ℤ) := by
    rw [div_le_iff₀ (spacing_cast_pos _)]
    exact_mod_cast (lt_mul_spacing_floor q).le
  exact_mod_cast nearest.le_of_le bound

/-- The nearest number of units is a multiple of its own spacing. -/
theorem spacing_dvd (near : UnitsNear q units) : spacing units ∣ units := by
  obtain ⟨steps, nearest, rfl⟩ := near
  exact spacing_dvd_mul_pow (steps_le nearest)

/-- A multiple of its own spacing is nearest to itself. -/
theorem self (multiple : spacing units ∣ units) : UnitsNear units units := by
  obtain ⟨steps, counted⟩ := multiple
  refine ⟨steps, ?_, by rw [Nat.floor_natCast, Nat.mul_comm, ← counted]⟩
  have whole : (units : ℚ) / spacing units = (steps : ℤ) := by
    rw [div_eq_iff (spacing_cast_pos _).ne', Int.cast_natCast, mul_comm]
    exact_mod_cast counted
  rw [Nat.floor_natCast, whole]
  exact nearestEven_self steps

/-- The nearest number of units grows with the rational. -/
theorem mono (near : UnitsNear q units) (near' : UnitsNear r others) (nonneg : 0 ≤ q)
    (le : q ≤ r) : units ≤ others := by
  have divides := spacing_dvd_spacing (Nat.floor_mono le)
  rcases (Nat.le_of_dvd (spacing_pos _) divides).lt_or_eq with less | same
  · -- The least magnitude with the wider spacing lies between the two.
    have wide : spacing ⌊r⌋₊ ≠ 1 := by
      have := spacing_pos ⌊q⌋₊
      omega
    have upper : units ≤ 2 ^ 52 * spacing ⌊r⌋₊ := by
      refine near.le_of_le (divides.mul_left _) ((lt_mul_spacing_floor q).le.trans ?_)
      have double := Nat.mul_le_mul_left (2 ^ 52) (two_mul_spacing_le less)
      exact_mod_cast (show 2 ^ 53 * spacing ⌊q⌋₊ ≤ _ by omega)
    have lower : 2 ^ 52 * spacing ⌊r⌋₊ ≤ others :=
      near'.ge_of_ge (Nat.dvd_mul_left _ _) (mul_spacing_floor_le (nonneg.trans le) wide)
    exact upper.trans lower
  · obtain ⟨steps, nearest, rfl⟩ := near
    obtain ⟨steps', nearest', rfl⟩ := near'
    rw [same] at nearest ⊢
    refine Nat.mul_le_mul_right _ (Int.ofNat_le.1 (nearest.mono nearest' ?_))
    exact div_le_div_of_nonneg_right le (spacing_cast_pos _).le

/-- Everything between two rationals with the same nearest number of units has it as well. -/
theorem between {p : ℚ} (near : UnitsNear q units) (near' : UnitsNear r units) (nonneg : 0 ≤ q)
    (ge : q ≤ p) (le : p ≤ r) (found : UnitsNear p others) : others = units :=
  Nat.le_antisymm (found.mono near' (nonneg.trans ge) le) (near.mono found nonneg ge)

/-- The number that the significant bits of a magnitude form. -/
def significandOf (units : ℕ) : ℕ := units / spacing units

/-- An even number of steps is an even significand. -/
theorem even_significandOf {steps n : ℕ} (even : Even steps) (few : steps ≤ 2 ^ 53) :
    Even (significandOf (steps * spacing n)) := by
  unfold significandOf
  rcases few.lt_or_eq with less | rfl
  · obtain ⟨finer, spaced⟩ :=
      spacing_dvd_of_lt (Nat.mul_lt_mul_of_pos_right less (spacing_pos n))
    have counted : steps * spacing n = spacing (steps * spacing n) * (steps * finer) := by
      conv_lhs => rw [spaced]
      rw [Nat.mul_left_comm]
    rw [Nat.div_eq_of_eq_mul_right (spacing_pos _) counted]
    exact even.mul_right finer
  · have exponent : 53 + (n.log2 - 52) - 52 = n.log2 - 52 + 1 := by omega
    have bits : 53 + (n.log2 - 52) - (n.log2 - 52 + 1) = 52 := by omega
    have counted : 2 ^ 53 * spacing n / spacing (2 ^ 53 * spacing n) = 2 ^ 52 := by
      conv_lhs => rw [spacing, spacing, ← Nat.pow_add, Nat.log2_two_pow, exponent,
        Nat.pow_div (by omega) (by decide), bits]
    rw [counted]
    decide

/-- Another multiple of its own spacing is farther than the nearest number of units, unless it is
as far; then its significand is odd, and that of the nearest number of units is even. -/
theorem lt_or_tie (near : UnitsNear q units) (nonneg : 0 ≤ q) (multiple : spacing others ∣ others)
    (differs : others ≠ units) :
    |q - units| < |q - others| ∨ |q - others| = |q - units| ∧
      Even (significandOf units) ∧ ¬Even (significandOf others) := by
  by_cases low : spacing ⌊q⌋₊ ≠ 1 ∧ others < 2 ^ 52 * spacing ⌊q⌋₊
  · -- The power of two below the rational is closer than what lies below it.
    obtain ⟨wide, below⟩ := low
    have bound := mul_spacing_floor_le nonneg wide
    have below' : (others : ℚ) < (2 ^ 52 * spacing ⌊q⌋₊ : ℕ) := by exact_mod_cast below
    have reached := near.closest_steps (2 ^ 52)
    rw [abs_of_nonneg (sub_nonneg.2 bound)] at reached
    rw [abs_of_nonneg (by linarith : 0 ≤ q - others)]
    exact .inl (by linarith)
  · have step : spacing ⌊q⌋₊ ∣ spacing others := by
      rw [not_and_or, not_not, Nat.not_lt] at low
      rcases low with one | above
      · rw [one]
        exact Nat.one_dvd _
      · exact spacing_dvd_of_le above
    obtain ⟨wider, spaced⟩ := step
    obtain ⟨significand, parts⟩ := multiple
    have counted : others = wider * significand * spacing ⌊q⌋₊ := by
      rw [parts, spaced, Nat.mul_assoc, Nat.mul_comm]
    rcases (counted ▸ near.closest_steps (wider * significand)).lt_or_eq with less | tie
    · exact .inl less
    · refine .inr ⟨tie.symm, ?_⟩
      rw [significandOf, significandOf, Nat.div_eq_of_eq_mul_right (spacing_pos others) parts]
      obtain ⟨steps, nearest, rfl⟩ := near
      rw [counted, distance_steps, distance_steps] at tie
      have same := mul_right_cancel₀ (spacing_cast_pos _).ne' tie
      obtain ⟨even, odd⟩ := nearest.parity_of_tie (l := (wider * significand : ℕ)) same.symm
        fun equal => differs (by rw [counted, Int.ofNat_inj.1 equal])
      refine ⟨even_significandOf (by exact_mod_cast even) (steps_le nearest), fun even' => ?_⟩
      exact odd (by exact_mod_cast even'.mul_left wider)

/-- No multiple of its own spacing is closer than the nearest number of units. -/
theorem closest (near : UnitsNear q units) (nonneg : 0 ≤ q) (multiple : spacing others ∣ others) :
    |q - units| ≤ |q - others| := by
  rcases eq_or_ne others units with rfl | differs
  · exact le_rfl
  · rcases near.lt_or_tie nonneg multiple differs with less | ⟨tie, -⟩
    · exact less.le
    · exact tie.ge

/-- A multiple of its own spacing that is less than half a unit away is the nearest one. -/
theorem eq_of_lt_half (near : UnitsNear q units) (nonneg : 0 ≤ q)
    (multiple : spacing others ∣ others) (close : |q - others| < 1 / 2) : units = others := by
  have closer := near.closest nonneg multiple
  have triangle := abs_sub_le (units : ℚ) q others
  rw [abs_sub_comm (units : ℚ) q] at triangle
  have apart : |(units : ℤ) - others| < 1 := by
    have : |(units : ℚ) - others| < 1 := by linarith
    exact_mod_cast this
  have same : (units : ℤ) - others = 0 := Int.abs_lt_one_iff.1 apart
  omega

/-! ### Signs -/

/-- Another signed multiple of its own spacing is farther than the nearest number of units, unless
it is as far; then its significand is odd, and that of the nearest number of units is even. -/
theorem lt_or_tie_signed (near : UnitsNear q units) (nonneg : 0 ≤ q)
    (multiple : spacing others ∣ others) (negative : Bool)
    (differs : Double.signedUnits negative others ≠ units) :
    |q - units| < |q - Double.signedUnits negative others| ∨
      |q - Double.signedUnits negative others| = |q - units| ∧
        Even (significandOf units) ∧ ¬Even (significandOf others) := by
  cases negative with
  | false =>
    exact near.lt_or_tie nonneg multiple fun same => differs (by rw [same]; rfl)
  | true =>
    -- Zero lies between, and if it is as near then it is what the other number is.
    have zero := near.closest nonneg (Nat.dvd_zero (spacing 0))
    have opposite : |q - Double.signedUnits true others| = q + others := by
      have : q - Double.signedUnits true others = q + others := by
        simp [Double.signedUnits]
      rw [this, abs_of_nonneg (by positivity)]
    rw [Nat.cast_zero, sub_zero, abs_of_nonneg nonneg] at zero
    rw [opposite]
    rcases Nat.eq_zero_or_pos others with rfl | positive
    · have parity := near.lt_or_tie nonneg multiple fun same => differs (by rw [← same]; rfl)
      rw [Nat.cast_zero, sub_zero, abs_of_nonneg nonneg] at parity
      rwa [Nat.cast_zero, add_zero]
    · have : (0 : ℚ) < others := by exact_mod_cast positive
      exact .inl (by linarith)

end UnitsNear

/-! ## Doubles as rationals -/

/-- A rational with a sign. -/
def signedRat (negative : Bool) (q : ℚ) : ℚ := if negative then -q else q

/-- The magnitude of a rational is left when its sign is dropped. -/
theorem abs_signedRat (negative : Bool) {q : ℚ} (nonneg : 0 ≤ q) : |signedRat negative q| = q := by
  unfold signedRat
  split
  · rw [abs_neg, abs_of_nonneg nonneg]
  · exact abs_of_nonneg nonneg

/-- Magnitudes with one sign are equal only if they are equal without it. -/
theorem signedRat_inj {negative : Bool} {p q : ℚ} :
    signedRat negative p = signedRat negative q ↔ p = q := by
  unfold signedRat
  split
  · exact neg_inj
  · exact Iff.rfl

namespace Double

/-- The rational that a finite double stands for; what is no finite number counts as zero. -/
def toRat : Double → ℚ
  | .finite negative units _ => (signedUnits negative units : ℚ) / unitsPerOne
  | _ => 0

/-- The number that the significant bits of a finite double form. -/
def significand : Double → ℕ
  | .finite _ units _ => UnitsNear.significandOf units
  | _ => 0

/-- A double is nearest to a rational: it is finite, no other finite double is closer, and if
another one is as close then this one has an even significand. -/
structure IsNearest (q : ℚ) (value : Double) : Prop where
  finite : value.isFinite = true
  closest : ∀ other : Double, other.isFinite = true → |q - value.toRat| ≤ |q - other.toRat|
  even : ∀ other : Double, other.isFinite = true → |q - other.toRat| = |q - value.toRat| →
    other.toRat ≠ value.toRat → Even value.significand

/-- A finite double is some number of units. -/
theorem exists_finite {value : Double} (finite : value.isFinite = true) :
    ∃ negative units exact, value = .finite negative units exact := by
  cases value with
  | nan => cases finite
  | infinite negative => cases finite
  | finite negative units exact => exact ⟨negative, units, exact, rfl⟩

/-- One is a positive rational number of units. -/
theorem unitsPerOne_cast_pos : (0 : ℚ) < unitsPerOne := by
  exact_mod_cast unitsPerOne_pos

/-- A rational is as many units as it has wholes, with either sign. -/
theorem signedRat_units_div (negative : Bool) (q : ℚ) :
    signedRat negative (q * unitsPerOne) / unitsPerOne = signedRat negative q := by
  unfold signedRat
  split
  · rw [neg_div, mul_div_cancel_right₀ _ unitsPerOne_cast_pos.ne']
  · rw [mul_div_cancel_right₀ _ unitsPerOne_cast_pos.ne']

/-- The units of a number without its sign. -/
theorem natAbs_signedUnits (negative : Bool) (units : ℕ) :
    (signedUnits negative units).natAbs = units := by
  cases negative
  · rfl
  · exact (Int.natAbs_neg _).trans (Int.natAbs_natCast units)

/-- A number has its own sign. -/
theorem signedUnits_natAbs (n : ℤ) : signedUnits (decide (n < 0)) n.natAbs = n := by
  unfold signedUnits
  split
  · rename_i negative
    have below := of_decide_eq_true negative
    omega
  · rename_i other
    have least := of_decide_eq_false (Bool.not_eq_true _ ▸ other)
    omega

/-- No units have no sign. -/
theorem signedUnits_zero (negative : Bool) : signedUnits negative 0 = 0 := by
  cases negative
  · rfl
  · rfl

/-- Units with the opposite sign. -/
theorem signedUnits_not (negative : Bool) (units : ℕ) :
    signedUnits (!negative) units = -signedUnits negative units := by
  cases negative
  · rfl
  · exact (neg_neg _).symm

/-- A fraction with a sign is the one without with that sign. -/
theorem signedUnits_div (negative : Bool) (units : ℕ) (d : ℚ) :
    ((signedUnits negative units : ℤ) : ℚ) / d = signedRat negative (units / d) := by
  unfold signedUnits signedRat
  split
  · rw [Int.cast_neg, Int.cast_natCast, neg_div]
  · rw [Int.cast_natCast]

/-- A finite double is its magnitude with its sign. -/
theorem toRat_finite (negative : Bool) {units : ℕ} (exact : Representable units) :
    (Double.finite negative units exact).toRat = signedRat negative (units / unitsPerOne) :=
  signedUnits_div negative units unitsPerOne

/-- The distance to a double, in units. -/
theorem distance_units (p : ℚ) (z : ℤ) :
    |p / unitsPerOne - (z : ℚ) / unitsPerOne| = |p - z| / unitsPerOne := by
  rw [← sub_div, abs_div, abs_of_pos unitsPerOne_cast_pos]

/-- The distance between numbers with a sign is that of the first one to the second one with the
sign turned accordingly. -/
theorem distance_signed (negative other : Bool) (q : ℚ) (m : ℕ) :
    |signedRat negative q - signedUnits other m| = |q - signedUnits (negative ^^ other) m| := by
  cases negative <;> cases other <;> simp only [signedRat, signedUnits, Bool.false_eq_true,
    ↓reduceIte, Bool.bne_true, Bool.bne_false, Bool.not_true, Bool.not_false, Int.cast_neg,
    sub_neg_eq_add]
  · rw [← abs_neg, neg_sub, sub_neg_eq_add, add_comm]
  · rw [← abs_neg, neg_add_eq_sub, neg_sub]

variable {q : ℚ} {units : ℕ}

/-- Two magnitudes with one sign stand for the same rational only if they are the same. -/
theorem signedUnits_injective {negative other : Bool} {m n : ℕ}
    (differs : signedUnits negative m ≠ signedUnits other n) :
    signedUnits (other ^^ negative) m ≠ n := by
  cases negative <;> cases other <;> simp_all [signedUnits]

/-- Another finite double is farther from a rational than the one with the nearest magnitude and
the same sign, unless it is as far; then its significand is odd, and the other one's is even. -/
theorem lt_or_tie (near : UnitsNear q units) (nonneg : 0 ≤ q) (negative : Bool)
    (exact : Representable units) {other : Double} (finite : other.isFinite = true)
    (differs : other.toRat ≠ (Double.finite negative units exact).toRat) :
    let target := signedRat negative q / unitsPerOne
    |target - (Double.finite negative units exact).toRat| < |target - other.toRat| ∨
      |target - other.toRat| = |target - (Double.finite negative units exact).toRat| ∧
        Even (Double.finite negative units exact).significand ∧ ¬Even other.significand := by
  intro target
  obtain ⟨sign, others, held, rfl⟩ := exists_finite finite
  have unlike : signedUnits (negative ^^ sign) others ≠ units :=
    signedUnits_injective fun same => differs (by rw [toRat, toRat, same])
  simp only [target, toRat, significand, distance_units, distance_signed, Bool.xor_self]
  rcases near.lt_or_tie_signed nonneg held.spacing_dvd _ unlike with less | ⟨tie, parity⟩
  · exact .inl (div_lt_div_of_pos_right less unitsPerOne_cast_pos)
  · exact .inr ⟨congrArg (· / (unitsPerOne : ℚ)) tie, parity⟩

/-- The nearest magnitude with a sign is the nearest double. -/
theorem isNearest_finite (near : UnitsNear q units) (nonneg : 0 ≤ q) (negative : Bool)
    (exact : Representable units) :
    IsNearest (signedRat negative q / unitsPerOne) (.finite negative units exact) where
  finite := rfl
  closest := by
    intro other finite
    by_cases same : other.toRat = (Double.finite negative units exact).toRat
    · rw [same]
    · rcases lt_or_tie near nonneg negative exact finite same with less | ⟨tie, -⟩
      · exact less.le
      · exact tie.ge
  even := by
    intro other finite tie differs
    rcases lt_or_tie near nonneg negative exact finite differs with less | ⟨-, even, -⟩
    · exact absurd tie less.ne'
    · exact even

/-- Only one finite number is nearest to a rational. -/
theorem IsNearest.toRat_eq {value : Double} (near : UnitsNear q units) (nonneg : 0 ≤ q)
    {negative : Bool} (exact : Representable units)
    (nearest : IsNearest (signedRat negative q / unitsPerOne) value) :
    value.toRat = (Double.finite negative units exact).toRat := by
  by_contra differs
  have reached := nearest.closest (.finite negative units exact) rfl
  rcases lt_or_tie near nonneg negative exact nearest.finite differs with less | ⟨tie, -, odd⟩
  · exact absurd reached (not_le.2 less)
  · exact odd (nearest.even (.finite negative units exact) rfl tie.symm (Ne.symm differs))

end Double

end Reckoner
