import Reckoner.Rounding

/-!
# Doubles

Binary floating point numbers with 53 significant bits. A finite one is a sign and a whole number
of units of `2 ^ (-1074)`, the smallest positive double; which numbers of units occur is a
divisibility by their spacing, so equal values have equal forms and every law about a finite
double is a law about natural numbers. Every operation rounds its exact result once, in `round`.
-/

namespace Reckoner

/-- The distance between neighbouring doubles at a magnitude of `units`. -/
def spacing (units : Nat) : Nat := 2 ^ (units.log2 - 52)

/-- The unit is two to the minus this. -/
def unitExponent : Nat := 1074

/-- Units in one whole. -/
def unitsPerOne : Nat := 2 ^ unitExponent

/-- Two to this many units is too great for a finite double. -/
def limitExponent : Nat := 2098

/-- The first number of units that is too great for a finite double. -/
def unitsLimit : Nat := 2 ^ limitExponent

/-- The numbers of units that a finite double can hold. -/
structure Representable (units : Nat) : Prop where
  /-- At most 53 bits are significant. -/
  spacing_dvd : spacing units ∣ units
  /-- The magnitude does not overflow. -/
  lt_limit : units < unitsLimit

instance (units : Nat) : Decidable (Representable units) :=
  decidable_of_iff (spacing units ∣ units ∧ units < unitsLimit)
    ⟨fun h => ⟨h.1, h.2⟩, fun h => ⟨h.1, h.2⟩⟩

/-- A double: not a number, an infinity, or a signed magnitude; zero keeps its sign. -/
inductive Double where
  | nan
  | infinite (negative : Bool)
  | finite (negative : Bool) (units : Nat) (exact : Representable units)
  deriving DecidableEq

/-- The representable magnitude nearest to `n / d` units, a tie going to the one whose last
significant bit is zero; overflow is not considered. -/
def nearestUnits (n d : Nat) : Nat :=
  roundHalfEven n (d * spacing (n / d)) * spacing (n / d)

/-- Neighbours are apart. -/
theorem spacing_pos (units : Nat) : 0 < spacing units := Nat.two_pow_pos _

/-- No magnitude at all is representable. -/
theorem representable_zero : Representable 0 where
  spacing_dvd := Nat.dvd_zero _
  lt_limit := Nat.two_pow_pos limitExponent

/-- Below 2^53 units neighbours are one unit apart. -/
theorem spacing_eq_one {units : Nat} (small : units < 2 ^ 53) : spacing units = 1 := by
  have : units.log2 - 52 = 0 := by
    by_cases zero : units = 0
    · subst zero; decide
    · have := (Nat.log2_lt zero).2 small
      omega
  simp [spacing, this]

/-- A multiple `m * 2 ^ k` of a power of two with `m ≤ 2 ^ 53` is a multiple of its spacing. -/
theorem spacing_dvd_mul_pow {m k : Nat} (bound : m ≤ 2 ^ 53) :
    spacing (m * 2 ^ k) ∣ m * 2 ^ k := by
  rcases Nat.lt_or_eq_of_le bound with less | equal
  · by_cases zero : m = 0
    · simp [zero]
    · have nonzero : m * 2 ^ k ≠ 0 :=
        Nat.mul_ne_zero zero (Nat.pos_iff_ne_zero.1 (Nat.two_pow_pos k))
      have upper : m * 2 ^ k < 2 ^ (53 + k) := by
        rw [Nat.pow_add]
        exact Nat.mul_lt_mul_of_pos_right less (Nat.two_pow_pos k)
      have := (Nat.log2_lt nonzero).2 upper
      exact Nat.dvd_trans (Nat.pow_dvd_pow 2 (by omega : (m * 2 ^ k).log2 - 52 ≤ k))
        (Nat.dvd_mul_left _ _)
  · subst equal
    rw [← Nat.pow_add, spacing, Nat.log2_two_pow]
    exact Nat.pow_dvd_pow 2 (by omega)

/-- The scaled significand that `nearestUnits` chooses has at most 53 bits, or is 2^53. -/
theorem roundHalfEven_spacing_le (n d : Nat) :
    roundHalfEven n (d * spacing (n / d)) ≤ 2 ^ 53 := by
  refine Nat.le_trans (roundHalfEven_le_succ _ _) ?_
  rw [← Nat.div_div_eq_div_mul]
  refine Nat.succ_le_of_lt ?_
  rw [Nat.div_lt_iff_lt_mul (spacing_pos _), spacing, ← Nat.pow_add]
  exact Nat.lt_of_lt_of_le Nat.lt_log2_self (Nat.pow_le_pow_right (by decide) (by omega))

/-- The nearest magnitude is a multiple of its own spacing. -/
theorem spacing_nearestUnits_dvd (n d : Nat) :
    spacing (nearestUnits n d) ∣ nearestUnits n d :=
  spacing_dvd_mul_pow (roundHalfEven_spacing_le n d)

namespace Double

/-- The double nearest to a magnitude of `n / d` units, with a sign. -/
def round (negative : Bool) (n d : Nat) : Double :=
  if h : nearestUnits n d < unitsLimit then
    .finite negative (nearestUnits n d) ⟨spacing_nearestUnits_dvd n d, h⟩
  else .infinite negative

/-- Zero, with its sign. -/
def zero (negative : Bool) : Double := .finite negative 0 representable_zero

/-- The double nearest to an integer. -/
def ofInt (n : Int) : Double := round (decide (n < 0)) (n.natAbs * unitsPerOne) 1

/-- Neither an infinity nor not a number. -/
def isFinite : Double → Bool
  | .finite .. => true
  | _ => false

/-- Zero, of either sign. -/
def isZero : Double → Bool
  | .finite _ units _ => units == 0
  | _ => false

/-- Less than zero: a zero with a minus sign is not. -/
def isBelowZero : Double → Bool
  | .nan => false
  | .infinite negative => negative
  | .finite negative units _ => negative && units != 0

/-- The bits of the interchange format: sign, eleven bits of exponent, 52 of significand. -/
def toBits : Double → UInt64
  | .nan => 0x7FF8000000000000
  | .infinite negative => if negative then 0xFFF0000000000000 else 0x7FF0000000000000
  | .finite negative units _ =>
    let sign := if negative then 2 ^ 63 else 0
    (sign + (units.log2 - 52) * 2 ^ 52 + units / spacing units).toUInt64

/-- The double that bits of the interchange format stand for. -/
def ofBits (bits : UInt64) : Double :=
  let n := bits.toNat
  let negative := decide (2 ^ 63 ≤ n)
  let exponent := n / 2 ^ 52 % 2 ^ 11
  let fraction := n % 2 ^ 52
  if exponent = 2047 then (if fraction = 0 then .infinite negative else .nan)
  else if exponent = 0 then round negative fraction 1
  else round negative ((2 ^ 52 + fraction) * 2 ^ (exponent - 1)) 1

end Double

end Reckoner
