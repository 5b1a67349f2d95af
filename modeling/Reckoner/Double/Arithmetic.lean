import Reckoner.Double.Basic

/-!
# Arithmetic on doubles

Each operation computes its exact result as a ratio of numbers of units and rounds it once. The
rules for infinities, for not-a-number and for the sign of zero are those of binary floating point
arithmetic. Powers are the one exception: their finite values are taken from the machine, so a
power is known only by the special cases stated here.
-/

namespace Reckoner

namespace Double

/-- The number with the opposite sign. -/
def neg : Double → Double
  | .nan => .nan
  | .infinite negative => .infinite (!negative)
  | .finite negative units exact => .finite (!negative) units exact

instance : Neg Double := ⟨neg⟩

/-- A finite number as an integer of units. -/
def signedUnits (negative : Bool) (units : Nat) : Int := if negative then -(units : Int) else units

/-- The sum. A sum that is exactly zero is positive unless both terms are negative. -/
def add : Double → Double → Double
  | .nan, _ | _, .nan => .nan
  | .infinite left, .infinite right => if left = right then .infinite left else .nan
  | .infinite left, .finite .. => .infinite left
  | .finite .., .infinite right => .infinite right
  | .finite leftNegative left _, .finite rightNegative right _ =>
    let sum := signedUnits leftNegative left + signedUnits rightNegative right
    if sum = 0 then zero (leftNegative && rightNegative)
    else round (decide (sum < 0)) sum.natAbs 1

instance : Add Double := ⟨add⟩

/-- The difference, which is the sum with the opposite number. -/
def sub (left right : Double) : Double := add left (neg right)

instance : Sub Double := ⟨sub⟩

/-- The product. An infinity times zero is not a number. -/
def mul : Double → Double → Double
  | .nan, _ | _, .nan => .nan
  | .infinite left, .infinite right => .infinite (left ^^ right)
  | .infinite left, .finite right units _ =>
    if units = 0 then .nan else .infinite (left ^^ right)
  | .finite left units _, .infinite right =>
    if units = 0 then .nan else .infinite (left ^^ right)
  | .finite leftNegative left _, .finite rightNegative right _ =>
    round (leftNegative ^^ rightNegative) (left * right) unitsPerOne

instance : Mul Double := ⟨mul⟩

/-- The quotient. Zero by zero and infinity by infinity are not numbers; a divisor of zero
otherwise gives an infinity. -/
def div : Double → Double → Double
  | .nan, _ | _, .nan => .nan
  | .infinite _, .infinite _ => .nan
  | .infinite left, .finite right _ _ => .infinite (left ^^ right)
  | .finite left _ _, .infinite right => zero (left ^^ right)
  | .finite leftNegative left _, .finite rightNegative right _ =>
    if right = 0 then (if left = 0 then .nan else .infinite (leftNegative ^^ rightNegative))
    else round (leftNegative ^^ rightNegative) (left * unitsPerOne) right

instance : Div Double := ⟨div⟩

/-- The square root. The integer root of the exact radicand and half a unit more for an inexact
one lie on the same side of every midpoint as the true root. -/
def sqrt : Double → Double
  | .nan => .nan
  | .infinite negative => if negative then .nan else .infinite false
  | .finite negative units exact =>
    if units = 0 then .finite negative units exact
    else if negative then .nan
    else
      let radicand := units * unitsPerOne
      let root := radicand.sqrt
      round false (2 * root + if root * root = radicand then 0 else 1) 2

/-- The machine's power function on the interchange format. -/
def machinePow (base exponent : Double) : Double :=
  ofBits (Float.pow (Float.ofBits base.toBits) (Float.ofBits exponent.toBits)).toBits

/-- The power, if it has a value: two finite numbers have none when it overflows, when a zero is
raised to a negative number or a negative number to a fraction. -/
def pow? (base exponent : Double) : Option Double :=
  let power := machinePow base exponent
  if base.isFinite && exponent.isFinite && !power.isFinite then none else some power

/-- The value of a percentage. -/
def hundredth (value : Double) : Double := value / ofInt 100

end Double

end Reckoner
