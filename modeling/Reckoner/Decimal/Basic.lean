import Reckoner.Text.Basic
import Reckoner.Double.Basic

/-!
# Exact decimals

An operand as it is written: a sign, a coefficient and a power of ten. Nothing is rounded here
until a decimal is asked for the integer it contains or for the double next to it.
-/

namespace Reckoner

/-- The number `coefficient * 10 ^ exponent` with a sign, which zero keeps. -/
structure Decimal where
  negative : Bool
  coefficient : Nat
  exponent : Int
  deriving DecidableEq, Repr

namespace Decimal

/-- Zero, of either sign and any exponent. -/
def isZero (d : Decimal) : Bool := d.coefficient == 0

/-- The magnitude cut down to a whole number. An exponent below the digit count leaves nothing,
and a zero has no digits to shift. -/
def wholePart (d : Decimal) : Nat :=
  if d.coefficient = 0 then 0
  else
    match d.exponent with
    | .ofNat shift => d.coefficient * 10 ^ shift
    | .negSucc shift =>
      if d.coefficient.log2 < shift then 0 else d.coefficient / 10 ^ (shift + 1)

/-- The integer that is left when the fraction is dropped. -/
def truncate (d : Decimal) : Int := if d.negative then -(d.wholePart : Int) else d.wholePart

/-- The nearest double, a tie going to the even significand. Exponents far outside the range of
doubles are settled without computing their powers of ten. -/
def toDouble (d : Decimal) : Double :=
  if d.coefficient = 0 then .zero d.negative
  else
    match d.exponent with
    | .ofNat shift =>
      if 400 < shift then .infinite d.negative
      else .round d.negative (d.coefficient * 10 ^ shift * unitsPerOne) 1
    | .negSucc shift =>
      if d.coefficient.log2 + 400 < shift then .zero d.negative
      else .round d.negative (d.coefficient * unitsPerOne) (10 ^ (shift + 1))

end Decimal

end Reckoner
