import Reckoner.Expression.Parser

/-!
# Shown results

The two forms in which a double is shown. A quotient has at most ten decimal places; every other
result is rounded to twelve significant digits, which hides the noise of binary arithmetic, and is
written out while that takes no more than twenty-one digits. Both forms give `Error` for a value
that is not finite.
-/

namespace Reckoner

namespace Display

/-- What is shown when there is no finite result. -/
def error : Text := "Error"

/-- The decimal places of a quotient. -/
def quotientPlaces : Nat := 10

/-- The significant digits of any other result. -/
def resultDigits : Nat := 12

/-- Numerals with a point, up to the digits of 10^21 and down to 10^-6; powers of ten beyond. -/
def layout : Layout where
  leastPositional := -6
  firstScientific := 21
  pointZero := false
  scientificPoint := false
  exponentWidth := 1

/-- A minus sign before the magnitude of a negative number. -/
def signed (negative : Bool) (magnitude : Text) : Text :=
  if negative then '-' :: magnitude else magnitude

/-- The numeral of `n` steps of `10 ^ (-places)`, without zeros at its end. -/
def fixedPoint (places n : Nat) : Text :=
  let fraction := n % 10 ^ places
  let decimals : Text :=
    if fraction = 0 then []
    else '.' :: Text.trimEnd (· == '0') (Text.padZeros places (Text.ofNat fraction))
  Text.ofNat (n / 10 ^ places) ++ decimals

/-- A quotient, rounded to the nearest multiple of 10^-10. What rounds to zero has no sign. -/
def quotient : Double → Text
  | .finite negative units _ =>
    let steps := roundHalfEven (units * 10 ^ quotientPlaces) unitsPerOne
    if steps = 0 then "0" else signed negative (fixedPoint quotientPlaces steps)
  | _ => error

/-- A nonzero magnitude: whole numbers below 10^21 are written out exactly, others in the fewest
digits that read back. -/
def magnitude (units : Nat) : Text :=
  if units % unitsPerOne = 0 ∧ units < 10 ^ 21 * unitsPerOne then
    Text.ofNat (units / unitsPerOne)
  else layout.write (shortest units)

/-- The double next to the value's decimal with twelve significant digits. -/
def rounded (negative : Bool) (units : Nat) : Double :=
  (toSignificant roundHalfEven resultDigits units unitsPerOne).toDouble negative

/-- A result other than a quotient. Zero has no sign. -/
def result : Double → Text
  | .finite negative units _ =>
    if units = 0 then "0"
    else
      match rounded negative units with
      | .finite negative units _ =>
        if units = 0 then "0" else signed negative (magnitude units)
      | _ => error
  | _ => error

/-- The form that suits an evaluation: expressions with a division are shown as quotients. -/
def evaluation (e : Evaluation) : Text :=
  if e.divided then quotient e.value else result e.value

/-- What is shown for an expression: nothing if it cannot be evaluated, `Error` if its value is
not finite, otherwise its value. -/
def expression? (depth : Nat) (text : Text) : Option Text :=
  match evaluate depth text with
  | .ok e => some (evaluation e)
  | .error (.notFinite _ _) => some error
  | .error (.powerWithoutValue _ _) => some error
  | .error _ => none

end Display

end Reckoner
