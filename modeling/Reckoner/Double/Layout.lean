import Reckoner.Double.Shortest

/-!
# Laying out digits

How the digits of a decimal magnitude become a numeral: with a point among them or beside them
while the exponent of the first digit is within bounds, and with a power of ten otherwise. The
bounds and the form of the exponent are choices of the place where a numeral is shown, collected
in one record. Doubles inside messages and files use `Layout.exact`.
-/

namespace Reckoner

/-- The choices in writing a numeral. -/
structure Layout where
  /-- The least exponent of the first digit for which no power of ten is written. -/
  leastPositional : Int
  /-- The first exponent, upwards, for which a power of ten is written again. -/
  firstScientific : Int
  /-- Whether a whole number written out gets a point and a zero. -/
  pointZero : Bool
  /-- Whether a single digit before a power of ten gets them as well. -/
  scientificPoint : Bool
  /-- The least number of digits in an exponent. -/
  exponentWidth : Nat

namespace Layout

/-- Digits with a point after the first `whole` of them. Zeros fill what the digits do not reach. -/
def positional (layout : Layout) (digits : Text) (whole : Int) : Text :=
  match whole with
  | .negSucc gap => "0." ++ Text.zeros (gap + 1) ++ digits
  | .ofNat 0 => "0." ++ digits
  | .ofNat count =>
    if digits.length ≤ count then
      digits ++ Text.zeros (count - digits.length)
        ++ (if layout.pointZero then (".0" : Text) else [])
    else digits.take count ++ "." ++ digits.drop count

/-- Digits as a significand with one digit before the point, and a power of ten. -/
def scientific (layout : Layout) (digits : Text) (exponent : Int) : Text :=
  let significand := match digits with
    | first :: next :: rest => first :: '.' :: next :: rest
    | digits => digits ++ (if layout.scientificPoint then (".0" : Text) else [])
  significand ++ (if exponent < 0 then ("e-" : Text) else "e+")
    ++ Text.padZeros layout.exponentWidth (Text.ofNat exponent.natAbs)

/-- The numeral of a positive decimal magnitude without zeros at its end. -/
def write (layout : Layout) (s : Scaled) : Text :=
  let digits := Text.ofNat s.coefficient
  let exponent := s.leading
  if layout.leastPositional ≤ exponent ∧ exponent < layout.firstScientific then
    layout.positional digits (exponent + 1)
  else layout.scientific digits exponent

/-- Every finite double reads back from this form; a point or a power of ten tells it from an
integer. Powers of ten begin below 10^-4 and at 10^16, with at least two digits of exponent. -/
def exact : Layout where
  leastPositional := -4
  firstScientific := 16
  pointZero := true
  scientificPoint := false
  exponentWidth := 2

/-- Every finite double has a point in this form. Powers of ten begin below 10^-4 and at 10^15. -/
def pointed : Layout where
  leastPositional := -4
  firstScientific := 15
  pointZero := true
  scientificPoint := true
  exponentWidth := 2

end Layout

namespace Double

/-- The shortest text that reads back as the same double. -/
def toText : Double → Text
  | .nan => "nan"
  | .infinite negative => if negative then "-inf" else "inf"
  | .finite negative units _ =>
    let magnitude := if units = 0 then ("0.0" : Text) else Layout.exact.write (shortest units)
    if negative then '-' :: magnitude else magnitude

end Double

end Reckoner
