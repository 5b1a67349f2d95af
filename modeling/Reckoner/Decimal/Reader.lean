import Reckoner.Decimal.Basic
import Reckoner.Text.CodeSet

/-!
# Reading decimals

The numerals that denote a decimal: an optional sign, digits with at most one point among them or
at either end, and an optional power of ten. Digits may come from any script and underscores are
not seen; blanks may surround the numeral. A numeral whose exponent leaves the fixed range is not
a decimal.
-/

namespace Reckoner

namespace Text

/-- The digits at the front, as values, and what follows them. -/
def spanDigits : Text → List Nat × Text
  | [] => ([], [])
  | c :: rest =>
    match digitValue? c with
    | some value =>
      let (values, after) := spanDigits rest
      (value :: values, after)
    | none => ([], c :: rest)

/-- The number that digits denote, most significant first, after a number already read. -/
def digitsValue (before : Nat) (digits : List Nat) : Nat :=
  digits.foldl (fun value digit => value * 10 + digit) before

/-- Takes an optional sign from the front: whether it is a minus, and what follows it. -/
def takeSign : Text → Bool × Text
  | '-' :: rest => (true, rest)
  | '+' :: rest => (false, rest)
  | text => (false, text)

/-- Takes a point and the digits after it from the front. Without a point there are none. -/
def takeFraction : Text → List Nat × Text
  | '.' :: rest => spanDigits rest
  | text => ([], text)

end Text

/-- The parts of a scanned numeral: sign, digits before and after the point, power of ten. -/
structure Numeral where
  negative : Bool
  whole : List Nat
  fraction : List Nat
  power : Int
  deriving DecidableEq, Repr

namespace Numeral

/-- Reads the power of ten at the end of a numeral: nothing, or a letter e and a signed number. -/
def power? : Text → Option Int
  | [] => some 0
  | mark :: rest =>
    if mark = 'e' ∨ mark = 'E' then
      match Text.takeSign rest with
      | (negative, digits) =>
        match Text.spanDigits digits with
        | ([], _) => none
        | (values, []) =>
          let size : Int := Text.digitsValue 0 values
          some (if negative then -size else size)
        | (_, _ :: _) => none
    else none

/-- Scans a whole text as one numeral, with a digit on at least one side of the point. -/
def ofText? (text : Text) : Option Numeral :=
  match Text.takeSign text with
  | (negative, unsigned) =>
    match Text.spanDigits unsigned with
    | (whole, afterWhole) =>
      match Text.takeFraction afterWhole with
      | (fraction, afterFraction) =>
        if whole.isEmpty && fraction.isEmpty then none
        else (power? afterFraction).map fun power => ⟨negative, whole, fraction, power⟩

/-- The decimal that a numeral writes. -/
def toDecimal (n : Numeral) : Decimal where
  negative := n.negative
  coefficient := Text.digitsValue (Text.digitsValue 0 n.whole) n.fraction
  exponent := n.power - n.fraction.length

end Numeral

namespace Decimal

/-- The greatest exponent of a decimal's first digit. -/
def greatestExponent : Int := 999999999999999999

/-- The least exponent of a decimal's last digit. -/
def leastExponent : Int := -1999999999999999997

/-- Whether a decimal's first and last digit lie in the range of exponents. -/
def inRange (d : Decimal) : Bool :=
  decide (leastExponent ≤ d.exponent) &&
    decide (d.exponent + (Text.digitCount d.coefficient - 1 : Nat) ≤ greatestExponent)

/-- The decimal that a text denotes, if it denotes one. -/
def ofText? (text : Text) : Option Decimal :=
  match Numeral.ofText? ((Text.trimBlanks text).filter (· ≠ '_')) with
  | some numeral => if numeral.toDecimal.inRange then some numeral.toDecimal else none
  | none => none

end Decimal

end Reckoner
