import Reckoner.Decimal.Reader

/-!
# Reading doubles

The texts that name a double: decimal numerals, in which an underscore may stand between two
digits, and the names of the infinities and of not-a-number in any case. Blanks other than the four
separators may surround them. The nearest double is taken.
-/

namespace Reckoner

namespace Text

/-- Whether every underscore stands between two decimal digits. -/
def underscoresSeparate (previousIsDigit : Bool) : Text → Bool
  | [] => true
  | '_' :: next :: rest =>
    previousIsDigit && (digitValue? next).isSome && underscoresSeparate true rest
  | ['_'] => false
  | c :: rest => underscoresSeparate (digitValue? c).isSome rest

/-- Text without underscores, provided that each separates digits. -/
def dropSeparators? (text : Text) : Option Text :=
  if underscoresSeparate false text then some (text.filter (· ≠ '_')) else none

end Text

namespace Double

/-- The double that a text names. -/
def ofText? (text : Text) : Option Double :=
  let trimmed := Text.trimNumeralBlanks text
  let (negative, name) := Text.takeSign trimmed
  let lowered := Text.lower name
  if lowered = ("inf" : Text) ∨ lowered = ("infinity" : Text) then some (.infinite negative)
  else if lowered = ("nan" : Text) then some .nan
  else do
    let numeral ← Numeral.ofText? (← Text.dropSeparators? trimmed)
    return numeral.toDecimal.toDouble

end Double

end Reckoner
