import Reckoner.Text.Basic

/-!
# Surrogate pairs

Characters beyond U+FFFF are written as two code units of sixteen bits, the halves of a pair. Code
units are read back here: a first half and the second half right after it make one character, and
a half without its partner stands for itself.
-/

namespace Reckoner

namespace Surrogate

/-- Whether a code unit is the first half of a pair. -/
def isFirst (unit : Nat) : Bool := decide (0xD800 ≤ unit) && decide (unit < 0xDC00)

/-- Whether a code unit is the second half of a pair. -/
def isSecond (unit : Nat) : Bool := decide (0xDC00 ≤ unit) && decide (unit < 0xE000)

/-- The character of a pair. -/
def join (first second : Nat) : Char :=
  Char.ofNat (0x10000 + (first - 0xD800) * 0x400 + (second - 0xDC00))

/-- The first half of the character of a number beyond U+FFFF. -/
def first (n : Nat) : Nat := 0xD800 + (n - 0x10000) / 0x400

/-- The second half of the character of a number beyond U+FFFF. -/
def second (n : Nat) : Nat := 0xDC00 + (n - 0x10000) % 0x400

end Surrogate

namespace Text

/-- The text of code units. -/
def ofUnits : List Nat → Text
  | [] => []
  | [unit] => [.ofNat unit]
  | high :: low :: rest =>
    if Surrogate.isFirst high && Surrogate.isSecond low then
      (Surrogate.join high low : CodePoint) :: ofUnits rest
    else .ofNat high :: ofUnits (low :: rest)

end Text

end Reckoner
