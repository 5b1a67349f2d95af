import Reckoner.Rounding
import Reckoner.Text.CodePoint

/-!
# Text

Everything the calculator shows, reads, logs or sends is a list of code points, so that typing,
erasing and scanning are list operations and their laws are list lemmas. This module holds the
operations that more than one subject needs: decimal numerals of whole numbers, padding, trimming
and searching. String literals coerce to text.
-/

namespace Reckoner

/-- Text is the list of its code points. -/
abbrev Text := List CodePoint

namespace Text

/-- The text of a string. -/
def ofString (string : String) : Text := string.toList.map .char

end Text

instance : Coe String Text := ⟨Text.ofString⟩

namespace Text

/-- The decimal numeral of a natural number, without leading zeros. -/
def ofNat (n : Nat) : Text := (Nat.toDigits 10 n).map .char

/-- The decimal numeral of an integer: a hyphen stands before the digits of a negative one. -/
def ofInt : Int → Text
  | .ofNat n => ofNat n
  | .negSucc n => '-' :: ofNat (n + 1)

/-- The number that ASCII digits denote, most significant first. -/
def digitsNat (digits : Text) : Nat :=
  digits.foldl (fun value digit => value * 10 + (digit.toNat - '0'.toNat)) 0

/-- The number of digits in the decimal numeral of `n`. -/
def digitCount (n : Nat) : Nat := (ofNat n).length

/-- So many zeros. -/
def zeros (count : Nat) : Text := List.replicate count '0'

/-- Text filled up on the left with zeros to at least `width` characters. -/
def padZeros (width : Nat) (text : Text) : Text := zeros (width - text.length) ++ text

/-- Text without what is in `drop` at its end. -/
def trimEnd (drop : CodePoint → Bool) (text : Text) : Text :=
  (text.reverse.dropWhile drop).reverse

/-- Text without what is in `drop` at either end. -/
def trim (drop : CodePoint → Bool) (text : Text) : Text :=
  trimEnd drop (text.dropWhile drop)

/-- Whether `part` occurs somewhere in the text. -/
def contains (part : Text) : Text → Bool
  | [] => part.isEmpty
  | c :: rest => part.isPrefixOf (c :: rest) || contains part rest

/-- The text before and after the first `mark`; without one, all of it and nothing. -/
def splitFirst (mark : CodePoint) : Text → Text × Option Text
  | [] => ([], none)
  | c :: rest =>
    if c = mark then ([], some rest)
    else
      let (before, after) := splitFirst mark rest
      (c :: before, after)

/-- The text before and after the last `mark`; without one, nothing and all of it. -/
def splitLast (mark : CodePoint) (text : Text) : Option Text × Text :=
  let (after, before) := splitFirst mark text.reverse
  (before.map List.reverse, after.reverse)

/-- The pieces between the code points that are marks; one more piece than there are marks. -/
def splitWhere (isMark : CodePoint → Bool) : Text → List Text
  | [] => [[]]
  | c :: rest =>
    match splitWhere isMark rest with
    | [] => [[c]]
    | piece :: pieces => if isMark c then [] :: piece :: pieces else (c :: piece) :: pieces

/-- The pieces between the occurrences of `mark`. -/
def splitOn (mark : CodePoint) (text : Text) : List Text := splitWhere (· == mark) text

/-- ASCII capitals made small; everything else stays. -/
def lower (text : Text) : Text := text.map CodePoint.lower

/-- The pieces joined, with `mark` between neighbours. -/
def joinWith (mark : Text) : List Text → Text
  | [] => []
  | [piece] => piece
  | piece :: next :: pieces => piece ++ mark ++ joinWith mark (next :: pieces)

/-- The character of a hexadecimal digit below sixteen, in small letters. -/
def hexDigit (n : Nat) : Char := "0123456789abcdef".toList.getD n '0'

/-- The value of a hexadecimal digit, in either case. -/
def hexValue? (c : CodePoint) : Option Nat :=
  if '0' ≤ c ∧ c ≤ '9' then some (c.toNat - '0'.toNat)
  else if 'a' ≤ c ∧ c ≤ 'f' then some (c.toNat - 'a'.toNat + 10)
  else if 'A' ≤ c ∧ c ≤ 'F' then some (c.toNat - 'A'.toNat + 10)
  else none

/-- `width` hexadecimal digits of `n`, most significant first. -/
def hex : Nat → Nat → Text
  | 0, _ => []
  | width + 1, n => hex width (n / 16) ++ [(hexDigit (n % 16) : CodePoint)]

end Text

/-! ## Numerals that have to be short enough

Numerals of more than 4300 digits are neither read nor written. -/

/-- The greatest number of digits in a numeral that is converted. -/
def digitLimit : Nat := 4300

/-- Whether an integer's numeral has too many digits to be written. -/
def Text.exceedsDigitLimit (n : Int) : Bool := decide (10 ^ digitLimit ≤ n.natAbs)

end Reckoner
