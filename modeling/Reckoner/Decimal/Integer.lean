import Reckoner.Double.Reader

/-!
# Reading integers

The texts that denote an integer: an optional sign and digits of any script, with single
underscores between digits and blanks around them, the four separators excepted. Numerals longer
than the digit limit are refused.
-/

namespace Reckoner

namespace Text

/-- The integer that a text denotes, if it denotes one. -/
def toInt? (text : Text) : Option Int :=
  match takeSign (trimNumeralBlanks text) with
  | (negative, unsigned) =>
    match dropSeparators? unsigned with
    | none => none
    | some digits =>
      match spanDigits digits with
      | ([], _) => none
      | (values, []) =>
        if digitLimit < values.length then none
        else some (if negative then -(digitsValue 0 values : Int) else digitsValue 0 values)
      | (_, _ :: _) => none

end Text

end Reckoner
