import Reckoner.Display

/-!
# Calculations with two operands

The four operations on integers, and what is shown for an operation on two operands as they are
typed: each operand is cut down to an integer first, except that a quotient is shown of the whole
operands. The integer quotient is cut toward zero as well.
-/

namespace Reckoner

/-- An operation with two operands. -/
inductive Operator where
  | add
  | subtract
  | multiply
  | divide
  deriving DecidableEq, Repr

namespace Operator

/-- The character of the operation in an expression. -/
def key : Operator → CodePoint
  | .add => '+'
  | .subtract => '-'
  | .multiply => '*'
  | .divide => '/'

/-- The sign of the operation in a trail. -/
def sign : Operator → CodePoint
  | .add => '+'
  | .subtract => '−'
  | .multiply => '×'
  | .divide => '÷'

/-- The operation that a key text names in an expression. -/
def ofKey? (text : Text) : Option Operator :=
  match text with
  | ['+'] => some .add
  | ['-'] => some .subtract
  | ['*'] => some .multiply
  | ['/'] => some .divide
  | _ => none

/-- The operation that a button names: its key or its sign; the letter x multiplies too. -/
def ofButton? (text : Text) : Option Operator :=
  match text with
  | ['+'] => some .add
  | ['-'] => some .subtract
  | ['−'] => some .subtract
  | ['*'] => some .multiply
  | ['×'] => some .multiply
  | ['x'] => some .multiply
  | ['/'] => some .divide
  | ['÷'] => some .divide
  | _ => none

end Operator

/-- Why a calculation with two operands has no result. -/
inductive CalculationError where
  | divisionByZero (dividend : Int)
  | unknownOperator (name : Text)
  /-- The divisor is not zero, but the double next to it is. -/
  | vanishingDivisor
  /-- A numeral has too many digits to be written. -/
  | tooManyDigits
  deriving DecidableEq, Repr

/-- The refusal to write a numeral of more digits than the limit. -/
def digitLimitMessage : Text :=
  "Exceeds the limit (4300 digits) for integer string conversion; "
    ++ "use sys.set_int_max_str_digits() to increase the limit"

/-- The wording of a calculation error. -/
def CalculationError.message : CalculationError → Text
  | .divisionByZero dividend => "Cannot divide " ++ Text.ofInt dividend ++ " by zero"
  | .unknownOperator name => "Unknown operator: " ++ name
  | .vanishingDivisor => "float division by zero"
  | .tooManyDigits => digitLimitMessage

/-- The numeral of an integer, if it has few enough digits. -/
def writeInt (n : Int) : Except CalculationError Text :=
  if Text.exceedsDigitLimit n then .error .tooManyDigits else .ok (Text.ofInt n)

/-- The quotient cut toward zero. The refusal of a zero divisor names the dividend. -/
def truncatingQuotient (x y : Int) : Except CalculationError Int :=
  if y = 0 then
    if Text.exceedsDigitLimit x then .error .tooManyDigits else .error (.divisionByZero x)
  else
    let magnitude : Int := (x.natAbs / y.natAbs : Nat)
    .ok (if decide (x < 0) = decide (y < 0) then magnitude else -magnitude)

namespace Operator

/-- The exact result on two integers. -/
def apply (operator : Operator) (x y : Int) : Except CalculationError Int :=
  match operator with
  | .add => .ok (x + y)
  | .subtract => .ok (x - y)
  | .multiply => .ok (x * y)
  | .divide => truncatingQuotient x y

/-- The operation that a key text names, or the refusal of any other text. -/
def ofKey (text : Text) : Except CalculationError Operator :=
  match ofKey? text with
  | some operator => .ok operator
  | none => .error (.unknownOperator text)

end Operator

/-- The quotient of two decimals as it is shown, taken between the doubles next to them. -/
def shownQuotient (x y : Decimal) : Except CalculationError Text :=
  if y.toDouble.isZero then .error .vanishingDivisor
  else .ok (Display.quotient (x.toDouble / y.toDouble))

/-- What is shown for an operation on two decimals. -/
def shownResult (operator : Operator) (x y : Decimal) : Except CalculationError Text :=
  match operator with
  | .divide => if y.isZero then .ok Display.error else shownQuotient x y
  | operator => operator.apply x.truncate y.truncate >>= writeInt

/-- What is shown for an operation on two operands as typed: nothing if one is not a decimal. -/
def preview (operator : Operator) (x y : Text) : Except CalculationError (Option Text) :=
  match Decimal.ofText? x, Decimal.ofText? y with
  | some x, some y => some <$> shownResult operator x y
  | _, _ => .ok none

/-- The same for an operation given by its key. Operands that are not decimals are noticed before
an unknown key. -/
def previewOfKey (key x y : Text) : Except CalculationError (Option Text) :=
  match Decimal.ofText? x, Decimal.ofText? y with
  | some x, some y => do return some (← shownResult (← Operator.ofKey key) x y)
  | _, _ => .ok none

/-- The integer contained in an operand as typed, if it is a decimal. -/
def operandInt? (text : Text) : Option Int := (Decimal.ofText? text).map Decimal.truncate

end Reckoner
