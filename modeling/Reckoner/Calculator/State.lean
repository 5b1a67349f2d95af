import Reckoner.Arithmetic

/-!
# The states of the calculator

The calculator is always in exactly one of five states, and each holds no more than it needs: what
is shown of it besides, such as the trail of a pending operation, is computed. An operand stays
the text that was typed until something is calculated with it.
-/

namespace Reckoner

/-- A first operand with the operation chosen for it. -/
structure Chosen where
  operand : Text
  operator : Operator
  deriving DecidableEq, Repr

/-- The trail of a chosen operation. -/
def Chosen.trail (chosen : Chosen) : Text := chosen.operand ++ " " ++ [chosen.operator.sign]

/-- The trail of an operation with its second operand. -/
def Chosen.trailWith (chosen : Chosen) (second : Text) : Text :=
  chosen.trail ++ " " ++ second

/-- A chosen operation as the beginning of an expression. -/
def Chosen.expression (chosen : Chosen) : Text := chosen.operand ++ [chosen.operator.key]

/-- What the calculator is doing. -/
inductive State where
  /-- An operand is typed: the second one if an operation has been chosen. -/
  | entering (display : Text) (chosen : Option Chosen)
  /-- An operation has been chosen and its second operand is awaited. -/
  | awaiting (chosen : Chosen)
  /-- An expression is typed; the display shows the number at its end. -/
  | composing (expression display : Text)
  /-- A result is shown. -/
  | calculated (display trail : Text)
  /-- A calculation had no result. -/
  | failed (trail : Text)
  deriving DecidableEq, Repr

namespace State

/-- A lone zero: an operand before anything is typed. -/
def zero : Text := ['0']

/-- A new operand, which is zero so far. -/
def initial : State := .entering zero none

/-- The text on the display. -/
def display : State → Text
  | .entering display _ => display
  | .awaiting chosen => chosen.operand
  | .composing _ display => display
  | .calculated display _ => display
  | .failed _ => Display.error

/-- The trail above the display. -/
def trail : State → Text
  | .entering _ (some chosen) => chosen.trail
  | .entering _ none => []
  | .awaiting chosen => chosen.trail
  | .composing expression _ => expression
  | .calculated _ trail => trail
  | .failed trail => trail

/-- The operation that has been chosen. -/
def operator? : State → Option Operator
  | .entering _ chosen => chosen.map (·.operator)
  | .awaiting chosen => some chosen.operator
  | _ => none

/-- The operand to go on with: the first one, or a result. -/
def carried : State → Text
  | .entering _ (some chosen) => chosen.operand
  | .awaiting chosen => chosen.operand
  | .calculated display _ => display
  | _ => []

/-- The expression being typed. -/
def expression : State → Text
  | .composing expression _ => expression
  | _ => []

/-- Whether an error is shown. -/
def isFailed : State → Bool
  | .failed _ => true
  | _ => false

end State

/-! ## The number at the end of an expression

One line end may follow the number; it belongs to the expression and not to the number. -/

namespace Text

/-- A character of the number at the end of an expression. -/
def isNumeralChar (c : CodePoint) : Bool := (digitValue? c).isSome || c == '.'

/-- A text without a line end after it, and that line end. -/
def splitLineEnd (text : Text) : Text × Text :=
  if text.getLast? = some '\n' then (text.dropLast, ['\n']) else (text, [])

/-- The number at the end of an expression; empty if it ends in something else. -/
def endNumber (text : Text) : Text :=
  ((splitLineEnd text).1.reverse.takeWhile isNumeralChar).reverse

/-- What stands before the number at the end of an expression. -/
def beforeEndNumber (text : Text) : Text :=
  ((splitLineEnd text).1.reverse.dropWhile isNumeralChar).reverse

/-- The line end after the number at the end of an expression. -/
def afterEndNumber (text : Text) : Text := (splitLineEnd text).2

end Text

end Reckoner
