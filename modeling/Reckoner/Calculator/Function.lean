import Reckoner.Calculator.State

/-!
# Functions of one operand

Percentages edit the operand that is shown; squares, square roots and reciprocals confirm a result
at once, of the operand that is shown or of the expression that is typed. Such an expression is
evaluated two calls further in.
-/

namespace Reckoner

namespace State

/-- The value and the text that a function is applied to: the expression if one is typed, and the
display otherwise. -/
def argument (depth : Nat) (state : State) : Option Double × Text :=
  match state with
  | .composing expression _ =>
    (((Display.expression? depth expression).bind Decimal.ofText?).map Decimal.toDouble,
      expression)
  | state => ((Decimal.ofText? state.display).map Decimal.toDouble, state.display)

/-- Applies a function. Its trail is written around the argument; without a finite value the
calculation fails, and without an argument nothing happens. -/
def applyFunction (depth : Nat) (before after : Text) (function : Double → Option Double)
    (state : State) : State :=
  match state with
  | .failed trail => .failed trail
  | state =>
    match state.argument (depth - 1) with
    | (none, _) => state
    | (some value, source) =>
      let trail := before ++ source ++ after
      match function value with
      | some result =>
        if result.isFinite then .calculated (Display.result result) trail else .failed trail
      | none => .failed trail

/-- The square. -/
def square (depth : Nat) : State → State :=
  applyFunction (depth - 1) "(" ")²" fun value => some (value * value)

/-- The square root, of what is not below zero. -/
def root (depth : Nat) : State → State :=
  applyFunction (depth - 1) (Token.rootSign :: "(") ")" fun value =>
    if value.isBelowZero then none else some value.sqrt

/-- The reciprocal, of what is not zero. -/
def reciprocal (depth : Nat) : State → State :=
  applyFunction (depth - 1) "1/(" ")" fun value =>
    if value.isZero then none else some (Double.ofInt 1 / value)

/-- A hundredth of an operand as it is shown, if it is a decimal. -/
def percentOf? (display : Text) : Option Text :=
  (Decimal.ofText? display).map fun value => Display.result value.toDouble.hundredth

/-- Divides the operand that is shown by a hundred. In an expression the sign is typed. -/
def percent : State → State
  | .failed trail => .failed trail
  | .composing expression display => .composing (expression.concat '%') display
  | .awaiting chosen =>
    match percentOf? chosen.operand with
    | some shown => .entering shown (some chosen)
    | none => .awaiting chosen
  | .calculated display trail =>
    match percentOf? display with
    | some shown => .entering shown none
    | none => .calculated display trail
  | .entering display chosen =>
    match percentOf? display with
    | some shown => .entering shown chosen
    | none => .entering display chosen

end State

end Reckoner
