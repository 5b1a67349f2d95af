import Reckoner.Calculator.Equals

/-!
# Buttons

The buttons of the calculator, the names under which keys and clicks know them, and what pressing
one does. A name that belongs to no button does nothing.
-/

namespace Reckoner

/-- A button. -/
inductive Button where
  | digit (c : CodePoint)
  | point
  | operator (operator : Operator)
  | openParen
  | closeParen
  | power
  | percent
  | square
  | root
  | reciprocal
  | negate
  | erase
  | clear
  | equals
  deriving DecidableEq, Repr

namespace Button

/-- The names of the buttons that are no digits or operations. -/
def names : List (Text × Button) := [
  (".", .point),
  ("=", .equals), ("Enter", .equals),
  ("C", .clear), ("clear", .clear), ("Escape", .clear),
  ("DEL", .erase), ("backspace", .erase), ("BackSpace", .erase),
  ("±", .negate), ("negate", .negate),
  ("(", .openParen), (")", .closeParen),
  ("%", .percent), ("percent", .percent),
  ("^", .power), ("power", .power), ("xʸ", .power),
  ("square", .square), ("x²", .square),
  ("sqrt", .root), ("√x", .root),
  ("reciprocal", .reciprocal), ("1/x", .reciprocal)]

/-- The digit that a name is. -/
def digit? : Text → Option Button
  | [c] => if '0' ≤ c ∧ c ≤ '9' then some (.digit c) else none
  | _ => none

/-- The button of a name. -/
def ofName? (name : Text) : Option Button :=
  digit? name <|> (Operator.ofButton? name).map .operator <|> names.lookup name

end Button

namespace Calculator

/-- What a button other than the one for equals does. -/
def apply (depth : Nat) (button : Button) (calculator : Calculator) : Calculator :=
  match button with
  | .digit c => calculator.edit (.typeDigit [c])
  | .point => calculator.edit .typePoint
  | .operator operator => calculator.edit (.choose operator)
  | .openParen => calculator.edit .openParen
  | .closeParen => calculator.edit .closeParen
  | .power => calculator.edit .raise
  | .percent => calculator.edit .percent
  | .square => calculator.edit (.square depth)
  | .root => calculator.edit (.root depth)
  | .reciprocal => calculator.edit (.reciprocal depth)
  | .negate => calculator.edit .negate
  | .erase => calculator.edit .erase
  | .clear => calculator.clear
  | .equals => calculator

/-- What a button does, with a service behind the calculator. -/
def pressButton {σ : Type} (depth : Nat) (provider : Provider σ) (button : Button)
    (calculator : Calculator) (service : σ) : Except StepError Unit × Calculator × σ :=
  match button with
  | .equals => calculator.equals depth provider service
  | button => (.ok (), calculator.apply depth button, service)

/-- Presses the button of a name, which leaves one call less to what the button does. -/
def press {σ : Type} (depth : Nat) (provider : Provider σ) (name : Text) (calculator : Calculator)
    (service : σ) : Except StepError Unit × Calculator × σ :=
  match Button.ofName? name with
  | some button => calculator.pressButton (depth - 1) provider button service
  | none => (.ok (), calculator, service)

/-- Chooses the operation of a name. The name must be known, unless a calculation is in flight. -/
def chooseNamed (name : Text) (calculator : Calculator) : Except StepError Unit × Calculator :=
  if calculator.calculating then (.ok (), calculator)
  else
    match Operator.ofButton? name with
    | some operator => (.ok (), calculator.edit (.choose operator))
    | none => (.error (.unknownOperator name), calculator)

end Calculator

end Reckoner
