import Reckoner.Service.Basic

/-!
# The local service

The four operations over a log: operands must be integers, the result is exact, and a successful
calculation is logged with its result. Nothing is logged for a refused one.
-/

namespace Reckoner

namespace LocalService

/-- An operand that is an integer; a truth value is not. -/
def requireInt (name : Text) : Json → Except ServiceError Int
  | .int value => .ok value
  | value => .error (.invalidOperand name value)

/-- What is logged of a calculation, and its result. -/
structure Computed where
  expression : Text
  result : Int
  resultText : Text

/-- The calculation on two operands, before it is logged. -/
def compute (operator : Operator) (x y : Json) : Except ServiceError Computed := do
  let x ← requireInt "x" x
  let y ← requireInt "y" y
  let result ← (operator.apply x y).mapError .calculation
  let xText ← (writeInt x).mapError .calculation
  let yText ← (writeInt y).mapError .calculation
  let resultText ← (writeInt result).mapError .calculation
  return ⟨xText ++ " " ++ [operator.sign] ++ " " ++ yText, result, resultText⟩

/-- Computes and logs. -/
def run (now : Calendar.Moment) (operator : Operator) (x y : Json) (archive : Archive) :
    Except ServiceError Answer × Archive :=
  match compute operator x y with
  | .error e => (.error e, archive)
  | .ok computed =>
    match archive.add (.string computed.expression) (.string computed.resultText) now with
    | (.error e, archive) => (.error (.log e), archive)
    | (.ok _, archive) =>
      (.ok (.make (.int computed.result) (.string computed.expression)), archive)

/-- The rows of the last days, newest first, or of all time if no days are given. Never more are
listed than the log holds by default. -/
def rows (now : Calendar.Moment) (days : Json) (archive : Archive) :
    Except ServiceError (List Row) := do
  if archive.locked then throw (.log .locked)
  let since ← match days with
    | .null => pure none
    | days => some <$> (Calendar.daysBefore days now).mapError .span
  (archive.recent Log.defaultCapacity since).mapError .log

/-- The expressions and results of the last days. -/
def history (now : Calendar.Moment) (days : Json) (archive : Archive) :
    Except ServiceError (List (Text × Text)) :=
  (List.map fun row => (row.expression, row.result)) <$> rows now days archive

/-- Empties the log. -/
def clear (archive : Archive) : Except ServiceError Unit × Archive :=
  match archive.clear with
  | (.ok (), archive) => (.ok (), archive)
  | (.error e, archive) => (.error (.log e), archive)

/-- A line for each row of the last days: its stamp, expression and result. -/
def lines (now : Calendar.Moment) (days : Json) (archive : Archive) :
    Except ServiceError (List Text) :=
  (List.map fun row => row.stamp ++ ": " ++ row.expression ++ " = " ++ row.result)
    <$> rows now days archive

/-- The local service as what stands behind a calculator. -/
def provider (now : Calendar.Moment) : Provider Archive := fun operator x y archive =>
  run now operator (.int x) (.int y) archive

end LocalService

end Reckoner
