import Reckoner.Calculator.Entry
import Reckoner.Calculator.Function
import Reckoner.Service.Basic

/-!
# Confirming a calculation

A calculator is a state with a flag that a calculation is in flight. An operation with two
operands is confirmed in three steps: it begins, the service computes, and its outcome is
delivered. Until then nothing but clearing is accepted. Every beginning and every clearing starts
a new generation, and an outcome counts only in the generation that its calculation began.

An expression is evaluated wherever its result is asked for, with the depth that is left there for
nesting. A step is given the depth of what it evaluates itself, and every step that it takes by way
of another one has one call less: confirming in one step goes by way of beginning.
-/

namespace Reckoner

/-- A calculator. -/
structure Calculator where
  state : State
  calculating : Bool
  generation : Nat
  deriving DecidableEq, Repr

/-- A confirmed calculation that waits for its outcome. -/
structure PendingCalculation where
  /-- The generation that it began. -/
  token : Nat
  operator : Operator
  /-- The operands that the service gets. -/
  x : Int
  y : Int
  trail : Text
  /-- The quotient as it is shown, for a division. -/
  quotient : Option Text
  deriving DecidableEq, Repr

/-- What the service made of a calculation. -/
inductive Outcome where
  | answered (answer : Answer)
  | failed

/-- Why a step of the calculator breaks off. -/
inductive StepError where
  | calculation (error : CalculationError)
  /-- The answer of the service has no result. -/
  | missingResult
  /-- No operation has this name. -/
  | unknownOperator (name : Text)
  deriving DecidableEq, Repr

/-- The wording of a step error. -/
def StepError.message : StepError → Text
  | .calculation error => error.message
  | .missingResult => Text.quoted "result"
  | .unknownOperator name => name.quoted

namespace Calculator

/-- The depth for a step that a script takes. Calls may be nested a thousand deep; the script, the
step and what it calls, down to an operand that is not nested, take twelve. -/
def scriptDepth : Nat := 989

/-- A calculator that has just been switched on. -/
def new : Calculator := ⟨.initial, false, 0⟩

/-- Changes the state, unless a calculation is in flight. -/
def edit (change : State → State) (calculator : Calculator) : Calculator :=
  if calculator.calculating then calculator
  else { calculator with state := change calculator.state }

/-- Abandons everything, a calculation in flight included. -/
def clear (calculator : Calculator) : Calculator :=
  ⟨.initial, false, calculator.generation + 1⟩

/-- What confirming would show now, if it can be told. -/
def preview (depth : Nat) (calculator : Calculator) : Except CalculationError (Option Text) :=
  match calculator.state with
  | .composing expression _ => .ok (Display.expression? depth expression)
  | .entering display (some chosen) => Reckoner.preview chosen.operator chosen.operand display
  | _ => .ok none

/-- The text to show: the preview if there is one, and the display otherwise. -/
def shown (depth : Nat) (calculator : Calculator) : Except CalculationError Text :=
  (·.getD calculator.state.display) <$> calculator.preview (depth - 1)

/-- The state after an expression is confirmed. -/
def confirmExpression (depth : Nat) (expression : Text) : State :=
  match Display.expression? depth expression with
  | none => .failed (expression ++ " =")
  | some result =>
    if result = Display.error then .failed (expression ++ " =")
    else .calculated result (expression ++ " = " ++ result)

/-- The calculation that an operation on two decimals makes, in the next generation. -/
def pendingOf (calculator : Calculator) (chosen : Chosen) (display : Text) (x y : Decimal) :
    Except CalculationError PendingCalculation := do
  let quotient ← match chosen.operator with
    | .divide => some <$> shownQuotient x y
    | _ => pure none
  return ⟨calculator.generation + 1, chosen.operator, x.truncate, y.truncate,
    chosen.trailWith display, quotient⟩

/-- Begins a confirmed calculation. What needs no service is carried out at once; otherwise the
calculation that now waits for its outcome is returned. -/
def begin (depth : Nat) (calculator : Calculator) :
    Except CalculationError (Option PendingCalculation) × Calculator :=
  if calculator.calculating then (.ok none, calculator)
  else
    match calculator.state with
    | .composing expression _ =>
      (.ok none, { calculator with state := confirmExpression depth expression })
    | .entering display (some chosen) =>
      match Decimal.ofText? chosen.operand, Decimal.ofText? display with
      | some x, some y =>
        if chosen.operator = .divide ∧ y.isZero = true then
          (.ok none, { calculator with state := .failed (chosen.trailWith ['0']) })
        else
          match calculator.pendingOf chosen display x y with
          | .error e => (.error e, calculator)
          | .ok pending => (.ok (some pending), ⟨calculator.state, true, pending.token⟩)
      | _, _ => (.ok none, calculator)
    | _ => (.ok none, calculator)

/-- The text of the result in an answer. -/
def resultText (answer : Answer) : Except StepError Text :=
  match answer.result? with
  | none => .error .missingResult
  | some (.int result) => (writeInt result).mapError .calculation
  | some result => .ok result.plain

/-- The state that shows a result. -/
def showing (pending : PendingCalculation) (result : Text) : State :=
  .calculated result (pending.trail ++ " = " ++ result)

/-- The state that an outcome leads to. A quotient is known without the service, so its outcome
does not matter. -/
def conclude (pending : PendingCalculation) (outcome : Outcome) : Except StepError State :=
  match pending.quotient, outcome with
  | some quotient, _ => .ok (showing pending quotient)
  | none, .failed => .ok (.failed pending.trail)
  | none, .answered answer => showing pending <$> resultText answer

/-- Delivers an outcome. It is ignored unless the calculation is that of this generation. -/
def finish (pending : PendingCalculation) (outcome : Outcome) (calculator : Calculator) :
    Except StepError Unit × Calculator :=
  if pending.token ≠ calculator.generation then (.ok (), calculator)
  else
    match conclude pending outcome with
    | .ok state => (.ok (), ⟨state, false, calculator.generation⟩)
    | .error e => (.error e, { calculator with calculating := false })

/-- Has a service compute a pending calculation. -/
def callService {σ : Type} (provider : Provider σ) (pending : PendingCalculation) (service : σ) :
    Except ServiceError Answer × σ :=
  provider pending.operator pending.x pending.y service

/-- The outcome of a service call. -/
def outcomeOf : Except ServiceError Answer → Outcome
  | .ok answer => .answered answer
  | .error _ => .failed

/-- Confirms a calculation and waits for its outcome. -/
def equals {σ : Type} (depth : Nat) (provider : Provider σ) (calculator : Calculator)
    (service : σ) : Except StepError Unit × Calculator × σ :=
  match calculator.begin (depth - 1) with
  | (.error e, calculator) => (.error (.calculation e), calculator, service)
  | (.ok none, calculator) => (.ok (), calculator, service)
  | (.ok (some pending), calculator) =>
    let (answer, service) := callService provider pending service
    let (result, calculator) := calculator.finish pending (outcomeOf answer)
    (result, calculator, service)

end Calculator

end Reckoner
