import Reckoner.Proofs.Calculator.Readable

/-!
# What confirming comes to

Confirming an operation on two decimals has five outcomes. A division by zero fails, and one by a
divisor that vanishes breaks off, both before the service is asked. Any other quotient is shown
whatever the service does. The result of another operation is what the service answers, and its
failure is the failure of the calculation. Where no operation is typed, only an expression can be
confirmed.
-/

namespace Reckoner

/-- A decimal that is not zero, though the double next to it is. -/
def Decimal.Vanishes (value : Decimal) : Prop :=
  value.isZero = false ∧ value.toDouble.isZero = true

namespace State

/-- The operation on two decimals that is typed, if one is. -/
def operation? : State → Option (Operator × Decimal × Decimal)
  | .entering display (some chosen) =>
    match Decimal.ofText? chosen.operand, Decimal.ofText? display with
    | some x, some y => some (chosen.operator, x, y)
    | _, _ => none
  | _ => none

/-- An operation is typed behind its first operand. -/
theorem entering_of_operation {state : State} {operator : Operator} {x y : Decimal}
    (typed : state.operation? = some (operator, x, y)) :
    ∃ chosen display, state = .entering display (some chosen) ∧ chosen.operator = operator ∧
      Decimal.ofText? chosen.operand = some x ∧ Decimal.ofText? display = some y := by
  unfold operation? at typed
  split at typed
  · rename_i display chosen
    split at typed
    · rename_i first second
      cases typed
      exact ⟨chosen, display, rfl, rfl, first, second⟩
    · cases typed
  · cases typed

end State

namespace Calculator

variable {σ : Type} {calculator : Calculator}

/-- An operation on two decimals can be confirmed. -/
structure Ready (calculator : Calculator) (chosen : Chosen) (display : Text) (x y : Decimal) :
    Prop where
  rests : calculator.calculating = false
  state : calculator.state = .entering display (some chosen)
  first : Decimal.ofText? chosen.operand = some x
  second : Decimal.ofText? display = some y

/-- An operation that is typed can be confirmed. -/
theorem ready_of_operation (rests : calculator.calculating = false) {operator : Operator}
    {x y : Decimal} (typed : calculator.state.operation? = some (operator, x, y)) :
    ∃ chosen display, chosen.operator = operator ∧ calculator.Ready chosen display x y := by
  obtain ⟨chosen, display, state, same, first, second⟩ := State.entering_of_operation typed
  exact ⟨chosen, display, same, rests, state, first, second⟩

/-- Where neither an expression nor an operation is typed, confirming does nothing. -/
theorem equals_without_operation (rests : calculator.calculating = false)
    (untyped : calculator.state.operation? = none)
    (no_expression : ∀ expression display, calculator.state ≠ .composing expression display)
    (depth : Nat) (provider : Provider σ) (service : σ) :
    calculator.equals depth provider service = (.ok (), calculator, service) := by
  have nothing : calculator.begin (depth - 1) = (.ok none, calculator) := by
    cases state : calculator.state with
    | composing expression display => exact absurd state (no_expression expression display)
    | awaiting | calculated | failed =>
      exact begin_nothing rests (by simp [state]) (by simp [state])
    | entering display chosen =>
      cases chosen with
      | none => exact begin_nothing rests (by simp [state]) (by simp [state])
      | some chosen =>
        rw [state] at untyped
        simp only [begin, rests, Bool.false_eq_true, ↓reduceIte, state]
        split
        · rename_i first second
          simp [State.operation?, first, second] at untyped
        · rfl
  simp only [equals, nothing]

/-- An expression is settled without the service. -/
theorem equals_composing (rests : calculator.calculating = false) {expression display : Text}
    (state : calculator.state = .composing expression display) (depth : Nat)
    (provider : Provider σ) (service : σ) :
    calculator.equals depth provider service =
      (.ok (), { calculator with state := confirmExpression (depth - 1) expression },
        service) := by
  rw [equals, begin_composing rests state]

namespace Ready

variable {chosen : Chosen} {display : Text} {x y : Decimal}

/-- A division by zero fails without the service. -/
theorem equals_zero_divisor (ready : calculator.Ready chosen display x y)
    (divides : chosen.operator = .divide) (zero : y.isZero = true) (depth : Nat)
    (provider : Provider σ) (service : σ) :
    calculator.equals depth provider service =
      (.ok (), { calculator with state := .failed (chosen.trailWith ['0']) }, service) := by
  rw [equals, begin_impossible ready.rests ready.state ready.first ready.second ⟨divides, zero⟩]

/-- A division by what vanishes breaks off without the service. -/
theorem equals_vanishing_divisor (ready : calculator.Ready chosen display x y)
    (divides : chosen.operator = .divide) (vanishes : y.Vanishes) (depth : Nat)
    (provider : Provider σ) (service : σ) :
    calculator.equals depth provider service =
      (.error (.calculation .vanishingDivisor), calculator, service) := by
  have possible : ¬(chosen.operator = .divide ∧ y.isZero = true) := by simp [vanishes.1]
  have made := pendingOf_divide divides calculator display x y
  rw [shownQuotient, if_pos vanishes.2] at made
  rw [equals, begin_unmade ready.rests ready.state ready.first ready.second possible made]

/-- Any other quotient is shown, whatever the service does. -/
theorem equals_quotient (ready : calculator.Ready chosen display x y)
    (divides : chosen.operator = .divide) (nonzero : y.toDouble.isZero = false)
    (depth : Nat) (provider : Provider σ) (service : σ) :
    calculator.equals depth provider service =
      (.ok (), ⟨.calculated (Display.quotient (x.toDouble / y.toDouble))
        (chosen.trailWith display ++ " = " ++ Display.quotient (x.toDouble / y.toDouble)), false,
          calculator.generation + 1⟩, (provider .divide x.truncate y.truncate service).2) := by
  have possible : ¬(chosen.operator = .divide ∧ y.isZero = true) := by
    rintro ⟨-, zero⟩
    rw [Decimal.isZero_toDouble zero] at nonzero
    cases nonzero
  have made := pendingOf_divide divides calculator display x y
  rw [shownQuotient, if_neg (by simp [nonzero])] at made
  exact equals_concludes
    (begin_possible ready.rests ready.state ready.first ready.second possible made) rfl

/-- Another operation is begun, and then the service is asked for it. -/
theorem begin_other (ready : calculator.Ready chosen display x y)
    (other : chosen.operator ≠ .divide) (depth : Nat) :
    calculator.begin depth = (.ok (some ⟨calculator.generation + 1, chosen.operator, x.truncate,
        y.truncate, chosen.trailWith display, none⟩),
      ⟨calculator.state, true, calculator.generation + 1⟩) :=
  begin_possible ready.rests ready.state ready.first ready.second (fun both => other both.1)
    (pendingOf_other other calculator display x y)

/-- The result of another operation is what the service answers. -/
theorem equals_answered (ready : calculator.Ready chosen display x y)
    (other : chosen.operator ≠ .divide) {provider : Provider σ} {service after : σ}
    {answer : Answer} {result : Int} {text : Text}
    (answered : provider chosen.operator x.truncate y.truncate service = (.ok answer, after))
    (named : answer.result? = some (.int result)) (written : writeInt result = .ok text)
    (depth : Nat) :
    calculator.equals depth provider service =
      (.ok (), ⟨.calculated text (chosen.trailWith display ++ " = " ++ text), false,
        calculator.generation + 1⟩, after) := by
  simp only [equals, ready.begin_other other, callService, answered, outcomeOf, finish, conclude,
    resultText, named, written, ne_eq, not_true_eq_false, ↓reduceIte]
  rfl

/-- Without an answer the calculation fails. -/
theorem equals_refused (ready : calculator.Ready chosen display x y)
    (other : chosen.operator ≠ .divide) {provider : Provider σ} {service after : σ}
    {e : ServiceError}
    (refused : provider chosen.operator x.truncate y.truncate service = (.error e, after))
    (depth : Nat) :
    calculator.equals depth provider service =
      (.ok (), ⟨.failed (chosen.trailWith display), false, calculator.generation + 1⟩,
        after) := by
  simp only [equals, ready.begin_other other, callService, refused, outcomeOf, finish, conclude,
    ne_eq, not_true_eq_false, ↓reduceIte]

end Ready

end Calculator

end Reckoner
