import Reckoner.Calculator.Button

/-!
# What one step can do

The possible outcomes of each step of a calculator, so that later arguments about runs never open
the steps again. While a calculation is in flight nothing but clearing has an effect. Otherwise
beginning fails, is settled at once, or starts the next generation; and an outcome of the current
generation ends the calculation in flight. Numbers of generations serve only to be compared:
shifting those of a calculator and of its calculations alike changes nothing that is seen.
-/

namespace Reckoner

namespace Calculator

variable {σ : Type} {depth : Nat}

/-! ## A calculation in flight -/

/-- Editing is refused while a calculation is in flight. -/
theorem edit_busy {calculator : Calculator} (busy : calculator.calculating = true)
    (change : State → State) : calculator.edit change = calculator := by
  simp only [edit, busy, ↓reduceIte]

/-- Editing changes nothing but the state. -/
theorem edit_idle {calculator : Calculator} (idle : calculator.calculating = false)
    (change : State → State) :
    calculator.edit change = { calculator with state := change calculator.state } := by
  simp only [edit, idle, Bool.false_eq_true, ↓reduceIte]

/-- Nothing is begun while a calculation is in flight. -/
theorem begin_busy {calculator : Calculator} (busy : calculator.calculating = true) :
    calculator.begin depth = (.ok none, calculator) := by
  simp only [begin, busy, ↓reduceIte]

/-- Confirming does nothing while a calculation is in flight. -/
theorem equals_busy {calculator : Calculator} (busy : calculator.calculating = true)
    (provider : Provider σ) (service : σ) :
    calculator.equals depth provider service = (.ok (), calculator, service) := by
  simp only [equals, begin_busy busy]

/-- Every button other than the one that clears either edits or confirms. -/
theorem pressButton_cases (depth : Nat) (provider : Provider σ) (calculator : Calculator)
    (service : σ) {button : Button} (other : button ≠ .clear) :
    (∃ change, calculator.pressButton depth provider button service =
        (.ok (), calculator.edit change, service)) ∨
      button = .equals ∧
        calculator.pressButton depth provider button service =
          calculator.equals depth provider service := by
  cases button with
  | equals => exact .inr ⟨rfl, rfl⟩
  | clear => exact absurd rfl other
  | _ => exact .inl ⟨_, rfl⟩

/-- No button but the one that clears does anything while a calculation is in flight. -/
theorem press_busy {calculator : Calculator} (busy : calculator.calculating = true)
    (provider : Provider σ) (service : σ) {name : Text}
    (other : Button.ofName? name ≠ some .clear) :
    calculator.press depth provider name service = (.ok (), calculator, service) := by
  unfold press
  cases known : Button.ofName? name with
  | none => rfl
  | some button =>
    have others : button ≠ .clear := fun same => other (same ▸ known)
    rcases pressButton_cases (depth - 1) provider calculator service others with
      ⟨change, edited⟩ | ⟨-, confirmed⟩
    · simp only [edited, edit_busy busy]
    · simp only [confirmed, equals_busy busy]

/-! ## Beginning -/

/-- A division that can be shown is pending with its quotient. -/
theorem pendingOf_divide {chosen : Chosen} (divides : chosen.operator = .divide)
    (calculator : Calculator) (display : Text) (x y : Decimal) :
    calculator.pendingOf chosen display x y = (shownQuotient x y).map fun quotient =>
      ⟨calculator.generation + 1, .divide, x.truncate, y.truncate, chosen.trailWith display,
        some quotient⟩ := by
  unfold pendingOf
  rw [divides]
  cases shownQuotient x y with
  | error e => rfl
  | ok quotient => rfl

/-- Any other operation is pending without a quotient. -/
theorem pendingOf_other {chosen : Chosen} (other : chosen.operator ≠ .divide)
    (calculator : Calculator) (display : Text) (x y : Decimal) :
    calculator.pendingOf chosen display x y =
      .ok ⟨calculator.generation + 1, chosen.operator, x.truncate, y.truncate,
        chosen.trailWith display, none⟩ := by
  unfold pendingOf
  cases operator : chosen.operator with
  | divide => exact absurd operator other
  | add | subtract | multiply => rfl

/-- A calculation is pending in the next generation, with the integers in its operands, and with a
quotient only if it is that of a division. -/
theorem pendingOf_parts {calculator : Calculator} {chosen : Chosen} {display : Text}
    {x y : Decimal} {pending : PendingCalculation}
    (made : calculator.pendingOf chosen display x y = .ok pending) :
    pending = ⟨calculator.generation + 1, chosen.operator, x.truncate, y.truncate,
        chosen.trailWith display, pending.quotient⟩ ∧
      ∀ quotient ∈ pending.quotient, shownQuotient x y = .ok quotient := by
  by_cases divides : chosen.operator = .divide
  · rw [pendingOf_divide divides] at made
    cases quotient : shownQuotient x y with
    | error e =>
      rw [quotient] at made
      cases made
    | ok shown =>
      rw [quotient] at made
      rw [← Except.ok.inj made, divides]
      exact ⟨rfl, fun other same => congrArg Except.ok (Option.some.inj same)⟩
  · rw [pendingOf_other divides] at made
    rw [← Except.ok.inj made]
    exact ⟨rfl, nofun⟩

/-- A pending calculation bears the number of the next generation. -/
theorem pendingOf_token {calculator : Calculator} {chosen : Chosen} {display : Text}
    {x y : Decimal} {pending : PendingCalculation}
    (made : calculator.pendingOf chosen display x y = .ok pending) :
    pending.token = calculator.generation + 1 := by
  rw [(pendingOf_parts made).1]

/-- An expression is settled at once. -/
theorem begin_composing {calculator : Calculator} (idle : calculator.calculating = false)
    {expression display : Text} (typed : calculator.state = .composing expression display) :
    calculator.begin depth =
      (.ok none, { calculator with state := confirmExpression depth expression }) := by
  simp only [begin, idle, Bool.false_eq_true, ↓reduceIte, typed]

/-- Without an expression or a second operand there is nothing to begin. -/
theorem begin_nothing {calculator : Calculator} (idle : calculator.calculating = false)
    (no_expression : ∀ expression display, calculator.state ≠ .composing expression display)
    (no_operation : ∀ display chosen, calculator.state ≠ .entering display (some chosen)) :
    calculator.begin depth = (.ok none, calculator) := by
  simp only [begin, idle, Bool.false_eq_true, ↓reduceIte]

/-- A division by zero is settled at once: it fails. -/
theorem begin_impossible {calculator : Calculator} (idle : calculator.calculating = false)
    {chosen : Chosen} {display : Text} {x y : Decimal}
    (typed : calculator.state = .entering display (some chosen))
    (first : Decimal.ofText? chosen.operand = some x) (second : Decimal.ofText? display = some y)
    (impossible : chosen.operator = .divide ∧ y.isZero = true) :
    calculator.begin depth =
      (.ok none, { calculator with state := .failed (chosen.trailWith ['0']) }) := by
  simp only [begin, idle, Bool.false_eq_true, ↓reduceIte, typed, first, second, if_pos impossible]

/-- Any other operation on two decimals begins if its calculation can be made. -/
theorem begin_possible {calculator : Calculator} (idle : calculator.calculating = false)
    {chosen : Chosen} {display : Text} {x y : Decimal}
    (typed : calculator.state = .entering display (some chosen))
    (first : Decimal.ofText? chosen.operand = some x) (second : Decimal.ofText? display = some y)
    (possible : ¬(chosen.operator = .divide ∧ y.isZero = true)) {pending : PendingCalculation}
    (made : calculator.pendingOf chosen display x y = .ok pending) :
    calculator.begin depth = (.ok (some pending), ⟨calculator.state, true, pending.token⟩) := by
  simp only [begin, idle, Bool.false_eq_true, ↓reduceIte, typed, first, second, if_neg possible,
    made]

/-- Beginning breaks off if no calculation can be made. -/
theorem begin_unmade {calculator : Calculator} (idle : calculator.calculating = false)
    {chosen : Chosen} {display : Text} {x y : Decimal}
    (typed : calculator.state = .entering display (some chosen))
    (first : Decimal.ofText? chosen.operand = some x) (second : Decimal.ofText? display = some y)
    (possible : ¬(chosen.operator = .divide ∧ y.isZero = true)) {e : CalculationError}
    (unmade : calculator.pendingOf chosen display x y = .error e) :
    calculator.begin depth = (.error e, calculator) := by
  simp only [begin, idle, Bool.false_eq_true, ↓reduceIte, typed, first, second, if_neg possible,
    unmade]

/-- Beginning without a calculation in flight breaks off and changes nothing, or settles the state
at once, or puts a calculation of the next generation in flight and leaves the state. -/
theorem begin_cases {calculator : Calculator} (idle : calculator.calculating = false)
    (depth : Nat) :
    (∃ e, calculator.begin depth = (.error e, calculator)) ∨
      (∃ state, calculator.begin depth = (.ok none, { calculator with state })) ∨
      ∃ pending, pending.token = calculator.generation + 1 ∧
        calculator.begin depth = (.ok (some pending), ⟨calculator.state, true, pending.token⟩) := by
  obtain ⟨state, busy, generation⟩ := calculator
  obtain rfl : busy = false := idle
  unfold begin
  simp only [Bool.false_eq_true, ↓reduceIte]
  split
  · exact .inr (.inl ⟨_, rfl⟩)
  · split
    · split
      · exact .inr (.inl ⟨_, rfl⟩)
      · split
        · exact .inl ⟨_, rfl⟩
        · rename_i pending made
          exact .inr (.inr ⟨pending, pendingOf_token made, rfl⟩)
    · exact .inr (.inl ⟨_, rfl⟩)
  · exact .inr (.inl ⟨_, rfl⟩)

/-- Only a calculator without a calculation in flight begins one. -/
theorem begin_pending {calculator after : Calculator} {pending : PendingCalculation}
    (begun : calculator.begin depth = (.ok (some pending), after)) :
    calculator.calculating = false ∧ pending.token = calculator.generation + 1 ∧
      after = ⟨calculator.state, true, pending.token⟩ := by
  cases busy : calculator.calculating with
  | true => simp [begin_busy busy] at begun
  | false =>
    rcases begin_cases busy depth with ⟨e, failed⟩ | ⟨state, settled⟩ | ⟨made, token, started⟩
    · simp [failed] at begun
    · simp [settled] at begun
    · rw [started] at begun
      simp only [Prod.mk.injEq, Except.ok.injEq, Option.some.injEq] at begun
      obtain ⟨rfl, rfl⟩ := begun
      exact ⟨rfl, token, rfl⟩

/-- A calculation begins whatever depth is left, since no expression is evaluated for it. -/
theorem begin_pending_depth {calculator after : Calculator} {pending : PendingCalculation}
    (begun : calculator.begin depth = (.ok (some pending), after)) (other : Nat) :
    calculator.begin other = (.ok (some pending), after) := by
  obtain ⟨idle, -, -⟩ := begin_pending begun
  cases state : calculator.state with
  | composing expression display =>
    rw [begin_composing idle state] at begun
    cases begun
  | entering display chosen =>
    rw [← begun]
    unfold begin
    rw [state]
    cases chosen <;> rfl
  | awaiting | calculated | failed =>
    rw [← begun]
    unfold begin
    rw [state]

/-! ## Delivering -/

/-- An outcome of another generation is ignored. -/
theorem finish_stale {calculator : Calculator} {pending : PendingCalculation}
    (stale : pending.token ≠ calculator.generation) (outcome : Outcome) :
    calculator.finish pending outcome = (.ok (), calculator) := by
  simp only [finish, if_pos stale]

/-- An outcome of the current generation leads to its state. -/
theorem finish_concluded {calculator : Calculator} {pending : PendingCalculation}
    (current : pending.token = calculator.generation) {outcome : Outcome} {state : State}
    (concluded : conclude pending outcome = .ok state) :
    calculator.finish pending outcome = (.ok (), ⟨state, false, calculator.generation⟩) := by
  simp only [finish, current, ne_eq, not_true_eq_false, ↓reduceIte, concluded]

/-- An outcome of the current generation that leads to no state leaves the state. -/
theorem finish_unconcluded {calculator : Calculator} {pending : PendingCalculation}
    (current : pending.token = calculator.generation) {outcome : Outcome} {e : StepError}
    (unread : conclude pending outcome = .error e) :
    calculator.finish pending outcome =
      (.error e, ⟨calculator.state, false, calculator.generation⟩) := by
  simp only [finish, current, ne_eq, not_true_eq_false, ↓reduceIte, unread]

/-- An outcome of the current generation ends the calculation in flight. -/
theorem finish_current {calculator : Calculator} {pending : PendingCalculation}
    (current : pending.token = calculator.generation) (outcome : Outcome) :
    ∃ state, (calculator.finish pending outcome).2 = ⟨state, false, calculator.generation⟩ := by
  cases concluded : conclude pending outcome with
  | ok state => exact ⟨state, by rw [finish_concluded current concluded]⟩
  | error e => exact ⟨calculator.state, by rw [finish_unconcluded current concluded]⟩

/-- What begins and is concluded with a state is confirmed with that state. -/
theorem equals_concludes {calculator after : Calculator} {pending : PendingCalculation}
    (begun : calculator.begin (depth - 1) = (.ok (some pending), after)) {provider : Provider σ}
    {service : σ} {state : State}
    (concluded : conclude pending (outcomeOf (callService provider pending service).1) =
      .ok state) :
    calculator.equals depth provider service =
      (.ok (), ⟨state, false, pending.token⟩, (callService provider pending service).2) := by
  obtain ⟨-, -, rfl⟩ := begin_pending begun
  have current : pending.token = (mk calculator.state true pending.token).generation := rfl
  simp only [equals, begun, finish_concluded current concluded]

/-- What begins and cannot be concluded leaves the state. -/
theorem equals_unconcluded {calculator after : Calculator} {pending : PendingCalculation}
    (begun : calculator.begin (depth - 1) = (.ok (some pending), after)) {provider : Provider σ}
    {service : σ} {e : StepError}
    (unread : conclude pending (outcomeOf (callService provider pending service).1) =
      .error e) :
    calculator.equals depth provider service = (.error e, ⟨calculator.state, false, pending.token⟩,
      (callService provider pending service).2) := by
  obtain ⟨-, -, rfl⟩ := begin_pending begun
  have current : pending.token = (mk calculator.state true pending.token).generation := rfl
  simp only [equals, begun, finish_unconcluded current unread]

/-- Confirming at rest ends at rest, in the same generation or a later one. -/
theorem equals_idle {calculator : Calculator} (idle : calculator.calculating = false)
    (depth : Nat) (provider : Provider σ) (service : σ) :
    ∃ state generation, calculator.generation ≤ generation ∧
      (calculator.equals depth provider service).2.1 = ⟨state, false, generation⟩ := by
  obtain ⟨state, calculating, generation⟩ := calculator
  obtain rfl : calculating = false := idle
  unfold equals
  have rests : (mk state false generation).calculating = false := rfl
  rcases begin_cases rests (depth - 1) with
    ⟨e, failed⟩ | ⟨settled, done⟩ | ⟨pending, token, started⟩
  · exact ⟨state, generation, Nat.le_refl _, by rw [failed]⟩
  · exact ⟨settled, generation, Nat.le_refl _, by rw [done]⟩
  · have current : pending.token = (mk state true pending.token).generation := rfl
    obtain ⟨result, ended⟩ :=
      finish_current current (outcomeOf (callService provider pending service).1)
    refine ⟨result, pending.token, ?_, by simp only [started, ended]⟩
    rw [token]
    exact Nat.le_succ _

/-- Pressing the button that clears clears. -/
theorem press_clear (calculator : Calculator) (provider : Provider σ) (service : σ) {name : Text}
    (clears : Button.ofName? name = some .clear) :
    calculator.press depth provider name service = (.ok (), calculator.clear, service) := by
  simp only [press, clears, pressButton, apply]

/-- Pressing at rest ends at rest, in the same generation or a later one. -/
theorem press_idle {calculator : Calculator} (idle : calculator.calculating = false)
    (depth : Nat) (provider : Provider σ) (name : Text) (service : σ) :
    ∃ state generation, calculator.generation ≤ generation ∧
      (calculator.press depth provider name service).2.1 = ⟨state, false, generation⟩ := by
  unfold press
  cases Button.ofName? name with
  | none => exact ⟨calculator.state, calculator.generation, Nat.le_refl _, by rw [← idle]⟩
  | some button =>
    by_cases clears : button = .clear
    · subst clears
      exact ⟨.initial, calculator.generation + 1, Nat.le_succ _, rfl⟩
    · rcases pressButton_cases (depth - 1) provider calculator service clears with
        ⟨change, edited⟩ | ⟨-, confirmed⟩
      · refine ⟨change calculator.state, calculator.generation, Nat.le_refl _, ?_⟩
        simp only [edited, edit_idle idle, idle]
      · simp only [confirmed]
        exact equals_idle idle (depth - 1) provider service

end Calculator

end Reckoner
