import Reckoner.Proofs.Calculator.Steps

/-!
# Shifted generations

A calculator whose generations are numbered from further on. Every step commutes with the shift,
so calculators in the same state that are both at rest, or both in flight with calculations of
corresponding generations, cannot be told apart. This is what lets runs with different pasts be
compared.
-/

namespace Reckoner

/-- The same calculation with a later number. -/
def PendingCalculation.shift (count : Nat) (pending : PendingCalculation) : PendingCalculation :=
  { pending with token := pending.token + count }

namespace Calculator

variable {σ : Type}

/-- The same calculator in a later generation. -/
def shift (count : Nat) (calculator : Calculator) : Calculator :=
  { calculator with generation := calculator.generation + count }

/-- A shift keeps the state. -/
@[simp] theorem shift_state (count : Nat) (calculator : Calculator) :
    (calculator.shift count).state = calculator.state := rfl

/-- A shift keeps the flag. -/
@[simp] theorem shift_calculating (count : Nat) (calculator : Calculator) :
    (calculator.shift count).calculating = calculator.calculating := rfl

/-- Of two calculators that differ at most in their generation, one is a shift of the other. -/
theorem shift_total {left right : Calculator} (states : left.state = right.state)
    (flags : left.calculating = right.calculating) :
    (∃ count, right = left.shift count) ∨ ∃ count, left = right.shift count := by
  obtain ⟨state, calculating, generation⟩ := left
  obtain ⟨state', calculating', generation'⟩ := right
  obtain rfl : state = state' := states
  obtain rfl : calculating = calculating' := flags
  rcases Nat.le_total generation generation' with less | less
  · obtain ⟨count, rfl⟩ := Nat.exists_eq_add_of_le less
    exact .inl ⟨count, rfl⟩
  · obtain ⟨count, rfl⟩ := Nat.exists_eq_add_of_le less
    exact .inr ⟨count, rfl⟩

/-- Editing commutes with a shift. -/
theorem edit_shift (calculator : Calculator) (count : Nat) (change : State → State) :
    (calculator.shift count).edit change = (calculator.edit change).shift count := by
  cases busy : calculator.calculating with
  | true =>
    have shifted : (calculator.shift count).calculating = true := busy
    rw [edit_busy busy, edit_busy shifted]
  | false =>
    have shifted : (calculator.shift count).calculating = false := busy
    rw [edit_idle busy, edit_idle shifted]
    rfl

/-- Clearing commutes with a shift. -/
theorem clear_shift (calculator : Calculator) (count : Nat) :
    (calculator.shift count).clear = calculator.clear.shift count := by
  simp only [clear, shift, Nat.add_right_comm]

/-- The calculation of a shifted calculator is the shifted calculation. -/
theorem pendingOf_shift (calculator : Calculator) (count : Nat) (chosen : Chosen)
    (display : Text) (x y : Decimal) :
    (calculator.shift count).pendingOf chosen display x y =
      (calculator.pendingOf chosen display x y).map (·.shift count) := by
  unfold pendingOf
  cases chosen.operator with
  | divide =>
    cases shownQuotient x y with
    | error e => rfl
    | ok shown =>
      simp [shift, PendingCalculation.shift, bind, Except.bind, pure, Except.pure, Functor.map,
        Except.map, Nat.add_right_comm]
  | add | subtract | multiply =>
    simp [shift, PendingCalculation.shift, bind, Except.bind, pure, Except.pure, Except.map,
      Nat.add_right_comm]

/-- Beginning commutes with a shift of the calculator and of what is begun. -/
theorem begin_shift (depth : Nat) (calculator : Calculator) (count : Nat) :
    (calculator.shift count).begin depth =
      ((calculator.begin depth).1.map (Option.map (·.shift count)),
        (calculator.begin depth).2.shift count) := by
  obtain ⟨state, calculating, generation⟩ := calculator
  cases calculating with
  | true => rfl
  | false =>
    cases state with
    | entering display chosen =>
      cases chosen with
      | none => rfl
      | some chosen =>
        have made := pendingOf_shift ⟨.entering display (some chosen), false, generation⟩ count
          chosen display
        unfold begin
        simp only [shift_calculating, Bool.false_eq_true, ↓reduceIte, shift_state]
        cases Decimal.ofText? chosen.operand with
        | none => rfl
        | some x =>
          cases Decimal.ofText? display with
          | none => rfl
          | some y =>
            simp only [made]
            split
            · rfl
            · cases pendingOf ⟨.entering display (some chosen), false, generation⟩ chosen
                display x y with
              | error e => rfl
              | ok pending => rfl
    | _ => rfl

/-- Delivering commutes with a shift of the calculator and of what is delivered. -/
theorem finish_shift (calculator : Calculator) (count : Nat) (pending : PendingCalculation)
    (outcome : Outcome) :
    (calculator.shift count).finish (pending.shift count) outcome =
      ((calculator.finish pending outcome).1, (calculator.finish pending outcome).2.shift count)
      := by
  have states : conclude (pending.shift count) outcome = conclude pending outcome := rfl
  unfold finish
  simp only [states]
  by_cases current : pending.token = calculator.generation
  · have same : (pending.shift count).token = (calculator.shift count).generation :=
      congrArg (· + count) current
    rw [if_neg (not_not_intro current), if_neg (not_not_intro same)]
    cases conclude pending outcome <;> rfl
  · have others : (pending.shift count).token ≠ (calculator.shift count).generation :=
      fun same => current (Nat.add_right_cancel same)
    rw [if_pos current, if_pos others]

/-- Confirming commutes with a shift, and the service sees no difference. -/
theorem equals_shift (depth : Nat) (provider : Provider σ) (calculator : Calculator) (count : Nat)
    (service : σ) :
    (calculator.shift count).equals depth provider service =
      ((calculator.equals depth provider service).1,
        (calculator.equals depth provider service).2.1.shift count,
        (calculator.equals depth provider service).2.2) := by
  unfold equals
  rw [begin_shift]
  obtain ⟨begun, after⟩ := calculator.begin (depth - 1)
  cases begun with
  | error e => rfl
  | ok started =>
    cases started with
    | none => rfl
    | some pending =>
      simp only [Except.map, Option.map]
      rw [show callService provider (pending.shift count) service =
        callService provider pending service from rfl, finish_shift]

/-- Pressing a button commutes with a shift, and the service sees no difference. -/
theorem press_shift (depth : Nat) (provider : Provider σ) (name : Text) (calculator : Calculator)
    (count : Nat) (service : σ) :
    (calculator.shift count).press depth provider name service =
      ((calculator.press depth provider name service).1,
        (calculator.press depth provider name service).2.1.shift count,
        (calculator.press depth provider name service).2.2) := by
  unfold press
  cases Button.ofName? name with
  | none => rfl
  | some button =>
    cases button with
    | equals => exact equals_shift (depth - 1) provider calculator count service
    | clear => simp only [pressButton, apply, clear_shift]
    | _ => simp only [pressButton, apply, edit_shift]

/-- Beginning leads to states and flags that do not depend on the generation. -/
theorem begin_state {left right : Calculator} (states : left.state = right.state)
    (flags : left.calculating = right.calculating) (depth : Nat) :
    (left.begin depth).2.state = (right.begin depth).2.state ∧
      (left.begin depth).2.calculating = (right.begin depth).2.calculating := by
  rcases shift_total states flags with ⟨count, rfl⟩ | ⟨count, rfl⟩
  · simp only [begin_shift, shift_state, shift_calculating, and_self]
  · simp only [begin_shift, shift_state, shift_calculating, and_self]

/-- Confirming leads to states that do not depend on the generation. -/
theorem equals_state {left right : Calculator} (states : left.state = right.state)
    (flags : left.calculating = right.calculating) (depth : Nat) (provider : Provider σ)
    (service : σ) :
    (left.equals depth provider service).2.1.state =
      (right.equals depth provider service).2.1.state := by
  rcases shift_total states flags with ⟨count, rfl⟩ | ⟨count, rfl⟩
  · simp only [equals_shift, shift_state]
  · simp only [equals_shift, shift_state]

/-- Pressing leads to states that do not depend on the generation. -/
theorem press_state {left right : Calculator} (states : left.state = right.state)
    (flags : left.calculating = right.calculating) (depth : Nat) (provider : Provider σ)
    (name : Text) (service : σ) :
    (left.press depth provider name service).2.1.state =
      (right.press depth provider name service).2.1.state := by
  rcases shift_total states flags with ⟨count, rfl⟩ | ⟨count, rfl⟩
  · simp only [press_shift, shift_state]
  · simp only [press_shift, shift_state]

end Calculator

end Reckoner
