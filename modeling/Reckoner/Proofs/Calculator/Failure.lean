import Reckoner.Proofs.Calculator.Confirm
import Reckoner.Proofs.Service.Local

/-!
# Where the calculator breaks off

A calculation that fails is to end in an error that is shown, and almost every one does. There are
two exceptions. A divisor that is not zero may have zero for the double next to it; confirming such
a division breaks off, and so does showing it. And showing the result of another operation breaks
off if it has too many digits to be written. Beside these two no press and no preview ever breaks
off, and a calculation shows a number or the word for an error, or nothing.
-/

namespace Reckoner

/-- A text that a calculation may show: an operand, or the word for an error. -/
def Text.IsOutcome (text : Text) : Prop := text.IsOperand ∨ text = Display.error

namespace Display

/-- A quotient is shown as an outcome. -/
theorem isOutcome_quotient (value : Double) : (quotient value).IsOutcome := by
  cases finite : value.isFinite with
  | true => exact .inl (isOperand_quotient finite)
  | false => exact .inr (quotient_eq_error finite)

/-- Every other result is shown as an outcome. -/
theorem isOutcome_result (value : Double) : (result value).IsOutcome := by
  cases finite : value.isFinite with
  | true => exact .inl (isOperand_result finite)
  | false => exact .inr (result_eq_error finite)

end Display

namespace State

/-- What is typed is a division by a decimal that vanishes. -/
def Vanishing (state : State) : Prop :=
  ∃ x y, state.operation? = some (.divide, x, y) ∧ y.Vanishes

/-- What is typed is another operation, whose result has too many digits to be written. -/
def Oversized (state : State) : Prop :=
  ∃ operator x y, state.operation? = some (operator, x, y) ∧ operator ≠ .divide ∧
    Text.exceedsDigitLimit (operator.exact x.truncate y.truncate) = true

/-- What a calculation may make of a state: the same state, or one that shows an outcome. -/
def Contained (before after : State) : Prop := after = before ∨ after.display.IsOutcome

variable {state : State} {operator : Operator} {x y : Decimal}

/-- Whether a typed operation is a division by what vanishes. -/
theorem vanishing_iff (typed : state.operation? = some (operator, x, y)) :
    state.Vanishing ↔ operator = .divide ∧ y.Vanishes := by
  simp [Vanishing, typed]

/-- Whether the result of a typed operation has too many digits. -/
theorem oversized_iff (typed : state.operation? = some (operator, x, y)) :
    state.Oversized ↔ operator ≠ .divide ∧
      Text.exceedsDigitLimit (operator.exact x.truncate y.truncate) = true := by
  simp [Oversized, typed]

/-- Nothing vanishes where no operation is typed. -/
theorem not_vanishing (untyped : state.operation? = none) : ¬state.Vanishing := by
  simp [Vanishing, untyped]

/-- No result has too many digits where no operation is typed. -/
theorem not_oversized (untyped : state.operation? = none) : ¬state.Oversized := by
  simp [Oversized, untyped]

end State

/-! ## Showing -/

/-- What is shown for a division breaks off exactly if the divisor vanishes. -/
theorem shownResult_divide (x y : Decimal) :
    (y.Vanishes ∧ shownResult .divide x y = .error .vanishingDivisor) ∨
      ¬y.Vanishes ∧ ∃ text, shownResult .divide x y = .ok text ∧ text.IsOutcome := by
  unfold shownResult Decimal.Vanishes
  cases zero : y.isZero with
  | true => exact .inr ⟨by simp, Display.error, rfl, .inr rfl⟩
  | false =>
    unfold shownQuotient
    cases vanishing : y.toDouble.isZero with
    | true => exact .inl ⟨⟨rfl, rfl⟩, rfl⟩
    | false => exact .inr ⟨by simp, _, rfl, Display.isOutcome_quotient _⟩

/-- What is shown for another operation breaks off exactly if its result has too many digits. -/
theorem shownResult_other {operator : Operator} (other : operator ≠ .divide) (x y : Decimal) :
    (Text.exceedsDigitLimit (operator.exact x.truncate y.truncate) = true ∧
        shownResult operator x y = .error .tooManyDigits) ∨
      Text.exceedsDigitLimit (operator.exact x.truncate y.truncate) = false ∧
        ∃ text, shownResult operator x y = .ok text ∧ text.IsOutcome := by
  have applied := Operator.apply_eq_exact (fun divides => absurd divides other) x.truncate
    (y := y.truncate)
  have shown : shownResult operator x y = operator.apply x.truncate y.truncate >>= writeInt := by
    cases operator with
    | divide => exact absurd rfl other
    | add | subtract | multiply => rfl
  rw [shown, applied]
  simp only [bind, Except.bind]
  cases long : Text.exceedsDigitLimit (operator.exact x.truncate y.truncate) with
  | true => exact .inl ⟨rfl, by rw [writeInt, if_pos long]⟩
  | false =>
    have written : writeInt (operator.exact x.truncate y.truncate) =
        .ok (Text.ofInt (operator.exact x.truncate y.truncate)) :=
      writeInt_eq_ok_iff.2 ⟨long, rfl⟩
    exact .inr ⟨rfl, _, written, .inl (writeInt_isOperand written)⟩

namespace Calculator

variable {calculator : Calculator} {depth : Nat} {operator : Operator} {x y : Decimal}

/-- The preview of an operation is what is shown for it. -/
theorem preview_of_operation (typed : calculator.state.operation? = some (operator, x, y)) :
    calculator.preview depth = some <$> shownResult operator x y := by
  obtain ⟨chosen, display, state, rfl, first, second⟩ := State.entering_of_operation typed
  simp only [preview, state, Reckoner.preview, first, second]

/-- Where no operation is typed, a preview does not break off. -/
theorem preview_without_operation (untyped : calculator.state.operation? = none) :
    ∃ shown, calculator.preview depth = .ok shown ∧ ∀ text ∈ shown, text.IsOutcome := by
  cases state : calculator.state with
  | composing expression display =>
    refine ⟨Display.expression? depth expression, by simp only [preview, state], ?_⟩
    exact fun text shown => Display.isOperand_expression shown
  | awaiting | calculated | failed => exact ⟨none, by simp only [preview, state], by simp⟩
  | entering display chosen =>
    cases chosen with
    | none => exact ⟨none, by simp only [preview, state], by simp⟩
    | some chosen =>
      rw [state] at untyped
      refine ⟨none, ?_, by simp⟩
      simp only [preview, state, Reckoner.preview]
      split
      · rename_i x y first second
        simp [State.operation?, first, second] at untyped
      · rfl

/-- A preview breaks off if a divisor vanishes or a result has too many digits. Otherwise there is
none, or it is an outcome. -/
theorem preview_cases (depth : Nat) (calculator : Calculator) :
    ((calculator.state.Vanishing ∨ calculator.state.Oversized) ∧
        ∃ e, calculator.preview depth = .error e) ∨
      ¬(calculator.state.Vanishing ∨ calculator.state.Oversized) ∧
        ∃ shown, calculator.preview depth = .ok shown ∧ ∀ text ∈ shown, text.IsOutcome := by
  cases typed : calculator.state.operation? with
  | none =>
    exact .inr ⟨not_or.2 ⟨State.not_vanishing typed, State.not_oversized typed⟩,
      preview_without_operation typed⟩
  | some operation =>
    obtain ⟨operator, x, y⟩ := operation
    rw [State.vanishing_iff typed, State.oversized_iff typed, preview_of_operation typed]
    by_cases divides : operator = .divide
    · subst divides
      rcases shownResult_divide x y with ⟨vanishes, failed⟩ | ⟨fine, text, shown, outcome⟩
      · exact .inl ⟨.inl ⟨rfl, vanishes⟩, _, by rw [failed]; rfl⟩
      · refine .inr ⟨by simp [fine], some text, by rw [shown]; rfl, ?_⟩
        exact fun other same => Option.some.inj same ▸ outcome
    · rcases shownResult_other divides x y with ⟨long, failed⟩ | ⟨fine, text, shown, outcome⟩
      · exact .inl ⟨.inr ⟨divides, long⟩, _, by rw [failed]; rfl⟩
      · refine .inr ⟨by simp [divides, fine], some text, by rw [shown]; rfl, ?_⟩
        exact fun other same => Option.some.inj same ▸ outcome

/-! ## Confirming -/

/-- What an expression is confirmed with shows an outcome. -/
theorem isOutcome_confirmExpression (depth : Nat) (expression : Text) :
    (confirmExpression depth expression).display.IsOutcome := by
  unfold confirmExpression
  split
  · exact .inr rfl
  · rename_i result shown
    split
    · exact .inr rfl
    · exact Display.isOperand_expression shown

/-- Confirming an operation other than a division goes through in front of the local service, and
shows an outcome. -/
theorem Ready.equals_local {chosen : Chosen} {display : Text}
    (ready : calculator.Ready chosen display x y) (other : chosen.operator ≠ .divide)
    (depth : Nat) (now : Calendar.Moment) (log : Archive) :
    (calculator.equals depth (LocalService.provider now) log).1 = .ok () ∧
      (calculator.equals depth (LocalService.provider now) log).2.1.state.display.IsOutcome := by
  rcases called : LocalService.provider now chosen.operator x.truncate y.truncate log with
    ⟨outcome, after⟩
  cases outcome with
  | error e =>
    rw [ready.equals_refused other called]
    exact ⟨rfl, .inr rfl⟩
  | ok answer =>
    obtain ⟨m, n, -, -, possible, rfl⟩ := LocalService.run_answer called
    have written : writeInt (chosen.operator.exact m n) =
        .ok (Text.ofInt (chosen.operator.exact m n)) :=
      writeInt_eq_ok_iff.2 ⟨possible.result, rfl⟩
    rw [ready.equals_answered other called rfl written]
    exact ⟨rfl, .inl (writeInt_isOperand written)⟩

/-- Confirming in front of the local service breaks off and changes nothing if a divisor vanishes.
Otherwise it goes through, and leaves the state or shows an outcome. -/
theorem equals_cases (rests : calculator.calculating = false) (depth : Nat)
    (now : Calendar.Moment) (log : Archive) :
    (calculator.state.Vanishing ∧ calculator.equals depth (LocalService.provider now) log =
        (.error (.calculation .vanishingDivisor), calculator, log)) ∨
      ¬calculator.state.Vanishing ∧
        (calculator.equals depth (LocalService.provider now) log).1 = .ok () ∧
          calculator.state.Contained
            (calculator.equals depth (LocalService.provider now) log).2.1.state := by
  cases typed : calculator.state.operation? with
  | none =>
    refine .inr ⟨State.not_vanishing typed, ?_⟩
    by_cases composing : ∃ expression display, calculator.state = .composing expression display
    · obtain ⟨expression, display, state⟩ := composing
      rw [equals_composing rests state]
      exact ⟨rfl, .inr (isOutcome_confirmExpression _ expression)⟩
    · rw [equals_without_operation rests typed fun expression display state =>
        composing ⟨expression, display, state⟩]
      exact ⟨rfl, .inl rfl⟩
  | some operation =>
    obtain ⟨operator, x, y⟩ := operation
    rw [State.vanishing_iff typed]
    obtain ⟨chosen, display, rfl, ready⟩ := ready_of_operation rests typed
    by_cases divides : chosen.operator = .divide
    · cases zero : y.isZero with
      | true =>
        rw [ready.equals_zero_divisor divides zero]
        exact .inr ⟨by simp [Decimal.Vanishes, zero], rfl, .inr (.inr rfl)⟩
      | false =>
        cases vanishing : y.toDouble.isZero with
        | true =>
          have vanishes : y.Vanishes := ⟨zero, vanishing⟩
          exact .inl
            ⟨⟨divides, vanishes⟩, ready.equals_vanishing_divisor divides vanishes depth _ log⟩
        | false =>
          rw [ready.equals_quotient divides vanishing]
          exact .inr ⟨by simp [Decimal.Vanishes, vanishing], rfl,
            .inr (Display.isOutcome_quotient _)⟩
    · obtain ⟨passed, outcome⟩ := ready.equals_local divides depth now log
      exact .inr ⟨by simp [divides], passed, .inr outcome⟩

end Calculator

/-! ## Functions and presses -/

/-- The buttons that calculate, in the states in which they do: a percent sign in an expression is
only typed. -/
def Button.calculates : Button → State → Bool
  | .equals, _ | .square, _ | .root, _ | .reciprocal, _ => true
  | .percent, .composing _ _ => false
  | .percent, _ => true
  | _, _ => false

namespace State

/-- A function of one operand leaves the state or shows an outcome. -/
theorem contained_applyFunction (state : State) (depth : Nat) (before after : Text)
    (function : Double → Option Double) :
    state.Contained (state.applyFunction depth before after function) := by
  unfold applyFunction
  split
  · exact .inl rfl
  · split
    · exact .inl rfl
    · simp only
      split
      · split
        · exact .inr (Display.isOutcome_result _)
        · exact .inr (.inr rfl)
      · exact .inr (.inr rfl)

/-- A percentage is shown as an outcome. -/
theorem isOutcome_percentOf {display shown : Text} (percentage : percentOf? display = some shown) :
    shown.IsOutcome := by
  obtain ⟨value, -, rfl⟩ := Option.map_eq_some_iff.1 percentage
  exact Display.isOutcome_result _

/-- A percentage leaves the state or shows an outcome. -/
theorem contained_percent {state : State} (calculates : Button.calculates .percent state = true) :
    state.Contained state.percent := by
  cases state with
  | failed trail => exact .inl rfl
  | composing expression display => cases calculates
  | awaiting chosen | calculated display trail | entering display chosen =>
    unfold percent
    simp only
    split
    · rename_i shown percentage
      exact .inr (isOutcome_percentOf percentage)
    · exact .inl rfl

end State

namespace Calculator

variable {calculator : Calculator} {depth : Nat}

/-- Only the button for equals can break off. -/
theorem pressButton_error {σ : Type} {provider : Provider σ} {button : Button} {service : σ}
    {e : StepError} (failed : (calculator.pressButton depth provider button service).1 = .error e) :
    button = .equals := by
  cases button with
  | equals => rfl
  | clear => cases failed
  | _ => cases failed

/-- In front of the local service a press breaks off exactly if it confirms a division by what
vanishes, and then it changes nothing. -/
theorem press_cases (rests : calculator.calculating = false) (depth : Nat) (name : Text)
    (now : Calendar.Moment) (log : Archive) :
    ((Button.ofName? name = some .equals ∧ calculator.state.Vanishing) ∧
        calculator.press depth (LocalService.provider now) name log =
          (.error (.calculation .vanishingDivisor), calculator, log)) ∨
      ¬(Button.ofName? name = some .equals ∧ calculator.state.Vanishing) ∧
        (calculator.press depth (LocalService.provider now) name log).1 = .ok () := by
  unfold press
  cases known : Button.ofName? name with
  | none => exact .inr ⟨by simp, rfl⟩
  | some button =>
    cases passed :
      (calculator.pressButton (depth - 1) (LocalService.provider now) button log).1 with
    | error e =>
      obtain rfl := pressButton_error passed
      rcases equals_cases rests (depth - 1) now log with ⟨vanishing, failed⟩ | ⟨-, fine, -⟩
      · exact .inl ⟨⟨rfl, vanishing⟩, failed⟩
      · have both := fine.symm.trans passed
        cases both
    | ok done =>
      refine .inr ⟨?_, rfl⟩
      rintro ⟨same, vanishing⟩
      obtain rfl := Option.some.inj same
      rcases equals_cases rests (depth - 1) now log with ⟨-, failed⟩ | ⟨fine, -⟩
      · rw [pressButton, failed] at passed
        cases passed
      · exact fine vanishing

/-- A press that calculates leaves the state or shows an outcome, even if it breaks off. -/
theorem contained_press (rests : calculator.calculating = false) {name : Text} {button : Button}
    (known : Button.ofName? name = some button)
    (calculates : button.calculates calculator.state = true) (depth : Nat)
    (now : Calendar.Moment) (log : Archive) :
    calculator.state.Contained
      (calculator.press depth (LocalService.provider now) name log).2.1.state := by
  simp only [press, known]
  cases button with
  | equals =>
    rcases equals_cases rests (depth - 1) now log with ⟨-, failed⟩ | ⟨-, -, contained⟩
    · rw [pressButton, failed]
      exact .inl rfl
    · exact contained
  | square | root | reciprocal =>
    simp only [pressButton, apply, edit_idle rests]
    exact State.contained_applyFunction ..
  | percent =>
    simp only [pressButton, apply, edit_idle rests]
    exact State.contained_percent calculates
  | digit | point | operator | openParen | closeParen | power | negate | erase | clear =>
    cases calculates

/-- What is shown breaks off exactly if the preview does. -/
theorem shown_error_iff : (∃ e, calculator.shown depth = .error e) ↔
    ∃ e, calculator.preview (depth - 1) = .error e := by
  unfold shown
  cases calculator.preview (depth - 1) with
  | error e => exact ⟨fun _ => ⟨e, rfl⟩, fun _ => ⟨e, rfl⟩⟩
  | ok text =>
    constructor
    · nofun
    · nofun

/-- A preview breaks off exactly if a divisor vanishes or a result has too many digits. -/
theorem preview_error_iff : (∃ e, calculator.preview depth = .error e) ↔
    calculator.state.Vanishing ∨ calculator.state.Oversized := by
  rcases preview_cases depth calculator with ⟨breaks, failed⟩ | ⟨fine, shown, previewed, -⟩
  · exact ⟨fun _ => breaks, fun _ => failed⟩
  · rw [previewed]
    exact ⟨nofun, fun breaks => absurd breaks fine⟩

end Calculator

namespace Press

/-- In front of the local service, in every state that presses reach:

- a press breaks off exactly if it confirms a division by what vanishes, and then changes nothing;
- a preview, and with it what is shown, breaks off exactly if a divisor vanishes or a result has too
  many digits to be written;
- every other preview is missing or an outcome, which is a number or the word for an error;
- every press that calculates leaves the state or shows an outcome. -/
theorem breaks_off_iff (archive : Archive) (presses : List LocalPress) (depth : Nat) (name : Text)
    (now : Calendar.Moment) (log : Archive) :
    let calculator := reached archive presses
    let pressed := calculator.press depth (LocalService.provider now) name log
    ((∃ e, pressed.1 = .error e) ↔
      Button.ofName? name = some .equals ∧ calculator.state.Vanishing) ∧
    (∀ e, pressed.1 = .error e →
      pressed = (.error (.calculation .vanishingDivisor), calculator, log)) ∧
    ((∃ e, calculator.preview depth = .error e) ↔
      calculator.state.Vanishing ∨ calculator.state.Oversized) ∧
    ((∃ e, calculator.shown depth = .error e) ↔
      calculator.state.Vanishing ∨ calculator.state.Oversized) ∧
    (∀ text, calculator.preview depth = .ok (some text) → text.IsOutcome) ∧
    ∀ button, Button.ofName? name = some button → button.calculates calculator.state = true →
      calculator.state.Contained pressed.2.1.state := by
  intro calculator pressed
  have rests : calculator.calculating = false := run_rests _ archive
  refine ⟨?_, ?_, Calculator.preview_error_iff,
    Calculator.shown_error_iff.trans Calculator.preview_error_iff, ?_, ?_⟩
  · rcases Calculator.press_cases rests depth name now log with ⟨breaks, failed⟩ | ⟨fine, passed⟩
    · exact ⟨fun _ => breaks, fun _ => ⟨_, congrArg Prod.fst failed⟩⟩
    · refine ⟨?_, fun breaks => absurd breaks fine⟩
      rintro ⟨e, failed⟩
      cases passed.symm.trans failed
  · intro e failed
    rcases Calculator.press_cases rests depth name now log with ⟨-, broken⟩ | ⟨-, passed⟩
    · exact broken
    · cases passed.symm.trans failed
  · intro text shown
    rcases Calculator.preview_cases depth calculator with
      ⟨-, e, failed⟩ | ⟨-, other, previewed, outcome⟩
    · rw [failed] at shown
      cases shown
    · rw [previewed] at shown
      exact outcome text (Except.ok.inj shown)
  · intro button known calculates
    exact Calculator.contained_press rests known calculates depth now log

/-- Two digits more in the exponent of a large result, and the next sum cannot be shown. -/
example : (reached .new (atOnce [['1'], ['0'], ['0'], ['0'], ['0'], ['0'], ['x', '²'], ['x', '²'],
    ['x', '²'], ['x', '²'], ['x', '²'], ['%'], ['9'], ['9'], ['+'], ['1']])).preview
      Calculator.scriptDepth = .error .tooManyDigits := by
  decide +kernel

/-- Five divided by one, of which four times a hundredth is taken, and two zeros at the end of the
exponent that it then has. -/
def vanishingDivisor : List LocalPress :=
  atOnce [['5'], ['÷'], ['1'], ['%'], ['%'], ['%'], ['%'], ['0'], ['0']]

/-- Dividing by ten to the power of -800 breaks off, and so does showing it. -/
theorem vanishingDivisor_breaks_off :
    (reached .new vanishingDivisor).state = .entering "1e-800" (some ⟨['5'], .divide⟩) ∧
      ((reached .new vanishingDivisor).press Calculator.scriptDepth
        (LocalService.provider ⟨0, by decide⟩) ['='] .new).1 =
        .error (.calculation .vanishingDivisor) ∧
      (reached .new vanishingDivisor).preview Calculator.scriptDepth = .error .vanishingDivisor ∧
      (reached .new vanishingDivisor).shown Calculator.scriptDepth = .error .vanishingDivisor := by
  decide +kernel

end Press

end Reckoner
