import Reckoner.Proofs.Calculator.Run
import Reckoner.Proofs.Expression.Depth

/-!
# Previews

While an operand or an expression is typed the calculator shows what confirming would give. The
preview of an operation is computed from the operands alone, whereas confirming it asks a service;
and the preview of a failing expression is a text, whereas confirming it leads to a failed state.
The two ways agree on the display whenever the service adds, subtracts and multiplies exactly. A
quotient never depends on the service.

There is one exception. Confirming evaluates an expression one call deeper than previewing does, so
an expression that is nested just as deep as can be previewed is cut off when it is confirmed.
-/

namespace Reckoner

/-- In this state of the service, sums, differences and products are answered exactly. What becomes
of a division is open. -/
def Provider.Exact {σ : Type} (provider : Provider σ) (service : σ) : Prop :=
  ∀ operator x y, operator ≠ .divide → ∃ answer result,
    (provider operator x y service).1 = .ok answer ∧ answer.result? = some (.int result) ∧
      operator.apply x y = .ok result

/-- A service that calculates and keeps nothing. -/
def Provider.calculating : Provider Unit := fun operator x y service =>
  (((operator.apply x y).mapError .calculation).map fun result => .make (.int result) .null,
    service)

/-- Nothing but divisions can fail in front of a service that only calculates. -/
theorem Provider.calculating_exact : Provider.calculating.Exact () := by
  intro operator x y other
  cases operator with
  | divide => exact absurd rfl other
  | add | subtract | multiply => exact ⟨_, _, rfl, rfl, rfl⟩

/-! ## Expressions -/

namespace State

variable {state : State} {depth : Nat}

/-- An expression is typed whose evaluation is cut off with this depth. -/
def CutOff (depth : Nat) : State → Prop
  | .composing expression _ => evaluate depth expression = .error .tooDeep
  | _ => False

/-- An expression is not cut off if it has a derivation that is nested in fewer calls. -/
theorem not_cutOff {tree : Tree .sum} (derives : tree.tokens = Token.scan state.expression)
    (fits : tree.nesting < depth) : ¬state.CutOff depth := by
  cases state with
  | composing expression display => exact evaluate_through derives fits
  | entering | awaiting | calculated | failed => exact id

end State

namespace Calculator

variable {σ : Type} {provider : Provider σ} {service : σ}

/-- Confirming an expression shows its value, and the word for an error where that is shown for
it. -/
theorem confirmExpression_display {depth : Nat} {expression text : Text}
    (evaluated : Display.expression? depth expression = some text) :
    (confirmExpression depth expression).display = text := by
  simp only [confirmExpression, evaluated]
  split
  · rename_i wrong
    rw [wrong]
    rfl
  · rfl

/-! ## Operations on two operands -/

/-- The preview of an operation exists only between two decimals, and is what is shown for them. -/
theorem preview_operands {operator : Operator} {first second text : Text}
    (previewed : Reckoner.preview operator first second = .ok (some text)) :
    ∃ x y, Decimal.ofText? first = some x ∧ Decimal.ofText? second = some y ∧
      shownResult operator x y = .ok text := by
  unfold Reckoner.preview at previewed
  split at previewed
  · rename_i x y readFirst readSecond
    refine ⟨x, y, readFirst, readSecond, ?_⟩
    cases shown : shownResult operator x y with
    | error e => simp [shown, Functor.map, Except.map] at previewed
    | ok result =>
      simp only [shown, Functor.map, Except.map, Except.ok.injEq, Option.some.injEq] at previewed
      rw [previewed]
  · cases previewed

/-- The calculation of a previewed operation can be made, and its outcome shows the preview. -/
theorem pendingOf_shows (exact : provider.Exact service) (calculator : Calculator)
    {chosen : Chosen} {x y : Decimal} {text : Text} (display : Text)
    (possible : ¬(chosen.operator = .divide ∧ y.isZero = true))
    (shown : shownResult chosen.operator x y = .ok text) :
    ∃ pending, calculator.pendingOf chosen display x y = .ok pending ∧
      conclude pending (outcomeOf (callService provider pending service).1) =
        .ok (showing pending text) := by
  by_cases divides : chosen.operator = .divide
  · -- The quotient was computed when the calculation began, so no outcome can change it.
    have nonzero : y.isZero = false := by
      cases zero : y.isZero with
      | false => rfl
      | true => exact absurd ⟨divides, zero⟩ possible
    have quotient : shownQuotient x y = .ok text := by
      simpa only [divides, shownResult, nonzero, Bool.false_eq_true, ↓reduceIte] using shown
    rw [pendingOf_divide divides, quotient]
    exact ⟨_, rfl, rfl⟩
  · have result : (chosen.operator.apply x.truncate y.truncate >>= writeInt) = .ok text := by
      rw [← shown]
      cases operator : chosen.operator with
      | divide => exact absurd operator divides
      | add | subtract | multiply => rfl
    rw [pendingOf_other divides]
    refine ⟨_, rfl, ?_⟩
    obtain ⟨answer, value, answered, named, computed⟩ :=
      exact chosen.operator x.truncate y.truncate divides
    have written : writeInt value = .ok text := by
      simpa only [computed, bind, Except.bind] using result
    simp only [callService, answered, outcomeOf, conclude, resultText, named, written]
    rfl

/-! ## Signs in a parenthesis -/

/-- A button other than the one for equals does without the service. -/
theorem run_unserved (names : List Text) {name : Text} {button : Button}
    (known : Button.ofName? name = some button) (other : button ≠ .equals) :
    (Press.run (Press.unserved (names.concat name)) ()).1 =
      (Press.run (Press.unserved names) ()).1.apply (scriptDepth - 1) button := by
  have last : Press.unserved (names.concat name) =
      Press.unserved names ++ [⟨name, .missing, scriptDepth⟩] := by
    rw [Press.unserved, List.concat_eq_append, List.map_append]
    rfl
  rw [last, Press.run_concat, Press.apply]
  simp only [press, known]
  cases button with
  | equals => exact absurd rfl other
  | _ => rfl

/-- The names of the buttons that type a parenthesis and so many minus signs in it. -/
def signNames (signs : Nat) : List Text := "(" :: List.replicate signs "-"

/-- The names of the buttons that type one in a parenthesis, with so many minus signs before it. -/
def signedOneNames (signs : Nat) : List Text := (signNames signs).concat "1" |>.concat ")"

/-- A parenthesis and the minus signs in it are typed. -/
theorem run_signNames (signs : Nat) :
    (Press.run (Press.unserved (signNames signs)) ()).1.state =
      .composing ('(' :: List.replicate signs ('-' : CodePoint)) "0" := by
  induction signs with
  | zero => decide +kernel
  | succ signs ih =>
    have known : Button.ofName? "-" = some (.operator .subtract) := by decide
    have more : signNames (signs + 1) = (signNames signs).concat "-" := by
      rw [signNames, List.replicate_succ', List.concat_eq_append]
      rfl
    rw [more, run_unserved _ known (by simp), apply, edit_idle (Press.run_rests _ ()), ih,
      List.replicate_succ']
    exact congrArg (State.composing · "0") List.concat_eq_append

/-- So is one behind them, and the parenthesis is closed. -/
theorem run_signedOneNames (signs : Nat) : ∃ display,
    (Press.run (Press.unserved (signedOneNames signs)) ()).1.state =
      .composing (signedOne signs) display := by
  have digit : Button.ofName? "1" = some (.digit '1') := by decide
  have paren : Button.ofName? ")" = some .closeParen := by decide
  rw [signedOneNames, run_unserved _ paren (by simp), apply, edit_idle (Press.run_rests _ ()),
    run_unserved _ digit (by simp), apply, edit_idle (Press.run_rests _ ()), run_signNames]
  have written : ((('(' : CodePoint) :: List.replicate signs '-') ++ (['1'] : Text)).concat ')' =
      signedOne signs := by
    rw [List.concat_eq_append, List.append_assoc]
    rfl
  exact ⟨_, congrArg (State.composing · _) written⟩

/-- One with so many minus signs is previewed with any depth that is enough for it. -/
theorem preview_signedOne {depth signs : Nat} (room : signs + 5 < depth) :
    (Press.run (Press.unserved (signedOneNames signs)) ()).1.preview depth =
      .ok (some (if signs % 2 = 0 then ("1" : Text) else "-1")) := by
  obtain ⟨display, typed⟩ := run_signedOneNames signs
  simp only [preview, typed, expression_signedOne room]

/-- With a depth that is just enough for it, it is cut off when it is confirmed. -/
theorem equals_signedOne (provider : Provider σ) (service : σ) (signs : Nat) :
    ((Press.run (Press.unserved (signedOneNames signs)) ()).1.equals (signs + 6) provider
      service).2.1.state = .failed (signedOne signs ++ " =") := by
  obtain ⟨display, typed⟩ := run_signedOneNames signs
  rw [equals, begin_composing (Press.run_rests _ ()) typed]
  show confirmExpression (signs + 5) (signedOne signs) = _
  rw [confirmExpression, Display.expression?, evaluate_signedOne_cut_off]

/-! ## The two ways agree -/

/-- At rest, confirming in front of an exact service succeeds. It shows what was previewed, unless
the evaluation of an expression is cut off on the way, and then it fails. -/
theorem equals_display {calculator : Calculator} (rests : calculator.calculating = false)
    (exact : provider.Exact service) {depth : Nat} {text : Text}
    (previewed : calculator.preview depth = .ok (some text)) :
    (calculator.equals depth provider service).1 = .ok () ∧
      (¬calculator.state.CutOff (depth - 1) →
        (calculator.equals depth provider service).2.1.state.display = text) ∧
      (calculator.state.CutOff (depth - 1) →
        (calculator.equals depth provider service).2.1.state =
          .failed (calculator.state.expression ++ " =")) := by
  cases state : calculator.state with
  | composing expression display =>
    simp only [preview, state, Except.ok.injEq] at previewed
    rw [equals, begin_composing rests state]
    refine ⟨rfl, fun through => ?_, fun cut => ?_⟩
    · have same := evaluate_deeper (Nat.sub_le depth 1) through
      refine confirmExpression_display ?_
      rw [← previewed, Display.expression?, Display.expression?, same]
    · have cut : evaluate (depth - 1) expression = .error .tooDeep := cut
      show confirmExpression (depth - 1) expression = _
      rw [confirmExpression, Display.expression?, cut]
      rfl
  | entering display chosen =>
    cases chosen with
    | none => simp [preview, state] at previewed
    | some chosen =>
      simp only [preview, state] at previewed
      obtain ⟨x, y, first, second, shown⟩ := preview_operands previewed
      by_cases impossible : chosen.operator = .divide ∧ y.isZero = true
      · have wrong : text = Display.error := by
          simpa only [impossible.1, shownResult, impossible.2, ↓reduceIte, Except.ok.injEq,
            eq_comm] using shown
        rw [equals, begin_impossible rests state first second impossible, wrong]
        exact ⟨rfl, fun _ => rfl, False.elim⟩
      · obtain ⟨pending, made, concluded⟩ :=
          pendingOf_shows exact calculator display impossible shown
        have begun : calculator.begin (depth - 1) = (.ok (some pending), _) :=
          begin_possible rests state first second impossible made
        rw [equals_concludes begun concluded]
        exact ⟨rfl, fun _ => rfl, False.elim⟩
  | awaiting chosen => simp [preview, state] at previewed
  | calculated display trail => simp [preview, state] at previewed
  | failed trail => simp [preview, state] at previewed

end Calculator

end Reckoner
