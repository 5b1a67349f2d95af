import Reckoner.Proofs.Calculator.Confirm
import Reckoner.Proofs.Decimal.Whole
import Reckoner.Proofs.Service.Local

/-!
# What presses log

The log is to hold what has been calculated with two operands. A calculation of any other kind
leaves it alone, and so does a calculation that fails. One whose result is shown adds exactly one
row, with the integers that its operands contain. Only a division may show a result that is not
logged: its quotient is taken of the whole operands, while the service is asked for that of the
integers and refuses if the divisor has become zero or a numeral would be too long.
-/

namespace Reckoner

/-- The service refuses the quotient of two integers, which is logged nowhere then. -/
def Operator.Refused (operator : Operator) (x y : Int) : Prop :=
  operator = .divide ∧
    (y = 0 ∨ Text.exceedsDigitLimit x = true ∨ Text.exceedsDigitLimit y = true)

/-- What is refused cannot be computed. -/
theorem Operator.Refused.not_computable {operator : Operator} {x y : Int}
    (refused : operator.Refused x y) : ¬operator.Computable x y := by
  intro possible
  rcases refused with ⟨divides, zero | long | long⟩
  · exact possible.divisible divides zero
  · exact absurd possible.first (by simp [long])
  · exact absurd possible.second (by simp [long])

/-- A quotient of integers is computed unless it is refused: it has no more digits than the
dividend. -/
theorem Operator.computable_divide {x y : Int} (served : ¬Operator.divide.Refused x y) :
    Operator.divide.Computable x y := by
  simp only [Refused, true_and, not_or, Bool.not_eq_true] at served
  obtain ⟨nonzero, first, second⟩ := served
  refine ⟨fun _ => nonzero, first, second, ?_⟩
  rw [Text.exceedsDigitLimit_eq_false] at first ⊢
  have smaller : (x.tdiv y).natAbs ≤ x.natAbs := by
    rw [Int.natAbs_tdiv]
    exact Nat.div_le_self _ _
  exact Nat.lt_of_le_of_lt smaller first

namespace LocalService

variable {operator : Operator} {x y : Int} {archive : Archive}

/-- A log that works is left alone by a calculation that the service cannot compute. -/
theorem provider_refused (impossible : ¬operator.Computable x y) (now : Calendar.Moment)
    (archive : Archive) : ∃ e, provider now operator x y archive = (.error e, archive) := by
  refine run_refused (fun outcome computed => impossible ?_) now archive
  obtain ⟨m, n, first, second, possible, -⟩ := compute_eq_ok_iff.1 computed
  cases first
  cases second
  exact possible

/-- The row of a calculation that is computed at a moment. -/
def row (id : Nat) (operator : Operator) (x y : Int) (now : Calendar.Moment) : Row :=
  ⟨id, loggedExpression operator x y, Text.ofInt (operator.exact x y), now.stamp⟩

end LocalService

/-- A log works and holds one row more than another, cut to the newest ten rows. -/
structure Archive.Gains (before after : Archive) (row : Row) : Prop where
  working : after.Working
  rows : after.log.newestFirst = (row :: before.log.newestFirst).take 10

namespace Calculator

variable {calculator : Calculator} {chosen : Chosen} {display : Text} {x y : Decimal}
  {log : Archive}

/-- A press confirms an operation behind its second operand, and its result is shown. -/
def Concludes (calculator : Calculator) (name : Text) (chosen : Chosen) (display : Text)
    (after : State) : Prop :=
  Button.ofName? name = some .equals ∧ calculator.state = .entering display (some chosen) ∧
    ∃ result trail, after = .calculated result trail

/-- What confirming an operation on two decimals does to a log that works: it gains the row of what
is computed if the result is shown and not refused, and it stays otherwise. -/
theorem Ready.equals_log (ready : calculator.Ready chosen display x y) (working : log.Working)
    (depth : Nat) (now : Calendar.Moment) :
    let confirmed := calculator.equals depth (LocalService.provider now) log
    (¬chosen.operator.Refused x.truncate y.truncate ∧
        log.Gains confirmed.2.2 (LocalService.row (log.log.lastId + 1) chosen.operator x.truncate
          y.truncate now) ∧
        ∃ result trail, confirmed.2.1.state = .calculated result trail) ∨
      confirmed.2.2 = log ∧ (chosen.operator.Refused x.truncate y.truncate ∨
        ∀ result trail, confirmed.2.1.state ≠ .calculated result trail) := by
  intro confirmed
  have computed (possible : chosen.operator.Computable x.truncate y.truncate) :=
    LocalService.run_computed possible working now
  by_cases divides : chosen.operator = .divide
  · cases zero : y.isZero with
    | true =>
      have failed := ready.equals_zero_divisor divides zero depth (LocalService.provider now) log
      simp only [confirmed, failed]
      exact .inr ⟨trivial, .inr fun _ _ => nofun⟩
    | false =>
      cases vanishing : y.toDouble.isZero with
      | true =>
        have broken := ready.equals_vanishing_divisor divides ⟨zero, vanishing⟩ depth
          (LocalService.provider now) log
        simp only [confirmed, broken, ready.state]
        exact .inr ⟨trivial, .inr fun _ _ => nofun⟩
      | false =>
        have shown := ready.equals_quotient divides vanishing depth (LocalService.provider now) log
        simp only [confirmed, shown]
        rw [← divides]
        by_cases refused : chosen.operator.Refused x.truncate y.truncate
        · obtain ⟨e, unlogged⟩ := LocalService.provider_refused refused.not_computable now log
          rw [unlogged]
          exact .inr ⟨rfl, .inl refused⟩
        · have possible : chosen.operator.Computable x.truncate y.truncate := by
            rw [divides] at refused ⊢
            exact Operator.computable_divide refused
          obtain ⟨after, answered, still, listed⟩ := computed possible
          rw [LocalService.provider, answered]
          exact .inl ⟨refused, ⟨still, listed⟩, _, _, rfl⟩
  · by_cases possible : chosen.operator.Computable x.truncate y.truncate
    · obtain ⟨after, answered, still, listed⟩ := computed possible
      have written : writeInt (chosen.operator.exact x.truncate y.truncate) =
          .ok (Text.ofInt (chosen.operator.exact x.truncate y.truncate)) :=
        writeInt_eq_ok_iff.2 ⟨possible.result, rfl⟩
      have asked : LocalService.provider now chosen.operator x.truncate y.truncate log =
          (.ok (.make (.int (chosen.operator.exact x.truncate y.truncate)) (.string
            (LocalService.loggedExpression chosen.operator x.truncate y.truncate))), after) :=
        answered
      have shown := ready.equals_answered divides asked rfl written depth
      simp only [confirmed, shown]
      exact .inl ⟨fun refused => divides refused.1, ⟨still, listed⟩, _, _, rfl⟩
    · obtain ⟨e, refused⟩ := LocalService.provider_refused possible now log
      have failed := ready.equals_refused divides refused depth
      simp only [confirmed, failed]
      exact .inr ⟨trivial, .inr fun _ _ => nofun⟩

/-- Only the button for equals reaches the service. -/
theorem pressButton_service {σ : Type} {depth : Nat} {provider : Provider σ} {button : Button}
    {service : σ} (other : button ≠ .equals) :
    (calculator.pressButton depth provider button service).2.2 = service := by
  cases button with
  | equals => exact absurd rfl other
  | clear => rfl
  | _ => rfl

/-- Whatever is pressed, a log that works gains the row of an operation whose result is then shown,
unless it is a division that is refused. Otherwise the log stays. -/
theorem press_log (rests : calculator.calculating = false) (working : log.Working) (depth : Nat)
    (name : Text) (now : Calendar.Moment) :
    let pressed := calculator.press depth (LocalService.provider now) name log
    (∃ chosen display x y, calculator.Concludes name chosen display pressed.2.1.state ∧
        Decimal.ofText? chosen.operand = some x ∧ Decimal.ofText? display = some y ∧
        ¬chosen.operator.Refused x.truncate y.truncate ∧
        log.Gains pressed.2.2 (LocalService.row (log.log.lastId + 1) chosen.operator x.truncate
          y.truncate now)) ∨
      pressed.2.2 = log ∧ ∀ chosen display,
        calculator.Concludes name chosen display pressed.2.1.state →
          ∃ x y, Decimal.ofText? chosen.operand = some x ∧ Decimal.ofText? display = some y ∧
            chosen.operator.Refused x.truncate y.truncate := by
  intro pressed
  by_cases confirms : Button.ofName? name = some .equals
  · have same : pressed = calculator.equals (depth - 1) (LocalService.provider now) log := by
      simp only [pressed, press, confirms, pressButton]
    cases typed : calculator.state.operation? with
    | some operation =>
      obtain ⟨operator, x, y⟩ := operation
      obtain ⟨chosen, display, rfl, ready⟩ := ready_of_operation rests typed
      rw [same]
      rcases ready.equals_log working (depth - 1) now with
        ⟨served, gains, shown⟩ | ⟨stays, unlogged⟩
      · exact .inl ⟨chosen, display, x, y, ⟨confirms, ready.state, shown⟩, ready.first,
          ready.second, served, gains⟩
      · refine .inr ⟨stays, ?_⟩
        rintro other shown ⟨-, state, result, trail, calculated⟩
        cases ready.state.symm.trans state
        refine ⟨x, y, ready.first, ready.second, unlogged.resolve_right fun never => ?_⟩
        exact never result trail calculated
    | none =>
      by_cases composing : ∃ expression display, calculator.state = .composing expression display
      · obtain ⟨expression, display, state⟩ := composing
        rw [same, equals_composing rests state]
        refine .inr ⟨rfl, ?_⟩
        rintro chosen shown ⟨-, entering, -⟩
        cases state.symm.trans entering
      · rw [same, equals_without_operation rests typed fun expression display state =>
          composing ⟨expression, display, state⟩]
        refine .inr ⟨rfl, ?_⟩
        rintro chosen shown ⟨-, entering, result, trail, calculated⟩
        cases entering.symm.trans calculated
  · refine .inr ⟨?_, fun chosen display concludes => absurd concludes.1 confirms⟩
    simp only [pressed, press]
    cases known : Button.ofName? name with
    | none => rfl
    | some button => exact pressButton_service fun same => confirms (same ▸ known)

end Calculator

namespace Press

/-- The log after presses at their moments, in front of the local service. -/
def logAfter (archive : Archive) (presses : List LocalPress) : Archive :=
  (run (presses.map atMoment) archive).2

/-- A log that works goes on working, whatever is pressed. -/
theorem working_logAfter {archive : Archive} (working : archive.Working)
    (presses : List LocalPress) : (logAfter archive presses).Working := by
  induction presses using List.reverseRecOn with
  | nil => exact working
  | append_singleton presses press ih =>
    have last : logAfter archive (presses ++ [press]) =
        ((reached archive presses).press press.depth (LocalService.provider press.now) press.name
          (logAfter archive presses)).2.2 := by
      rw [logAfter, List.map_append, List.map_singleton, run_concat]
      rfl
    have rests : (reached archive presses).calculating = false := run_rests _ archive
    rw [last]
    rcases Calculator.press_log rests ih press.depth press.name press.now with
      ⟨_, _, _, _, -, -, -, -, gains⟩ | ⟨stays, -⟩
    · exact gains.working
    · rwa [stays]

/-- Whatever has been pressed in front of the local service with a log that works, the next press
does this to the log. If it confirms an operation behind its second operand and the result is
shown, the log gains exactly one row, with the integers in the operands, their exact result and the
moment, and is cut to its newest ten rows; the only exception is a division whose divisor contains
no integer but zero, or whose numerals would be too long, and then the log stays. The log stays
as well if any other button is pressed, or equals in any other state or without a result. -/
theorem logs_shown_results {archive : Archive} (working : archive.Working)
    (presses : List LocalPress) (depth : Nat) (name : Text) (now : Calendar.Moment) :
    let calculator := reached archive presses
    let log := logAfter archive presses
    let pressed := calculator.press depth (LocalService.provider now) name log
    (∀ chosen display, calculator.Concludes name chosen display pressed.2.1.state →
      ∃ x y, Decimal.ofText? chosen.operand = some x ∧ Decimal.ofText? display = some y ∧
        (chosen.operator.Refused x.truncate y.truncate → pressed.2.2 = log) ∧
        (¬chosen.operator.Refused x.truncate y.truncate →
          log.Gains pressed.2.2 (LocalService.row (log.log.lastId + 1) chosen.operator
            x.truncate y.truncate now))) ∧
    ((¬∃ chosen display, calculator.Concludes name chosen display pressed.2.1.state) →
      pressed.2.2 = log) := by
  intro calculator log pressed
  have rests : calculator.calculating = false := run_rests _ archive
  rcases Calculator.press_log rests (working_logAfter working presses) depth name now with
    ⟨chosen, display, x, y, concludes, first, second, served, gains⟩ | ⟨stays, refused⟩
  · refine ⟨?_, fun other => absurd ⟨chosen, display, concludes⟩ other⟩
    rintro other shown ⟨-, state, -⟩
    cases concludes.2.1.symm.trans state
    exact ⟨x, y, first, second, fun refusal => absurd refusal served, fun _ => gains⟩
  · refine ⟨fun chosen display concludes => ?_, fun _ => stays⟩
    obtain ⟨x, y, first, second, refusal⟩ := refused chosen display concludes
    exact ⟨x, y, first, second, fun _ => stays, fun served => absurd refusal served⟩

/-- What equals makes of presses before it, in front of the local service with a new log. -/
def confirmed (presses : List LocalPress) :
    Except StepError Unit × Calculator × Archive :=
  (reached .new presses).press Calculator.scriptDepth
    (LocalService.provider ⟨0, Calendar.limit_pos⟩) "=" (logAfter .new presses)

/-- Seven divided by two. -/
def sevenHalves : List LocalPress := atOnce [['7'], ['÷'], ['2']]

/-- Three and a half is shown, and the one row that is logged has three. -/
theorem sevenHalves_logged :
    Archive.new.Working ∧
      (confirmed sevenHalves).2.1.state = .calculated "3.5" "7 ÷ 2 = 3.5" ∧
      (confirmed sevenHalves).2.2.log.newestFirst =
        [⟨1, "7 ÷ 2", "3", Calendar.Moment.stamp ⟨0, Calendar.limit_pos⟩⟩] := by
  have shown : (confirmed sevenHalves).2.1.state = .calculated "3.5" "7 ÷ 2 = 3.5" := by
    decide +kernel
  have typed : (reached .new sevenHalves).state = .entering ['2'] (some ⟨['7'], .divide⟩) := by
    decide +kernel
  have seven : Decimal.ofText? ['7'] = some (.ofInt 7) := by decide +kernel
  have two : Decimal.ofText? ['2'] = some (.ofInt 2) := by decide +kernel
  have served : ¬Operator.divide.Refused (Decimal.ofInt 7).truncate (Decimal.ofInt 2).truncate := by
    rintro ⟨-, zero | long | long⟩
    · exact absurd zero (by decide)
    · exact absurd long (by decide +kernel)
    · exact absurd long (by decide +kernel)
  refine ⟨Archive.working_new, shown, ?_⟩
  unfold confirmed at shown ⊢
  obtain ⟨x, y, first, second, -, gains⟩ :=
    (logs_shown_results Archive.working_new sevenHalves Calculator.scriptDepth "="
      ⟨0, Calendar.limit_pos⟩).1
      ⟨['7'], .divide⟩ ['2'] ⟨by decide, typed, _, _, shown⟩
  cases first.symm.trans seven
  cases second.symm.trans two
  rw [(gains served).rows]
  decide +kernel

/-- One divided by a half. -/
def oneByHalf : List LocalPress := atOnce [['1'], ['÷'], ['0'], ['.'], ['5']]

/-- The quotient by a half is shown, but no row is logged. -/
theorem oneByHalf_unlogged :
    (reached .new oneByHalf).Concludes "=" ⟨['1'], .divide⟩ "0.5"
        (confirmed oneByHalf).2.1.state ∧
      (confirmed oneByHalf).2.1.state.display = ("2" : Text) ∧
      (logAfter .new oneByHalf).log.newestFirst = [] ∧
      (confirmed oneByHalf).2.2.log.newestFirst = [] := by
  have typed : (reached .new oneByHalf).state = .entering "0.5" (some ⟨['1'], .divide⟩) := by
    decide +kernel
  have shown : (confirmed oneByHalf).2.1.state = .calculated ['2'] "1 ÷ 0.5 = 2" := by
    decide +kernel
  refine ⟨⟨by decide, typed, _, _, shown⟩, by rw [shown]; rfl, ?_⟩
  decide +kernel

end Press

end Reckoner
