import Reckoner.Proofs.Calculator.Carry
import Reckoner.Proofs.Calculator.Tidy

/-!
# Expressions that presses compose

An expression begins with what a power or a parenthesis takes up, or with a parenthesis behind a
result, and then grows at its end, loses its last character, or has the sign of its last number
changed. Operands have at most one point and no parenthesis, so an expression is in order when it
begins, and it stays in order: a second point is not taken, a parenthesis behind an operand is
preceded by a multiplication, and a sign that goes leaves no numbers side by side. All characters
that reading skips come from the operands that the expression began with.
-/

namespace Reckoner

/-! ## Taking operands up -/

/-- The key of an operation is a mark behind which a parenthesis may open. -/
theorem Operator.key_opens (operator : Operator) :
    operator.key.IsMark ∧ operator.key ≠ '(' ∧ State.multipliesBefore operator.key = false := by
  cases operator <;> decide

namespace Carry

variable {carry : Carry Text}

/-- Operands in order go into an expression in order. -/
theorem orderly (operands : ∀ operand ∈ carry.operands, operand.Orderly) :
    carry.expression.Orderly := by
  obtain ⟨joined, base⟩ := carry
  induction joined with
  | nil =>
    cases base with
    | none => exact .single (by decide)
    | some base =>
      have first := operands base (List.mem_singleton_self _)
      exact first.concat (by decide) fun _ _ => nofun
  | cons one joined ih =>
    obtain ⟨operand, operator⟩ := one
    obtain ⟨mark, other, free⟩ := operator.key_opens
    have first := operands operand (List.mem_cons_self ..)
    have rest := ih fun other member => operands other (List.mem_cons_of_mem _ member)
    rw [expression_cons]
    exact first.join rest mark (fun _ _ same => absurd same other) free

/-- Operands with two minus signs at most go into an expression with three for each of them. -/
theorem signs_le (operands : ∀ operand ∈ carry.operands, operand.count (.char '-') ≤ 2) :
    carry.expression.count (.char '-') ≤ 3 * carry.operands.length := by
  obtain ⟨joined, base⟩ := carry
  induction joined with
  | nil =>
    cases base with
    | none => exact Nat.le_refl _
    | some base =>
      have few := operands base (List.mem_singleton_self _)
      have written : expression ⟨[], some base⟩ = base ++ [.char '^'] := rfl
      rw [written, List.count_append]
      exact Nat.le_succ_of_le few
  | cons one joined ih =>
    obtain ⟨operand, operator⟩ := one
    have first := operands operand (List.mem_cons_self ..)
    have rest := ih fun other member => operands other (List.mem_cons_of_mem _ member)
    have count : Carry.operands ⟨(operand, operator) :: joined, base⟩ =
        operand :: Carry.operands ⟨joined, base⟩ := rfl
    have key : List.count (.char '-') [operator.key] ≤ 1 := List.count_le_length
    rw [expression_cons, ← List.singleton_append, List.count_append, List.count_append, count,
      List.length_cons]
    omega

/-- Two tidy operands at most go into an expression that is composed. -/
theorem composed (tidy : ∀ operand ∈ carry.operands, operand.Tidy)
    (two : carry.operands.length ≤ 2) : carry.expression.Composed where
  nonempty := by
    obtain ⟨front, mark, written, -⟩ := carry.exists_last
    simp [written]
  orderly := orderly fun operand member => (tidy operand member).orderly
  signs := .of_count (Nat.le_trans (signs_le fun operand member => (tidy operand member).count_le)
    (Nat.mul_le_mul_left 3 two))

end Carry

namespace State

/-! ## One press -/

/-- The expression of a state, if one is typed, is composed. -/
def Composes (state : State) : Prop :=
  ∀ expression display, state = .composing expression display → expression.Composed

variable {state : State}

/-- An expression that is typed is the one that counts. -/
theorem composes_composing {expression display : Text} :
    (composing expression display).Composes ↔ expression.Composed := by
  constructor
  · exact fun composes => composes _ _ rfl
  · intro composed other shown same
    obtain ⟨rfl, rfl⟩ := State.composing.inj same
    exact composed

/-- A mark may be typed at the end of an expression. -/
theorem composes_concat {expression : Text} (display : Text) (composed : expression.Composed)
    {c : CodePoint} (mark : c.IsMark) (opens : ∀ last ∈ expression.getLast?, Text.Opens last c) :
    (composing (expression.concat c) display).Composes := by
  rw [List.concat_eq_append]
  exact composes_composing.2 (composed.concat mark opens)

/-- Typing a digit keeps an expression composed. -/
theorem Composes.typeDigit (composes : state.Composes) (digit : Fin 10) :
    (state.typeDigit [Text.digitPoint digit]).Composes := by
  cases state with
  | composing expression display =>
    exact composes_composing.2 ((composes_composing.1 composes).push
      (CodePoint.isSimple_digitPoint digit) (Token.isNumberChar_digitPoint digit)
      fun point => absurd point (Text.digitPoint_ne_mark digit).2.2.1)
  | entering display chosen =>
    unfold State.typeDigit
    simp only
    split
    · exact nofun
    · exact nofun
  | failed | calculated | awaiting => exact nofun

/-- Typing a point keeps an expression composed. -/
theorem Composes.typePoint (composes : state.Composes) : state.typePoint.Composes := by
  cases state with
  | composing expression display =>
    unfold State.typePoint
    simp only
    split
    · exact composes
    · rename_i pointless
      rw [List.concat_eq_append]
      exact composes_composing.2
        ((composes_composing.1 composes).push (by decide) (by decide) fun _ => pointless)
  | entering display chosen =>
    unfold State.typePoint
    simp only
    split
    · exact nofun
    · exact nofun
  | failed | calculated | awaiting => exact nofun

/-- Choosing an operation keeps an expression composed. -/
theorem Composes.choose (composes : state.Composes) (operator : Operator) :
    (state.choose operator).Composes := by
  cases state with
  | composing expression display =>
    obtain ⟨mark, other, -⟩ := operator.key_opens
    exact composes_concat display (composes_composing.1 composes) mark
      fun _ _ same => absurd same other
  | failed | calculated | awaiting | entering => exact nofun

/-- Closing a parenthesis keeps an expression composed. -/
theorem Composes.closeParen (composes : state.Composes) : state.closeParen.Composes := by
  cases state with
  | composing expression display =>
    exact composes_concat display (composes_composing.1 composes) (by decide) fun _ _ => nofun
  | failed | calculated | awaiting | entering => exact nofun

/-- A percent sign keeps an expression composed. -/
theorem Composes.percent (composes : state.Composes) : state.percent.Composes := by
  cases state with
  | composing expression display =>
    exact composes_concat display (composes_composing.1 composes) (by decide) fun _ _ => nofun
  | failed trail => exact nofun
  | calculated | awaiting | entering =>
    unfold State.percent
    simp only
    split
    · exact nofun
    · exact nofun

/-- Erasing keeps an expression composed. -/
theorem Composes.erase (composes : state.Composes) : state.erase.Composes := by
  cases state with
  | composing expression display =>
    unfold State.erase
    simp only
    split
    · exact nofun
    · rename_i remaining
      exact composes_composing.2 ((composes_composing.1 composes).dropLast remaining)
  | failed | calculated | awaiting | entering => exact nofun

/-- Changing the sign of the last number keeps an expression composed. -/
theorem Composes.negate (composes : state.Composes) : state.negate.Composes := by
  cases state with
  | composing expression display =>
    unfold State.negate
    simp only
    split
    · exact composes
    · rename_i number
      exact composes_composing.2
        ((composes_composing.1 composes).negateEnd (by simpa using number))
  | failed | calculated | awaiting | entering => exact nofun

/-- A function of one operand leaves an expression as it is, or ends it. -/
theorem Composes.applyFunction (composes : state.Composes) (depth : Nat) (before after : Text)
    (function : Double → Option Double) :
    (state.applyFunction depth before after function).Composes := by
  unfold State.applyFunction
  split
  · exact nofun
  · split
    · exact composes
    · simp only
      split
      · split
        · exact nofun
        · exact nofun
      · exact nofun

/-- At most two operands are taken up. -/
theorem takesUp_length {button : Button} {carry : Carry Text}
    (taken : state.takesUp button = some carry) : carry.operands.length ≤ 2 := by
  have factors_length (display : Text) : (factors display).length ≤ 1 := by
    unfold factors
    split
    · exact Nat.zero_le _
    · exact Nat.le_refl _
  unfold takesUp at taken
  split at taken
  · cases taken
    exact Nat.le_succ 1
  · cases taken
    exact Nat.le_refl _
  · cases taken
    exact Nat.le_succ 1
  · cases taken
    exact Nat.le_succ 1
  · cases taken
    simpa [Carry.operands] using Nat.le_succ_of_le (factors_length _)
  · cases taken
    simpa [Carry.operands] using factors_length _
  · cases taken
    exact Nat.le_succ 1
  · cases taken

/-- What tidy operands are taken up into is composed. -/
theorem composes_takesUp (button : Button) {carry : Carry Text} {after : State}
    (all : state.All Text.Tidy) (taken : state.takesUp button = some carry)
    (typed : after = .composing carry.expression state.display ∧
      ∀ operand ∈ carry.operands, operand ∈ state.operands) : after.Composes := by
  rw [typed.1]
  have tidy (operand) (member : operand ∈ carry.operands) := all operand (typed.2 operand member)
  exact composes_composing.2 (Carry.composed tidy (takesUp_length taken))

/-- A power keeps an expression composed, or begins one. -/
theorem Composes.raise (composes : state.Composes) (all : state.All Text.Tidy) :
    state.raise.Composes := by
  cases state with
  | composing expression display =>
    exact composes_concat display (composes_composing.1 composes) (by decide) fun _ _ => nofun
  | failed trail => exact nofun
  | calculated | awaiting => exact composes_takesUp .power all rfl (raise_takesUp rfl)
  | entering display chosen =>
    cases chosen with
    | none => exact composes_takesUp .power all rfl (raise_takesUp rfl)
    | some chosen => exact composes_takesUp .power all rfl (raise_takesUp rfl)

/-- A parenthesis keeps an expression composed, or begins one. -/
theorem Composes.openParen (composes : state.Composes) (all : state.All Text.Tidy) :
    state.openParen.Composes := by
  cases state with
  | composing expression display =>
    obtain ⟨composed, free⟩ := (composes_composing.1 composes).beforeParen
    exact composes_concat display composed (by decide) fun last among _ => free last among
  | failed trail => exact nofun
  | calculated display trail => exact composes_composing.2 .paren
  | awaiting chosen => exact composes_takesUp .openParen all rfl (openParen_takesUp rfl)
  | entering display chosen =>
    cases chosen with
    | none => exact composes_takesUp .openParen all rfl (openParen_takesUp rfl)
    | some chosen => exact composes_takesUp .openParen all rfl (openParen_takesUp rfl)

/-- Settling keeps an expression or ends it. -/
theorem Settles.composes {kind : Text → Prop} {after : State} (settles : state.Settles kind after)
    (composes : state.Composes) : after.Composes := by
  rcases settles with rfl | ⟨trail, rfl⟩ | ⟨display, trail, rfl, -⟩
  · exact composes
  · exact nofun
  · exact nofun

end State

namespace Calculator

variable {σ : Type} {calculator : Calculator}

/-- Pressing a button keeps an expression composed, or begins one. -/
theorem composes_pressButton (composes : calculator.state.Composes)
    (all : calculator.state.All Text.Tidy) {button : Button}
    (ascii : ∀ c, button = .digit c → ∃ digit, Text.digitPoint digit = c) {provider : Provider σ}
    (integral : provider.Integral) (depth : Nat) (service : σ) :
    (calculator.pressButton depth provider button service).2.1.state.Composes := by
  have edited {change : State → State} (changed : (change calculator.state).Composes) :
      (calculator.edit change).state.Composes := by
    unfold edit
    split
    · exact composes
    · exact changed
  cases button with
  | equals => exact (equals_settles Text.closed_tidy integral depth service).composes composes
  | clear => exact nofun
  | digit c =>
    obtain ⟨digit, rfl⟩ := ascii c rfl
    exact edited (composes.typeDigit digit)
  | point => exact edited composes.typePoint
  | operator operator => exact edited (composes.choose operator)
  | openParen => exact edited (composes.openParen all)
  | closeParen => exact edited composes.closeParen
  | power => exact edited (composes.raise all)
  | percent => exact edited composes.percent
  | square | root | reciprocal => exact edited (composes.applyFunction _ _ _ _)
  | negate => exact edited composes.negate
  | erase => exact edited composes.erase

end Calculator

namespace Press

/-- Every expression that presses reach is composed, if integers are answered. -/
theorem composes_run {σ : Type} (presses : List (Press σ))
    (integral : ∀ press ∈ presses, press.provider.Integral) (service : σ) :
    (run presses service).1.state.Composes :=
  (run_state (fun state => state.All Text.Tidy ∧ state.Composes)
    ⟨State.all_only Text.closed_tidy.zero, nofun⟩
    (fun depth _ _ _ service ascii integral held =>
      ⟨Calculator.all_pressButton Text.closed_tidy held.1 ascii integral depth service,
        Calculator.composes_pressButton held.2 held.1 ascii integral depth service⟩)
    presses integral service).2

/-- What presses compose in front of services that answer with integers. The expression is not empty
and is shown as the trail. Every number in it has at most one point, so that only a point on its own
is no numeral, and every other number is a decimal unless it is absurdly long. No parenthesis opens
right behind a digit, a point, another parenthesis that closes, or a percent sign. -/
theorem expression_in_order {σ : Type} (presses : List (Press σ))
    (integral : ∀ press ∈ presses, press.provider.Integral) (service : σ)
    {expression display : Text}
    (typed : (run presses service).1.state = .composing expression display) :
    expression ≠ [] ∧ (run presses service).1.state.trail = expression ∧
      (∀ number, .number number ∈ Token.scan expression →
        number.points ≤ 1 ∧ (Numeral.ofText? number = none ↔ number = Text.lonePoint) ∧
          (number ≠ Text.lonePoint → number.length < 10 ^ 15 →
            (Token.number number).isReadable = true)) ∧
      ∀ front c back, expression = front ++ c :: .char '(' :: back →
        State.multipliesBefore c = false := by
  obtain ⟨nonempty, orderly, -⟩ := composes_run presses integral service expression display typed
  refine ⟨nonempty, by rw [typed, State.trail], fun number member => ?_, ?_⟩
  · obtain ⟨-, some, numbers⟩ := Token.infix_of_mem_scan member
    have one := orderly.number_points member
    have lone := Text.ofText?_eq_none_iff some numbers one
    exact ⟨one, lone, fun other few => Text.isReadable_of_points numbers one (mt lone.1 other) few⟩
  · rintro front c back rfl
    exact List.isChain_iff_forall_rel_of_append_cons_cons.1 orderly.opens rfl rfl

/-- One and a half before a parenthesis in which a point has been typed. -/
def pointInParen : List LocalPress :=
  atOnce [['1'], ['.'], ['5'], ['('], ['.'], ['.']]

/-- A parenthesis behind a number is multiplied, and the second point is not taken. -/
theorem pointInParen_in_order :
    (reached .new pointInParen).state = .composing "1.5*(." "." ∧
      (∀ number, .number number ∈ Token.scan "1.5*(." → number.points ≤ 1) ∧
        State.multipliesBefore '*' = false := by
  have typed : (reached .new pointInParen).state = .composing "1.5*(." "." := by decide +kernel
  obtain ⟨-, -, numbers, opens⟩ :=
    expression_in_order (pointInParen.map atMoment) (integral_atMoment _) .new typed
  exact ⟨typed, fun number member => (numbers number member).1, opens "1.5" '*' "." rfl⟩

end Press

end Reckoner
