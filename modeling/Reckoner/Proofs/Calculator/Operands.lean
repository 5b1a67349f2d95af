import Reckoner.Proofs.Calculator.Readable
import Reckoner.Web.Client

/-!
# What operands can look like

An operand comes about by typing, by erasing, by changing its sign, or as a result that is shown.
So a kind of text that contains the digits and all results, and that these edits do not leave,
contains every operand of every state that presses reach, whatever slips among them, as long as the
service answers with integers.
-/

namespace Reckoner

/-- An answer of the provider has an integer as its result. -/
def Provider.Integral {σ : Type} (provider : Provider σ) : Prop :=
  ∀ operator x y service answer, (provider operator x y service).1 = .ok answer →
    ∃ result, answer.result? = some (.int result)

/-- The local service answers with integers. -/
theorem LocalService.provider_integral (now : Calendar.Moment) :
    (LocalService.provider now).Integral := fun _ _ _ _ _ answered =>
  provider_answers answered

/-- The client answers with integers, whatever it gets from the server. -/
theorem Web.Client.provider_integral {σ : Type} (carrier : Carrier σ) (base : Text) :
    (provider carrier base).Integral := by
  intro operator x y service answer answered
  simp only [provider, compute] at answered
  split at answered
  · cases answered
  · simp only [answerOf] at answered
    split at answered
    · cases answered
    · split at answered
      · cases answered
      · split at answered
        · cases answered
        · cases answered
        · rename_i value _
          obtain rfl := Except.ok.inj answered
          exact ⟨value, rfl⟩

/-- A kind of text that holds every digit and every result, and that editing does not leave. -/
structure Text.Closed (kind : Text → Prop) : Prop where
  digit : ∀ digit, kind [digitPoint digit]
  pushDigit : ∀ {text}, kind text → ∀ digit, kind (text ++ [digitPoint digit])
  point : ∀ {text : Text}, ('.' : CodePoint) ∉ text → kind text → kind (text.concat '.')
  negate : ∀ {text}, kind text → kind (State.negateOperand text)
  erase : ∀ {text}, kind text → kind (State.eraseLast text)
  result : ∀ value, kind (Display.result value)
  quotient : ∀ value, kind (Display.quotient value)
  integer : ∀ {n text}, writeInt n = .ok text → kind text

namespace Text.Closed

variable {kind : Text → Prop} (closed : Text.Closed kind)

include closed

/-- Zero is of the kind. -/
theorem zero : kind State.zero := closed.digit 0

/-- The word for an error is of the kind. -/
theorem error : kind Display.error := closed.result .nan

/-- An operand that begins with a point is of the kind. -/
theorem zeroPoint : kind "0." := closed.point (by decide) closed.zero

/-- What is shown for an expression is of the kind. -/
theorem expression {depth : Nat} {expression text : Text}
    (shown : Display.expression? depth expression = some text) : kind text := by
  unfold Display.expression? at shown
  split at shown
  · rw [← Option.some.inj shown]
    unfold Display.evaluation
    split
    · exact closed.quotient _
    · exact closed.result _
  · rw [← Option.some.inj shown]
    exact closed.error
  · rw [← Option.some.inj shown]
    exact closed.error
  · cases shown

/-- A quotient of decimals is shown in the kind. -/
theorem shownQuotient {x y : Decimal} {text : Text} (shown : shownQuotient x y = .ok text) :
    kind text := by
  unfold Reckoner.shownQuotient at shown
  split at shown
  · cases shown
  · rw [← Except.ok.inj shown]
    exact closed.quotient _

/-- A percentage is of the kind. -/
theorem percentOf {display text : Text} (shown : State.percentOf? display = some text) :
    kind text := by
  obtain ⟨value, -, rfl⟩ := Option.map_eq_some_iff.1 shown
  exact closed.result _

end Text.Closed

namespace State

/-- All operands of a state are of a kind. -/
def All (kind : Text → Prop) (state : State) : Prop := ∀ text ∈ state.operands, kind text

variable {kind : Text → Prop} {state : State}

/-- An expression has no operands. -/
theorem all_composing (expression display : Text) : (composing expression display).All kind :=
  fun _ member => absurd member List.not_mem_nil

/-- A failure has no operands. -/
theorem all_failed (trail : Text) : (failed trail).All kind := fun _ member =>
  absurd member List.not_mem_nil

/-- The operand of a result is what is shown. -/
theorem all_calculated {display trail : Text} : (calculated display trail).All kind ↔
    kind display := by
  simp [All, operands]

/-- The operand of a chosen operation is the first one. -/
theorem all_awaiting {chosen : Chosen} : (awaiting chosen).All kind ↔ kind chosen.operand := by
  simp [All, operands]

/-- The operands while one is typed are that one and the first one of a chosen operation. -/
theorem all_entering {display : Text} {chosen : Option Chosen} :
    (entering display chosen).All kind ↔
      kind display ∧ ∀ first ∈ chosen, kind first.operand := by
  cases chosen with
  | none => simp [All, operands]
  | some chosen => simp [All, operands]

/-- A second operand behind a chosen operation. -/
theorem All.second {chosen : Chosen} {display : Text} (all : (awaiting chosen).All kind)
    (typed : kind display) : (entering display (some chosen)).All kind :=
  all_entering.2 ⟨typed, by simpa using all_awaiting.1 all⟩

/-- An operand without a chosen operation. -/
theorem all_only {display : Text} (typed : kind display) : (entering display none).All kind :=
  all_entering.2 ⟨typed, by simp⟩

/-- What confirming can make of a state: it stays, it fails, or it has a result of a kind. -/
def Settles (kind : Text → Prop) (before after : State) : Prop :=
  after = before ∨ (∃ trail, after = .failed trail) ∨
    ∃ display trail, after = .calculated display trail ∧ kind display

/-- Settling keeps operands in the kind. -/
theorem Settles.all {after : State} (settles : state.Settles kind after) (all : state.All kind) :
    after.All kind := by
  rcases settles with rfl | ⟨trail, rfl⟩ | ⟨display, trail, rfl, result⟩
  · exact all
  · exact all_failed trail
  · exact all_calculated.2 result

variable (closed : Text.Closed kind)

include closed

/-- Typing a digit keeps operands in the kind. -/
theorem All.typeDigit (all : state.All kind) (digit : Fin 10) :
    (state.typeDigit [Text.digitPoint digit]).All kind := by
  have typed := closed.digit digit
  cases state with
  | failed trail => exact all_only typed
  | calculated display trail => exact all_only typed
  | composing expression display => exact all_composing _ _
  | awaiting chosen => exact all.second typed
  | entering display chosen =>
    obtain ⟨operand, first⟩ := all_entering.1 all
    have grown : kind (operandWith display [Text.digitPoint digit]) := by
      unfold operandWith
      split
      · exact typed
      · exact closed.pushDigit operand digit
    unfold State.typeDigit
    simp only
    split
    · exact all_entering.2 ⟨grown, first⟩
    · exact all

/-- Typing a point keeps operands in the kind. -/
theorem All.typePoint (all : state.All kind) : state.typePoint.All kind := by
  cases state with
  | failed trail => exact all_only closed.zero
  | calculated display trail => exact all_only closed.zeroPoint
  | composing expression display =>
    unfold State.typePoint
    simp only
    split
    · exact all_composing _ _
    · exact all_composing _ _
  | awaiting chosen => exact all.second closed.zeroPoint
  | entering display chosen =>
    obtain ⟨operand, first⟩ := all_entering.1 all
    unfold State.typePoint
    simp only
    split
    · exact all
    · rename_i pointless
      exact all_entering.2 ⟨closed.point pointless operand, first⟩

/-- Choosing an operation keeps operands in the kind. -/
theorem All.choose (all : state.All kind) (operator : Operator) :
    (state.choose operator).All kind := by
  cases state with
  | failed trail => exact all_only closed.zero
  | composing expression display => exact all_composing _ _
  | awaiting chosen => exact all_awaiting.2 (all_awaiting.1 all)
  | entering display chosen => exact all_awaiting.2 (all_entering.1 all).1
  | calculated display trail => exact all_awaiting.2 (all_calculated.1 all)

/-- Changing the sign keeps operands in the kind. -/
theorem All.negate (all : state.All kind) : state.negate.All kind := by
  cases state with
  | failed trail => exact all
  | awaiting chosen => exact all
  | composing expression display =>
    unfold State.negate
    simp only
    split
    · exact all_composing _ _
    · exact all_composing _ _
  | entering display chosen =>
    obtain ⟨operand, first⟩ := all_entering.1 all
    exact all_entering.2 ⟨closed.negate operand, first⟩
  | calculated display trail => exact all_calculated.2 (closed.negate (all_calculated.1 all))

/-- Erasing keeps operands in the kind. -/
theorem All.erase (all : state.All kind) : state.erase.All kind := by
  cases state with
  | failed trail => exact all_only closed.zero
  | calculated display trail => exact all_only closed.zero
  | awaiting chosen => exact all
  | composing expression display =>
    unfold State.erase
    simp only
    split
    · exact all_only closed.zero
    · exact all_composing _ _
  | entering display chosen =>
    obtain ⟨operand, first⟩ := all_entering.1 all
    exact all_entering.2 ⟨closed.erase operand, first⟩

/-- A percentage keeps operands in the kind. -/
theorem All.percent (all : state.All kind) : state.percent.All kind := by
  cases state with
  | failed trail => exact all
  | composing expression display => exact all_composing _ _
  | awaiting chosen =>
    cases shown : percentOf? chosen.operand with
    | none => simpa only [State.percent, shown] using all
    | some text => simpa only [State.percent, shown] using all.second (closed.percentOf shown)
  | calculated display trail =>
    cases shown : percentOf? display with
    | none => simpa only [State.percent, shown] using all
    | some text =>
      have only : (entering text none).All kind := all_only (closed.percentOf shown)
      simpa only [State.percent, shown] using only
  | entering display chosen =>
    cases shown : percentOf? display with
    | none => simpa only [State.percent, shown] using all
    | some text =>
      have first := (all_entering.1 all).2
      simpa only [State.percent, shown] using
        all_entering.2 ⟨closed.percentOf shown, first⟩

/-- A function of one operand keeps operands in the kind. -/
theorem All.applyFunction (all : state.All kind) (depth : Nat) (before after : Text)
    (function : Double → Option Double) :
    (state.applyFunction depth before after function).All kind := by
  unfold State.applyFunction
  split
  · exact all_failed _
  · split
    · exact all
    · simp only
      split
      · split
        · exact all_calculated.2 (closed.result _)
        · exact all_failed _
      · exact all_failed _

omit closed

/-- Where operands go into an expression none is left. -/
theorem All.openParen (all : state.All kind) : state.openParen.All kind := by
  cases state with
  | failed trail => exact all
  | entering display chosen =>
    cases chosen with
    | none => exact all_composing _ _
    | some chosen => exact all_composing _ _
  | calculated | composing | awaiting => exact all_composing _ _

/-- A power leaves no operands either. -/
theorem All.raise (all : state.All kind) : state.raise.All kind := by
  cases state with
  | failed trail => exact all
  | entering display chosen =>
    cases chosen with
    | none => exact all_composing _ _
    | some chosen => exact all_composing _ _
  | calculated | composing | awaiting => exact all_composing _ _

/-- Closing a parenthesis changes no operand. -/
theorem All.closeParen (all : state.All kind) : state.closeParen.All kind := by
  cases state with
  | composing expression display => exact all_composing _ _
  | failed | entering | calculated | awaiting => exact all

end State

namespace Calculator

variable {σ : Type} {kind : Text → Prop} {calculator : Calculator}

/-- A calculation is pending with a quotient of the kind, if it has one. -/
theorem quotient_of_pendingOf (closed : Text.Closed kind) {chosen : Chosen} {display : Text}
    {x y : Decimal} {pending : PendingCalculation}
    (made : calculator.pendingOf chosen display x y = .ok pending) :
    ∀ quotient ∈ pending.quotient, kind quotient := fun quotient given =>
  closed.shownQuotient ((pendingOf_parts made).2 quotient given)

/-- Confirming an expression fails or has a result of the kind. -/
theorem confirmExpression_settles (closed : Text.Closed kind) (before : State) (depth : Nat)
    (expression : Text) : before.Settles kind (confirmExpression depth expression) := by
  unfold confirmExpression
  split
  · exact .inr (.inl ⟨_, rfl⟩)
  · rename_i result shown
    split
    · exact .inr (.inl ⟨_, rfl⟩)
    · exact .inr (.inr ⟨_, _, rfl, closed.expression shown⟩)

/-- Beginning settles the state, and what is pending then has a quotient of the kind, if it has
one. -/
theorem begin_settles (closed : Text.Closed kind) (depth : Nat) (calculator : Calculator) :
    calculator.state.Settles kind (calculator.begin depth).2.state ∧
      ∀ pending, (calculator.begin depth).1 = .ok (some pending) →
        ∀ quotient ∈ pending.quotient, kind quotient := by
  have same : calculator.state.Settles kind calculator.state := .inl rfl
  unfold begin
  split
  · exact ⟨same, nofun⟩
  · split
    · exact ⟨confirmExpression_settles closed _ _ _, nofun⟩
    · split
      · split
        · exact ⟨.inr (.inl ⟨_, rfl⟩), nofun⟩
        · split
          · exact ⟨same, nofun⟩
          · rename_i made
            refine ⟨same, fun pending begun => ?_⟩
            obtain rfl := Option.some.inj (Except.ok.inj begun)
            exact quotient_of_pendingOf closed made
      · exact ⟨same, nofun⟩
    · exact ⟨same, nofun⟩

/-- An outcome settles the state, if an answer has an integer as its result. -/
theorem conclude_settles (closed : Text.Closed kind) (before : State)
    {pending : PendingCalculation} (known : ∀ quotient ∈ pending.quotient, kind quotient)
    {outcome : Outcome} (integer : ∀ answer, outcome = .answered answer →
      ∃ result, answer.result? = some (.int result)) {state : State}
    (concluded : conclude pending outcome = .ok state) : before.Settles kind state := by
  unfold conclude at concluded
  split at concluded
  · rename_i quotient given
    rw [← Except.ok.inj concluded]
    exact .inr (.inr ⟨_, _, rfl, known quotient given⟩)
  · rw [← Except.ok.inj concluded]
    exact .inr (.inl ⟨_, rfl⟩)
  · rename_i answer _
    obtain ⟨result, named⟩ := integer answer rfl
    simp only [resultText, named] at concluded
    cases written : writeInt result with
    | error e =>
      rw [written] at concluded
      cases concluded
    | ok text =>
      rw [written] at concluded
      rw [← Except.ok.inj concluded]
      exact .inr (.inr ⟨_, _, rfl, closed.integer written⟩)

/-- Confirming settles the state. -/
theorem equals_settles (closed : Text.Closed kind) {provider : Provider σ}
    (integral : provider.Integral) (depth : Nat) (service : σ) :
    calculator.state.Settles kind (calculator.equals depth provider service).2.1.state := by
  obtain ⟨begun, known⟩ := begin_settles closed (depth - 1) calculator
  unfold equals
  split
  · rename_i started
    rwa [started] at begun
  · rename_i started
    rwa [started] at begun
  · rename_i pending after started
    rw [started] at begun known
    simp only [finish]
    split
    · exact begun
    · split
      · rename_i state concluded
        refine conclude_settles closed _ (known pending rfl) (fun answer answered => ?_) concluded
        cases called : (callService provider pending service).1 with
        | error e =>
          rw [called] at answered
          cases answered
        | ok given =>
          rw [called] at answered
          cases answered
          exact integral _ _ _ _ _ called
      · exact begun

/-- Pressing a button keeps operands in the kind. -/
theorem all_pressButton (closed : Text.Closed kind) (all : calculator.state.All kind)
    {button : Button} (ascii : ∀ c, button = .digit c → ∃ digit, Text.digitPoint digit = c)
    {provider : Provider σ} (integral : provider.Integral) (depth : Nat) (service : σ) :
    (calculator.pressButton depth provider button service).2.1.state.All kind := by
  have edited {change : State → State} (changed : (change calculator.state).All kind) :
      (calculator.edit change).state.All kind := by
    unfold edit
    split
    · exact all
    · exact changed
  cases button with
  | equals => exact (equals_settles closed integral depth service).all all
  | clear => exact State.all_only closed.zero
  | digit c =>
    obtain ⟨digit, rfl⟩ := ascii c rfl
    exact edited (all.typeDigit closed digit)
  | point => exact edited (all.typePoint closed)
  | operator operator => exact edited (all.choose closed operator)
  | openParen => exact edited all.openParen
  | closeParen => exact edited all.closeParen
  | power => exact edited all.raise
  | percent => exact edited (all.percent closed)
  | square | root | reciprocal => exact edited (all.applyFunction closed _ _ _ _)
  | negate => exact edited (all.negate closed)
  | erase => exact edited (all.erase closed)

end Calculator

namespace Press

variable {σ : Type}

/-- What the first state has, and pressing any button keeps in front of services that answer with
integers, every state that presses reach has. -/
theorem run_state (invariant : State → Prop) (start : invariant .initial)
    (pressed : ∀ depth (calculator : Calculator) button (provider : Provider σ) service,
      (∀ c, button = .digit c → ∃ digit, Text.digitPoint digit = c) → provider.Integral →
        invariant calculator.state →
          invariant (calculator.pressButton depth provider button service).2.1.state)
    (presses : List (Press σ)) (integral : ∀ press ∈ presses, press.provider.Integral)
    (service : σ) : invariant (run presses service).1.state := by
  induction presses using List.reverseRecOn with
  | nil => exact start
  | append_singleton presses press ih =>
    have before := ih fun other member => integral other (List.mem_append_left _ member)
    have last := integral press (List.mem_append_right _ (List.mem_singleton_self _))
    rw [run_concat, apply, Calculator.press]
    cases known : Button.ofName? press.name with
    | none => exact before
    | some button =>
      refine pressed _ _ _ _ _ ?_ last before
      rintro c rfl
      exact Calculator.digit_of_ofName? known

/-- All operands of a state that presses reach are of a kind that holds the digits and the results
and that editing does not leave, if integers are answered. -/
theorem all_run {kind : Text → Prop} (closed : Text.Closed kind) (presses : List (Press σ))
    (integral : ∀ press ∈ presses, press.provider.Integral) (service : σ) :
    (run presses service).1.state.All kind :=
  run_state (State.All kind) (State.all_only closed.zero)
    (fun depth _ _ _ service ascii integral all =>
      Calculator.all_pressButton closed all ascii integral depth service) presses integral service

end Press

end Reckoner
