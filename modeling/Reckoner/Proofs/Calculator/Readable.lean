import Reckoner.Service.Local
import Reckoner.Proofs.Calculator.Editing
import Reckoner.Proofs.Calculator.Run

/-!
# What can be calculated with

Outside expressions and failures the calculator shows an operand, and keeps another one while an
operation is chosen. Almost every press leaves these readable as decimals. There are four slips: a
percentage of an operand beyond the range of doubles, a point behind a power of ten, erasing the
only digit of a power of ten, and a quotient that overflows. The first and the last one put the
word for an error where an operand belongs; the others leave an unfinished numeral. As long as none
of them happens, every operand is one that the calculator itself could have written.
-/

namespace Reckoner

namespace State

/-- The texts of a state that are meant to be calculated with: what is shown unless an expression
is typed or an error is shown, and the first operand of a chosen operation. -/
def operands : State → List Text
  | .entering display none => [display]
  | .entering display (some chosen) => [display, chosen.operand]
  | .awaiting chosen => [chosen.operand]
  | .calculated display _ => [display]
  | .composing _ _ => []
  | .failed _ => []

/-- Everything that is meant to be calculated with is a finite decimal. -/
def Readable (state : State) : Prop :=
  ∀ text ∈ state.operands, (Decimal.ofText? text).isSome = true

instance (state : State) : Decidable state.Readable :=
  inferInstanceAs (Decidable (∀ text ∈ state.operands, (Decimal.ofText? text).isSome = true))

/-- Everything that is meant to be calculated with is a short numeral as the calculator writes
it. -/
def Sound (state : State) : Prop := ∀ text ∈ state.operands, text.IsOperand

/-- A decimal that no finite double is next to. -/
def Overflows (text : Text) : Prop :=
  ∃ value, Decimal.ofText? text = some value ∧ value.toDouble.isFinite = false

/-- The presses after which something that is meant to be calculated with is no decimal. -/
def Slips : Button → State → Prop
  | .percent, .entering display _ => Overflows display
  | .percent, .calculated display _ => Overflows display
  | .percent, .awaiting chosen => Overflows chosen.operand
  | .point, .entering display _ =>
    ('e' : CodePoint) ∈ display ∧ ('.' : CodePoint) ∉ display
  | .erase, .entering display _ => (eraseLast display).EndsInSign
  | .equals, .entering display (some chosen) =>
    chosen.operator = .divide ∧ ∃ x y, Decimal.ofText? chosen.operand = some x ∧
      Decimal.ofText? display = some y ∧ y.toDouble.isZero = false ∧
        (x.toDouble / y.toDouble).isFinite = false
  | _, _ => False

/-- What a press makes of a sound state: it stays sound, or the press was a slip and left something
that cannot be calculated with. -/
structure SoundUnless (slip : Prop) (after : State) : Prop where
  sound : ¬slip → after.Sound
  unreadable : slip → ¬after.Readable

variable {state : State}

/-- Sound states are readable. -/
theorem Sound.readable (sound : state.Sound) : state.Readable := fun text member =>
  (sound text member).isSome

/-- A press that cannot be a slip leaves a sound state. -/
theorem SoundUnless.of_sound {after : State} (sound : after.Sound) : SoundUnless False after :=
  ⟨fun _ => sound, False.elim⟩

/-- What an edit makes of the state, it makes of a calculator that rests. -/
theorem SoundUnless.edit {calculator : Calculator} (rests : calculator.calculating = false)
    {slip : Prop} {change : State → State}
    (changed : SoundUnless slip (change calculator.state)) :
    SoundUnless slip (calculator.edit change).state := by
  rwa [Calculator.edit_idle rests]

/-! ## Soundness by state -/

/-- The states with nothing to calculate with are sound. -/
theorem sound_composing (expression display : Text) : (composing expression display).Sound :=
  fun _ member => absurd member List.not_mem_nil

/-- Failed states are sound. -/
theorem sound_failed (trail : Text) : (failed trail).Sound := fun _ member =>
  absurd member List.not_mem_nil

/-- A result is sound if it is an operand. -/
theorem sound_calculated {display : Text} (trail : Text) :
    (calculated display trail).Sound ↔ display.IsOperand := by
  simp [Sound, operands]

/-- A chosen operation is sound if its operand is one. -/
theorem sound_awaiting {chosen : Chosen} : (awaiting chosen).Sound ↔ chosen.operand.IsOperand := by
  simp [Sound, operands]

/-- What is typed is sound if both operands are. -/
theorem sound_entering {display : Text} {chosen : Option Chosen} :
    (entering display chosen).Sound ↔
      display.IsOperand ∧ ∀ first ∈ chosen, first.operand.IsOperand := by
  cases chosen with
  | none => simp [Sound, operands]
  | some chosen => simp [Sound, operands]

/-- Typing an operand behind a chosen operation keeps the operation. -/
theorem Sound.carried {chosen : Chosen} {display : Text} (sound : (awaiting chosen).Sound)
    (typed : display.IsOperand) : (entering display (some chosen)).Sound := by
  refine sound_entering.2 ⟨typed, fun first same => ?_⟩
  rw [← Option.some.inj same]
  exact sound_awaiting.1 sound

/-- A new operand is sound. -/
theorem sound_initial : initial.Sound :=
  sound_entering.2 ⟨Text.isOperand_zero, fun first none => absurd none (by simp)⟩

/-- A state whose display is no decimal is not readable. -/
theorem not_readable_entering {display : Text} (chosen : Option Chosen)
    (unread : Decimal.ofText? display = none) : ¬(entering display chosen).Readable := by
  intro readable
  have member : display ∈ (entering display chosen).operands := by
    cases chosen with
    | none => exact List.mem_cons_self ..
    | some chosen => exact List.mem_cons_self ..
  have read := readable display member
  rw [unread] at read
  cases read

/-! ## Typing -/

/-- A digit leaves a sound state. -/
theorem Sound.typeDigit (sound : state.Sound) (digit : Fin 10) :
    (state.typeDigit [Text.digitPoint digit]).Sound := by
  have typed := Text.isOperand_digit digit
  cases state with
  | failed trail => exact sound_entering.2 ⟨typed, by simp⟩
  | calculated display trail => exact sound_entering.2 ⟨typed, by simp⟩
  | composing expression display => exact sound_composing _ _
  | awaiting chosen =>
    exact sound.carried typed
  | entering display chosen =>
    obtain ⟨operand, first⟩ := sound_entering.1 sound
    unfold State.typeDigit
    simp only
    split
    · rename_i few
      exact sound_entering.2 ⟨operand.operandWith digit few, first⟩
    · exact sound

/-- An operand that begins with a point is zero so far. -/
theorem isOperand_zero_point : Text.IsOperand "0." :=
  Text.isOperand_zero.concat_point (by decide) (by decide)

/-- A point leaves a sound state, unless it is typed behind a power of ten. -/
theorem Sound.typePoint (sound : state.Sound) :
    SoundUnless (state.Slips .point) state.typePoint := by
  cases state with
  | failed trail => exact .of_sound sound_initial
  | calculated display trail => exact .of_sound (sound_entering.2 ⟨isOperand_zero_point, by simp⟩)
  | composing expression display =>
    refine .of_sound ?_
    unfold State.typePoint
    simp only
    split
    · exact sound_composing _ _
    · exact sound_composing _ _
  | awaiting chosen =>
    exact .of_sound (sound.carried isOperand_zero_point)
  | entering display chosen =>
    obtain ⟨operand, first⟩ := sound_entering.1 sound
    unfold State.typePoint
    simp only
    by_cases point : ('.' : CodePoint) ∈ display
    · rw [if_pos point]
      exact ⟨fun _ => sound, fun slip => absurd point slip.2⟩
    · rw [if_neg point]
      constructor
      · intro fine
        have no_letter : ('e' : CodePoint) ∉ display := fun letter => fine ⟨letter, point⟩
        exact sound_entering.2 ⟨operand.concat_point point no_letter, first⟩
      · intro slip
        exact not_readable_entering chosen (operand.concat_point_unread slip.1)

/-- Choosing an operation leaves a sound state. -/
theorem Sound.choose (sound : state.Sound) (operator : Operator) :
    (state.choose operator).Sound := by
  cases state with
  | failed trail => exact sound_initial
  | composing expression display => exact sound_composing _ _
  | awaiting chosen => exact sound_awaiting.2 (sound_awaiting.1 sound)
  | entering display chosen => exact sound_awaiting.2 (sound_entering.1 sound).1
  | calculated display trail => exact sound_awaiting.2 ((sound_calculated trail).1 sound)

/-- Opening a parenthesis leaves a sound state. -/
theorem Sound.openParen (sound : state.Sound) : state.openParen.Sound := by
  cases state with
  | failed trail => exact sound
  | entering display chosen =>
    cases chosen with
    | none => exact sound_composing _ _
    | some chosen => exact sound_composing _ _
  | calculated | composing | awaiting => exact sound_composing _ _

/-- Closing a parenthesis leaves a sound state. -/
theorem Sound.closeParen (sound : state.Sound) : state.closeParen.Sound := by
  cases state with
  | composing expression display => exact sound_composing _ _
  | failed | entering | calculated | awaiting => exact sound

/-- Typing a power leaves a sound state. -/
theorem Sound.raise (sound : state.Sound) : state.raise.Sound := by
  cases state with
  | failed trail => exact sound
  | entering display chosen =>
    cases chosen with
    | none => exact sound_composing _ _
    | some chosen => exact sound_composing _ _
  | calculated | composing | awaiting => exact sound_composing _ _

/-- Changing the sign leaves a sound state. -/
theorem Sound.negate (sound : state.Sound) : state.negate.Sound := by
  cases state with
  | failed trail => exact sound
  | awaiting chosen => exact sound
  | composing expression display =>
    unfold State.negate
    simp only
    split
    · exact sound_composing _ _
    · exact sound_composing _ _
  | entering display chosen =>
    obtain ⟨operand, first⟩ := sound_entering.1 sound
    exact sound_entering.2 ⟨operand.negateOperand, first⟩
  | calculated display trail =>
    exact (sound_calculated trail).2 ((sound_calculated trail).1 sound).negateOperand

/-- Erasing leaves a sound state, unless it takes the only digit of a power of ten. -/
theorem Sound.erase (sound : state.Sound) : SoundUnless (state.Slips .erase) state.erase := by
  cases state with
  | failed trail => exact .of_sound sound_initial
  | calculated display trail => exact .of_sound sound_initial
  | awaiting chosen => exact .of_sound sound
  | composing expression display =>
    refine .of_sound ?_
    unfold State.erase
    simp only
    split
    · exact sound_initial
    · exact sound_composing _ _
  | entering display chosen =>
    obtain ⟨operand, first⟩ := sound_entering.1 sound
    rcases operand.eraseLast_cases with shorter | ⟨sign, unread⟩
    · exact ⟨fun _ => sound_entering.2 ⟨shorter, first⟩,
        fun slip => absurd slip shorter.not_endsInSign⟩
    · exact ⟨fun fine => absurd sign fine, fun _ => not_readable_entering chosen unread⟩

/-! ## Functions of one operand -/

/-- A function of one operand leaves a sound state. -/
theorem Sound.applyFunction (sound : state.Sound) (depth : Nat) (before after : Text)
    (function : Double → Option Double) :
    (state.applyFunction depth before after function).Sound := by
  unfold State.applyFunction
  split
  · exact sound_failed _
  · split
    · exact sound
    · simp only
      split
      · split
        · rename_i finite
          exact (sound_calculated _).2 (Display.isOperand_result finite)
        · exact sound_failed _
      · exact sound_failed _

/-- A percentage of an operand is an operand within the range of doubles, and otherwise the word
for an error. -/
theorem percentOf?_cases {display : Text} (operand : display.IsOperand) :
    ∃ shown, percentOf? display = some shown ∧
      (¬Overflows display ∧ shown.IsOperand ∨ Overflows display ∧ shown = Display.error) := by
  obtain ⟨value, read⟩ := Option.isSome_iff_exists.1 operand.isSome
  refine ⟨Display.result value.toDouble.hundredth, by rw [percentOf?, read]; rfl, ?_⟩
  cases finite : value.toDouble.isFinite with
  | true =>
    refine .inl ⟨?_, Display.isOperand_result (by rw [Double.hundredth_isFinite, finite])⟩
    rintro ⟨other, same, infinite⟩
    rw [read] at same
    rw [Option.some.inj same, infinite] at finite
    cases finite
  | false =>
    exact .inr ⟨⟨value, read, finite⟩,
      Display.result_eq_error (by rw [Double.hundredth_isFinite, finite])⟩

/-- A percentage that is shown leaves a sound state, unless the operand was out of range. -/
theorem soundUnless_percent {display shown : Text} {chosen : Option Chosen}
    (first : ∀ first ∈ chosen, first.operand.IsOperand)
    (outcome : ¬Overflows display ∧ shown.IsOperand ∨
      Overflows display ∧ shown = Display.error) :
    SoundUnless (Overflows display) (entering shown chosen) := by
  rcases outcome with ⟨fits, operand⟩ | ⟨overflows, wrong⟩
  · exact ⟨fun _ => sound_entering.2 ⟨operand, first⟩, fun overflows => absurd overflows fits⟩
  · refine ⟨fun fits => absurd overflows fits, fun _ => not_readable_entering chosen ?_⟩
    rw [wrong, Text.ofText?_error]

/-- A percentage leaves a sound state, unless it is taken of an operand out of range. -/
theorem Sound.percent (sound : state.Sound) : SoundUnless (state.Slips .percent) state.percent := by
  cases state with
  | failed trail => exact .of_sound sound
  | composing expression display => exact .of_sound (sound_composing _ _)
  | awaiting chosen =>
    have operand := sound_awaiting.1 sound
    obtain ⟨shown, percentage, outcome⟩ := percentOf?_cases operand
    simp only [State.percent, percentage]
    refine soundUnless_percent (fun first same => ?_) outcome
    rw [← Option.some.inj same]
    exact operand
  | calculated display trail =>
    obtain ⟨shown, percentage, outcome⟩ := percentOf?_cases ((sound_calculated trail).1 sound)
    simp only [State.percent, percentage]
    exact soundUnless_percent (by simp) outcome
  | entering display chosen =>
    obtain ⟨operand, first⟩ := sound_entering.1 sound
    obtain ⟨shown, percentage, outcome⟩ := percentOf?_cases operand
    simp only [State.percent, percentage]
    exact soundUnless_percent first outcome

end State

/-! ## Confirming -/

/-- A double next to zero is zero. -/
theorem Decimal.isZero_toDouble {value : Decimal} (zero : value.isZero = true) :
    value.toDouble.isZero = true := by
  rw [Decimal.isZero, beq_iff_eq] at zero
  rw [toDouble, if_pos zero]
  rfl

/-- An answer of the local service has an integer as its result. -/
theorem LocalService.provider_answers {now : Calendar.Moment} {operator : Operator} {x y : Int}
    {archive : Archive} {answer : Answer}
    (answered : (LocalService.provider now operator x y archive).1 = .ok answer) :
    ∃ result, answer.result? = some (.int result) := by
  unfold provider run at answered
  split at answered
  · cases answered
  · rename_i computed _
    split at answered
    · cases answered
    · rw [← Except.ok.inj answered]
      exact ⟨computed.result, rfl⟩

namespace Calculator

/-- Confirming an expression leads to a sound state. -/
theorem sound_confirmExpression (depth : Nat) (expression : Text) :
    (confirmExpression depth expression).Sound := by
  unfold confirmExpression
  split
  · exact State.sound_failed _
  · rename_i result shown
    split
    · exact State.sound_failed _
    · rename_i other
      exact (State.sound_calculated _).2
        ((Display.isOperand_expression shown).resolve_right other)

/-- The outcome of an operation without a quotient leads to a sound state, whatever the local
service makes of it. -/
theorem sound_conclude {pending : PendingCalculation} (no_quotient : pending.quotient = none)
    (now : Calendar.Moment) (archive : Archive) {state : State}
    (concluded : conclude pending
      (outcomeOf (callService (LocalService.provider now) pending archive).1) = .ok state) :
    state.Sound := by
  unfold conclude at concluded
  rw [no_quotient] at concluded
  cases answered : (callService (LocalService.provider now) pending archive).1 with
  | error e =>
    rw [answered] at concluded
    rw [← Except.ok.inj concluded]
    exact State.sound_failed _
  | ok answer =>
    rw [answered] at concluded
    obtain ⟨result, named⟩ := LocalService.provider_answers answered
    simp only [outcomeOf, resultText, named] at concluded
    cases written : writeInt result with
    | error e =>
      rw [written] at concluded
      cases concluded
    | ok text =>
      rw [written] at concluded
      rw [← Except.ok.inj concluded]
      exact (State.sound_calculated _).2 (writeInt_isOperand written)

/-- When confirming an operation on two decimals slips. -/
theorem slips_equals_iff {chosen : Chosen} {display : Text} {x y : Decimal}
    (first : Decimal.ofText? chosen.operand = some x) (second : Decimal.ofText? display = some y) :
    State.Slips .equals (.entering display (some chosen)) ↔
      chosen.operator = .divide ∧ y.toDouble.isZero = false ∧
        (x.toDouble / y.toDouble).isFinite = false := by
  constructor
  · rintro ⟨divides, left, right, readLeft, readRight, nonzero, infinite⟩
    rw [first] at readLeft
    rw [second] at readRight
    rw [← Option.some.inj readLeft, ← Option.some.inj readRight] at infinite
    rw [← Option.some.inj readRight] at nonzero
    exact ⟨divides, nonzero, infinite⟩
  · rintro ⟨divides, nonzero, infinite⟩
    exact ⟨divides, x, y, first, second, nonzero, infinite⟩

/-- Confirming a division leads to a sound state, unless its quotient overflows. -/
theorem soundUnless_divide {calculator : Calculator} (rests : calculator.calculating = false)
    (sound : calculator.state.Sound) {chosen : Chosen} {display : Text} {x y : Decimal}
    (typed : calculator.state = .entering display (some chosen))
    (first : Decimal.ofText? chosen.operand = some x) (second : Decimal.ofText? display = some y)
    (divides : chosen.operator = .divide) (depth : Nat) {σ : Type} (provider : Provider σ)
    (service : σ) :
    State.SoundUnless (y.toDouble.isZero = false ∧ (x.toDouble / y.toDouble).isFinite = false)
      (calculator.equals depth provider service).2.1.state := by
  cases zero : y.isZero with
  | true =>
    have vanishing := Decimal.isZero_toDouble zero
    rw [equals, begin_impossible rests typed first second ⟨divides, zero⟩]
    exact ⟨fun _ => State.sound_failed _, fun slip => absurd slip.1 (by simp [vanishing])⟩
  | false =>
    have possible : ¬(chosen.operator = .divide ∧ y.isZero = true) := by simp [zero]
    have made := pendingOf_divide divides calculator display x y
    rw [shownQuotient] at made
    cases vanishing : y.toDouble.isZero with
    | true =>
      rw [if_pos vanishing] at made
      rw [equals, begin_unmade rests typed first second possible made]
      exact ⟨fun _ => sound, fun slip => absurd slip.1 (by simp)⟩
    | false =>
      rw [if_neg (by simp [vanishing])] at made
      rw [equals_concludes (begin_possible rests typed first second possible made) rfl]
      constructor
      · intro fine
        have finite : (x.toDouble / y.toDouble).isFinite = true := by simpa using fine
        exact (State.sound_calculated _).2 (Display.isOperand_quotient finite)
      · intro slip readable
        have read := readable _ (List.mem_singleton_self _)
        rw [Display.quotient_eq_error slip.2, Text.ofText?_error] at read
        cases read

/-- Confirming any other operation in front of the local service leads to a sound state. -/
theorem sound_equals_other {calculator : Calculator} (rests : calculator.calculating = false)
    (sound : calculator.state.Sound) {chosen : Chosen} {display : Text} {x y : Decimal}
    (typed : calculator.state = .entering display (some chosen))
    (first : Decimal.ofText? chosen.operand = some x) (second : Decimal.ofText? display = some y)
    (other : chosen.operator ≠ .divide) (depth : Nat) (now : Calendar.Moment)
    (archive : Archive) :
    (calculator.equals depth (LocalService.provider now) archive).2.1.state.Sound := by
  have begun : calculator.begin (depth - 1) = (.ok (some _), _) :=
    begin_possible rests typed first second (fun zero => other zero.1)
      (pendingOf_other other calculator display x y)
  cases concluded : conclude ⟨calculator.generation + 1, chosen.operator, x.truncate, y.truncate,
      chosen.trailWith display, none⟩ (outcomeOf (callService (LocalService.provider now)
        ⟨calculator.generation + 1, chosen.operator, x.truncate, y.truncate,
          chosen.trailWith display, none⟩ archive).1) with
  | error e =>
    rw [equals_unconcluded begun concluded]
    exact sound
  | ok state =>
    rw [equals_concludes begun concluded]
    exact sound_conclude rfl now archive concluded

/-- Confirming in front of the local service leads to a sound state, unless a quotient
overflows. -/
theorem soundUnless_equals {calculator : Calculator} (rests : calculator.calculating = false)
    (sound : calculator.state.Sound) (depth : Nat) (now : Calendar.Moment) (archive : Archive) :
    State.SoundUnless (calculator.state.Slips .equals)
      (calculator.equals depth (LocalService.provider now) archive).2.1.state := by
  cases state : calculator.state with
  | composing expression display =>
    rw [equals, begin_composing rests state]
    exact .of_sound (sound_confirmExpression _ expression)
  | entering display chosen =>
    cases chosen with
    | none =>
      rw [equals, begin_nothing rests (by simp [state]) (by simp [state])]
      exact .of_sound sound
    | some chosen =>
      have operands := sound
      rw [state, State.sound_entering] at operands
      obtain ⟨x, first⟩ := Option.isSome_iff_exists.1 (operands.2 chosen rfl).isSome
      obtain ⟨y, second⟩ := Option.isSome_iff_exists.1 operands.1.isSome
      have slips := slips_equals_iff first second
      by_cases divides : chosen.operator = .divide
      · have division := soundUnless_divide rests sound state first second divides depth
          (LocalService.provider now) archive
        exact ⟨fun fine => division.sound fun slip => fine (slips.2 ⟨divides, slip⟩),
          fun slip => division.unreadable (slips.1 slip).2⟩
      · exact ⟨fun _ => sound_equals_other rests sound state first second divides depth now archive,
          fun slip => absurd (slips.1 slip).1 divides⟩
  | awaiting | calculated | failed =>
    rw [equals, begin_nothing rests (by simp [state]) (by simp [state])]
    exact .of_sound sound

/-! ## Presses -/

/-- None of the buttons that are known by other names has a digit on it. -/
theorem names_not_digit {name : Text} {button : Button} (member : (name, button) ∈ Button.names)
    (c : CodePoint) : button ≠ .digit c := by
  have others : (Button.names.all fun entry =>
      match entry.2 with
      | .digit _ => false
      | _ => true) = true := by decide
  have other := List.all_eq_true.1 others _ member
  rintro rfl
  cases other

/-- A button with a digit on it has an ASCII digit. -/
theorem digit_of_ofName? {name : Text} {c : CodePoint}
    (known : Button.ofName? name = some (.digit c)) : ∃ digit, Text.digitPoint digit = c := by
  unfold Button.ofName? at known
  cases first : Button.digit? name with
  | some button =>
    rw [first] at known
    obtain rfl : button = .digit c := Option.some.inj known
    unfold Button.digit? at first
    split at first
    · split at first
      · rename_i bounds
        cases first
        exact Text.exists_digitPoint (Text.isAsciiDigit_iff.2 bounds)
      · cases first
    · cases first
  | none =>
    rw [first] at known
    cases second : (Operator.ofButton? name).map Button.operator with
    | some button =>
      rw [second] at known
      obtain rfl : button = .digit c := Option.some.inj known
      obtain ⟨operator, -, same⟩ := Option.map_eq_some_iff.1 second
      cases same
    | none =>
      rw [second] at known
      have found : Button.names.lookup name = some (.digit c) := known
      obtain ⟨front, back, names, -⟩ := List.lookup_eq_some_iff.1 found
      have member : (name, Button.digit c) ∈ Button.names := by
        rw [names]
        exact List.mem_append_right _ (List.mem_cons_self ..)
      exact absurd rfl (names_not_digit member c)

/-- Whether pressing the button of a name is a slip. -/
def Slips (name : Text) (calculator : Calculator) : Prop :=
  ∃ button, Button.ofName? name = some button ∧ calculator.state.Slips button

/-- Pressing a button in front of the local service leads to a sound state, unless it is a slip. -/
theorem soundUnless_pressButton {calculator : Calculator} (rests : calculator.calculating = false)
    (sound : calculator.state.Sound) {button : Button}
    (ascii : ∀ c, button = .digit c → ∃ digit, Text.digitPoint digit = c)
    (depth : Nat) (now : Calendar.Moment) (archive : Archive) :
    State.SoundUnless (calculator.state.Slips button)
      (calculator.pressButton depth (LocalService.provider now) button archive).2.1.state := by
  cases button with
  | equals => exact soundUnless_equals rests sound depth now archive
  | clear => exact .of_sound State.sound_initial
  | digit c =>
    obtain ⟨digit, rfl⟩ := ascii c rfl
    exact (State.SoundUnless.of_sound (sound.typeDigit digit)).edit rests
  | point =>
    exact sound.typePoint.edit rests
  | operator operator =>
    exact (State.SoundUnless.of_sound (sound.choose operator)).edit rests
  | openParen =>
    exact (State.SoundUnless.of_sound sound.openParen).edit rests
  | closeParen =>
    exact (State.SoundUnless.of_sound sound.closeParen).edit rests
  | power =>
    exact (State.SoundUnless.of_sound sound.raise).edit rests
  | percent =>
    exact sound.percent.edit rests
  | square | root | reciprocal =>
    exact (State.SoundUnless.of_sound (sound.applyFunction _ _ _ _)).edit rests
  | negate =>
    exact (State.SoundUnless.of_sound sound.negate).edit rests
  | erase =>
    exact sound.erase.edit rests

/-- Pressing the button of a name in front of the local service leads to a sound state, unless it is
a slip. -/
theorem soundUnless_press {calculator : Calculator} (rests : calculator.calculating = false)
    (sound : calculator.state.Sound) (depth : Nat) (name : Text) (now : Calendar.Moment)
    (archive : Archive) :
    State.SoundUnless (calculator.Slips name)
      (calculator.press depth (LocalService.provider now) name archive).2.1.state := by
  unfold press
  cases known : Button.ofName? name with
  | none =>
    refine ⟨fun _ => sound, fun slip => ?_⟩
    obtain ⟨button, same, -⟩ := slip
    rw [known] at same
    cases same
  | some button =>
    have ascii : ∀ c, button = .digit c → ∃ digit, Text.digitPoint digit = c := by
      rintro c rfl
      exact digit_of_ofName? known
    have pressed := soundUnless_pressButton rests sound ascii (depth - 1) now archive
    have slips : calculator.Slips name ↔ calculator.state.Slips button := by
      constructor
      · rintro ⟨other, same, slip⟩
        rw [known] at same
        rwa [Option.some.inj same]
      · exact fun slip => ⟨button, known, slip⟩
    exact ⟨fun fine => pressed.sound fun slip => fine (slips.2 slip),
      fun slip => pressed.unreadable (slips.1 slip)⟩

end Calculator

/-! ## Runs -/

/-- A press of a button by name in front of the local service: its moment, and the depth that is
left for nesting. -/
structure LocalPress where
  name : Text
  now : Calendar.Moment
  depth : Nat

namespace Press

/-- The press of a button in front of the local service. -/
def atMoment (press : LocalPress) : Press Archive :=
  ⟨press.name, LocalService.provider press.now, press.depth⟩

/-- The calculator that presses at their moments lead to, in front of the local service with a
log. -/
def reached (archive : Archive) (presses : List LocalPress) : Calculator :=
  (run (presses.map atMoment) archive).1

/-- After a sound state the next press of a run leads to a sound state, unless it is a slip. -/
theorem soundUnless_last {archive : Archive} {presses : List LocalPress}
    (sound : (reached archive presses).state.Sound) (press : LocalPress) :
    State.SoundUnless ((reached archive presses).Slips press.name)
      (reached archive (presses ++ [press])).state := by
  have last : reached archive (presses ++ [press]) =
      ((reached archive presses).press press.depth (LocalService.provider press.now)
        press.name (run (presses.map atMoment) archive).2).2.1 := by
    rw [reached, List.map_append, List.map_singleton, run_concat]
    rfl
  have rests : (reached archive presses).calculating = false := run_rests _ archive
  rw [last]
  exact Calculator.soundUnless_press rests sound press.depth press.name press.now _

/-- Either no press of a run is a slip, and it ends in a sound state, or the first slip leads to a
state with something that cannot be calculated with. -/
theorem sound_or_slip (archive : Archive) (presses : List LocalPress) :
    (reached archive presses).state.Sound ∨
      ∃ before press, before ++ [press] <+: presses ∧
        (reached archive before).Slips press.name ∧
          ¬(reached archive (before ++ [press])).state.Readable :=
  sound_or_first_slip (fun before => (reached archive before).state.Sound)
    (fun before => (reached archive before).state.Readable)
    (fun before press => (reached archive before).Slips press.name) State.sound_initial
    (fun _ press _ sound fine => (soundUnless_last sound press).sound fine)
    (fun _ press _ sound slips => (soundUnless_last sound press).unreadable slips)

/-- In front of the local service, every state that presses reach is readable exactly if none of
the presses is a slip. -/
theorem readable_iff_no_slip (archive : Archive) (presses : List LocalPress) :
    (∀ before, before <+: presses → (reached archive before).state.Readable) ↔
      ∀ before press, before ++ [press] <+: presses →
        ¬(reached archive before).Slips press.name := by
  constructor
  · intro readable before press part slips
    have earlier : before <+: presses := (List.prefix_append _ _).trans part
    rcases sound_or_slip archive before with sound | ⟨first, slip, within, -, unreadable⟩
    · exact (soundUnless_last sound press).unreadable slips (readable _ part)
    · exact unreadable (readable _ (within.trans earlier))
  · intro fine before part
    rcases sound_or_slip archive before with sound | ⟨first, slip, within, slips, -⟩
    · exact sound.readable
    · exact absurd slips (fine first slip (within.trans part))

/-- Presses of the buttons of these names, all at the same moment and by a script. -/
def atOnce (names : List Text) : List LocalPress :=
  names.map fun name => ⟨name, ⟨0, Calendar.limit_pos⟩, Calculator.scriptDepth⟩

/-- Ten to the power of 160 by squaring, a hundredth of it, a digit more in the exponent, and the
half of that, which no double is next to. -/
def overflowingHalf : List LocalPress :=
  atOnce [['1'], ['0'], ['0'], ['0'], ['0'], ['0'], ['x', '²'], ['x', '²'], ['x', '²'],
    ['x', '²'], ['x', '²'], ['%'], ['9'], ['÷'], ['2'], ['=']]

/-- A quotient that overflows is shown as a result, though it is the word for an error. -/
theorem overflowingHalf_unreadable :
    (reached .new overflowingHalf).state =
        .calculated Display.error "1e+1589 ÷ 2 = Error" ∧
      ¬(reached .new overflowingHalf).state.Readable := by
  decide +kernel

/-- Erasing the only digit of a power of ten leaves its letter and sign. -/
example : (reached .new (atOnce [['1'], ['%'], ['%'], ['%'], ['%'], ['D', 'E', 'L']])).state =
    .entering "1e-" none := by
  decide +kernel

end Press

end Reckoner
