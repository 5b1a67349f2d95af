import Reckoner.Proofs.Calculator.Readable
import Reckoner.Proofs.Decimal.Numeral

/-!
# Canonical operands

Operands that are typed between operations are meant to be canonical: no zero stands before another
digit of the whole part, and no more than fifteen characters follow the sign. The rules for this
look at the text and not at the number. A digit replaces a lone zero, the sign of a lone zero does
not change, and erasing makes nothing but a sign a lone zero again. But the sign of a zero with a
point does change, and when the point is erased a zero with a sign is left, which no digit replaces.
That is the only way in which an operand stops being canonical (`canonical_iff_no_slip`).
-/

namespace Reckoner

/-! ## Canonical numerals -/

/-- A numeral in canonical form. -/
structure Spelling.Canonical (spelling : Spelling) : Prop where
  plain : spelling.power = none
  whole : Text.IsWhole spelling.mantissa.whole
  /-- The characters after the sign are limited, apart from a point at the end. -/
  few : spelling.unsigned.length ≤
    State.longestOperand + if spelling.mantissa.fraction = some [] then 1 else 0

namespace Spelling.Canonical

variable {spelling : Spelling} {digit : Fin 10}

/-- The sign does not matter. -/
theorem signed (canonical : spelling.Canonical) (negative : Bool) :
    Canonical { spelling with mantissa := { spelling.mantissa with negative } } :=
  ⟨canonical.plain, canonical.whole, canonical.few⟩

/-- A digit joins what is no lone zero, with or without a sign. -/
theorem pushDigit (canonical : spelling.Canonical) (nonzero : spelling.unsigned ≠ State.zero)
    (few : (spelling.pushDigit digit).unsigned.length ≤ State.longestOperand) :
    (spelling.pushDigit digit).Canonical := by
  obtain ⟨⟨negative, whole, fraction, whole_ne⟩, power⟩ := spelling
  obtain rfl : power = none := canonical.plain
  cases fraction with
  | some digits => exact ⟨rfl, canonical.whole, Nat.le_add_right_of_le few⟩
  | none =>
    refine ⟨rfl, canonical.whole.concat (fun zero => ?_) digit, Nat.le_add_right_of_le few⟩
    obtain rfl : whole = [0] := zero
    exact nonzero rfl

/-- A numeral was canonical before its last digit. -/
theorem of_pushDigit (canonical : (spelling.pushDigit digit).Canonical) : spelling.Canonical := by
  have few := canonical.few
  rw [unsigned_pushDigit, List.length_append, List.length_singleton] at few
  obtain ⟨⟨negative, whole, fraction, whole_ne⟩, power⟩ := spelling
  cases power with
  | some power => cases canonical.plain
  | none =>
    cases fraction with
    | some digits =>
      rw [if_neg (fun none => by simp [Spelling.pushDigit] at none)] at few
      exact ⟨rfl, canonical.whole, by omega⟩
    | none => exact ⟨rfl, canonical.whole.of_concat whole_ne, Nat.le_of_succ_le few⟩

/-- A point may follow what has none. -/
theorem withPoint (canonical : spelling.Canonical)
    (no_fraction : spelling.mantissa.fraction = none) : spelling.withPoint.Canonical := by
  refine ⟨rfl, canonical.whole, ?_⟩
  have few := canonical.few
  rw [no_fraction] at few
  rw [unsigned_withPoint no_fraction canonical.plain, List.length_append]
  exact Nat.succ_le_succ few

/-- A numeral was canonical before its point. -/
theorem of_withPoint (canonical : spelling.withPoint.Canonical)
    (no_fraction : spelling.mantissa.fraction = none) (no_power : spelling.power = none) :
    spelling.Canonical := by
  refine ⟨no_power, canonical.whole, ?_⟩
  have few := canonical.few
  rw [unsigned_withPoint no_fraction no_power, List.length_append] at few
  rw [no_fraction]
  exact Nat.le_of_succ_le_succ few

end Spelling.Canonical

namespace Text

/-- The text of a canonical numeral. -/
def IsCanonicalOperand (text : Text) : Prop :=
  ∃ spelling : Spelling, spelling.Canonical ∧ spelling.text = text

/-- A single digit is canonical. -/
theorem canonicalOperand_digit (digit : Fin 10) : IsCanonicalOperand [digitPoint digit] :=
  ⟨⟨⟨false, [digit], none, nofun⟩, none⟩,
    ⟨rfl, isWhole_singleton digit, show 1 ≤ 15 by decide⟩, rfl⟩

/-- A lone zero is canonical. -/
theorem canonicalOperand_zero : IsCanonicalOperand State.zero := canonicalOperand_digit 0

/-- A zero with a point is canonical. -/
theorem canonicalOperand_zero_point : IsCanonicalOperand "0." :=
  ⟨⟨⟨false, [0], some [], nofun⟩, none⟩, ⟨rfl, .zero, by decide⟩, rfl⟩

namespace IsCanonicalOperand

variable {display : Text}

/-- A digit keeps an operand canonical, unless it stands behind a zero with a sign. -/
theorem operandWith (canonical : display.IsCanonicalOperand) (other : display ≠ "-0")
    (digit : Fin 10)
    (few : (State.unsignedOperand (State.operandWith display [digitPoint digit])).length ≤
      State.longestOperand) :
    (State.operandWith display [digitPoint digit]).IsCanonicalOperand := by
  unfold State.operandWith at few ⊢
  split
  · exact canonicalOperand_digit digit
  · rename_i nonzero
    rw [if_neg nonzero] at few
    obtain ⟨spelling, canonical, rfl⟩ := canonical
    rw [← spelling.text_pushDigit, Spelling.text, Mantissa.unsignedOperand_before] at few
    refine ⟨spelling.pushDigit digit, canonical.pushDigit (fun zero => ?_) few,
      spelling.text_pushDigit digit⟩
    rw [Spelling.text_eq_signed, zero] at nonzero other
    cases negative : spelling.mantissa.negative with
    | true => exact other (by rw [negative]; rfl)
    | false => exact nonzero (by rw [negative]; rfl)

/-- A zero with a digit behind it is not canonical. -/
theorem not_zero_digit (negative : Bool) (digit : Fin 10) :
    ¬IsCanonicalOperand (Display.signed negative (State.zero ++ [digitPoint digit])) := by
  rintro ⟨⟨⟨sign, whole, fraction, whole_ne⟩, power⟩, canonical, written⟩
  obtain rfl : power = none := canonical.plain
  have unsigned : spelled whole ++ (pointed fraction ++ []) = State.zero ++ [digitPoint digit] := by
    have two : [0, digit] ≠ [] := nofun
    have same := congrArg State.unsignedOperand written
    rw [Spelling.text, Mantissa.unsignedOperand_before] at same
    exact same.trans (Mantissa.unsignedOperand_before ⟨negative, [0, digit], none, two⟩ [])
  obtain ⟨first, others, rfl⟩ := List.exists_cons_of_ne_nil whole_ne
  obtain ⟨zero, rest⟩ := List.cons.inj unsigned
  obtain rfl : first = 0 := (show ∀ first, digitPoint first = '0' → first = 0 by decide) first zero
  obtain rfl : others = [] := canonical.whole.eq_nil
  cases fraction with
  | none => cases rest
  | some digits => exact (digitPoint_ne_mark digit).2.2.1 (List.cons.inj rest).1.symm

/-- A point keeps an operand without one canonical. -/
theorem concat_point (canonical : display.IsCanonicalOperand)
    (no_point : ('.' : CodePoint) ∉ display) : IsCanonicalOperand (display.concat '.') := by
  obtain ⟨spelling, canonical, rfl⟩ := canonical
  have no_fraction : spelling.mantissa.fraction = none :=
    Decidable.not_not.1 fun fraction => no_point (spelling.point_mem_text.2 fraction)
  refine ⟨spelling.withPoint, canonical.withPoint no_fraction, ?_⟩
  rw [Spelling.text_withPoint no_fraction canonical.plain, List.concat_eq_append]

/-- Changing the sign keeps an operand canonical. -/
theorem negateOperand (canonical : display.IsCanonicalOperand) :
    (State.negateOperand display).IsCanonicalOperand := by
  obtain ⟨spelling, canonical, rfl⟩ := canonical
  rw [Spelling.text, Mantissa.negateOperand_before]
  split
  · exact canonicalOperand_zero
  · exact ⟨_, canonical.signed (!spelling.mantissa.negative), rfl⟩

/-- Erasing keeps an operand canonical. -/
theorem eraseLast (canonical : display.IsCanonicalOperand) :
    (State.eraseLast display).IsCanonicalOperand := by
  obtain ⟨spelling, canonical, rfl⟩ := canonical
  rcases spelling.last_cases with ⟨shorter, digit, rfl⟩ | ⟨shorter, no_fraction, no_power, rfl⟩ |
    ⟨digit, written⟩ | ⟨power, -, found, -⟩
  · rw [shorter.text_pushDigit, Spelling.text, Mantissa.eraseLast_before]
    exact ⟨shorter, canonical.of_pushDigit, rfl⟩
  · rw [Spelling.text_withPoint no_fraction no_power, Spelling.text, Mantissa.eraseLast_before]
    exact ⟨shorter, canonical.of_withPoint no_fraction no_power, rfl⟩
  · rw [written, State.eraseLast_signed]
    exact canonicalOperand_zero
  · rw [canonical.plain] at found
    cases found

end IsCanonicalOperand

end Text

/-! ## States -/

/-- The buttons with which operands are typed and operations are chosen, and nothing is
calculated. -/
def Button.Edits : Button → Prop
  | .digit _ | .point | .negate | .erase | .operator _ | .clear => True
  | _ => False

namespace State

/-- An operand is typed or an operation has been chosen, and what is shown is canonical. -/
def Canonical : State → Prop
  | .entering display _ => display.IsCanonicalOperand
  | .awaiting chosen => chosen.operand.IsCanonicalOperand
  | _ => False

/-- What is typed so far is a zero with a minus sign. -/
def IsSignedZero (state : State) : Prop := ∃ chosen, state = .entering "-0" chosen

namespace Canonical

variable {state : State}

/-- What an edit makes of the state, it makes of a calculator that rests. -/
theorem edit {calculator : Calculator} (rests : calculator.calculating = false)
    {change : State → State} (changed : (change calculator.state).Canonical) :
    (calculator.edit change).state.Canonical := by
  rwa [Calculator.edit_idle rests]

/-- What is shown in a canonical state is canonical. -/
theorem display (canonical : state.Canonical) : state.display.IsCanonicalOperand := by
  cases state with
  | entering display chosen => exact canonical
  | awaiting chosen => exact canonical
  | _ => cases canonical

/-- A digit keeps a state canonical, unless a zero with a sign is shown. -/
theorem typeDigit (canonical : state.Canonical) (other : ¬state.IsSignedZero) (digit : Fin 10) :
    (state.typeDigit [Text.digitPoint digit]).Canonical := by
  cases state with
  | entering display chosen =>
    simp only [State.typeDigit]
    split
    · rename_i few
      exact canonical.operandWith (fun zero => other ⟨chosen, by rw [zero]⟩) digit few
    · exact canonical
  | awaiting chosen => exact Text.canonicalOperand_digit digit
  | _ => cases canonical

/-- A digit behind a zero with a sign is shown there. -/
theorem not_typeDigit (zero : state.IsSignedZero) (digit : Fin 10) :
    ¬(state.typeDigit [Text.digitPoint digit]).display.IsCanonicalOperand := by
  obtain ⟨chosen, rfl⟩ := zero
  exact Text.IsCanonicalOperand.not_zero_digit true digit

/-- A point keeps a state canonical. -/
theorem typePoint (canonical : state.Canonical) : state.typePoint.Canonical := by
  cases state with
  | entering display chosen =>
    simp only [State.typePoint]
    split
    · exact canonical
    · rename_i no_point
      exact canonical.concat_point no_point
  | awaiting chosen => exact Text.canonicalOperand_zero_point
  | _ => cases canonical

/-- Choosing an operation keeps a state canonical. -/
theorem choose (canonical : state.Canonical) (operator : Operator) :
    (state.choose operator).Canonical := by
  cases state with
  | entering display chosen => exact canonical
  | awaiting chosen => exact canonical
  | _ => cases canonical

/-- Changing the sign keeps a state canonical. -/
theorem negate (canonical : state.Canonical) : state.negate.Canonical := by
  cases state with
  | entering display chosen => exact canonical.negateOperand
  | awaiting chosen => exact canonical
  | _ => cases canonical

/-- Erasing keeps a state canonical. -/
theorem erase (canonical : state.Canonical) : state.erase.Canonical := by
  cases state with
  | entering display chosen => exact canonical.eraseLast
  | awaiting chosen => exact canonical
  | _ => cases canonical

end Canonical

end State

/-! ## Presses -/

namespace Calculator

variable {σ : Type} {calculator : Calculator} {depth : Nat}

/-- A button that edits keeps the state canonical, unless it is a digit behind a zero with a
sign. -/
theorem canonical_pressButton (rests : calculator.calculating = false)
    (canonical : calculator.state.Canonical) {button : Button} (edits : button.Edits)
    (digits : ∀ c, button = .digit c →
      (∃ digit, Text.digitPoint digit = c) ∧ ¬calculator.state.IsSignedZero)
    (provider : Provider σ) (service : σ) :
    (calculator.pressButton depth provider button service).2.1.state.Canonical := by
  cases button with
  | digit c =>
    obtain ⟨⟨digit, rfl⟩, other⟩ := digits c rfl
    exact (canonical.typeDigit other digit).edit rests
  | point => exact canonical.typePoint.edit rests
  | negate => exact canonical.negate.edit rests
  | erase => exact canonical.erase.edit rests
  | operator operator => exact (canonical.choose operator).edit rests
  | clear => exact Text.canonicalOperand_zero
  | _ => cases edits

end Calculator

namespace Press

variable {σ : Type} {press : Press σ} {machine : Calculator × σ}

/-- A button that edits is pressed. -/
def Edits (press : Press σ) : Prop :=
  ∃ button, Button.ofName? press.name = some button ∧ button.Edits

/-- A digit is pressed while a zero with a minus sign is shown. -/
def KeepsZero (press : Press σ) (state : State) : Prop :=
  (∃ c, Button.ofName? press.name = some (.digit c)) ∧ state.IsSignedZero

/-- A press that edits keeps the state canonical, unless it is a slip. -/
theorem Edits.canonical_apply (edits : press.Edits) (rests : machine.1.calculating = false)
    (canonical : machine.1.state.Canonical) (fine : ¬press.KeepsZero machine.1.state) :
    (press.apply machine).1.state.Canonical := by
  obtain ⟨button, known, edits⟩ := edits
  simp only [apply, Calculator.press, known]
  refine Calculator.canonical_pressButton rests canonical edits ?_ press.provider machine.2
  rintro c rfl
  exact ⟨Calculator.digit_of_ofName? known, fun zero => fine ⟨⟨c, known⟩, zero⟩⟩

/-- What is shown after a slip is not canonical. -/
theorem KeepsZero.not_canonical (slips : press.KeepsZero machine.1.state)
    (rests : machine.1.calculating = false) :
    ¬(press.apply machine).1.state.display.IsCanonicalOperand := by
  obtain ⟨⟨c, known⟩, zero⟩ := slips
  obtain ⟨digit, rfl⟩ := Calculator.digit_of_ofName? known
  simp only [apply, Calculator.press, known, Calculator.pressButton, Calculator.apply,
    Calculator.edit_idle rests]
  exact State.Canonical.not_typeDigit zero digit

/-- As long as operands are typed and operations chosen from a new calculator, whatever stands
behind it, everything that is shown is a canonical numeral exactly if no digit is pressed while a
zero with a minus sign is shown. -/
theorem canonical_iff_no_slip {presses : List (Press σ)} (edits : ∀ press ∈ presses, press.Edits)
    (service : σ) :
    (∀ before, before <+: presses → (run before service).1.state.display.IsCanonicalOperand) ↔
      ∀ before press, before ++ [press] <+: presses →
        ¬press.KeepsZero (run before service).1.state := by
  refine always_visible_iff (fun before => (run before service).1.state.Canonical)
    (fun before => (run before service).1.state.display.IsCanonicalOperand)
    (fun before press => press.KeepsZero (run before service).1.state) Text.canonicalOperand_zero
    (fun before canonical => canonical.display) ?_ ?_
  · intro before press part canonical fine
    have member : press ∈ presses := part.subset (by simp)
    rw [run_concat]
    exact (edits press member).canonical_apply (run_rests before service) canonical fine
  · intro before press part canonical slips
    rw [run_concat]
    exact slips.not_canonical (run_rests before service)

/-- A zero gets a point and a sign, and loses the point. -/
def signedZero : List (Press Unit) := unserved [".", "±", "DEL"]

/-- A zero with a sign is still canonical, and so is what is shown on the way to it. -/
theorem signedZero_canonical :
    (∀ press ∈ signedZero, press.Edits) ∧
      ∀ before, before <+: signedZero → (run before ()).1.state.display.IsCanonicalOperand := by
  have known : ∀ press ∈ signedZero, ∃ button ∈ [Button.point, .negate, .erase],
      Button.ofName? press.name = some button := by decide
  have edits : ∀ press ∈ signedZero, press.Edits := by
    intro press member
    obtain ⟨button, listed, name⟩ := known press member
    refine ⟨button, name, ?_⟩
    simp only [List.mem_cons, List.not_mem_nil, or_false] at listed
    rcases listed with rfl | rfl | rfl
    all_goals trivial
  refine ⟨edits, (canonical_iff_no_slip edits ()).2 fun before press part slips => ?_⟩
  obtain ⟨button, listed, name⟩ := known press (part.subset (by simp))
  obtain ⟨c, digit⟩ := slips.1
  rw [name, Option.some.injEq] at digit
  rw [digit] at listed
  simp at listed

/-- A five behind a zero with a sign does not replace it. -/
theorem signedZero_five :
    (run (signedZero ++ unserved ["5"]) ()).1.state = .entering "-05" none ∧
      ¬Text.IsCanonicalOperand "-05" :=
  ⟨by decide +kernel, Text.IsCanonicalOperand.not_zero_digit true 5⟩

end Press

end Reckoner
