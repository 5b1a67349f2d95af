import Reckoner.Proofs.Calculator.Orderly
import Reckoner.Proofs.Calculator.Typed

/-!
# Operands in order

An operand goes into an expression as it is spelled. It is a numeral with at most one point, or what
editing leaves of one or of the word for an error, so it is in order. It has no more than two minus
signs: its own and that of a power of ten.
-/

namespace Reckoner

/-! ## Numerals -/

/-- A numeral has at most one point. -/
theorem Spelling.points_text (spelling : Spelling) : spelling.text.points ≤ 1 := by
  have digits (digits : List (Fin 10)) : (Text.spelled digits).points = 0 :=
    List.count_eq_zero.2 (point_not_mem_spelled digits)
  have power : spelling.powerText.points = 0 :=
    List.count_eq_zero.2 spelling.point_not_mem_powerText
  have fraction : (Text.pointed spelling.mantissa.fraction).points ≤ 1 := by
    cases spelling.mantissa.fraction with
    | none => exact Nat.zero_le _
    | some decimals =>
      rw [Text.pointed, Text.points, List.count_cons_self, ← Text.points, digits]
  have unsigned : spelling.unsigned.points ≤ 1 := by
    rw [Spelling.unsigned, Mantissa.unsignedBefore, Text.points, List.count_append,
      List.count_append]
    have whole := digits spelling.mantissa.whole
    unfold Text.points at whole power fraction
    omega
  rw [text_eq_signed]
  cases spelling.mantissa.negative with
  | true => exact unsigned
  | false => exact unsigned

/-- A numeral has at most one minus sign behind its own. -/
theorem Spelling.signs_unsigned (spelling : Spelling) :
    spelling.unsigned.count (.char '-') ≤ 1 := by
  have digits (digits : List (Fin 10)) : (Text.spelled digits).count (.char '-') = 0 :=
    List.count_eq_zero.2
      (not_mem_spelled (fun digit => (Text.digitPoint_ne_mark digit).1) digits)
  have fraction : (Text.pointed spelling.mantissa.fraction).count (.char '-') = 0 := by
    cases spelling.mantissa.fraction with
    | none => rfl
    | some decimals => exact digits decimals
  have power : spelling.powerText.count (.char '-') ≤ 1 := by
    rw [Spelling.powerText]
    cases spelling.power with
    | none => exact Nat.zero_le _
    | some power =>
      have behind := digits power.digits
      have sign : List.count (.char '-') [power.sign] ≤ 1 := List.count_le_length
      have written : power.text = .char 'e' :: ([power.sign] ++ Text.spelled power.digits) := rfl
      rw [Option.map_some, Option.getD_some, written, List.count_cons_of_ne (by decide),
        List.count_append, behind]
      exact sign
  rw [Spelling.unsigned, Mantissa.unsignedBefore, List.count_append, List.count_append, digits,
    fraction, Nat.zero_add, Nat.zero_add]
  exact power

namespace Text

/-- The characters of numerals are simple, and none of them is a parenthesis. -/
theorem IsPart.isSimple {c : CodePoint} (part : IsPart c) : c.IsSimple ∧ c ≠ '(' := by
  have digits : ∀ digit, digitPoint digit ≠ '(' := by decide
  rcases part with digit | rfl | rfl | rfl | rfl
  · obtain ⟨value, rfl⟩ := exists_digitPoint digit
    exact ⟨CodePoint.isSimple_digitPoint value, digits value⟩
  · decide
  · decide
  · decide
  · decide

/-- A numeral of the calculator is in order. -/
theorem IsOperand.orderly {text : Text} (operand : text.IsOperand) : text.Orderly := by
  obtain ⟨spelling, -, rfl⟩ := operand
  have parts : ∀ c ∈ spelling.text, IsPart c := by
    intro c member
    rw [spelling.text_eq_signed] at member
    cases negative : spelling.mantissa.negative with
    | false =>
      rw [negative] at member
      exact isPart_unsigned spelling c member
    | true =>
      rw [negative] at member
      rcases List.mem_cons.1 member with rfl | behind
      · exact .inr (.inr (.inr (.inr rfl)))
      · exact isPart_unsigned spelling c behind
  exact .of_points (fun c member => (parts c member).isSimple.1) spelling.points_text
    fun member => (parts _ member).isSimple.2 rfl

/-! ## Operands -/

/-- A text in order with at most one minus sign behind its first character. -/
structure Tidy (text : Text) : Prop where
  orderly : text.Orderly
  signs : text.tail.count (.char '-') ≤ 1

namespace Tidy

variable {text : Text}

/-- A tidy text has at most two minus signs. -/
theorem count_le (tidy : text.Tidy) : text.count (.char '-') ≤ 2 := by
  cases text with
  | nil => exact Nat.zero_le _
  | cons first rest =>
    have signs : rest.count (.char '-') ≤ 1 := tidy.signs
    rw [List.count_cons]
    split
    · exact Nat.succ_le_succ signs
    · exact Nat.le_succ_of_le signs

/-- A text in order with at most one minus sign is tidy. -/
theorem of_count (orderly : text.Orderly) (few : text.count (.char '-') ≤ 1) : text.Tidy :=
  ⟨orderly, Nat.le_trans ((List.tail_sublist text).count_le _) few⟩

/-- A character at the end that is no minus sign keeps a text tidy if the text stays in order. -/
theorem concat (tidy : text.Tidy) {c : CodePoint} (orderly : Orderly (text ++ [c]))
    (other : c ≠ '-') : Tidy (text ++ [c]) := by
  cases text with
  | nil => exact ⟨orderly, Nat.zero_le _⟩
  | cons first rest =>
    refine ⟨orderly, ?_⟩
    rw [List.cons_append, List.tail_cons, List.count_append, List.count_singleton,
      if_neg (by simpa using other)]
    exact tidy.signs

end Tidy

/-- A numeral of the calculator is tidy. -/
theorem IsOperand.tidy {text : Text} (operand : text.IsOperand) : text.Tidy := by
  refine ⟨operand.orderly, ?_⟩
  obtain ⟨spelling, -, rfl⟩ := operand
  have signs := spelling.signs_unsigned
  rw [spelling.text_eq_signed]
  cases spelling.mantissa.negative with
  | true => exact signs
  | false => exact Nat.le_trans ((List.tail_sublist _).count_le _) signs

/-- The word for an error is tidy. -/
theorem tidy_error : Tidy Display.error :=
  .of_count (.of_points (by decide) (by decide) (by decide)) (by decide)

/-- Digits and results are tidy, and editing an operand leaves it tidy. -/
theorem closed_tidy : Closed Tidy where
  digit digit := (isOperand_digit digit).tidy
  pushDigit tidy digit := tidy.concat
    (tidy.orderly.push (CodePoint.isSimple_digitPoint digit) (Token.isNumberChar_digitPoint digit)
      fun point => absurd point (digitPoint_ne_mark digit).2.2.1)
    (digitPoint_ne_mark digit).1
  point pointless tidy := by
    rw [List.concat_eq_append]
    refine tidy.concat (tidy.orderly.push (by decide) (by decide) fun _ member => ?_) (by decide)
    exact pointless ((end_among tidy.orderly.simple).subset member)
  negate := by
    intro text tidy
    unfold State.negateOperand
    split
    · exact tidy
    · split
      · exact .of_count (tidy.orderly.of_part (List.suffix_cons _ _).isInfix) tidy.signs
      · rename_i unsigned
        refine ⟨Orderly.nil.join tidy.orderly (by decide) nofun (by decide), ?_⟩
        cases text with
        | nil => exact Nat.zero_le _
        | cons first rest =>
          have other : first ≠ '-' := fun same => unsigned rest (same ▸ rfl)
          rw [List.tail_cons, List.count_cons_of_ne other]
          exact tidy.signs
  erase := by
    intro text tidy
    unfold State.eraseLast
    simp only
    split
    · exact isOperand_zero.tidy
    · refine ⟨tidy.orderly.of_part (List.dropLast_prefix text).isInfix, ?_⟩
      rw [List.tail_dropLast]
      exact Nat.le_trans ((List.dropLast_sublist _).count_le _) tidy.signs
  result value := by
    cases finite : value.isFinite with
    | true => exact (Display.isOperand_result finite).tidy
    | false =>
      rw [Display.result_eq_error finite]
      exact tidy_error
  quotient value := by
    cases finite : value.isFinite with
    | true => exact (Display.isOperand_quotient finite).tidy
    | false =>
      rw [Display.quotient_eq_error finite]
      exact tidy_error
  integer written := (writeInt_isOperand written).tidy

end Text

end Reckoner
