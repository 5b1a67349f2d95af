import Reckoner.Calculator.Entry
import Reckoner.Proofs.Display.Operand

/-!
# Editing an operand

Typing and erasing change the text of an operand at its end, and changing the sign does so at its
front. A digit always joins the part that was typed last. A point ends the whole part, so it fails
where a power of ten has been written already; and erasing takes the parts back in turn, except
that nothing makes it take back the letter and the sign of a power of ten together with its last
digit. Either way the text that is left is no numeral.
-/

namespace Reckoner

namespace Mantissa

/-- A mantissa begins with a digit. -/
theorem unsignedBefore_head (mantissa : Mantissa) (after : Text) :
    ∃ digit rest, mantissa.unsignedBefore after = Text.digitPoint digit :: rest := by
  cases whole : mantissa.whole with
  | nil => exact absurd whole mantissa.whole_ne
  | cons digit digits =>
    refine ⟨digit, Text.spelled digits ++ (Text.pointed mantissa.fraction ++ after), ?_⟩
    rw [unsignedBefore, whole]
    rfl

/-- Taking the sign away leaves the unsigned text. -/
theorem unsignedOperand_before (mantissa : Mantissa) (after : Text) :
    State.unsignedOperand (mantissa.before after) = mantissa.unsignedBefore after := by
  rw [before]
  cases mantissa.negative with
  | true => rfl
  | false =>
    obtain ⟨digit, rest, head⟩ := mantissa.unsignedBefore_head after
    rw [head]
    simp only [Display.signed, Bool.false_eq_true, ↓reduceIte]
    unfold State.unsignedOperand
    split
    · rename_i same
      exact absurd (List.cons.inj same).1 (Text.digitPoint_ne_mark digit).1
    · rfl

/-- Changing the sign changes that of the mantissa, except for a lone zero. -/
theorem negateOperand_before (mantissa : Mantissa) (after : Text) :
    State.negateOperand (mantissa.before after) =
      if mantissa.before after = State.zero then State.zero
      else before { mantissa with negative := !mantissa.negative } after := by
  unfold State.negateOperand
  split
  · assumption
  · obtain ⟨digit, rest, head⟩ := mantissa.unsignedBefore_head after
    unfold before
    cases mantissa.negative with
    | true => rfl
    | false =>
      simp only [Display.signed, Bool.false_eq_true, Bool.not_false, ↓reduceIte]
      split
      · rename_i same
        rw [head] at same
        exact absurd (List.cons.inj same).1 (Text.digitPoint_ne_mark digit).1
      · rfl

/-- Erasing a character behind the mantissa leaves what stands before it. -/
theorem eraseLast_before (mantissa : Mantissa) (after : Text) (last : CodePoint) :
    State.eraseLast (mantissa.before after ++ [last]) = mantissa.before after := by
  obtain ⟨digit, rest, head⟩ := mantissa.unsignedBefore_head after
  unfold State.eraseLast
  simp only [List.dropLast_concat, mantissa.unsignedOperand_before, head, List.isEmpty_cons,
    Bool.false_eq_true, ↓reduceIte]

/-- What is added at the end stands behind the mantissa. -/
theorem before_append (mantissa : Mantissa) (after more : Text) :
    mantissa.before after ++ more = mantissa.before (after ++ more) := by
  rw [before, before, ← Display.signed_append]
  simp only [unsignedBefore, List.append_assoc]

/-- A mantissa before something that is no power of ten is no decimal. -/
theorem ofText?_before_eq_none (mantissa : Mantissa) {after : Text}
    (kept : ∀ c ∈ after, c.IsKept) (ends : after.EndsMantissa)
    (unread : Numeral.power? after = none) : Decimal.ofText? (mantissa.before after) = none := by
  rw [Decimal.ofText?_kept (mantissa.kept_before kept), mantissa.ofText?_before ends, unread]
  rfl

end Mantissa

/-- Erasing the only character behind a sign leaves a lone zero. -/
theorem State.eraseLast_signed (negative : Bool) (last : CodePoint) :
    State.eraseLast (Display.signed negative [] ++ [last]) = State.zero := by
  unfold eraseLast
  cases negative with
  | true => rfl
  | false => rfl

namespace Spelling

/-- The sign stands before everything else. -/
theorem text_eq_signed (spelling : Spelling) :
    spelling.text = Display.signed spelling.mantissa.negative spelling.unsigned := rfl

/-- A numeral of few characters is short. -/
theorem short_of_length {spelling : Spelling} (few : spelling.unsigned.length ≤ 15) :
    spelling.Short := by
  have length : spelling.unsigned.length = spelling.mantissa.whole.length +
      ((Text.pointed spelling.mantissa.fraction).length + spelling.powerText.length) := by
    rw [unsigned, Mantissa.unsignedBefore, List.length_append, List.length_append,
      Text.spelled_length]
  have decimals :
      spelling.mantissa.decimals.length ≤ (Text.pointed spelling.mantissa.fraction).length :=
    Text.length_le_pointed _
  have power : ∀ power ∈ spelling.power, power.digits.length ≤ spelling.powerText.length := by
    intro power same
    rw [powerText, same, Option.map_some, Option.getD_some, Power.text, List.length_cons,
      List.length_cons, Text.spelled_length]
    omega
  exact ⟨⟨by omega, by omega⟩, fun found same => by have := power found same; omega⟩

/-! ## Digits -/

/-- A numeral with a digit more in the part that was written last. -/
def pushDigit (spelling : Spelling) (digit : Fin 10) : Spelling :=
  match spelling with
  | ⟨mantissa, some power⟩ =>
    ⟨mantissa, some ⟨power.negative, power.digits ++ [digit], by simp⟩⟩
  | ⟨⟨negative, whole, some fraction, whole_ne⟩, none⟩ =>
    ⟨⟨negative, whole, some (fraction ++ [digit]), whole_ne⟩, none⟩
  | ⟨⟨negative, whole, none, _⟩, none⟩ =>
    ⟨⟨negative, whole ++ [digit], none, by simp⟩, none⟩

/-- A digit leaves the sign. -/
theorem negative_pushDigit (spelling : Spelling) (digit : Fin 10) :
    (spelling.pushDigit digit).mantissa.negative = spelling.mantissa.negative := by
  obtain ⟨⟨negative, whole, fraction, whole_ne⟩, power⟩ := spelling
  cases power with
  | some power => rfl
  | none =>
    cases fraction with
    | some digits => rfl
    | none => rfl

/-- The digit stands at the end of the unsigned text. -/
theorem unsigned_pushDigit (spelling : Spelling) (digit : Fin 10) :
    (spelling.pushDigit digit).unsigned = spelling.unsigned ++ [Text.digitPoint digit] := by
  obtain ⟨⟨negative, whole, fraction, whole_ne⟩, power⟩ := spelling
  cases power with
  | some power =>
    simp [pushDigit, unsigned, Mantissa.unsignedBefore, powerText, Power.text, Power.sign,
      Text.spelled]
  | none =>
    cases fraction with
    | some digits =>
      simp [pushDigit, unsigned, Mantissa.unsignedBefore, powerText, Text.pointed, Text.spelled]
    | none =>
      simp [pushDigit, unsigned, Mantissa.unsignedBefore, powerText, Text.pointed, Text.spelled]

/-- The digit stands at the end of the text. -/
theorem text_pushDigit (spelling : Spelling) (digit : Fin 10) :
    (spelling.pushDigit digit).text = spelling.text ++ [Text.digitPoint digit] := by
  rw [text_eq_signed, text_eq_signed, negative_pushDigit, unsigned_pushDigit,
    Display.signed_append]

/-! ## Taking back the last character -/

/-- A numeral has a digit less than the one that is written when the digit is typed. -/
theorem short_of_pushDigit {shorter : Spelling} {digit : Fin 10}
    (short : (shorter.pushDigit digit).Short) : shorter.Short := by
  obtain ⟨⟨negative, whole, fraction, whole_ne⟩, power⟩ := shorter
  cases power with
  | some power =>
    have few := short.power _ rfl
    rw [List.length_append] at few
    refine ⟨short.mantissa, fun found same => ?_⟩
    rw [← Option.some.inj same]
    exact Nat.le_of_add_right_le few
  | none =>
    refine ⟨?_, fun found same => by cases same⟩
    cases fraction with
    | some digits =>
      have few : (digits ++ [digit]).length ≤ 10 ^ 15 := short.mantissa.decimals
      rw [List.length_append] at few
      exact ⟨short.mantissa.whole, Nat.le_of_add_right_le few⟩
    | none =>
      have few : (whole ++ [digit]).length ≤ 10 ^ 15 := short.mantissa.whole
      rw [List.length_append] at few
      exact ⟨Nat.le_of_add_right_le few, short.mantissa.decimals⟩

/-- A numeral without a fraction and a power of ten, with a point after it. -/
def withPoint (spelling : Spelling) : Spelling :=
  ⟨{ spelling.mantissa with fraction := some [] }, none⟩

/-- The point stands at the end of the unsigned text. -/
theorem unsigned_withPoint {spelling : Spelling} (no_fraction : spelling.mantissa.fraction = none)
    (no_power : spelling.power = none) :
    spelling.withPoint.unsigned = spelling.unsigned ++ [.char '.'] := by
  simp [withPoint, unsigned, Mantissa.unsignedBefore, powerText, Text.pointed, Text.spelled,
    no_fraction, no_power]

/-- The point stands at the end of the text. -/
theorem text_withPoint {spelling : Spelling} (no_fraction : spelling.mantissa.fraction = none)
    (no_power : spelling.power = none) :
    spelling.withPoint.text = spelling.text ++ [.char '.'] := by
  rw [text_eq_signed, text_eq_signed, unsigned_withPoint no_fraction no_power,
    ← Display.signed_append]
  rfl

/-- A point makes a numeral no longer. -/
theorem short_withPoint_iff {spelling : Spelling}
    (no_fraction : spelling.mantissa.fraction = none) (no_power : spelling.power = none) :
    spelling.withPoint.Short ↔ spelling.Short := by
  have decimals : spelling.mantissa.decimals = [] := by
    rw [Mantissa.decimals, no_fraction]
    rfl
  constructor
  · intro short
    refine ⟨⟨short.mantissa.whole, by simp [decimals]⟩, fun found same => ?_⟩
    rw [no_power] at same
    cases same
  · intro short
    exact ⟨⟨short.mantissa.whole, Nat.zero_le _⟩, fun found same => by cases same⟩

/-- The last character of a numeral is a digit or the point. Without it the numeral is shorter, or
nothing but the sign is left, or a power of ten has lost its only digit. -/
theorem last_cases (spelling : Spelling) :
    (∃ (shorter : Spelling) (digit : Fin 10), spelling = shorter.pushDigit digit) ∨
      (∃ shorter : Spelling, shorter.mantissa.fraction = none ∧ shorter.power = none ∧
        spelling = shorter.withPoint) ∨
      (∃ digit, spelling.text =
        Display.signed spelling.mantissa.negative [] ++ [Text.digitPoint digit]) ∨
      ∃ (power : Power) (digit : Fin 10), spelling.power = some power ∧ spelling.text =
        spelling.mantissa.before ['e', power.sign] ++ [Text.digitPoint digit] := by
  obtain ⟨⟨negative, whole, fraction, whole_ne⟩, power⟩ := spelling
  cases power with
  | some power =>
    obtain ⟨sign, digits, digits_ne⟩ := power
    obtain ⟨front, digit, split⟩ := (List.eq_nil_or_concat digits).resolve_left digits_ne
    rw [List.concat_eq_append] at split
    subst split
    by_cases single : front = []
    · subst single
      refine .inr (.inr (.inr ⟨⟨sign, [digit], digits_ne⟩, digit, rfl, ?_⟩))
      rw [Mantissa.before_append]
      rfl
    · exact .inl ⟨⟨⟨negative, whole, fraction, whole_ne⟩, some ⟨sign, front, single⟩⟩, digit, rfl⟩
  | none =>
    cases fraction with
    | some digits =>
      rcases List.eq_nil_or_concat digits with rfl | ⟨front, digit, split⟩
      · exact .inr (.inl ⟨⟨⟨negative, whole, none, whole_ne⟩, none⟩, rfl, rfl, rfl⟩)
      · rw [List.concat_eq_append] at split
        subst split
        exact .inl ⟨⟨⟨negative, whole, some front, whole_ne⟩, none⟩, digit, rfl⟩
    | none =>
      obtain ⟨front, digit, split⟩ := (List.eq_nil_or_concat whole).resolve_left whole_ne
      rw [List.concat_eq_append] at split
      subst split
      by_cases single : front = []
      · subst single
        refine .inr (.inr (.inl ⟨digit, ?_⟩))
        rw [← Display.signed_append]
        rfl
      · exact .inl ⟨⟨⟨negative, front, none, single⟩, none⟩, digit, rfl⟩

/-! ## Marks -/

/-- No mark is among digits. -/
theorem not_mem_spelled {mark : CodePoint} (other : ∀ digit, Text.digitPoint digit ≠ mark)
    (digits : List (Fin 10)) : mark ∉ Text.spelled digits := by
  intro member
  obtain ⟨digit, -, same⟩ := List.mem_map.1 member
  exact other digit same

/-- A mark other than the minus sign is the point or belongs to the power of ten. -/
theorem mark_mem_text {mark : CodePoint} (other : ∀ digit, Text.digitPoint digit ≠ mark)
    (no_sign : mark ≠ '-') (spelling : Spelling) :
    mark ∈ spelling.text ↔
      mark ∈ Text.pointed spelling.mantissa.fraction ∨ mark ∈ spelling.powerText := by
  have unsigned : mark ∈ spelling.unsigned ↔
      mark ∈ Text.pointed spelling.mantissa.fraction ∨ mark ∈ spelling.powerText := by
    rw [Spelling.unsigned, Mantissa.unsignedBefore, List.mem_append, List.mem_append,
      or_iff_right (not_mem_spelled other _)]
  rw [text_eq_signed, ← unsigned]
  cases spelling.mantissa.negative with
  | true =>
    simp only [Display.signed, ↓reduceIte, List.mem_cons]
    exact or_iff_right no_sign
  | false => rfl

/-- There is no point among digits. -/
theorem point_not_mem_spelled (digits : List (Fin 10)) :
    ('.' : CodePoint) ∉ Text.spelled digits :=
  not_mem_spelled (fun digit => (Text.digitPoint_ne_mark digit).2.2.1) digits

/-- There is no point in a power of ten. -/
theorem point_not_mem_powerText (spelling : Spelling) : ('.' : CodePoint) ∉ spelling.powerText := by
  rw [powerText]
  cases spelling.power with
  | none => exact List.not_mem_nil
  | some power =>
    simp only [Option.map_some, Option.getD_some, Power.text, Power.sign, List.mem_cons, not_or]
    refine ⟨by decide, ?_, point_not_mem_spelled _⟩
    split <;> decide

/-- A point occurs exactly if there is a fraction. -/
theorem point_mem_text (spelling : Spelling) :
    ('.' : CodePoint) ∈ spelling.text ↔ spelling.mantissa.fraction ≠ none := by
  rw [mark_mem_text (fun digit => (Text.digitPoint_ne_mark digit).2.2.1) (by decide),
    or_iff_left spelling.point_not_mem_powerText]
  cases spelling.mantissa.fraction with
  | none => simp [Text.pointed]
  | some digits => simp [Text.pointed]

/-- The letter e occurs exactly if there is a power of ten. -/
theorem letter_mem_text (spelling : Spelling) :
    ('e' : CodePoint) ∈ spelling.text ↔ spelling.power ≠ none := by
  have other : ∀ digit, Text.digitPoint digit ≠ 'e' := fun digit =>
    (Text.digitPoint_ne_mark digit).2.2.2.1
  rw [mark_mem_text other (by decide)]
  have fraction : ('e' : CodePoint) ∉ Text.pointed spelling.mantissa.fraction := by
    cases spelling.mantissa.fraction with
    | none => exact List.not_mem_nil
    | some digits =>
      simp only [Text.pointed, List.mem_cons, not_or]
      exact ⟨by decide, not_mem_spelled other _⟩
  rw [or_iff_right fraction, powerText]
  cases spelling.power with
  | none => simp
  | some power => simp [Power.text]

end Spelling

namespace Text

/-- A single digit is an operand. -/
theorem isOperand_digit (digit : Fin 10) : IsOperand [digitPoint digit] := by
  have nonempty : [digit] ≠ [] := by simp
  exact ⟨⟨⟨false, [digit], none, nonempty⟩, none⟩,
    Spelling.short_of_length (show 1 ≤ 15 by decide), rfl⟩

/-- An operand with a digit after it is an operand, unless it becomes too long. -/
theorem IsOperand.operandWith {display : Text} (operand : display.IsOperand) (digit : Fin 10)
    (few : (State.unsignedOperand (State.operandWith display [digitPoint digit])).length ≤
      State.longestOperand) :
    (State.operandWith display [digitPoint digit]).IsOperand := by
  unfold State.operandWith at few ⊢
  split
  · exact isOperand_digit digit
  · rename_i nonzero
    rw [if_neg nonzero] at few
    obtain ⟨spelling, -, rfl⟩ := operand
    rw [← spelling.text_pushDigit, Spelling.text, Mantissa.unsignedOperand_before] at few
    exact ⟨spelling.pushDigit digit, Spelling.short_of_length few, spelling.text_pushDigit digit⟩

/-- An operand with a point after it is an operand if it has neither a point nor a power of ten. -/
theorem IsOperand.concat_point {display : Text} (operand : display.IsOperand)
    (no_point : ('.' : CodePoint) ∉ display) (no_letter : ('e' : CodePoint) ∉ display) :
    IsOperand (display.concat '.') := by
  obtain ⟨spelling, short, rfl⟩ := operand
  have no_fraction : spelling.mantissa.fraction = none :=
    Decidable.not_not.1 fun fraction => no_point (spelling.point_mem_text.2 fraction)
  have no_power : spelling.power = none := by
    cases power : spelling.power with
    | none => rfl
    | some found => exact absurd (spelling.letter_mem_text.2 (by simp [power])) no_letter
  refine ⟨spelling.withPoint, (Spelling.short_withPoint_iff no_fraction no_power).2 short, ?_⟩
  rw [Spelling.text_withPoint no_fraction no_power, List.concat_eq_append]

/-- A power of ten with a point after it is no decimal. -/
theorem IsOperand.concat_point_unread {display : Text} (operand : display.IsOperand)
    (letter : ('e' : CodePoint) ∈ display) : Decimal.ofText? (display.concat '.') = none := by
  obtain ⟨spelling, short, rfl⟩ := operand
  cases found : spelling.power with
  | none => exact absurd found (spelling.letter_mem_text.1 letter)
  | some power =>
    have written : spelling.text = spelling.mantissa.before power.text := by
      rw [Spelling.text, Spelling.powerText, found]
      rfl
    have stop : ∀ c ∈ (['.'] : Text).head?, digitValue? c = none := by decide
    rw [List.concat_eq_append, written, Mantissa.before_append]
    refine spelling.mantissa.ofText?_before_eq_none ?_ ?_ (power.power?_before stop)
    · intro c member
      rcases List.mem_append.1 member with member | member
      · exact power.kept_text c member
      · rw [List.mem_singleton.1 member]
        exact kept_mark.2.2.1
    · intro c head
      cases head
      decide

/-- An operand with its sign changed is an operand. -/
theorem IsOperand.negateOperand {display : Text} (operand : display.IsOperand) :
    (State.negateOperand display).IsOperand := by
  obtain ⟨spelling, short, rfl⟩ := operand
  have magnitude : spelling.unsigned.IsMagnitude := ⟨spelling, short, rfl⟩
  rw [Spelling.text, Mantissa.negateOperand_before]
  split
  · exact isOperand_zero
  · exact magnitude.signed (!spelling.mantissa.negative)

/-- A text whose last character is a sign. -/
def EndsInSign (text : Text) : Prop :=
  text.getLast? = some (.char '+') ∨ text.getLast? = some (.char '-')

instance (text : Text) : Decidable text.EndsInSign :=
  inferInstanceAs (Decidable (_ ∨ _))

/-- A digit at the end is no sign. -/
theorem not_endsInSign_digit (front : Text) (digit : Fin 10) :
    ¬EndsInSign (front ++ [digitPoint digit]) := by
  obtain ⟨minus, plus, -⟩ := digitPoint_ne_mark digit
  simp only [EndsInSign, List.getLast?_concat, Option.some.injEq, not_or]
  exact ⟨plus, minus⟩

/-- No operand ends in a sign. -/
theorem IsOperand.not_endsInSign {display : Text} (operand : display.IsOperand) :
    ¬display.EndsInSign := by
  obtain ⟨spelling, -, rfl⟩ := operand
  rcases spelling.last_cases with ⟨shorter, digit, rfl⟩ | ⟨shorter, no_fraction, no_power, rfl⟩ |
    ⟨digit, written⟩ | ⟨power, digit, -, written⟩
  · rw [shorter.text_pushDigit]
    exact not_endsInSign_digit _ digit
  · rw [Spelling.text_withPoint no_fraction no_power]
    simp only [EndsInSign, List.getLast?_concat]
    decide
  · rw [written]
    exact not_endsInSign_digit _ digit
  · rw [written]
    exact not_endsInSign_digit _ digit

/-- Erasing the last character of an operand leaves an operand, unless it leaves the sign of a power
of ten at the end; what is left then is no decimal. -/
theorem IsOperand.eraseLast_cases {display : Text} (operand : display.IsOperand) :
    (State.eraseLast display).IsOperand ∨
      (State.eraseLast display).EndsInSign ∧ Decimal.ofText? (State.eraseLast display) = none := by
  obtain ⟨spelling, short, rfl⟩ := operand
  rcases spelling.last_cases with ⟨shorter, digit, rfl⟩ | ⟨shorter, no_fraction, no_power, rfl⟩ |
    ⟨digit, written⟩ | ⟨power, digit, -, written⟩
  · refine .inl ?_
    rw [shorter.text_pushDigit, Spelling.text, Mantissa.eraseLast_before]
    exact ⟨shorter, Spelling.short_of_pushDigit short, rfl⟩
  · refine .inl ?_
    rw [Spelling.text_withPoint no_fraction no_power, Spelling.text, Mantissa.eraseLast_before]
    exact ⟨shorter, (Spelling.short_withPoint_iff no_fraction no_power).1 short, rfl⟩
  · refine .inl ?_
    rw [written, State.eraseLast_signed]
    exact isOperand_zero
  · refine .inr ?_
    rw [written, Mantissa.eraseLast_before]
    constructor
    · have last : spelling.mantissa.before ['e', power.sign] =
          spelling.mantissa.before ['e'] ++ [power.sign] := by
        rw [Mantissa.before_append]
        rfl
      rw [last]
      simp only [EndsInSign, List.getLast?_concat, Option.some.injEq]
      unfold Power.sign
      cases power.negative with
      | true => exact .inr rfl
      | false => exact .inl rfl
    · refine spelling.mantissa.ofText?_before_eq_none ?_ ?_ power.power?_cut
      · intro c member
        have text_member : c ∈ power.text := by
          rcases List.mem_cons.1 member with rfl | member
          · exact List.mem_cons_self ..
          · rw [List.mem_singleton.1 member]
            exact List.mem_cons_of_mem _ (List.mem_cons_self ..)
        exact power.kept_text c text_member
      · intro c head
        cases head
        decide

end Text

end Reckoner
