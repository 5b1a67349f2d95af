import Reckoner.Proofs.Calculator.Operands
import Reckoner.Proofs.Expression.Scan

/-!
# How operands are spelled

What stands where an operand belongs begins, behind a sign, with a digit and goes on with the
characters of numerals, or it is what is left of the word for an error. Read as a decimal, it is a
mantissa alone or a mantissa with a power of ten behind the letter e. An expression has no such
letter: it reads a mantissa alone as one number, perhaps with a minus sign, and a power of ten as
another number.
-/

namespace Reckoner

namespace Text

/-! ## The texts -/

/-- The characters of numerals. -/
def IsPart (c : CodePoint) : Prop :=
  c.isAsciiDigit = true ∨ c = '.' ∨ c = 'e' ∨ c = '+' ∨ c = '-'

/-- What an operand looks like without its sign. -/
inductive IsUnsigned : Text → Prop where
  | numeral (digit : Fin 10) {rest : Text} (parts : ∀ c ∈ rest, IsPart c) :
    IsUnsigned (digitPoint digit :: rest)
  | word {rest : Text} (kept : ∀ c ∈ rest, c.IsKept) : IsUnsigned (.char 'E' :: rest)

/-- What an operand looks like. -/
def IsTyped (text : Text) : Prop :=
  ∃ negative unsigned, IsUnsigned unsigned ∧ Display.signed negative unsigned = text

/-- A digit is a character of numerals. -/
theorem isPart_digit (digit : Fin 10) : IsPart (digitPoint digit) := by
  have ascii : ∀ digit, (digitPoint digit).isAsciiDigit = true := by decide
  exact .inl (ascii digit)

/-- The characters of numerals are kept when they are read. -/
theorem IsPart.kept {c : CodePoint} (part : IsPart c) : c.IsKept := by
  obtain ⟨minus, plus, point, letter⟩ := kept_mark
  rcases part with digit | rfl | rfl | rfl | rfl
  · obtain ⟨value, rfl⟩ := exists_digitPoint digit
    exact kept_spelled [value] _ (List.mem_singleton_self _)
  · exact point
  · exact letter
  · exact plus
  · exact minus

namespace IsUnsigned

variable {unsigned : Text}

/-- Another character of numerals may follow. -/
theorem concat (typed : unsigned.IsUnsigned) {c : CodePoint} (part : IsPart c) :
    IsUnsigned (unsigned ++ [c]) := by
  cases typed with
  | numeral digit parts =>
    refine .numeral digit fun d member => ?_
    rcases List.mem_append.1 member with before | last
    · exact parts d before
    · rwa [List.mem_singleton.1 last]
  | word kept =>
    refine .word fun d member => ?_
    rcases List.mem_append.1 member with before | last
    · exact kept d before
    · rw [List.mem_singleton.1 last]
      exact part.kept

/-- Without its last character nothing is left, or still what an operand looks like. -/
theorem dropLast_cases (typed : unsigned.IsUnsigned) :
    unsigned.dropLast = [] ∨ IsUnsigned unsigned.dropLast := by
  cases typed with
  | @numeral digit rest parts =>
    cases rest with
    | nil => exact .inl rfl
    | cons next rest =>
      exact .inr (.numeral digit fun c member => parts c (List.dropLast_subset _ member))
  | @word rest kept =>
    cases rest with
    | nil => exact .inl rfl
    | cons next rest =>
      exact .inr (.word fun c member => kept c (List.dropLast_subset _ member))

/-- The first character is no minus sign. -/
theorem head (typed : unsigned.IsUnsigned) : ∃ c rest, unsigned = c :: rest ∧ c ≠ '-' := by
  cases typed with
  | @numeral digit rest parts => exact ⟨_, rest, rfl, (digitPoint_ne_mark digit).1⟩
  | @word rest kept => exact ⟨_, rest, rfl, by decide⟩

/-- Taking a sign away leaves what stands behind it. -/
theorem unsignedOperand (typed : unsigned.IsUnsigned) (negative : Bool) :
    State.unsignedOperand (Display.signed negative unsigned) = unsigned := by
  obtain ⟨c, rest, rfl, other⟩ := typed.head
  cases negative with
  | true => rfl
  | false =>
    simp only [Display.signed, Bool.false_eq_true, ↓reduceIte]
    unfold State.unsignedOperand
    split
    · rename_i same
      exact absurd (List.cons.inj same).1 other
    · rfl

end IsUnsigned

/-- The last character behind a sign is that of the text. -/
theorem dropLast_signed {unsigned : Text} (nonempty : unsigned ≠ []) (negative : Bool) :
    (Display.signed negative unsigned).dropLast = Display.signed negative unsigned.dropLast := by
  cases negative with
  | true => exact List.dropLast_cons_of_ne_nil nonempty
  | false => rfl

/-! ## Every operand looks like that -/

/-- Digits are characters of numerals. -/
theorem isPart_spelled (digits : List (Fin 10)) : ∀ c ∈ spelled digits, IsPart c := by
  intro c member
  obtain ⟨digit, -, rfl⟩ := List.mem_map.1 member
  exact isPart_digit digit

/-- A numeral without its sign is made of the characters of numerals. -/
theorem isPart_unsigned (spelling : Spelling) : ∀ c ∈ spelling.unsigned, IsPart c := by
  have fraction : ∀ c ∈ pointed spelling.mantissa.fraction, IsPart c := by
    cases spelling.mantissa.fraction with
    | none => exact fun c member => absurd member List.not_mem_nil
    | some decimals =>
      exact List.forall_mem_cons.2 ⟨.inr (.inl rfl), isPart_spelled decimals⟩
  have power : ∀ c ∈ spelling.powerText, IsPart c := by
    rw [Spelling.powerText]
    cases spelling.power with
    | none => exact fun c member => absurd member List.not_mem_nil
    | some power =>
      have sign : IsPart power.sign := by
        unfold Power.sign
        split
        · exact .inr (.inr (.inr (.inr rfl)))
        · exact .inr (.inr (.inr (.inl rfl)))
      exact List.forall_mem_cons.2 ⟨.inr (.inr (.inl rfl)),
        List.forall_mem_cons.2 ⟨sign, isPart_spelled power.digits⟩⟩
  intro c member
  rcases List.mem_append.1 member with whole | behind
  · exact isPart_spelled _ c whole
  · rcases List.mem_append.1 behind with point | letter
    · exact fraction c point
    · exact power c letter

/-- A numeral of the calculator looks like an operand. -/
theorem IsOperand.isTyped {text : Text} (operand : text.IsOperand) : text.IsTyped := by
  obtain ⟨spelling, -, rfl⟩ := operand
  refine ⟨spelling.mantissa.negative, spelling.unsigned, ?_, spelling.text_eq_signed.symm⟩
  have parts := isPart_unsigned spelling
  obtain ⟨digit, rest, head⟩ := spelling.mantissa.unsignedBefore_head spelling.powerText
  rw [Spelling.unsigned, head] at parts ⊢
  exact .numeral digit (List.forall_mem_cons.1 parts).2

/-- A digit looks like an operand. -/
theorem isTyped_digit (digit : Fin 10) : IsTyped [digitPoint digit] :=
  ⟨false, _, .numeral digit (List.forall_mem_nil _), rfl⟩

/-- The word for an error looks like an operand. -/
theorem isTyped_error : Display.error.IsTyped := by
  have kept : ∀ c ∈ (['r', 'r', 'o', 'r'] : Text), c.IsKept := by
    simp only [CodePoint.IsKept]
    decide
  exact ⟨false, _, .word kept, rfl⟩

/-- Digits and results look like operands, and editing leaves what looks like one. -/
theorem closed_isTyped : Closed IsTyped where
  digit := isTyped_digit
  pushDigit := by
    rintro text ⟨negative, unsigned, typed, rfl⟩ digit
    exact ⟨negative, _, typed.concat (isPart_digit digit), Display.signed_append _ _ _⟩
  point := by
    rintro text - ⟨negative, unsigned, typed, rfl⟩
    rw [List.concat_eq_append]
    exact ⟨negative, _, typed.concat (.inr (.inl rfl)), Display.signed_append _ _ _⟩
  negate := by
    rintro text ⟨negative, unsigned, typed, rfl⟩
    unfold State.negateOperand
    split
    · exact ⟨negative, unsigned, typed, rfl⟩
    · cases negative with
      | true => exact ⟨false, unsigned, typed, rfl⟩
      | false =>
        refine ⟨true, unsigned, typed, ?_⟩
        obtain ⟨c, rest, rfl, other⟩ := typed.head
        simp only [Display.signed, Bool.false_eq_true, ↓reduceIte]
        split
        · rename_i same
          exact absurd (List.cons.inj same).1 other
        · rfl
  erase := by
    rintro text ⟨negative, unsigned, typed, rfl⟩
    obtain ⟨c, rest, same, -⟩ := typed.head
    have shorter := dropLast_signed (show unsigned ≠ [] by simp [same]) negative
    unfold State.eraseLast
    simp only [shorter]
    rcases typed.dropLast_cases with none | left
    · have gone : (State.unsignedOperand (Display.signed negative unsigned.dropLast)).isEmpty =
          true := by
        rw [none]
        cases negative with
        | true => rfl
        | false => rfl
      rw [if_pos gone]
      exact isTyped_digit 0
    · obtain ⟨first, behind, begins, -⟩ := left.head
      rw [left.unsignedOperand, if_neg (by simp [begins])]
      exact ⟨negative, _, left, rfl⟩
  result value := by
    cases finite : value.isFinite with
    | true => exact (Display.isOperand_result finite).isTyped
    | false =>
      rw [Display.result_eq_error finite]
      exact isTyped_error
  quotient value := by
    cases finite : value.isFinite with
    | true => exact (Display.isOperand_quotient finite).isTyped
    | false =>
      rw [Display.quotient_eq_error finite]
      exact isTyped_error
  integer written := (writeInt_isOperand written).isTyped

/-! ## Reading operands -/

/-- Characters of numerals other than digits have no value. -/
theorem digitValue?_part {c : CodePoint} (part : IsPart c) (other : c.isAsciiDigit = false) :
    digitValue? c = none := by
  rcases part with digit | rfl | rfl | rfl | rfl
  · rw [digit] at other
    cases other
  · decide
  · decide
  · decide
  · decide

/-- Characters of numerals begin with digits, behind which there is something else. -/
theorem exists_digits_before {text : Text} (parts : ∀ c ∈ text, IsPart c) :
    ∃ digits after, text = spelled digits ++ after ∧ (∀ c ∈ after, IsPart c) ∧
      ∀ c ∈ after.head?, digitValue? c = none := by
  induction text with
  | nil => exact ⟨[], [], rfl, nofun, by simp⟩
  | cons c rest ih =>
    obtain ⟨first, others⟩ := List.forall_mem_cons.1 parts
    cases digit : c.isAsciiDigit with
    | true =>
      obtain ⟨value, rfl⟩ := exists_digitPoint digit
      obtain ⟨digits, after, rfl, behind, stop⟩ := ih others
      exact ⟨value :: digits, after, rfl, behind, stop⟩
    | false =>
      refine ⟨[], c :: rest, rfl, parts, fun d head => ?_⟩
      obtain rfl := Option.some.inj head
      exact digitValue?_part first digit

/-- A power of ten that is read has a digit behind its letter. -/
theorem power?_cases {after : Text} (parts : ∀ c ∈ after, IsPart c)
    (read : (Numeral.power? after).isSome = true) :
    after = [] ∨ ∃ behind digit, after = .char 'e' :: behind ∧ digitPoint digit ∈ behind := by
  cases after with
  | nil => exact .inl rfl
  | cons mark behind =>
    obtain ⟨first, others⟩ := List.forall_mem_cons.1 parts
    unfold Numeral.power? at read
    simp only at read
    split at read
    · rename_i letter
      have small : mark = 'e' := by
        rcases letter with letter | rfl
        · exact letter
        · exact absurd first (by simp only [IsPart]; decide)
      refine .inr ⟨behind, ?_⟩
      have taken : ∀ c ∈ (takeSign behind).2, c ∈ behind := by
        unfold takeSign
        split
        · exact fun c member => List.mem_cons_of_mem _ member
        · exact fun c member => List.mem_cons_of_mem _ member
        · exact fun c member => member
      obtain ⟨digits, rest, split, -, stop⟩ :=
        exists_digits_before fun c member => others c (taken c member)
      cases digits with
      | nil =>
        rw [split, spanDigits_spelled [] stop] at read
        cases read
      | cons digit digits =>
        refine ⟨digit, by rw [small], taken _ ?_⟩
        rw [split]
        exact List.mem_cons_self ..
    · cases read

/-- What is left of the word for an error is no decimal. -/
theorem ofText?_word {rest : Text} (kept : ∀ c ∈ rest, c.IsKept) (negative : Bool) :
    Decimal.ofText? (Display.signed negative (.char 'E' :: rest)) = none := by
  have letter : CodePoint.IsKept 'E' := by
    simp only [CodePoint.IsKept]
    decide
  have unsigned : ∀ c ∈ (.char 'E' :: rest : Text), c.IsKept :=
    List.forall_mem_cons.2 ⟨letter, kept⟩
  cases negative with
  | true =>
    rw [Display.signed, if_pos rfl,
      Decimal.ofText?_kept (List.forall_mem_cons.2 ⟨kept_mark.1, unsigned⟩)]
    rfl
  | false =>
    rw [Display.signed, if_neg (by decide), Decimal.ofText?_kept unsigned]
    rfl

/-- A text of a digit and characters of numerals is a mantissa and something that is not read as
part of it. The mantissa takes the point and the digits behind it, if the point follows its
digits. -/
theorem exists_mantissa (negative : Bool) (digit : Fin 10) {rest : Text}
    (parts : ∀ c ∈ rest, IsPart c) :
    ∃ (mantissa : Mantissa) (left : Text),
      Display.signed negative (digitPoint digit :: rest) = mantissa.before left ∧
        (∀ c ∈ left, IsPart c) ∧ (∀ c ∈ left.head?, digitValue? c = none) ∧
          (mantissa.fraction = none → ∀ c ∈ left.head?, c ≠ '.') := by
  obtain ⟨digits, after, rfl, others, stop⟩ := exists_digits_before parts
  by_cases point : after.head? = some (.char '.')
  · obtain ⟨tail, rfl⟩ := List.head?_eq_some_iff.1 point
    obtain ⟨decimals, left, rfl, leftParts, leftStop⟩ :=
      exists_digits_before (List.forall_mem_cons.1 others).2
    exact ⟨⟨negative, digit :: digits, some decimals, by simp⟩, left, rfl, leftParts, leftStop,
      nofun⟩
  · refine ⟨⟨negative, digit :: digits, none, by simp⟩, after, rfl, others, stop, ?_⟩
    rintro - c head rfl
    exact point head

/-- An operand that is a decimal is a mantissa, perhaps with a power of ten that has a digit. -/
theorem IsTyped.read {text : Text} (typed : text.IsTyped)
    (readable : (Decimal.ofText? text).isSome = true) :
    ∃ mantissa : Mantissa, text = mantissa.before [] ∨
      ∃ behind digit, text = mantissa.before (.char 'e' :: behind) ∧
        digitPoint digit ∈ behind := by
  obtain ⟨negative, unsigned, typed, rfl⟩ := typed
  cases typed with
  | word kept =>
    rw [ofText?_word kept] at readable
    cases readable
  | @numeral digit rest parts =>
    obtain ⟨mantissa, left, written, leftParts, stop, point⟩ := exists_mantissa negative digit parts
    rw [written] at readable ⊢
    rw [Decimal.ofText?_kept (mantissa.kept_before fun c member => (leftParts c member).kept),
      mantissa.ofText?_stopped stop point] at readable
    have power : (Numeral.power? left).isSome = true := by
      cases found : Numeral.power? left with
      | none =>
        rw [found] at readable
        cases readable
      | some power => rfl
    refine ⟨mantissa, ?_⟩
    rcases power?_cases leftParts power with rfl | ⟨behind, digit, rfl, member⟩
    · exact .inl rfl
    · exact .inr ⟨behind, digit, rfl, member⟩

end Text

/-! ## Scanning operands -/

/-- Digits are characters of a number. -/
theorem Token.isNumberChar_digitPoint :
    ∀ digit, Token.isNumberChar (Text.digitPoint digit) = true := by
  decide

namespace Mantissa

/-- All characters of a mantissa without its sign are characters of a number. -/
theorem isNumberChar_unsigned (mantissa : Mantissa) :
    ∀ c ∈ mantissa.unsignedBefore [], Token.isNumberChar c = true := by
  have digits (digits : List (Fin 10)) :
      ∀ c ∈ Text.spelled digits, Token.isNumberChar c = true := by
    intro c member
    obtain ⟨digit, -, rfl⟩ := List.mem_map.1 member
    exact Token.isNumberChar_digitPoint digit
  intro c member
  rw [unsignedBefore, List.append_nil] at member
  rcases List.mem_append.1 member with whole | fraction
  · exact digits _ c whole
  · cases present : mantissa.fraction with
    | none =>
      rw [present] at fraction
      exact absurd fraction List.not_mem_nil
    | some decimals =>
      rw [present] at fraction
      rcases List.mem_cons.1 fraction with rfl | behind
      · decide
      · exact digits _ c behind

end Mantissa

end Reckoner
