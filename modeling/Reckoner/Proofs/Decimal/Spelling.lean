import Reckoner.Display
import Reckoner.Proofs.Text.Digits

/-!
# Spellings of decimals

The numerals that the calculator writes and lets be typed are fewer than those it reads: an
optional minus sign, ASCII digits, an optional point with digits after it, and an optional power of
ten with a sign. A spelling is such a numeral taken apart. Its text is read as the decimal that it
spells, provided that this is in range; and a text that goes on behind a mantissa is read exactly
if what follows is a power of ten.
-/

namespace Reckoner

/-- The part of a numeral before its power of ten. Without a point there is no fraction. -/
structure Mantissa where
  negative : Bool
  whole : List (Fin 10)
  fraction : Option (List (Fin 10))
  /-- A digit stands before the point. -/
  whole_ne : whole ≠ []

/-- A power of ten with its sign. -/
structure Power where
  negative : Bool
  digits : List (Fin 10)
  /-- The power has a digit. -/
  digits_ne : digits ≠ []

/-- A numeral as the calculator writes it. -/
structure Spelling where
  mantissa : Mantissa
  power : Option Power

/-- A sign is not affected by what is added at the end. -/
theorem Display.signed_append (negative : Bool) (front back : Text) :
    signed negative (front ++ back) = signed negative front ++ back := by
  cases negative with
  | true => rfl
  | false => rfl

/-- A point and the digits after it, if there is a point. -/
def Text.pointed : Option (List (Fin 10)) → Text
  | none => []
  | some digits => '.' :: Text.spelled digits

/-- A fraction has no more digits than characters. -/
theorem Text.length_le_pointed (fraction : Option (List (Fin 10))) :
    (fraction.getD []).length ≤ (Text.pointed fraction).length := by
  cases fraction with
  | none => exact Nat.le_refl _
  | some digits =>
    rw [pointed, List.length_cons, spelled_length]
    exact Nat.le_succ _

namespace Mantissa

/-- The digits of a mantissa and a text after them, without the sign. -/
def unsignedBefore (mantissa : Mantissa) (after : Text) : Text :=
  Text.spelled mantissa.whole ++ (Text.pointed mantissa.fraction ++ after)

/-- A mantissa with a text after it. -/
def before (mantissa : Mantissa) (after : Text) : Text :=
  Display.signed mantissa.negative (mantissa.unsignedBefore after)

/-- The digits after the point. -/
def decimals (mantissa : Mantissa) : List (Fin 10) := mantissa.fraction.getD []

/-- A mantissa as it is scanned, with a power of ten. -/
def numeral (mantissa : Mantissa) (power : Int) : Numeral where
  negative := mantissa.negative
  whole := mantissa.whole.map Fin.val
  fraction := mantissa.decimals.map Fin.val
  power := power

end Mantissa

namespace Power

/-- The sign of a power of ten, which is always written. -/
def sign (power : Power) : CodePoint := if power.negative then '-' else '+'

/-- The letter, sign and digits of a power of ten. -/
def text (power : Power) : Text := 'e' :: power.sign :: Text.spelled power.digits

/-- The exponent that is written. -/
def value (power : Power) : Int :=
  let size : Int := Text.digitsValue 0 (power.digits.map Fin.val)
  if power.negative then -size else size

end Power

namespace Spelling

/-- The text of the power of ten, if there is one. -/
def powerText (spelling : Spelling) : Text := (spelling.power.map Power.text).getD []

/-- The text of a numeral without its sign. -/
def unsigned (spelling : Spelling) : Text := spelling.mantissa.unsignedBefore spelling.powerText

/-- The text of a numeral. -/
def text (spelling : Spelling) : Text := spelling.mantissa.before spelling.powerText

/-- The decimal that is spelled. -/
def decimal (spelling : Spelling) : Decimal :=
  (spelling.mantissa.numeral ((spelling.power.map Power.value).getD 0)).toDecimal

end Spelling

/-! ## Characters of a numeral -/

/-- A character that reading a decimal neither trims nor drops. -/
def CodePoint.IsKept (c : CodePoint) : Prop := Text.isBlank c = false ∧ c ≠ '_'

/-- Text of kept characters is read as it is. -/
theorem clean_eq_self {text : Text} (kept : ∀ c ∈ text, c.IsKept) :
    (Text.trimBlanks text).filter (· ≠ ('_' : CodePoint)) = text := by
  have front : text.dropWhile Text.isBlank = text := by
    cases text with
    | nil => rfl
    | cons c rest =>
      rw [List.dropWhile_cons_of_neg]
      simp [(kept c (List.mem_cons_self ..)).1]
  have back : text.reverse.dropWhile Text.isBlank = text.reverse := by
    cases reversed : text.reverse with
    | nil => rfl
    | cons c rest =>
      have member : c ∈ text := by
        rw [← List.mem_reverse, reversed]
        exact List.mem_cons_self ..
      rw [List.dropWhile_cons_of_neg]
      simp [(kept c member).1]
  rw [Text.trimBlanks, Text.trim, front, Text.trimEnd, back, List.reverse_reverse,
    List.filter_eq_self]
  intro c member
  simpa using (kept c member).2

/-- Digits are kept. -/
theorem kept_spelled (digits : List (Fin 10)) : ∀ c ∈ Text.spelled digits, c.IsKept := by
  intro c member
  obtain ⟨digit, -, rfl⟩ := List.mem_map.1 member
  obtain ⟨-, -, -, -, line, blank⟩ := Text.digitPoint_ne_mark digit
  exact ⟨blank, line⟩

/-- The marks of a numeral are kept. -/
theorem kept_mark : CodePoint.IsKept '-' ∧ CodePoint.IsKept '+' ∧ CodePoint.IsKept '.' ∧
    CodePoint.IsKept 'e' := by
  simp only [CodePoint.IsKept]
  decide

/-- A point and the digits after it are kept. -/
theorem kept_pointed (fraction : Option (List (Fin 10))) :
    ∀ c ∈ Text.pointed fraction, c.IsKept := by
  cases fraction with
  | none => exact fun c member => absurd member List.not_mem_nil
  | some digits =>
    intro c member
    rcases List.mem_cons.1 member with rfl | member
    · exact kept_mark.2.2.1
    · exact kept_spelled digits c member

/-- A mantissa and what follows it are kept if what follows is. -/
theorem Mantissa.kept_before (mantissa : Mantissa) {after : Text}
    (kept : ∀ c ∈ after, c.IsKept) : ∀ c ∈ mantissa.before after, c.IsKept := by
  have unsigned : ∀ c ∈ mantissa.unsignedBefore after, c.IsKept := by
    intro c member
    rcases List.mem_append.1 member with member | member
    · exact kept_spelled _ c member
    · rcases List.mem_append.1 member with member | member
      · exact kept_pointed _ c member
      · exact kept c member
  intro c member
  cases negative : mantissa.negative with
  | false =>
    rw [before, negative] at member
    exact unsigned c member
  | true =>
    rw [before, negative] at member
    rcases List.mem_cons.1 member with rfl | member
    · exact kept_mark.1
    · exact unsigned c member

/-- A power of ten is kept. -/
theorem Power.kept_text (power : Power) : ∀ c ∈ power.text, c.IsKept := by
  intro c member
  rcases List.mem_cons.1 member with rfl | member
  · exact kept_mark.2.2.2
  · rcases List.mem_cons.1 member with rfl | member
    · rw [sign]
      split
      · exact kept_mark.1
      · exact kept_mark.2.1
    · exact kept_spelled _ c member

/-! ## Reading a mantissa -/

/-- Digits have no sign before them. -/
theorem takeSign_spelled {digits : List (Fin 10)} (nonempty : digits ≠ []) (rest : Text) :
    Text.takeSign (Text.spelled digits ++ rest) = (false, Text.spelled digits ++ rest) := by
  cases digits with
  | nil => exact absurd rfl nonempty
  | cons digit digits =>
    obtain ⟨minus, plus, -⟩ := Text.digitPoint_ne_mark digit
    simp only [Text.spelled, List.map_cons, List.cons_append]
    unfold Text.takeSign
    split
    · rename_i same
      exact absurd (List.cons.inj same).1 minus
    · rename_i same
      exact absurd (List.cons.inj same).1 plus
    · rfl

/-- The sign of a mantissa is taken off. -/
theorem Mantissa.takeSign_before (mantissa : Mantissa) (after : Text) :
    Text.takeSign (mantissa.before after) = (mantissa.negative, mantissa.unsignedBefore after) := by
  cases negative : mantissa.negative with
  | true =>
    rw [before, negative]
    rfl
  | false =>
    rw [before, negative]
    exact takeSign_spelled mantissa.whole_ne _

/-- What may follow a mantissa: nothing that would be read as part of it. -/
def Text.EndsMantissa (after : Text) : Prop :=
  ∀ c ∈ after.head?, Text.digitValue? c = none ∧ c ≠ '.'

/-- A point and the digits after it are taken off. -/
theorem takeFraction_pointed (fraction : Option (List (Fin 10))) {after : Text}
    (stop : ∀ c ∈ after.head?, Text.digitValue? c = none)
    (point : fraction = none → ∀ c ∈ after.head?, c ≠ '.') :
    Text.takeFraction (Text.pointed fraction ++ after) =
      ((fraction.getD []).map Fin.val, after) := by
  cases fraction with
  | none =>
    cases after with
    | nil => rfl
    | cons c rest =>
      simp only [Text.pointed, List.nil_append]
      unfold Text.takeFraction
      split
      · rename_i same
        exact absurd (List.cons.inj same).1 (point rfl c rfl)
      · rfl
  | some digits => exact Text.spanDigits_spelled digits stop

/-- A mantissa is scanned up to what follows it, which decides whether there is a numeral. Behind a
fraction there may even be another point. -/
theorem Mantissa.ofText?_stopped (mantissa : Mantissa) {after : Text}
    (stop : ∀ c ∈ after.head?, Text.digitValue? c = none)
    (point : mantissa.fraction = none → ∀ c ∈ after.head?, c ≠ '.') :
    Numeral.ofText? (mantissa.before after) =
      (Numeral.power? after).map mantissa.numeral := by
  have whole_stop : ∀ c ∈ (Text.pointed mantissa.fraction ++ after).head?,
      Text.digitValue? c = none := by
    cases fraction : mantissa.fraction with
    | none => exact stop
    | some digits =>
      intro c head
      cases head
      decide
  have some_whole : (mantissa.whole.map Fin.val).isEmpty = false := by
    rw [List.isEmpty_eq_false_iff]
    exact fun empty => mantissa.whole_ne (List.map_eq_nil_iff.1 empty)
  unfold Numeral.ofText?
  rw [mantissa.takeSign_before after]
  simp only [unsignedBefore, Text.spanDigits_spelled mantissa.whole whole_stop,
    takeFraction_pointed mantissa.fraction stop point, some_whole, Bool.false_and,
    Bool.false_eq_true, ↓reduceIte]
  rfl

/-- A mantissa before what is not read as part of it. -/
theorem Mantissa.ofText?_before (mantissa : Mantissa) {after : Text} (ends : after.EndsMantissa) :
    Numeral.ofText? (mantissa.before after) =
      (Numeral.power? after).map mantissa.numeral :=
  mantissa.ofText?_stopped (fun c head => (ends c head).1) fun _ c head => (ends c head).2

/-! ## Reading a power of ten -/

/-- The sign of a power of ten is taken off. -/
theorem Power.takeSign_text (power : Power) (rest : Text) :
    Text.takeSign (power.sign :: rest) = (power.negative, rest) := by
  unfold sign
  cases power.negative with
  | true => rfl
  | false => rfl

/-- A power of ten is read as its exponent if nothing follows its digits, and otherwise not. -/
theorem Power.power?_before (power : Power) {rest : Text}
    (stop : ∀ c ∈ rest.head?, Text.digitValue? c = none) :
    Numeral.power? (power.text ++ rest) = if rest = [] then some power.value else none := by
  have some_digit : power.digits.map Fin.val ≠ [] := fun empty =>
    power.digits_ne (List.map_eq_nil_iff.1 empty)
  unfold Numeral.power? text
  simp only [List.cons_append, true_or, ↓reduceIte, power.takeSign_text,
    Text.spanDigits_spelled power.digits stop]
  split
  · rename_i same
    exact absurd (Prod.mk.inj same).1 some_digit
  · rename_i same
    cases same
    rfl
  · rename_i same
    cases same
    rfl

/-- A letter and a sign without digits are no power of ten. -/
theorem Power.power?_cut (power : Power) : Numeral.power? ['e', power.sign] = none := by
  unfold sign
  cases power.negative with
  | true => rfl
  | false => rfl

/-! ## Reading a numeral -/

/-- A text of kept characters is a decimal if it is scanned as a numeral that is in range. -/
theorem Decimal.ofText?_kept {text : Text} (kept : ∀ c ∈ text, c.IsKept) :
    Decimal.ofText? text = (Numeral.ofText? text).bind fun numeral =>
      if numeral.toDecimal.inRange then some numeral.toDecimal else none := by
  rw [Decimal.ofText?, clean_eq_self kept]
  cases Numeral.ofText? text with
  | none => rfl
  | some numeral => rfl

namespace Spelling

/-- All characters of a numeral are kept. -/
theorem kept_text (spelling : Spelling) : ∀ c ∈ spelling.text, c.IsKept := by
  refine spelling.mantissa.kept_before fun c member => ?_
  cases power : spelling.power with
  | none =>
    rw [powerText, power] at member
    exact absurd member List.not_mem_nil
  | some power' =>
    rw [powerText, power] at member
    exact power'.kept_text c member

/-- A power of ten ends a mantissa, and so does the end of the text. -/
theorem powerText_ends (spelling : Spelling) : spelling.powerText.EndsMantissa := by
  unfold powerText
  cases spelling.power with
  | none => exact fun c head => absurd head (by simp)
  | some power =>
    intro c head
    cases head
    decide

/-- A power of ten is read as its exponent, and none as zero. -/
theorem power?_powerText (spelling : Spelling) :
    Numeral.power? spelling.powerText = some ((spelling.power.map Power.value).getD 0) := by
  unfold powerText
  cases spelling.power with
  | none => rfl
  | some power =>
    have stop : ∀ c ∈ ([] : Text).head?, Text.digitValue? c = none := by simp
    have read := power.power?_before stop
    rwa [List.append_nil] at read

/-- A numeral is read as the decimal that it spells, if that is in range. -/
theorem ofText?_text (spelling : Spelling) :
    Decimal.ofText? spelling.text =
      if spelling.decimal.inRange then some spelling.decimal else none := by
  rw [Decimal.ofText?_kept spelling.kept_text, text,
    spelling.mantissa.ofText?_before spelling.powerText_ends, power?_powerText]
  rfl

end Spelling

/-! ## Numerals that are short enough

The exponents of decimals are limited, but only numerals of absurd length come near the limits. -/

/-- So few digits that none of them has an exponent near the limits. -/
structure Mantissa.Short (mantissa : Mantissa) : Prop where
  whole : mantissa.whole.length ≤ 10 ^ 15
  decimals : mantissa.decimals.length ≤ 10 ^ 15

/-- The exponent that few digits write is small. -/
theorem Power.natAbs_value_lt {power : Power} (short : power.digits.length ≤ 15) :
    power.value.natAbs < 10 ^ 15 := by
  have bound := Text.digitsValue_lt 0 power.digits
  have few : 10 ^ power.digits.length ≤ 10 ^ 15 := Nat.pow_le_pow_right (by decide) short
  unfold value
  simp only
  split <;> omega

namespace Spelling

/-- So few digits that the exponents of the first and the last one are in range. -/
structure Short (spelling : Spelling) : Prop where
  mantissa : spelling.mantissa.Short
  power : ∀ power ∈ spelling.power, power.digits.length ≤ 15

/-- A coefficient has no more digits than are written. -/
theorem digitCount_coefficient_le (spelling : Spelling) :
    Text.digitCount spelling.decimal.coefficient ≤
      spelling.mantissa.whole.length + spelling.mantissa.decimals.length := by
  have positive : 0 < spelling.mantissa.whole.length :=
    List.length_pos_iff.2 spelling.mantissa.whole_ne
  rw [Text.digitCount_le_iff (by omega), Nat.pow_add]
  have whole := Text.digitsValue_lt 0 spelling.mantissa.whole
  have decimals := Text.digitsValue_lt
    (Text.digitsValue 0 (spelling.mantissa.whole.map Fin.val)) spelling.mantissa.decimals
  refine Nat.lt_of_lt_of_le decimals (Nat.mul_le_mul_right _ ?_)
  omega

/-- A short numeral is in range. -/
theorem Short.inRange {spelling : Spelling} (short : spelling.Short) :
    spelling.decimal.inRange = true := by
  have count := spelling.digitCount_coefficient_le
  have whole := short.mantissa.whole
  have decimals := short.mantissa.decimals
  have power : ((spelling.power.map Power.value).getD 0).natAbs < 10 ^ 15 := by
    cases power : spelling.power with
    | none => decide
    | some power' => exact Power.natAbs_value_lt (short.power power' power)
  have exponent : spelling.decimal.exponent =
      (spelling.power.map Power.value).getD 0 - (spelling.mantissa.decimals.length : Int) := by
    simp only [decimal, Mantissa.numeral, Numeral.toDecimal, List.length_map]
  rw [Decimal.inRange, Bool.and_eq_true, decide_eq_true_eq, decide_eq_true_eq, exponent]
  unfold Decimal.leastExponent Decimal.greatestExponent
  omega

/-- A short numeral is read as the decimal that it spells. -/
theorem Short.ofText?_text {spelling : Spelling} (short : spelling.Short) :
    Decimal.ofText? spelling.text = some spelling.decimal := by
  rw [spelling.ofText?_text, if_pos short.inRange]

end Spelling

end Reckoner
