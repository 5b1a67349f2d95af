import Reckoner.Json.Reader
import Reckoner.Json.Writer
import Reckoner.Proofs.Decimal.Layout
import Reckoner.Proofs.Text.Utf8

/-!
# Numbers between other text

A number is read up to the first character that cannot belong to it. What is written for an integer
has digits only and is read as that integer; what is written for a finite double has a point or a
power of ten and is read as that double. The names of truth values and of infinities are read
likewise, so every value that can be compared as a number is read back where it stands.
-/

namespace Reckoner

/-- A numeral with a point or a power of ten. -/
def Spelling.Marked (spelling : Spelling) : Prop :=
  spelling.mantissa.fraction ≠ none ∨ spelling.power ≠ none

namespace Json

/-- What may follow a number: nothing that would be read as part of it. -/
def EndsNumber (rest : Text) : Prop :=
  ∀ c ∈ rest.head?, c.isAsciiDigit = false ∧ c ≠ '.' ∧ c ≠ 'e' ∧ c ≠ 'E'

/-! ## Digits -/

/-- The character of a digit is a digit. -/
theorem isAsciiDigit_digitPoint : ∀ digit : Fin 10, (Text.digitPoint digit).isAsciiDigit = true := by
  decide

/-- Digits are taken off up to what is no digit. -/
theorem spanDigits_spelled (digits : List (Fin 10)) {rest : Text}
    (stop : ∀ c ∈ rest.head?, c.isAsciiDigit = false) :
    Reader.spanDigits (Text.spelled digits ++ rest) = (Text.spelled digits, rest) := by
  have all : ∀ c ∈ Text.spelled digits, c.isAsciiDigit = true := by
    intro c member
    obtain ⟨digit, -, rfl⟩ := List.mem_map.1 member
    exact isAsciiDigit_digitPoint digit
  have none : rest.takeWhile CodePoint.isAsciiDigit = [] ∧
      rest.dropWhile CodePoint.isAsciiDigit = rest := by
    cases rest with
    | nil => exact ⟨rfl, rfl⟩
    | cons c rest =>
      have other := stop c rfl
      constructor
      · rw [List.takeWhile_cons_of_neg (by simp [other])]
      · rw [List.dropWhile_cons_of_neg (by simp [other])]
  rw [Reader.spanDigits, List.takeWhile_append_of_pos all, List.dropWhile_append_of_pos all, none.1,
    none.2, List.append_nil]

/-- Digits denote the number that they spell. -/
theorem digitsNat_spelled (digits : List (Fin 10)) :
    Text.digitsNat (Text.spelled digits) = Text.numberOf digits := by
  have value : ∀ digit : Fin 10, (Text.digitPoint digit).toNat - ('0' : Char).toNat = digit.val := by
    decide
  simp only [Text.digitsNat, Text.spelled, Text.numberOf, Text.digitsValue, List.foldl_map, value]

/-- Digits without a superfluous zero are taken off before the point. -/
theorem wholeDigits_spelled {digits : List (Fin 10)} (whole : Text.IsWhole digits) {rest : Text}
    (stop : ∀ c ∈ rest.head?, c.isAsciiDigit = false) :
    Reader.wholeDigits (Text.spelled digits ++ rest) = .ok (Text.spelled digits, rest) := by
  cases whole with
  | zero => rfl
  | leading nonempty leading =>
    unfold Reader.wholeDigits
    split
    · rename_i same
      cases digits with
      | nil => exact absurd rfl nonempty
      | cons digit digits =>
        have zero : Text.digitPoint digit = Text.digitPoint 0 := (List.cons.inj same).1
        exact absurd (congrArg some (Fin.ext (Text.digitPoint_inj.1 zero))) leading
    · rw [spanDigits_spelled digits stop]
      split
      · rename_i same
        exact absurd (List.map_eq_nil_iff.1 (Prod.mk.inj same).1) nonempty
      · rename_i same
        obtain ⟨rfl, rfl⟩ := Prod.mk.inj same
        rfl

/-- A point and the digits behind it are taken off, if there is a point. -/
theorem fraction?_pointed {fraction : Option (List (Fin 10))} (nonempty : fraction ≠ some [])
    {after : Text} (stop : ∀ c ∈ after.head?, c.isAsciiDigit = false ∧ c ≠ '.') :
    (Reader.fraction? (Text.pointed fraction ++ after)).getD ([], Text.pointed fraction ++ after) =
      (Text.spelled (fraction.getD []), after) := by
  cases fraction with
  | none =>
    have absent : Reader.fraction? after = none := by
      unfold Reader.fraction?
      split
      · exact absurd rfl (stop _ rfl).2
      · rfl
    rw [Text.pointed, List.nil_append, absent]
    rfl
  | some digits =>
    rw [Text.pointed, List.cons_append, Reader.fraction?,
      spanDigits_spelled digits fun c head => (stop c head).1]
    split
    · rename_i same
      exact absurd (List.map_eq_nil_iff.1 (Prod.mk.inj same).1) fun none =>
        nonempty (congrArg some none)
    · rename_i same
      obtain ⟨rfl, rfl⟩ := Prod.mk.inj same
      rfl

/-- A power of ten is taken off and read. -/
theorem exponent?_power (power : Power) {rest : Text}
    (stop : ∀ c ∈ rest.head?, c.isAsciiDigit = false) :
    Reader.exponent? (power.text ++ rest) = some (power.value, rest) := by
  have size : (Text.digitsNat (Text.spelled power.digits) : ℤ) =
      Text.digitsValue 0 (power.digits.map Fin.val) := by
    rw [digitsNat_spelled, Text.numberOf]
  unfold Reader.exponent? Power.text
  simp only [List.cons_append, true_or, ↓reduceIte, power.takeSign_text,
    spanDigits_spelled power.digits stop]
  split
  · rename_i same
    exact absurd (List.map_eq_nil_iff.1 (Prod.mk.inj same).1) power.digits_ne
  · rename_i same
    obtain ⟨rfl, rfl⟩ := Prod.mk.inj same
    rw [size]
    rfl

/-- Without the letter there is no power of ten. -/
theorem exponent?_none {rest : Text} (ends : EndsNumber rest) : Reader.exponent? rest = none := by
  unfold Reader.exponent?
  cases rest with
  | nil => rfl
  | cons c rest =>
    obtain ⟨-, -, small, capital⟩ := ends c rfl
    simp only [small, capital, or_self, ↓reduceIte]

/-! ## Magnitudes -/

variable {rest : Text}

/-- The power of ten of a numeral is taken off and read, and zero if there is none. -/
theorem exponent?_powerText (spelling : Spelling) (ends : EndsNumber rest) :
    (Reader.exponent? (spelling.powerText ++ rest)).getD (0, spelling.powerText ++ rest) =
      ((spelling.power.map Power.value).getD 0, rest) := by
  unfold Spelling.powerText
  cases spelling.power with
  | none =>
    rw [Option.map_none, Option.getD_none, List.nil_append, exponent?_none ends]
    rfl
  | some power =>
    rw [Option.map_some, Option.getD_some, exponent?_power power fun c head => (ends c head).1]
    rfl

/-- What follows a mantissa: a power of ten, or what may follow a number. -/
theorem powerText_head (spelling : Spelling) (ends : EndsNumber rest) :
    ∀ c ∈ (spelling.powerText ++ rest).head?, c.isAsciiDigit = false ∧ c ≠ '.' := by
  unfold Spelling.powerText
  cases spelling.power with
  | none =>
    intro c head
    exact ⟨(ends c head).1, (ends c head).2.1⟩
  | some power =>
    intro c head
    cases head
    decide

/-- The whole digits of a numeral are taken off. -/
theorem wholeDigits_unsigned {spelling : Spelling} (plain : spelling.mantissa.Plain)
    (ends : EndsNumber rest) :
    Reader.wholeDigits (spelling.unsigned ++ rest) = .ok (Text.spelled spelling.mantissa.whole,
      Text.pointed spelling.mantissa.fraction ++ (spelling.powerText ++ rest)) := by
  have stop : ∀ c ∈ (Text.pointed spelling.mantissa.fraction ++
      (spelling.powerText ++ rest)).head?, c.isAsciiDigit = false := by
    cases fraction : spelling.mantissa.fraction with
    | none => exact fun c head => (powerText_head spelling ends c head).1
    | some digits =>
      intro c head
      cases head
      decide
  rw [Spelling.unsigned, Mantissa.unsignedBefore, List.append_assoc, List.append_assoc,
    wholeDigits_spelled plain.whole stop]

/-- A numeral with a point or a power of ten is read as the double next to it. -/
theorem magnitude_marked {spelling : Spelling} (plain : spelling.mantissa.Plain)
    (marked : spelling.Marked) (ends : EndsNumber rest) (negative : Bool) :
    Reader.magnitude negative (spelling.unsigned ++ rest) =
      .ok (.double ({ spelling.decimal with negative } : Decimal).toDouble, rest) := by
  have longer : rest.length ≠ (Text.pointed spelling.mantissa.fraction ++
      (spelling.powerText ++ rest)).length := by
    rw [List.length_append, List.length_append]
    rcases marked with fraction | power
    · cases same : spelling.mantissa.fraction with
      | none => exact absurd same fraction
      | some digits =>
        rw [Text.pointed, List.length_cons]
        omega
    · unfold Spelling.powerText
      cases same : spelling.power with
      | none => exact absurd same power
      | some power =>
        rw [Option.map_some, Option.getD_some, Power.text, List.length_cons]
        omega
  have coefficient : Text.digitsNat (Text.spelled spelling.mantissa.whole ++
      Text.spelled (spelling.mantissa.fraction.getD [])) = spelling.decimal.coefficient := by
    rw [← Text.spelled_append, digitsNat_spelled, Text.numberOf_append, ← Text.digitsValue_eq]
    rfl
  have exponent : (spelling.power.map Power.value).getD 0 -
      ((Text.spelled (spelling.mantissa.fraction.getD [])).length : ℤ) =
        spelling.decimal.exponent := by
    rw [Text.spelled_length]
    simp only [Spelling.decimal, Mantissa.numeral, Numeral.toDecimal, List.length_map]
    rfl
  unfold Reader.magnitude
  simp only [wholeDigits_unsigned plain ends, fraction?_pointed plain.fraction
    (powerText_head spelling ends), exponent?_powerText spelling ends, if_neg longer, coefficient,
    exponent]

/-- Digits alone are read as an integer. -/
theorem magnitude_whole {digits : List (Fin 10)} (whole : Text.IsWhole digits)
    (few : digits.length ≤ digitLimit) (ends : EndsNumber rest) (negative : Bool) :
    Reader.magnitude negative (Text.spelled digits ++ rest) =
      .ok (.int (if negative then -(Text.numberOf digits : ℤ) else Text.numberOf digits), rest) := by
  have fraction : (Reader.fraction? rest).getD ([], rest) = ([], rest) :=
    @fraction?_pointed none nofun rest fun c head => ⟨(ends c head).1, (ends c head).2.1⟩
  unfold Reader.magnitude
  simp only [wholeDigits_spelled whole fun c head => (ends c head).1, fraction, exponent?_none ends,
    Option.getD_none, ↓reduceIte, Text.spelled_length, if_neg (Nat.not_lt.2 few),
    digitsNat_spelled]

/-! ## Numbers with a sign -/

/-- A text does not start with what has another first character. -/
theorem isPrefixOf_of_ne {first c : CodePoint} (differs : first ≠ c) (name after : Text) :
    List.isPrefixOf (first :: name) (c :: after) = false := by
  rw [List.isPrefixOf_cons_cons, beq_false_of_ne differs, Bool.false_and]

/-- What starts with a minus sign or a digit is a number. -/
theorem valueWith_number {c : CodePoint} (start : c = '-' ∨ c.isAsciiDigit = true)
    (inner : Option (Reader Json)) (after : Text) :
    Reader.valueWith inner (c :: after) = Reader.number (c :: after) := by
  have other (first : CodePoint) (no_sign : first ≠ '-') (no_digit : first.isAsciiDigit = false) :
      c ≠ first := by
    rintro rfl
    rcases start with sign | digit
    · exact no_sign sign
    · rw [digit] at no_digit
      cases no_digit
  have no_name (first : CodePoint) (name : Text) (no_sign : first ≠ '-')
      (no_digit : first.isAsciiDigit = false) :
      List.isPrefixOf (first :: name) (c :: after) = false :=
    isPrefixOf_of_ne (other first no_sign no_digit).symm name after
  have no_constant : Reader.named? (c :: after) = none := by
    have null : ("null" : Text).isPrefixOf (c :: after) = false :=
      no_name 'n' _ (by decide) (by decide)
    have yes : ("true" : Text).isPrefixOf (c :: after) = false :=
      no_name 't' _ (by decide) (by decide)
    have no : ("false" : Text).isPrefixOf (c :: after) = false :=
      no_name 'f' _ (by decide) (by decide)
    have nan : ("NaN" : Text).isPrefixOf (c :: after) = false :=
      no_name 'N' _ (by decide) (by decide)
    have infinity : ("Infinity" : Text).isPrefixOf (c :: after) = false :=
      no_name 'I' _ (by decide) (by decide)
    simp only [Reader.named?, null, yes, no, nan, infinity, Bool.false_eq_true, ↓reduceIte]
  unfold Reader.valueWith
  split
  · rename_i same
    exact absurd (List.cons.inj same).1 (other '"' (by decide) (by decide))
  · rename_i same
    exact absurd (List.cons.inj same).1 (other '[' (by decide) (by decide))
  · rename_i same
    exact absurd (List.cons.inj same).1 (other '\x7b' (by decide) (by decide))
  · rw [no_constant]

/-- Digits with a sign are a number: their magnitude with that sign. -/
theorem valueWith_signed {digits : List (Fin 10)} (nonempty : digits ≠ []) (negative : Bool)
    (inner : Option (Reader Json)) (rest : Text) :
    Reader.valueWith inner (Display.signed negative (Text.spelled digits ++ rest)) =
      Reader.magnitude negative (Text.spelled digits ++ rest) := by
  cases digits with
  | nil => exact absurd rfl nonempty
  | cons digit digits =>
    have first : (Text.digitPoint digit).isAsciiDigit = true := isAsciiDigit_digitPoint digit
    have text : Text.spelled (digit :: digits) ++ rest =
        Text.digitPoint digit :: (Text.spelled digits ++ rest) := rfl
    rw [text]
    generalize Text.digitPoint digit = c at first
    generalize Text.spelled digits ++ rest = after
    cases negative with
    | false =>
      rw [Display.signed, if_neg Bool.false_ne_true, valueWith_number (.inr first)]
      unfold Reader.number
      split
      · rename_i same
        rw [(List.cons.inj same).1] at first
        cases first
      · rfl
    | true =>
      have letter : CodePoint.char 'I' ≠ c := by
        rintro rfl
        cases first
      have infinity : ("Infinity" : Text).isPrefixOf (c :: after) = false :=
        isPrefixOf_of_ne letter _ after
      rw [Display.signed, if_pos rfl, valueWith_number (.inl rfl), Reader.number, infinity,
        if_neg Bool.false_ne_true]

/-! ## Values that compare as numbers -/

/-- The layout of doubles in files writes no far powers of ten. -/
theorem exact_near : Layout.exact.Near where
  least := by decide
  greatest := by decide
  width := by decide

/-- The layout of doubles in files writes a point or a power of ten. -/
theorem exact_write_marked (s : Scaled) :
    ('.' : CodePoint) ∈ Layout.exact.write s ∨ ('e' : CodePoint) ∈ Layout.exact.write s := by
  unfold Layout.write
  simp only
  split
  · left
    unfold Layout.positional
    split
    · simp [Text.ofString]
    · simp [Text.ofString]
    · split
      · simp [Layout.exact, Text.ofString]
      · simp [Text.ofString]
  · right
    unfold Layout.scientific
    simp only [List.mem_append]
    refine .inl (.inr ?_)
    split
    all_goals decide

/-- The text of a double without its sign. -/
def magnitudeText (units : ℕ) : Text :=
  if units = 0 then ("0.0" : Text) else Layout.exact.write (shortest units)

/-- A double's text is a numeral next to it. -/
theorem exists_spells {units : ℕ} (exact : Representable units) :
    ∃ q, (magnitudeText units).Spells q ∧ UnitsNear (q * unitsPerOne) units := by
  rcases Nat.eq_zero_or_pos units with rfl | positive
  · have spells := Text.spells_pointed [0] (some [0]) .zero (by simp) (by simp) (by simp)
    refine ⟨_, spells, ?_⟩
    have none : Text.numberOf ([0] ++ (some [0]).getD []) = 0 := rfl
    rw [none, Nat.cast_zero, zero_div, zero_mul]
    exact_mod_cast UnitsNear.self (Nat.dvd_zero _)
  · have spells := Layout.spells_write exact_near (shortest_moderate positive exact.lt_limit)
      (shortest_coefficient_pos positive exact)
    rw [magnitudeText, if_neg positive.ne']
    exact ⟨_, spells, shortest_near positive exact⟩

/-- A double's text has a point or a power of ten. -/
theorem magnitudeText_marked (units : ℕ) :
    ('.' : CodePoint) ∈ magnitudeText units ∨ ('e' : CodePoint) ∈ magnitudeText units := by
  unfold magnitudeText
  split
  · decide
  · exact exact_write_marked _

/-- A numeral with a character that is no digit has a point or a power of ten. -/
theorem marked_of_mem {spelling : Spelling} {c : CodePoint} (member : c ∈ spelling.unsigned)
    (no_digit : c.isAsciiDigit = false) : spelling.Marked := by
  by_contra unmarked
  rw [Spelling.Marked, not_or, not_not, not_not] at unmarked
  have digits : spelling.unsigned = Text.spelled spelling.mantissa.whole := by
    rw [Spelling.unsigned, Mantissa.unsignedBefore, Spelling.powerText, unmarked.1, unmarked.2,
      Option.map_none, Option.getD_none, Text.pointed, List.append_nil, List.append_nil]
  rw [digits] at member
  obtain ⟨digit, -, rfl⟩ := List.mem_map.1 member
  rw [isAsciiDigit_digitPoint] at no_digit
  cases no_digit

/-- What is written for a finite double is read as that double. -/
theorem valueWith_double {units : ℕ} (exact : Representable units) (negative : Bool)
    (inner : Option (Reader Json)) (ends : EndsNumber rest) :
    Reader.valueWith inner (Display.signed negative (magnitudeText units ++ rest)) =
      .ok (.double (.finite negative units exact), rest) := by
  obtain ⟨q, ⟨spelling, -, plain, text, size⟩, near⟩ := exists_spells exact
  have marked : spelling.Marked := by
    have mark := magnitudeText_marked units
    rw [← text] at mark
    rcases mark with point | letter
    · exact marked_of_mem point (by decide)
    · exact marked_of_mem letter (by decide)
  have double : ({ spelling.decimal with negative } : Decimal).toDouble =
      .finite negative units exact := by
    refine Decimal.toDouble_eq_finite_iff.2 ⟨rfl, ?_⟩
    rw [← size] at near
    exact near
  have start := valueWith_signed spelling.mantissa.whole_ne negative inner
    (Text.pointed spelling.mantissa.fraction ++ (spelling.powerText ++ rest))
  have whole : Text.spelled spelling.mantissa.whole ++
      (Text.pointed spelling.mantissa.fraction ++ (spelling.powerText ++ rest)) =
        spelling.unsigned ++ rest := by
    rw [Spelling.unsigned, Mantissa.unsignedBefore, List.append_assoc, List.append_assoc]
  rw [whole, magnitude_marked plain marked ends, double] at start
  rw [← text, start]

/-- What is written for an integer of few digits is read as that integer. -/
theorem valueWith_int {n : ℤ} (few : Text.exceedsDigitLimit n = false)
    (inner : Option (Reader Json)) (ends : EndsNumber rest) :
    Reader.valueWith inner (Text.ofInt n ++ rest) = .ok (.int n, rest) := by
  obtain ⟨digits, whole, -, numeral, value⟩ := Text.exists_whole n.natAbs
  have length : digits.length ≤ digitLimit := by
    rw [← Text.spelled_length, numeral, ← Text.digitCount]
    rw [Text.exceedsDigitLimit, decide_eq_false_iff_not, Nat.not_le] at few
    exact (Text.digitCount_le_iff (by decide)).2 few
  have sign : (if decide (n < 0) = true then -(n.natAbs : ℤ) else n.natAbs) = n := by
    simp only [decide_eq_true_eq]
    split <;> omega
  rw [Text.ofInt_eq_signed, ← Display.signed_append, ← numeral, valueWith_signed whole.ne_nil,
    magnitude_whole whole length ends, value, sign]

/-- A value that compares as a number and is read back: a truth value, an integer of few digits, or a
double that is a number. -/
def IsReading : Json → Prop
  | .bool _ => True
  | .int n => Text.exceedsDigitLimit n = false
  | .double value => value ≠ .nan
  | _ => False

/-- Such a value can be written. -/
theorem IsReading.not_exceedsDigitLimit {value : Json} (reading : value.IsReading) :
    value.exceedsDigitLimit = false := by
  cases value with
  | int n => exact reading
  | _ => first | rfl | cases reading

/-- What is written for such a value is read as that value. -/
theorem valueWith_write {value : Json} (reading : value.IsReading) (inner : Option (Reader Json))
    (ends : EndsNumber rest) : Reader.valueWith inner (value.write ++ rest) = .ok (value, rest) := by
  cases value with
  | bool value =>
    cases value
    · rfl
    · rfl
  | int n =>
    rw [write]
    exact valueWith_int reading inner ends
  | double value =>
    cases value with
    | nan => exact absurd rfl reading
    | infinite negative =>
      cases negative
      · rfl
      · rfl
    | finite negative units exact =>
      have text : write (.double (.finite negative units exact)) =
          Display.signed negative (magnitudeText units) := rfl
      rw [text, ← Display.signed_append, valueWith_double exact negative inner ends]
  | null => cases reading
  | string text => cases reading
  | array items => cases reading
  | object fields => cases reading

/-! ## ASCII -/

/-- Digits are ASCII characters. -/
theorem isAscii_spelled (digits : List (Fin 10)) : (Text.spelled digits).IsAscii := by
  have digit : ∀ digit : Fin 10, (Text.digitPoint digit).isAscii = true := by decide
  intro c member
  obtain ⟨value, -, rfl⟩ := List.mem_map.1 member
  exact digit value

/-- A numeral without its sign is ASCII text. -/
theorem isAscii_unsigned (spelling : Spelling) : spelling.unsigned.IsAscii := by
  have point : (Text.pointed spelling.mantissa.fraction).IsAscii := by
    cases spelling.mantissa.fraction with
    | none => exact fun c member => absurd member List.not_mem_nil
    | some digits => exact .cons (by decide) (isAscii_spelled digits)
  have power : spelling.powerText.IsAscii := by
    unfold Spelling.powerText
    cases spelling.power with
    | none => exact fun c member => absurd member List.not_mem_nil
    | some power =>
      have sign : power.sign.isAscii = true := by
        unfold Power.sign
        split <;> decide
      exact .cons (by decide) (.cons sign (isAscii_spelled _))
  exact (isAscii_spelled _).append (point.append power)

/-- A sign in front of ASCII text makes ASCII text. -/
theorem isAscii_signed {text : Text} (ascii : text.IsAscii) (negative : Bool) :
    (Display.signed negative text).IsAscii := by
  unfold Display.signed
  split
  · exact .cons (by decide) ascii
  · exact ascii

/-- What is written for a value that compares as a number is ASCII text. -/
theorem isAscii_write {value : Json} (reading : value.IsReading) : value.write.IsAscii := by
  cases value with
  | bool value =>
    cases value
    all_goals
      unfold Text.IsAscii
      decide
  | int n =>
    obtain ⟨digits, -, -, numeral, -⟩ := Text.exists_whole n.natAbs
    rw [write, Text.ofInt_eq_signed, ← numeral]
    exact isAscii_signed (isAscii_spelled digits) _
  | double value =>
    cases value with
    | nan => exact absurd rfl reading
    | infinite negative =>
      cases negative
      all_goals
        unfold Text.IsAscii
        decide
    | finite negative units exact =>
      obtain ⟨-, ⟨spelling, -, -, text, -⟩, -⟩ := exists_spells exact
      have signed := isAscii_signed (isAscii_unsigned spelling) negative
      rwa [text] at signed
  | null => cases reading
  | string text => cases reading
  | array items => cases reading
  | object fields => cases reading

/-! ## What is read -/

section Found

variable {text : Text}

/-- Digits are taken off, and the end of the text is left. -/
theorem spanDigits_found (text : Text) :
    (Reader.spanDigits text).1.AllDigits ∧ (Reader.spanDigits text).2 <:+ text :=
  ⟨fun _ member => List.all_eq_true.1 List.all_takeWhile _ member, List.dropWhile_suffix _⟩

/-- Digits before the point are digits, and the end of the text is left. -/
theorem wholeDigits_found {digits : Text} (found : Reader.wholeDigits text = .ok (digits, rest)) :
    digits.AllDigits ∧ rest <:+ text := by
  unfold Reader.wholeDigits at found
  split at found
  · cases found
    refine ⟨fun c member => ?_, List.suffix_cons _ _⟩
    rw [List.mem_singleton.1 member]
    decide
  · have span := spanDigits_found text
    split at found
    · cases found
    · rename_i same
      cases found
      rw [same] at span
      exact span

/-- Behind a point the end of the text is left. -/
theorem fraction?_found {digits : Text} (found : Reader.fraction? text = some (digits, rest)) :
    rest <:+ text := by
  unfold Reader.fraction? at found
  split at found
  · rename_i after
    have span := spanDigits_found after
    split at found
    · cases found
    · rename_i same
      cases found
      rw [same] at span
      exact span.2.trans (List.suffix_cons _ _)
  · cases found

/-- Behind a sign the end of the text is left. -/
theorem takeSign_suffix (text : Text) : (Text.takeSign text).2 <:+ text := by
  unfold Text.takeSign
  split
  · exact List.suffix_cons _ _
  · exact List.suffix_cons _ _
  · exact List.suffix_rfl

/-- Behind a power of ten the end of the text is left. -/
theorem exponent?_found {power : ℤ} (found : Reader.exponent? text = some (power, rest)) :
    rest <:+ text := by
  unfold Reader.exponent? at found
  split at found
  · rename_i mark after
    have sign := takeSign_suffix after
    have span := spanDigits_found (Text.takeSign after).2
    split at found
    · simp only at found
      split at found
      · cases found
      · rename_i same
        cases found
        rw [same] at span
        exact span.2.trans (sign.trans (List.suffix_cons _ _))
    · cases found
  · cases found

/-- A value that has no text and no other values in it. An integer has few digits. -/
def IsScalar : Json → Prop
  | .int n => Text.exceedsDigitLimit n = false
  | .null | .bool _ | .double _ => True
  | _ => False

/-- A magnitude is read as a scalar, and the end of the text is left. -/
theorem magnitude_found {negative : Bool} {value : Json}
    (found : Reader.magnitude negative text = .ok (value, rest)) :
    rest <:+ text ∧ value.IsScalar := by
  unfold Reader.magnitude at found
  split at found
  · cases found
  · rename_i whole afterWhole same
    obtain ⟨digits, whole_suffix⟩ := wholeDigits_found same
    have fraction_suffix : ((Reader.fraction? afterWhole).getD ([], afterWhole)).2 <:+ afterWhole := by
      cases fraction : Reader.fraction? afterWhole with
      | none => exact List.suffix_rfl
      | some read => exact fraction?_found fraction
    generalize (Reader.fraction? afterWhole).getD ([], afterWhole) = read at found fraction_suffix
    obtain ⟨fraction, afterFraction⟩ := read
    have power_suffix :
        ((Reader.exponent? afterFraction).getD (0, afterFraction)).2 <:+ afterFraction := by
      cases power : Reader.exponent? afterFraction with
      | none => exact List.suffix_rfl
      | some read => exact exponent?_found power
    simp only at found fraction_suffix
    generalize (Reader.exponent? afterFraction).getD (0, afterFraction) = read at found power_suffix
    obtain ⟨power, after⟩ := read
    have left := power_suffix.trans (fraction_suffix.trans whole_suffix)
    simp only at found
    split at found
    · split at found
      · cases found
      · rename_i few
        cases found
        obtain ⟨values, rfl⟩ := Text.exists_spelled digits
        have size (n : ℕ) : (if negative then -(n : ℤ) else n).natAbs = n := by
          split
          · rw [Int.natAbs_neg, Int.natAbs_natCast]
          · exact Int.natAbs_natCast n
        rw [Text.spelled_length] at few
        refine ⟨left, Text.exceedsDigitLimit_eq_false.2 ?_⟩
        rw [size, digitsNat_spelled]
        exact Nat.lt_of_lt_of_le (Text.numberOf_lt values)
          (Nat.pow_le_pow_right (by decide) (Nat.le_of_not_lt few))
    · cases found
      exact ⟨left, trivial⟩

/-- A number is read as a scalar, and the end of the text is left. -/
theorem number_found {value : Json} (found : Reader.number text = .ok (value, rest)) :
    rest <:+ text ∧ value.IsScalar := by
  unfold Reader.number at found
  split at found
  · split at found
    · cases found
      exact ⟨(List.drop_suffix _ _).trans (List.suffix_cons _ _), trivial⟩
    · obtain ⟨left, scalar⟩ := magnitude_found found
      exact ⟨left.trans (List.suffix_cons _ _), scalar⟩
  · exact magnitude_found found

/-- A name is read as a scalar, and the end of the text is left. -/
theorem named?_found {value : Json} (found : Reader.named? text = some (value, rest)) :
    rest <:+ text ∧ value.IsScalar := by
  unfold Reader.named? at found
  repeat' split at found
  all_goals cases found
  all_goals exact ⟨List.drop_suffix _ _, trivial⟩

end Found

end Json

end Reckoner
