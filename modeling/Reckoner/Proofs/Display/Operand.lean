import Reckoner.Arithmetic
import Reckoner.Proofs.Decimal.Spelling
import Reckoner.Proofs.Display.Finite

/-!
# Shown results are operands

Whatever the calculator shows for a finite value can be calculated with again: it is a numeral of
few digits. Each form in which a magnitude is written is followed here, whole numbers, numbers with
a point and powers of ten. What is shown for other values is a word that no reader of numerals
accepts.
-/

namespace Reckoner

namespace Text

/-- The text of a numeral that is short enough to be a decimal. -/
def IsOperand (text : Text) : Prop := ∃ spelling : Spelling, spelling.Short ∧ spelling.text = text

/-- The same without a sign. -/
def IsMagnitude (text : Text) : Prop :=
  ∃ spelling : Spelling, spelling.Short ∧ spelling.unsigned = text

/-- The same without a power of ten. -/
def IsMantissa (text : Text) : Prop :=
  ∃ mantissa : Mantissa, mantissa.Short ∧ mantissa.unsignedBefore [] = text

/-- An operand is a decimal. -/
theorem IsOperand.isSome {text : Text} (operand : text.IsOperand) :
    (Decimal.ofText? text).isSome = true := by
  obtain ⟨spelling, short, rfl⟩ := operand
  rw [short.ofText?_text]
  rfl

/-- The word for an error is no decimal. -/
theorem ofText?_error : Decimal.ofText? Display.error = none := by
  decide +kernel

/-! ## Putting numerals together -/

/-- A magnitude with a sign is an operand. -/
theorem IsMagnitude.signed {text : Text} (magnitude : text.IsMagnitude) (negative : Bool) :
    (Display.signed negative text).IsOperand := by
  obtain ⟨⟨mantissa, power⟩, short, rfl⟩ := magnitude
  exact ⟨⟨{ mantissa with negative }, power⟩,
    ⟨⟨short.mantissa.whole, short.mantissa.decimals⟩, short.power⟩, rfl⟩

/-- A mantissa is a magnitude. -/
theorem IsMantissa.isMagnitude {text : Text} (plain : text.IsMantissa) : text.IsMagnitude := by
  obtain ⟨mantissa, short, rfl⟩ := plain
  exact ⟨⟨mantissa, none⟩, ⟨short, fun power none => absurd none (by simp)⟩, rfl⟩

/-- Digits are a mantissa. -/
theorem isMantissa_whole {whole : Text} (digits : whole.AllDigits) (nonempty : whole ≠ [])
    (few : whole.length ≤ 10 ^ 15) : whole.IsMantissa := by
  obtain ⟨values, rfl⟩ := exists_spelled digits
  rw [spelled_length] at few
  have some_digit : values ≠ [] := fun empty => nonempty (by rw [empty]; rfl)
  refine ⟨⟨false, values, none, some_digit⟩, ⟨few, Nat.zero_le _⟩, ?_⟩
  simp only [Mantissa.unsignedBefore, pointed, List.append_nil]

/-- Digits with a point and digits after it are a mantissa. -/
theorem isMantissa_point {whole decimals : Text} (whole_digits : whole.AllDigits)
    (nonempty : whole ≠ []) (few_whole : whole.length ≤ 10 ^ 15)
    (decimals_digits : decimals.AllDigits) (few_decimals : decimals.length ≤ 10 ^ 15) :
    (whole ++ (('.' : CodePoint) :: decimals)).IsMantissa := by
  obtain ⟨values, rfl⟩ := exists_spelled whole_digits
  obtain ⟨others, rfl⟩ := exists_spelled decimals_digits
  rw [spelled_length] at few_whole few_decimals
  have some_digit : values ≠ [] := fun empty => nonempty (by rw [empty]; rfl)
  refine ⟨⟨false, values, some others, some_digit⟩, ⟨few_whole, few_decimals⟩, ?_⟩
  simp only [Mantissa.unsignedBefore, pointed, List.append_nil]

/-- A mantissa with a power of ten is a magnitude. -/
theorem IsMantissa.withPower {text digits : Text} (plain : text.IsMantissa) (negative : Bool)
    (all_digits : digits.AllDigits) (nonempty : digits ≠ []) (few : digits.length ≤ 15) :
    (text ++ (('e' : CodePoint) :: (if negative then '-' else '+') :: digits)).IsMagnitude := by
  obtain ⟨mantissa, short, rfl⟩ := plain
  obtain ⟨values, rfl⟩ := exists_spelled all_digits
  rw [spelled_length] at few
  have some_digit : values ≠ [] := fun empty => nonempty (by rw [empty]; rfl)
  refine ⟨⟨mantissa, some ⟨negative, values, some_digit⟩⟩, ⟨short, ?_⟩, ?_⟩
  · intro power same
    rw [← Option.some.inj same]
    exact few
  · simp only [Spelling.unsigned, Spelling.powerText, Option.map_some, Option.getD_some,
      Power.text, Power.sign, Mantissa.unsignedBefore, List.append_nil, List.append_assoc]

/-! ## Whole numbers -/

/-- The numeral of a whole number is a mantissa. -/
theorem isMantissa_ofNat {n : Nat} (few : digitCount n ≤ 10 ^ 15) : (ofNat n).IsMantissa :=
  isMantissa_whole (allDigits_ofNat n) (ofNat_ne_nil n) few

/-- The numeral of zero is an operand. -/
theorem isOperand_zero : IsOperand ['0'] :=
  (isMantissa_ofNat (n := 0) (by decide)).isMagnitude.signed false

end Text

/-- The numeral of an integer, if it may be written, is an operand. -/
theorem writeInt_isOperand {n : Int} {text : Text} (written : writeInt n = .ok text) :
    text.IsOperand := by
  unfold writeInt at written
  split at written
  · cases written
  · rename_i fits
    rw [← Except.ok.inj written]
    have small : n.natAbs < 10 ^ digitLimit := by
      simpa only [Text.exceedsDigitLimit, decide_eq_true_eq, Nat.not_le] using fits
    have few : Text.digitCount n.natAbs ≤ 10 ^ 15 :=
      Nat.le_trans ((Text.digitCount_le_iff (by decide)).2 small) (by decide)
    have magnitude := (Text.isMantissa_ofNat few).isMagnitude
    cases n with
    | ofNat n => exact magnitude.signed false
    | negSucc n => exact magnitude.signed true

namespace Display

/-! ## Quotients -/

/-- A numeral with a fixed number of decimal places is a mantissa. -/
theorem isMantissa_fixedPoint {places n : Nat} (few_places : places ≤ 1000)
    (few : Text.digitCount n ≤ 10000) : (fixedPoint places n).IsMantissa := by
  have whole := Text.digitCount_mono (Nat.div_le_self n (10 ^ places))
  have fraction := Text.digitCount_mono (Nat.mod_le n (10 ^ places))
  unfold fixedPoint
  simp only
  split
  · rw [List.append_nil]
    exact Text.isMantissa_ofNat (by omega)
  · have few_whole : (Text.ofNat (n / 10 ^ places)).length ≤ 10 ^ 15 :=
      Nat.le_trans whole (Nat.le_trans few (by decide))
    refine Text.isMantissa_point (Text.allDigits_ofNat _) (Text.ofNat_ne_nil _) few_whole ?_ ?_
    · exact ((Text.allDigits_zeros _).append (Text.allDigits_ofNat _)).sublist
        (Text.trimEnd_sublist _ _)
    · refine Nat.le_trans (Text.trimEnd_sublist _ _).length_le ?_
      rw [Text.padZeros, Text.zeros, List.length_append, List.length_replicate]
      have length : (Text.ofNat (n % 10 ^ places)).length ≤ 10000 := Nat.le_trans fraction few
      omega

/-- The number of steps of the last place to which a magnitude is rounded. -/
def countSteps (units : Nat) : Nat := roundHalfEven (units * 10 ^ quotientPlaces) unitsPerOne

/-- The steps to which a magnitude is rounded are not too many to be written. -/
theorem countSteps_lt {units : Nat} (exact : Representable units) : countSteps units < 10 ^ 1000 := by
  have size : countSteps units ≤ units * 10 ^ quotientPlaces :=
    roundHalfEven_le_of_le unitsPerOne_pos (Nat.le_mul_of_pos_left _ unitsPerOne_pos)
  have limit : unitsLimit * 10 ^ quotientPlaces ≤ 10 ^ 1000 := by decide +kernel
  have below : units * 10 ^ quotientPlaces < unitsLimit * 10 ^ quotientPlaces :=
    Nat.mul_lt_mul_of_pos_right exact.lt_limit (by decide)
  exact Nat.lt_of_le_of_lt size (Nat.lt_of_lt_of_le below limit)

/-- A finite quotient is shown as an operand. -/
theorem isOperand_quotient {value : Double} (finite : value.isFinite = true) :
    (quotient value).IsOperand := by
  cases value with
  | nan => cases finite
  | infinite negative => cases finite
  | finite negative units exact =>
    unfold quotient
    simp only
    split
    · exact Text.isOperand_zero
    · refine Text.IsMagnitude.signed (isMantissa_fixedPoint (by decide) ?_).isMagnitude negative
      have few := (Text.digitCount_le_iff (by decide)).2 (countSteps_lt exact)
      rw [countSteps] at few
      omega

/-- Every other quotient is shown as an error. -/
theorem quotient_eq_error {value : Double} (infinite : value.isFinite = false) :
    quotient value = error := by
  cases value with
  | nan => rfl
  | infinite negative => rfl
  | finite negative units exact => cases infinite

/-! ## Other results -/

/-- Digits with a point among or beside them are a mantissa. -/
theorem isMantissa_positional {digits : Text} (all_digits : digits.AllDigits)
    (nonempty : digits ≠ []) (few : digits.length ≤ 10000) {whole : Int} (least : -100 ≤ whole)
    (greatest : whole ≤ 100) : (layout.positional digits whole).IsMantissa := by
  have zero : Text.AllDigits ['0'] := Text.allDigits_zeros 1
  unfold Layout.positional
  split
  · rename_i gap
    have length : (Text.zeros (gap + 1) ++ digits).length ≤ 10 ^ 15 := by
      rw [Text.zeros, List.length_append, List.length_replicate]
      omega
    rw [List.append_assoc]
    exact Text.isMantissa_point zero (by simp) (by decide)
      ((Text.allDigits_zeros (gap + 1)).append all_digits) length
  · have length : digits.length ≤ 10 ^ 15 := Nat.le_trans few (by decide)
    exact Text.isMantissa_point zero (by simp) (by decide) all_digits length
  · rename_i count some_digit
    simp only [Int.ofNat_eq_natCast] at greatest
    split
    · rw [show layout.pointZero = false from rfl]
      simp only [Bool.false_eq_true, ↓reduceIte, List.append_nil]
      refine Text.isMantissa_whole (all_digits.append (Text.allDigits_zeros _)) ?_ ?_
      · simp [nonempty]
      · rw [Text.zeros, List.length_append, List.length_replicate]
        omega
    · have front : (digits.take count).length ≤ 10 ^ 15 := by
        rw [List.length_take]
        omega
      have back : (digits.drop count).length ≤ 10 ^ 15 := by
        rw [List.length_drop]
        omega
      have taken : digits.take count ≠ [] := by
        rw [ne_eq, List.take_eq_nil_iff, not_or]
        exact ⟨fun zero => some_digit (by rw [zero]), nonempty⟩
      have numeral := Text.isMantissa_point (all_digits.sublist (List.take_sublist _ _)) taken front
        (all_digits.sublist (List.drop_sublist _ _)) back
      rw [List.append_assoc]
      exact numeral

/-- Before its power of ten, a numeral has a mantissa with a point after the first digit, if others
follow. -/
theorem scientific_mantissa {digits : Text} (all_digits : digits.AllDigits)
    (nonempty : digits ≠ []) (few : digits.length ≤ 10000) (exponent : Int) :
    ∃ mantissa : Text, mantissa.IsMantissa ∧ layout.scientific digits exponent =
      mantissa ++ (if exponent < 0 then ("e-" : Text) else "e+") ++
        Text.padZeros layout.exponentWidth (Text.ofNat exponent.natAbs) := by
  cases digits with
  | nil => exact absurd rfl nonempty
  | cons first rest =>
    have whole : Text.AllDigits [first] := all_digits.sublist (by simp)
    cases rest with
    | nil => exact ⟨[first], Text.isMantissa_whole whole (by simp) (by simp), rfl⟩
    | cons next rest =>
      have decimals : Text.AllDigits (next :: rest) :=
        all_digits.sublist (List.sublist_cons_self _ _)
      rw [List.length_cons] at few
      exact ⟨_, Text.isMantissa_point whole (by simp) (by simp) decimals (by omega), rfl⟩

/-- Digits with a power of ten are a magnitude. -/
theorem isMagnitude_scientific {digits : Text} (all_digits : digits.AllDigits)
    (nonempty : digits ≠ []) (few : digits.length ≤ 10000) {exponent : Int}
    (small : exponent.natAbs < 10 ^ 14) : (layout.scientific digits exponent).IsMagnitude := by
  have power_digits : (Text.padZeros layout.exponentWidth (Text.ofNat exponent.natAbs)).AllDigits :=
    (Text.allDigits_zeros _).append (Text.allDigits_ofNat _)
  have power_nonempty : Text.padZeros layout.exponentWidth (Text.ofNat exponent.natAbs) ≠ [] := by
    simp [Text.padZeros, Text.ofNat_ne_nil]
  have power_few :
      (Text.padZeros layout.exponentWidth (Text.ofNat exponent.natAbs)).length ≤ 15 := by
    have count : (Text.ofNat exponent.natAbs).length ≤ 14 :=
      (Text.digitCount_le_iff (by decide)).2 small
    rw [Text.padZeros, Text.zeros, List.length_append, List.length_replicate,
      show layout.exponentWidth = 1 from rfl]
    omega
  have sign : (if exponent < 0 then ("e-" : Text) else "e+") =
      ('e' : CodePoint) :: [if decide (exponent < 0) then '-' else '+'] := by
    by_cases below : exponent < 0
    · simp only [below, decide_true, ↓reduceIte]
      rfl
    · simp only [below, decide_false, Bool.false_eq_true, ↓reduceIte]
      rfl
  obtain ⟨mantissa, plain, written⟩ := scientific_mantissa all_digits nonempty few exponent
  rw [written, sign, List.append_assoc]
  exact plain.withPower (decide (exponent < 0)) power_digits power_nonempty power_few

/-- A decimal of moderate size is written as a magnitude. -/
theorem isMagnitude_write {s : Scaled} (moderate : s.Moderate) :
    (layout.write s).IsMagnitude := by
  have count : Text.digitCount s.coefficient ≤ 1500 :=
    (Text.digitCount_le_iff (by decide)).2 moderate.coefficient
  have few : (Text.ofNat s.coefficient).length ≤ 10000 := Nat.le_trans count (by decide)
  have least := moderate.least
  have greatest := moderate.greatest
  have leading : s.leading.natAbs < 10 ^ 14 := by
    unfold Scaled.leading
    omega
  unfold Layout.write
  simp only
  split
  · rename_i within
    have bounds : -6 ≤ s.leading ∧ s.leading < 21 := within
    exact (isMantissa_positional (Text.allDigits_ofNat _) (Text.ofNat_ne_nil _) few (by omega)
      (by omega)).isMagnitude
  · exact isMagnitude_scientific (Text.allDigits_ofNat _) (Text.ofNat_ne_nil _) few leading

/-- The nonzero magnitude of a finite double is written as a magnitude. -/
theorem isMagnitude_magnitude {units : Nat} (positive : 0 < units) (finite : units < unitsLimit) :
    (magnitude units).IsMagnitude := by
  unfold magnitude
  split
  · have limit : unitsLimit ≤ 10 ^ 1000 := by decide +kernel
    have size : units / unitsPerOne < 10 ^ 1000 :=
      Nat.lt_of_le_of_lt (Nat.div_le_self _ _) (Nat.lt_of_lt_of_le finite limit)
    have few := (Text.digitCount_le_iff (by decide)).2 size
    exact (Text.isMantissa_ofNat (by omega)).isMagnitude
  · exact isMagnitude_write (shortest_moderate positive finite)

/-- A finite result is shown as an operand. -/
theorem isOperand_result {value : Double} (finite : value.isFinite = true) :
    (result value).IsOperand := by
  cases value with
  | nan => cases finite
  | infinite negative => cases finite
  | finite negative units exact =>
    unfold result
    simp only
    split
    · exact Text.isOperand_zero
    · rename_i nonzero
      have rounding := rounded_isFinite negative (Nat.pos_of_ne_zero nonzero) exact
      cases near : rounded negative units with
      | nan => rw [near] at rounding; cases rounding
      | infinite negative => rw [near] at rounding; cases rounding
      | finite negative units exact =>
        simp only
        split
        · exact Text.isOperand_zero
        · rename_i nonzero
          exact (isMagnitude_magnitude (Nat.pos_of_ne_zero nonzero) exact.lt_limit).signed negative

/-- Every other result is shown as an error. -/
theorem result_eq_error {value : Double} (infinite : value.isFinite = false) :
    result value = error := by
  cases value with
  | nan => rfl
  | infinite negative => rfl
  | finite negative units exact => cases infinite

/-- The value of an expression is shown as an operand or as an error. -/
theorem isOperand_evaluation (e : Evaluation) :
    (evaluation e).IsOperand ∨ evaluation e = error := by
  unfold evaluation
  cases finite : e.value.isFinite with
  | false =>
    rw [quotient_eq_error finite, result_eq_error finite]
    exact .inr (by simp)
  | true =>
    split
    · exact .inl (isOperand_quotient finite)
    · exact .inl (isOperand_result finite)

/-- What is shown for an expression is an operand or an error. -/
theorem isOperand_expression {depth : Nat} {expression text : Text}
    (shown : expression? depth expression = some text) :
    text.IsOperand ∨ text = error := by
  unfold expression? at shown
  split at shown
  · rw [← Option.some.inj shown]
    exact isOperand_evaluation _
  · exact .inr (Option.some.inj shown).symm
  · exact .inr (Option.some.inj shown).symm
  · cases shown

end Display

end Reckoner
