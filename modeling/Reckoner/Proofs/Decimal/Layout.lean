import Reckoner.Double.Layout
import Reckoner.Proofs.Decimal.Numeral
import Reckoner.Proofs.Double.ReadsBack

/-!
# What a layout writes

Every layout writes a numeral of the magnitude that it is given: the zeros that it puts beside the
digits, the point and the power of ten move the digits to where their exponent has them.
-/

namespace Reckoner

/-- A layout that writes powers of ten except near the point, and does not fill up their exponents
far. -/
structure Layout.Near (layout : Layout) : Prop where
  least : -1000 ≤ layout.leastPositional
  greatest : layout.firstScientific ≤ 1000
  width : layout.exponentWidth ≤ 10

namespace Text

/-- Zeros in front of digits do not change their number. -/
theorem numberOf_zeros_append (count : ℕ) (digits : List (Fin 10)) :
    numberOf (List.replicate count 0 ++ digits) = numberOf digits := by
  rw [numberOf_append, numberOf_zeros, Nat.zero_mul, Nat.zero_add]

/-- A zero behind digits makes ten times their number. -/
theorem numberOf_concat_zero (digits : List (Fin 10)) :
    numberOf (digits ++ [0]) = numberOf digits * 10 := numberOf_append digits [0]

/-- Digits, perhaps with a point among them, and a power of ten are a numeral. -/
theorem spells_power (whole : List (Fin 10)) (fraction : Option (List (Fin 10)))
    (plain : IsWhole whole) (nonempty : fraction ≠ some []) (few : whole.length ≤ 10 ^ 15)
    (few_decimals : (fraction.getD []).length ≤ 10 ^ 15) (power : Power)
    (few_power : power.digits.length ≤ 15) :
    (spelled whole ++ pointed fraction ++ power.text).Spells
      (numberOf (whole ++ fraction.getD []) * 10 ^ (power.value - (fraction.getD []).length)) := by
  let spelling : Spelling := ⟨⟨false, whole, fraction, plain.ne_nil⟩, some power⟩
  refine ⟨spelling, ⟨⟨few, few_decimals⟩, ?_⟩, ⟨plain, nonempty⟩, ?_, spelling.size_decimal⟩
  · intro written same
    rwa [← Option.some.inj same]
  · simp only [spelling, Spelling.unsigned, Mantissa.unsignedBefore, Spelling.powerText,
      Option.map_some, Option.getD_some, List.append_assoc]

/-- A numeral filled up with zeros is spelled by digits. -/
theorem exists_filled (width n : ℕ) : ∃ digits : List (Fin 10), digits ≠ [] ∧
    digits.length ≤ width + digitCount n ∧ spelled digits = padZeros width (ofNat n) ∧
      numberOf digits = n := by
  obtain ⟨digits, nonempty, numeral, value⟩ := exists_digits n
  have count : digits.length = digitCount n := by rw [← spelled_length, numeral, digitCount]
  refine ⟨List.replicate (width - digitCount n) 0 ++ digits, by simp [nonempty], ?_, ?_, ?_⟩
  · rw [List.length_append, List.length_replicate]
    omega
  · rw [spelled_append, spelled_zeros, numeral]
    rfl
  · rw [numberOf_zeros_append]
    exact value

end Text

namespace Layout

variable {layout : Layout} {digits : List (Fin 10)}

/-- Digits behind a zero, a point and more zeros are a numeral. -/
theorem spells_behindPoint (nonempty : digits ≠ []) (few : digits.length ≤ 10000) {gap : ℕ}
    (small : gap ≤ 2000) : (("0." : Text) ++ Text.zeros gap ++ Text.spelled digits).Spells
      (Text.numberOf digits * 10 ^ (-(gap + digits.length : ℕ) : ℤ)) := by
  have spells := Text.spells_pointed [0] (some (List.replicate gap 0 ++ digits)) .zero
    (by simp [nonempty]) (by simp) (by simp; omega)
  have value : (Text.numberOf ([0] ++ (List.replicate gap 0 ++ digits)) : ℚ) /
      10 ^ (List.replicate gap 0 ++ digits).length =
        Text.numberOf digits * 10 ^ (-(gap + digits.length : ℕ) : ℤ) := by
    rw [show [0] = List.replicate 1 (0 : Fin 10) from rfl, Text.numberOf_zeros_append,
      Text.numberOf_zeros_append, zpow_neg, zpow_natCast, List.length_append, List.length_replicate,
      div_eq_mul_inv]
  have text : ("0." : Text) ++ Text.zeros gap ++ Text.spelled digits =
      Text.spelled [0] ++ Text.pointed (some (List.replicate gap 0 ++ digits)) := by
    rw [Text.pointed, Text.spelled_append, Text.spelled_zeros, List.append_assoc]
    rfl
  rw [← value, text]
  exact spells

/-- Digits with zeros behind them, and perhaps a point and a zero, are a numeral. -/
theorem spells_beforeZeros (nonempty : digits ≠ []) (leading : digits.head? ≠ some 0)
    (few : digits.length ≤ 10000) {count : ℕ} (small : count ≤ 2000) (pointed : Bool) :
    (Text.spelled digits ++ Text.zeros count ++ (if pointed then (".0" : Text) else [])).Spells
      (Text.numberOf digits * 10 ^ count) := by
  have plain : Text.IsWhole (digits ++ List.replicate count 0) := by
    refine .leading (by simp [nonempty]) ?_
    rwa [List.head?_append_of_ne_nil _ nonempty]
  have few_whole : (digits ++ List.replicate count (0 : Fin 10)).length ≤ 10 ^ 15 := by
    rw [List.length_append, List.length_replicate]
    omega
  have number : (Text.numberOf (digits ++ List.replicate count 0) : ℚ) =
      Text.numberOf digits * 10 ^ count := by
    rw [Text.numberOf_append, Text.numberOf_zeros, List.length_replicate, Nat.add_zero,
      Nat.cast_mul, Nat.cast_pow, Nat.cast_ofNat]
  rw [← Text.spelled_zeros, ← Text.spelled_append, ← number]
  cases pointed with
  | false =>
    have spells := Text.spells_pointed _ none plain nofun few_whole (by simp)
    rwa [Option.getD_none, List.append_nil, List.length_nil, pow_zero, div_one] at spells
  | true =>
    have spells := Text.spells_pointed _ (some [0]) plain (by simp) few_whole (by simp)
    rw [Option.getD_some, Text.numberOf_concat_zero, Nat.cast_mul, Nat.cast_ofNat,
      List.length_singleton, pow_one, mul_div_cancel_right₀ _ (by norm_num)] at spells
    exact spells

/-- Digits with a point among or beside them are a numeral. -/
theorem spells_positional (nonempty : digits ≠ []) (leading : digits.head? ≠ some 0)
    (few : digits.length ≤ 10000) {whole : ℤ} (least : -2000 ≤ whole) (greatest : whole ≤ 2000) :
    (layout.positional (Text.spelled digits) whole).Spells
      (Text.numberOf digits * 10 ^ (whole - digits.length)) := by
  unfold positional
  split
  · rename_i gap
    have exponent : Int.negSucc gap - digits.length = -((gap + 1 + digits.length : ℕ) : ℤ) := by
      omega
    rw [exponent]
    exact spells_behindPoint nonempty few (by omega)
  · have exponent : Int.ofNat 0 - digits.length = -((0 + digits.length : ℕ) : ℤ) := by
      simp
    rw [exponent]
    exact spells_behindPoint nonempty few (Nat.zero_le _)
  · rename_i count some_digit
    rw [Text.spelled_length]
    split
    · rename_i enough
      have exponent : Int.ofNat count - digits.length = (count - digits.length : ℕ) := by
        rw [Int.ofNat_eq_natCast]
        omega
      rw [exponent, zpow_natCast]
      rw [Int.ofNat_eq_natCast] at greatest
      exact spells_beforeZeros nonempty leading few (by omega) layout.pointZero
    · rename_i more
      have front : digits.take count ≠ [] := by
        rw [ne_eq, List.take_eq_nil_iff, not_or]
        exact ⟨fun zero => some_digit (by rw [zero]), nonempty⟩
      have back : digits.drop count ≠ [] := by
        rw [ne_eq, List.drop_eq_nil_iff]
        omega
      have plain : Text.IsWhole (digits.take count) := by
        refine .leading front ?_
        rwa [← List.head?_append_of_ne_nil _ front, List.take_append_drop]
      have spells := Text.spells_pointed _ (some (digits.drop count)) plain (by simp [back])
        (by rw [List.length_take]; omega) (by rw [Option.getD_some, List.length_drop]; omega)
      have exponent : Int.ofNat count - digits.length = -((digits.drop count).length : ℤ) := by
        rw [Int.ofNat_eq_natCast, List.length_drop]
        omega
      rw [Option.getD_some, List.take_append_drop] at spells
      rw [exponent, zpow_neg, zpow_natCast, ← div_eq_mul_inv, List.append_assoc]
      have text : (Text.spelled digits).take count ++ (("." : Text) ++ (Text.spelled digits).drop count) =
          Text.spelled (digits.take count) ++ Text.pointed (some (digits.drop count)) := by
        rw [Text.spelled, Text.spelled, Text.pointed, Text.spelled, List.map_take, List.map_drop]
        rfl
      rw [text]
      exact spells

/-- The power of ten that is written behind digits. -/
theorem exists_power {exponent : ℤ} (near : layout.Near) (small : exponent.natAbs ≤ 10000) :
    ∃ power : Power, power.digits.length ≤ 15 ∧ power.value = exponent ∧
      power.text = (if exponent < 0 then ("e-" : Text) else "e+") ++
        Text.padZeros layout.exponentWidth (Text.ofNat exponent.natAbs) := by
  obtain ⟨digits, nonempty, length, numeral, value⟩ :=
    Text.exists_filled layout.exponentWidth exponent.natAbs
  have count : Text.digitCount exponent.natAbs ≤ 5 :=
    (Text.digitCount_le_iff (by decide)).2 (by omega)
  have width := near.width
  refine ⟨⟨decide (exponent < 0), digits, nonempty⟩, by simp only; omega, ?_, ?_⟩
  · have size : Text.digitsValue 0 (digits.map Fin.val) = exponent.natAbs := value
    unfold Power.value
    simp only [size, decide_eq_true_eq]
    split <;> omega
  · unfold Power.text Power.sign
    simp only [numeral, decide_eq_true_eq]
    split <;> rfl

/-- Digits with a power of ten are a numeral. -/
theorem spells_scientific (near : layout.Near) (nonempty : digits ≠ [])
    (leading : digits.head? ≠ some 0) (few : digits.length ≤ 10000) {exponent : ℤ}
    (small : exponent.natAbs ≤ 10000) :
    (layout.scientific (Text.spelled digits) exponent).Spells
      (Text.numberOf digits * 10 ^ (exponent + 1 - digits.length)) := by
  obtain ⟨power, few_power, value, text⟩ := exists_power near small
  have plain {digit : Fin 10} {rest : List (Fin 10)} (leading : (digit :: rest).head? ≠ some 0) :
      Text.IsWhole [digit] := .leading (by simp) leading
  unfold scientific
  rw [List.append_assoc, ← text]
  cases digits with
  | nil => exact absurd rfl nonempty
  | cons digit rest =>
    cases rest with
    | nil =>
      have point : (if layout.scientificPoint then (".0" : Text) else []) =
          Text.pointed (if layout.scientificPoint then some [0] else none) := by
        split <;> rfl
      have spells := Text.spells_power _ (if layout.scientificPoint then some [0] else none)
        (plain leading) (by split <;> simp) (by simp) (by split <;> simp) power few_power
      have number : (Text.numberOf ([digit] ++
            (if layout.scientificPoint then some [(0 : Fin 10)] else none).getD []) : ℚ) *
          10 ^ (power.value -
            ((if layout.scientificPoint then some [(0 : Fin 10)] else none).getD []).length) =
          Text.numberOf [digit] * 10 ^ (exponent + 1 - [digit].length) := by
        rw [value, List.length_singleton, Nat.cast_one, Int.add_sub_cancel]
        split
        · rw [Option.getD_some, Text.numberOf_concat_zero, List.length_singleton, Nat.cast_mul,
            Nat.cast_ofNat, Nat.cast_one, mul_assoc, ← zpow_one_add₀ (by norm_num),
            add_sub_cancel]
        · rw [Option.getD_none, List.append_nil, List.length_nil, Nat.cast_zero, sub_zero]
      rw [number] at spells
      rw [← point] at spells
      exact spells
    | cons next rest =>
      have spells := Text.spells_power _ (some (next :: rest)) (plain leading) (by simp)
        (by simp) (by simp at few ⊢; omega) power few_power
      have number : power.value - ((some (next :: rest)).getD []).length =
          exponent + 1 - (digit :: next :: rest).length := by
        rw [value, Option.getD_some]
        simp only [List.length_cons]
        omega
      rw [number] at spells
      exact spells

/-- A layout writes a numeral of the magnitude that it is given. -/
theorem spells_write (near : layout.Near) {s : Scaled} (moderate : s.Moderate)
    (positive : 0 < s.coefficient) : (layout.write s).Spells s.toRat := by
  obtain ⟨digits, plain, leading, numeral, value⟩ := Text.exists_whole s.coefficient
  have count : digits.length = Text.digitCount s.coefficient := by
    rw [← Text.spelled_length, numeral, Text.digitCount]
  have few : Text.digitCount s.coefficient ≤ 1500 :=
    (Text.digitCount_le_iff (by decide)).2 moderate.coefficient
  have some_digit := Text.digitCount_pos s.coefficient
  have least := moderate.least
  have greatest := moderate.greatest
  have exponent : s.leading + 1 - digits.length = s.exponent := by
    unfold Scaled.leading
    omega
  unfold write
  simp only [← numeral]
  rw [Scaled.toRat, ← exponent, ← value]
  split
  · have := near.least
    have := near.greatest
    exact spells_positional plain.ne_nil (leading positive.ne') (by omega) (by omega) (by omega)
  · exact spells_scientific near plain.ne_nil (leading positive.ne') (by omega)
      (by unfold Scaled.leading; omega)

end Layout

end Reckoner
