import Reckoner.Proofs.Decimal.Value
import Reckoner.Proofs.Text.Order

/-!
# What a numeral is worth

A numeral is read as a decimal whose rational value follows from its digits: those before the point
and those behind it make one number, and the point and the power of ten only move it. So a text
denotes the same rational however many zeros stand at its ends; the numerals that are written have
none that could be left out in front.
-/

namespace Reckoner

namespace Text

/-- The number that digits denote, most significant first. -/
def numberOf (digits : List (Fin 10)) : ℕ := digitsValue 0 (digits.map Fin.val)

/-- Digits behind a number move it to the left. -/
theorem digitsValue_eq (before : ℕ) (digits : List (Fin 10)) :
    digitsValue before (digits.map Fin.val) = before * 10 ^ digits.length + numberOf digits := by
  induction digits generalizing before with
  | nil => simp [digitsValue, numberOf]
  | cons digit digits ih =>
    have step (n : ℕ) : digitsValue n ((digit :: digits).map Fin.val) =
        digitsValue (n * 10 + digit) (digits.map Fin.val) := rfl
    rw [numberOf, step, step, ih, ih (0 * 10 + digit), List.length_cons, Nat.pow_succ]
    ring

/-- Digits put together denote the first number moved to the left by the second one. -/
theorem numberOf_append (front back : List (Fin 10)) :
    numberOf (front ++ back) = numberOf front * 10 ^ back.length + numberOf back := by
  rw [← digitsValue_eq, numberOf, List.map_append, digitsValue, List.foldl_append]
  rfl

/-- Digits denote a number below the power of ten of their count. -/
theorem numberOf_lt (digits : List (Fin 10)) : numberOf digits < 10 ^ digits.length := by
  have bound := digitsValue_lt 0 digits
  rwa [Nat.zero_add, Nat.one_mul] at bound

/-- Zeros denote zero. -/
theorem numberOf_zeros (count : ℕ) : numberOf (List.replicate count 0) = 0 := by
  induction count with
  | zero => rfl
  | succ count ih => exact ih

/-- Zeros are spelled by zeros. -/
theorem spelled_zeros (count : ℕ) : spelled (List.replicate count 0) = zeros count :=
  List.map_replicate

/-- Digits put together are spelled one after the other. -/
theorem spelled_append (front back : List (Fin 10)) :
    spelled (front ++ back) = spelled front ++ spelled back := List.map_append

/-- Digits before a point without a superfluous zero: a single zero, or a first digit that is
another one. -/
inductive IsWhole : List (Fin 10) → Prop
  | zero : IsWhole [0]
  | leading {digits : List (Fin 10)} (nonempty : digits ≠ []) (first : digits.head? ≠ some 0) :
      IsWhole digits

/-- Digits behind a point without a superfluous zero: at least one, no more than places, and the
last one is not a zero. -/
structure IsFraction (places : ℕ) (digits : List (Fin 10)) : Prop where
  nonempty : digits ≠ []
  few : digits.length ≤ places
  last : digits.getLast? ≠ some 0

/-- There is a digit before the point. -/
theorem IsWhole.ne_nil {digits : List (Fin 10)} (whole : IsWhole digits) : digits ≠ [] := by
  cases whole with
  | zero => simp
  | leading nonempty _ => exact nonempty

/-- Behind a zero at the front there is nothing. -/
theorem IsWhole.eq_nil {rest : List (Fin 10)} (whole : IsWhole (0 :: rest)) : rest = [] := by
  cases whole with
  | zero => rfl
  | leading _ first => exact absurd rfl first

/-- A single digit is not superfluous. -/
theorem isWhole_singleton (digit : Fin 10) : IsWhole [digit] := by
  by_cases zero : digit = 0
  · rw [zero]
    exact .zero
  · exact .leading (List.cons_ne_nil _ _) (fun first => zero (Option.some.inj first))

/-- Another digit may follow digits that are no single zero. -/
theorem IsWhole.concat {digits : List (Fin 10)} (whole : IsWhole digits) (other : digits ≠ [0])
    (digit : Fin 10) : IsWhole (digits ++ [digit]) := by
  cases whole with
  | zero => exact absurd rfl other
  | leading nonempty first =>
    obtain ⟨front, rest, rfl⟩ := List.exists_cons_of_ne_nil nonempty
    exact .leading (List.cons_ne_nil _ _) first

/-- No zero was superfluous before the last digit. -/
theorem IsWhole.of_concat {digits : List (Fin 10)} {digit : Fin 10}
    (whole : IsWhole (digits ++ [digit])) (nonempty : digits ≠ []) : IsWhole digits := by
  obtain ⟨front, rest, rfl⟩ := List.exists_cons_of_ne_nil nonempty
  refine .leading nonempty fun first => ?_
  obtain rfl : front = 0 := Option.some.inj first
  have none : rest ++ [digit] = [] := whole.eq_nil
  simp at none

/-- A number is spelled by digits without a superfluous zero. -/
theorem exists_whole (n : ℕ) : ∃ digits, IsWhole digits ∧ (n ≠ 0 → digits.head? ≠ some 0) ∧
    spelled digits = ofNat n ∧ numberOf digits = n := by
  obtain ⟨digits, nonempty, numeral, value⟩ := exists_digits n
  rcases Nat.eq_zero_or_pos n with rfl | positive
  · exact ⟨[0], .zero, fun nonzero => absurd rfl nonzero, rfl, rfl⟩
  · have leading : digits.head? ≠ some 0 := by
      intro zero
      obtain ⟨rest, rfl⟩ : ∃ rest, digits = 0 :: rest := by
        cases digits with
        | nil => cases zero
        | cons digit rest => exact ⟨rest, by rw [Option.some.inj zero]⟩
      -- Without the zero in front the number would have fewer digits than are written.
      have few : n < 10 ^ rest.length := by
        rw [← value]
        exact numberOf_lt rest
      have count : digitCount n = rest.length + 1 := by
        rw [digitCount, ← numeral, spelled_length, List.length_cons]
      have many := pow_digitCount_le positive
      rw [count, Nat.add_sub_cancel] at many
      omega
    exact ⟨digits, .leading nonempty leading, fun _ => leading, numeral, value⟩

/-! ## Denoting -/

/-- A text is read as a decimal with a rational value. -/
def Denotes (text : Text) (q : ℚ) : Prop :=
  ∃ decimal, Decimal.ofText? text = some decimal ∧ decimal.toRat = q

/-- A text denotes one rational at most. -/
theorem Denotes.unique {text : Text} {q r : ℚ} (left : text.Denotes q) (right : text.Denotes r) :
    q = r := by
  obtain ⟨decimal, read, rfl⟩ := left
  obtain ⟨decimal', read', rfl⟩ := right
  rw [Option.some.inj (read.symm.trans read')]

/-- A single zero denotes zero. -/
theorem denotes_zero : Denotes ("0" : Text) 0 := ⟨⟨false, 0, 0⟩, by decide +kernel, zero_mul _⟩

end Text

/-- A numeral without a superfluous zero in front, and with digits behind its point. -/
structure Mantissa.Plain (mantissa : Mantissa) : Prop where
  whole : Text.IsWhole mantissa.whole
  fraction : mantissa.fraction ≠ some []

namespace Spelling

/-- The magnitude of a numeral: all its digits make one number, moved by the point and the power
of ten. -/
theorem size_decimal (spelling : Spelling) : spelling.decimal.size =
    Text.numberOf (spelling.mantissa.whole ++ spelling.mantissa.decimals) *
      10 ^ ((spelling.power.map Power.value).getD 0 - spelling.mantissa.decimals.length) := by
  have digits : Text.digitsValue (Text.digitsValue 0 (spelling.mantissa.whole.map Fin.val))
      (spelling.mantissa.decimals.map Fin.val) =
        Text.numberOf (spelling.mantissa.whole ++ spelling.mantissa.decimals) := by
    rw [Text.digitsValue_eq, Text.numberOf_append]
    rfl
  simp only [Decimal.size, decimal, Mantissa.numeral, Numeral.toDecimal, digits, List.length_map]

end Spelling

namespace Text

/-- A text without a sign is a short numeral of a magnitude. -/
def Spells (text : Text) (q : ℚ) : Prop :=
  ∃ spelling : Spelling, spelling.Short ∧ spelling.mantissa.Plain ∧ spelling.unsigned = text ∧
    spelling.decimal.size = q

/-- A numeral with a sign denotes its magnitude with that sign. -/
theorem Spells.denotes {text : Text} {q : ℚ} (spells : text.Spells q) (negative : Bool) :
    (Display.signed negative text).Denotes (signedRat negative q) := by
  obtain ⟨⟨mantissa, power⟩, short, -, rfl, rfl⟩ := spells
  let signed : Spelling := ⟨{ mantissa with negative }, power⟩
  have short' : signed.Short :=
    ⟨⟨short.mantissa.whole, short.mantissa.decimals⟩, short.power⟩
  exact ⟨signed.decimal, short'.ofText?_text, rfl⟩

/-- Digits, perhaps with a point and digits behind it, are a numeral. -/
theorem spells_pointed (whole : List (Fin 10)) (fraction : Option (List (Fin 10)))
    (plain : IsWhole whole) (nonempty : fraction ≠ some []) (few : whole.length ≤ 10 ^ 15)
    (few_decimals : (fraction.getD []).length ≤ 10 ^ 15) :
    (spelled whole ++ pointed fraction).Spells
      (numberOf (whole ++ fraction.getD []) / 10 ^ (fraction.getD []).length) := by
  let spelling : Spelling := ⟨⟨false, whole, fraction, plain.ne_nil⟩, none⟩
  refine ⟨spelling, ⟨⟨few, few_decimals⟩, nofun⟩, ⟨plain, nonempty⟩, ?_, ?_⟩
  · simp only [spelling, Spelling.unsigned, Mantissa.unsignedBefore, Spelling.powerText,
      Option.map_none, Option.getD_none, List.append_nil]
  · rw [spelling.size_decimal]
    show (numberOf (whole ++ fraction.getD []) : ℚ) * 10 ^ ((0 : ℤ) - _) = _
    rw [zero_sub, zpow_neg, zpow_natCast, div_eq_mul_inv]
    rfl

end Text

/-! ## Fixed places -/

namespace Text

/-- Zeros at the end of digits are trimmed, and nothing else is. -/
theorem exists_trimmed (digits : List (Fin 10)) : ∃ kept count,
    digits = kept ++ List.replicate count 0 ∧ kept.getLast? ≠ some 0 ∧
      trimEnd (· == '0') (spelled digits) = spelled kept := by
  induction digits using List.reverseRecOn with
  | nil => exact ⟨[], 0, rfl, by simp, rfl⟩
  | append_singleton front digit ih =>
    have last : spelled (front ++ [digit]) = spelled front ++ [digitPoint digit] :=
      spelled_append front [digit]
    by_cases zero : digit = 0
    · obtain ⟨kept, count, parts, ending, trimmed⟩ := ih
      refine ⟨kept, count + 1, ?_, ending, ?_⟩
      · rw [zero, List.replicate_succ', ← List.append_assoc, ← parts]
      · rw [← trimmed, last, zero, trimEnd, List.reverse_append]
        rfl
    · have differs : digitPoint digit ≠ '0' := fun same => zero (Fin.ext (digitPoint_inj.1 same))
      refine ⟨front ++ [digit], 0, by simp, ?_, ?_⟩
      · rw [List.getLast?_concat]
        exact fun same => zero (Option.some.inj same)
      · rw [last, trimEnd, List.reverse_append, List.reverse_singleton, List.singleton_append,
          List.dropWhile_cons_of_neg (by simpa using differs), List.reverse_cons,
          List.reverse_reverse]

end Text

namespace Display

/-- A number of steps of a power of ten below one, written out: digits without a superfluous zero in
front, and behind the point, if there is one, no more digits than places and no zero at the end. -/
theorem exists_fixedPoint {places : ℕ} (positive : 0 < places) (n : ℕ) :
    ∃ whole fraction, Text.IsWhole whole ∧
      (∀ decimals ∈ fraction, Text.IsFraction places decimals) ∧
      Text.spelled whole = Text.ofNat (n / 10 ^ places) ∧
      fixedPoint places n = Text.spelled whole ++ Text.pointed fraction ∧
      (Text.numberOf (whole ++ fraction.getD []) : ℚ) / 10 ^ (fraction.getD []).length =
        n / 10 ^ places := by
  obtain ⟨whole, plain, -, numeral, value⟩ := Text.exists_whole (n / 10 ^ places)
  have scale : (10 : ℚ) ^ places ≠ 0 := pow_ne_zero _ (by norm_num)
  have parts : (n : ℚ) = (n / 10 ^ places : ℕ) * 10 ^ places + (n % 10 ^ places : ℕ) := by
    exact_mod_cast (Nat.div_add_mod' n (10 ^ places)).symm
  unfold fixedPoint
  simp only
  split
  · rename_i zero
    refine ⟨whole, none, plain, nofun, numeral, by rw [numeral]; rfl, ?_⟩
    rw [zero, Nat.cast_zero, add_zero] at parts
    rw [Option.getD_none, List.append_nil, value, List.length_nil, pow_zero, div_one, parts,
      mul_div_cancel_right₀ _ scale]
  · rename_i nonzero
    obtain ⟨digits, length, padded, number⟩ :=
      Text.exists_padded positive (Nat.mod_lt n (Nat.pow_pos (by decide)))
    obtain ⟨kept, count, rfl, ending, trimmed⟩ := Text.exists_trimmed digits
    have moved : n % 10 ^ places = Text.numberOf kept * 10 ^ count := by
      rw [← number]
      show Text.numberOf _ = _
      rw [Text.numberOf_append, Text.numberOf_zeros, List.length_replicate, Nat.add_zero]
    rw [List.length_append, List.length_replicate] at length
    refine ⟨whole, some kept, plain, ?_, numeral, by rw [numeral, ← padded, trimmed]; rfl, ?_⟩
    · intro decimals same
      obtain rfl := Option.some.inj same
      refine ⟨?_, by omega, ending⟩
      rintro rfl
      exact nonzero (by rw [moved]; exact Nat.zero_mul _)
    · have shifted : (10 : ℚ) ^ places = 10 ^ kept.length * 10 ^ count := by
        rw [← length, pow_add]
      have scale' : (10 : ℚ) ^ count ≠ 0 := pow_ne_zero _ (by norm_num)
      have scale'' : (10 : ℚ) ^ kept.length ≠ 0 := pow_ne_zero _ (by norm_num)
      have fine : ((n % 10 ^ places : ℕ) : ℚ) = Text.numberOf kept * 10 ^ count := by
        exact_mod_cast moved
      rw [Option.getD_some, Text.numberOf_append, value, div_eq_div_iff scale'' scale, parts, fine,
        shifted]
      push_cast
      ring

end Display

end Reckoner
