import Mathlib.Data.Rat.Floor
import Reckoner.Arithmetic
import Reckoner.Proofs.Decimal.Numeral
import Reckoner.Proofs.Service.Local

/-!
# Fractions that are dropped

To drop the fraction of a rational is to round it toward zero. A decimal is cut down to the integer
that is left of its exact value, however many digits it has and wherever its point stands, and the
quotient of two integers is what is left of their exact quotient. So what is shown of a sum, a
difference or a product is the numeral of the exact result on the two integers that are left of the
operands.
-/

namespace Reckoner

/-! ## Rationals -/

/-- The integer that is left of a rational without its fraction. -/
def towardZero (q : ℚ) : ℤ := if 0 ≤ q then ⌊q⌋ else ⌈q⌉

/-- What is left of a rational that is not negative. -/
theorem towardZero_of_nonneg {q : ℚ} (nonneg : 0 ≤ q) : towardZero q = ⌊q⌋ := if_pos nonneg

/-- The sign of a rational is left as it is. -/
theorem towardZero_neg (q : ℚ) : towardZero (-q) = -towardZero q := by
  unfold towardZero
  rcases lt_trichotomy q 0 with negative | rfl | positive
  · have opposite : 0 ≤ -q := by linarith
    rw [if_pos opposite, if_neg (not_le.2 negative), Int.floor_neg]
  · simp
  · have opposite : ¬0 ≤ -q := by linarith
    rw [if_neg opposite, if_pos positive.le, Int.ceil_neg]

/-- What is left of a magnitude with a sign. -/
theorem towardZero_signedRat (negative : Bool) {q : ℚ} (nonneg : 0 ≤ q) :
    towardZero (signedRat negative q) = if negative then -⌊q⌋ else ⌊q⌋ := by
  cases negative with
  | true =>
    have opposite := towardZero_neg q
    rw [towardZero_of_nonneg nonneg] at opposite
    exact opposite
  | false => exact towardZero_of_nonneg nonneg

/-- What is left of the quotient of two natural numbers. -/
theorem towardZero_natCast_div (m n : ℕ) : towardZero ((m : ℚ) / n) = (m / n : ℕ) := by
  have nonneg : (0 : ℚ) ≤ m / n := div_nonneg (Nat.cast_nonneg m) (Nat.cast_nonneg n)
  rw [towardZero_of_nonneg nonneg, Rat.floor_natCast_div_natCast]
  rfl

/-! ## Decimals -/

namespace Decimal

/-- The whole part of a decimal with places behind the point is a quotient by a power of ten. -/
theorem wholePart_negSucc (negative : Bool) (coefficient shift : ℕ) :
    wholePart ⟨negative, coefficient, .negSucc shift⟩ = coefficient / 10 ^ (shift + 1) := by
  unfold wholePart
  simp only
  by_cases zero : coefficient = 0
  · rw [if_pos zero, zero, Nat.zero_div]
  · rw [if_neg zero]
    by_cases small : coefficient.log2 < shift
    · -- With fewer bits than places there is no digit before the point.
      have below : coefficient < 10 ^ (shift + 1) := by
        calc coefficient < 2 ^ (coefficient.log2 + 1) := Nat.lt_log2_self
          _ ≤ 2 ^ (shift + 1) := Nat.pow_le_pow_right (by decide) (by omega)
          _ ≤ 10 ^ (shift + 1) := Nat.pow_le_pow_left (by decide) _
      rw [if_pos small, Nat.div_eq_of_lt below]
    · rw [if_neg small]

/-- The whole part of a decimal is what is left of its magnitude. -/
theorem wholePart_eq_floor (d : Decimal) : (d.wholePart : ℤ) = ⌊d.size⌋ := by
  obtain ⟨negative, coefficient, exponent⟩ := d
  cases exponent with
  | ofNat shift =>
    have whole : wholePart ⟨negative, coefficient, .ofNat shift⟩ = coefficient * 10 ^ shift := by
      unfold wholePart
      simp only
      by_cases zero : coefficient = 0
      · rw [if_pos zero, zero, Nat.zero_mul]
      · rw [if_neg zero]
    have value : size ⟨negative, coefficient, .ofNat shift⟩ = (coefficient * 10 ^ shift : ℕ) := by
      rw [size, Int.ofNat_eq_natCast, zpow_natCast]
      push_cast
      rfl
    rw [whole, value, Int.floor_natCast]
  | negSucc shift =>
    have value : size ⟨negative, coefficient, .negSucc shift⟩ =
        (coefficient : ℚ) / (10 ^ (shift + 1) : ℕ) := by
      rw [size, zpow_negSucc, ← div_eq_mul_inv]
      push_cast
      rfl
    rw [wholePart_negSucc, value, Rat.floor_natCast_div_natCast]
    rfl

/-- A decimal is cut down to the integer that is left of its value. -/
theorem truncate_eq (d : Decimal) : d.truncate = towardZero d.toRat := by
  rw [truncate, wholePart_eq_floor, toRat, towardZero_signedRat d.negative d.size_nonneg]

end Decimal

/-! ## Quotients of integers -/

/-- An integer quotient cut toward zero: what remains is less than the divisor, and it is nothing or
has the sign of the dividend. -/
structure IsQuotient (x y q : ℤ) : Prop where
  less : (x - q * y).natAbs < y.natAbs
  sign : x - q * y = 0 ∨ (x - q * y).sign = x.sign

variable {x y q : ℤ}

/-- The quotient by a divisor other than zero is cut toward zero. -/
theorem isQuotient_tdiv (nonzero : y ≠ 0) (x : ℤ) : IsQuotient x y (x.tdiv y) := by
  have remains : x - x.tdiv y * y = x.tmod y := by rw [Int.tmod_def, mul_comm]
  constructor
  · rw [remains, Int.natAbs_tmod]
    exact Nat.mod_lt _ (Int.natAbs_pos.2 nonzero)
  · rw [remains]
    by_cases divides : y ∣ x
    · exact .inl (Int.tmod_eq_zero_of_dvd divides)
    · exact .inr (by rw [Int.sign_tmod, if_neg divides])

/-- There is one such quotient only. -/
theorem IsQuotient.unique {q' : ℤ} (first : IsQuotient x y q) (second : IsQuotient x y q') :
    q = q' := by
  have same_side {r : ℤ} (sign : r = 0 ∨ r.sign = x.sign) : 0 ≤ x ∧ 0 ≤ r ∨ x < 0 ∧ r ≤ 0 := by
    rcases lt_trichotomy x 0 with negative | zero | positive
    · rw [Int.sign_eq_neg_one_of_neg negative, Int.sign_eq_neg_one_iff_neg] at sign
      omega
    · rw [zero, Int.sign_zero, Int.sign_eq_zero_iff_zero] at sign
      omega
    · rw [Int.sign_eq_one_of_pos positive, Int.sign_eq_one_iff_pos] at sign
      omega
  -- Both remainders lie on the side of the dividend, so their difference is less than the divisor.
  have left := same_side first.sign
  have right := same_side second.sign
  have near : ((q' - q) * y).natAbs < y.natAbs := by
    have apart : (q' - q) * y = (x - q * y) - (x - q' * y) := by ring
    have less := first.less
    have less' := second.less
    rw [apart]
    omega
  rw [Int.natAbs_mul] at near
  have small : (q' - q).natAbs < 1 := Nat.lt_of_mul_lt_mul_right (by rwa [Nat.one_mul])
  omega

/-- What is left of the exact quotient is the quotient cut toward zero. -/
theorem towardZero_div (x y : ℤ) : towardZero ((x : ℚ) / y) = x.tdiv y := by
  have naturals (m n : ℕ) : towardZero (((m : ℤ) : ℚ) / ((n : ℤ) : ℚ)) = (m : ℤ).tdiv n := by
    rw [Int.cast_natCast, Int.cast_natCast]
    exact towardZero_natCast_div m n
  obtain ⟨m, first⟩ := x.eq_nat_or_neg
  obtain ⟨n, second⟩ := y.eq_nat_or_neg
  rcases first with rfl | rfl
  · rcases second with rfl | rfl
    · exact naturals m n
    · rw [Int.cast_neg, div_neg, towardZero_neg, Int.tdiv_neg, naturals]
  · rcases second with rfl | rfl
    · rw [Int.cast_neg, neg_div, towardZero_neg, Int.neg_tdiv, naturals]
    · rw [Int.cast_neg, Int.cast_neg, neg_div_neg_eq, Int.neg_tdiv, Int.tdiv_neg, neg_neg, naturals]

/-! ## Operands as typed -/

namespace Text

variable {text left right : Text} {p r : ℚ}

/-- A text that denotes no rational is read as no decimal. -/
theorem ofText?_eq_none_iff_denotes : Decimal.ofText? text = none ↔ ∀ q, ¬text.Denotes q := by
  constructor
  · rintro unread q ⟨decimal, read, -⟩
    rw [unread] at read
    cases read
  · intro nothing
    by_contra read
    obtain ⟨decimal, read⟩ := Option.ne_none_iff_exists'.1 read
    exact nothing decimal.toRat ⟨decimal, read, rfl⟩

/-- The integer in an operand is what is left of the rational that it denotes. -/
theorem operandInt?_eq_some_iff {n : ℤ} :
    operandInt? text = some n ↔ ∃ q, text.Denotes q ∧ towardZero q = n := by
  rw [operandInt?, Option.map_eq_some_iff]
  constructor
  · rintro ⟨decimal, read, rfl⟩
    exact ⟨decimal.toRat, ⟨decimal, read, rfl⟩, decimal.truncate_eq.symm⟩
  · rintro ⟨q, ⟨decimal, read, rfl⟩, rfl⟩
    exact ⟨decimal, read, decimal.truncate_eq⟩

/-- Something is shown of two operands, or refused, exactly if both denote a rational. -/
theorem previewOfKey_eq_none_iff {key : Text} : previewOfKey key left right = .ok none ↔
    ¬((∃ p, left.Denotes p) ∧ ∃ q, right.Denotes q) := by
  unfold previewOfKey
  cases first : Decimal.ofText? left with
  | none =>
    have nothing := ofText?_eq_none_iff_denotes.1 first
    exact iff_of_true rfl fun both => both.1.elim nothing
  | some x =>
    cases second : Decimal.ofText? right with
    | none =>
      have nothing := ofText?_eq_none_iff_denotes.1 second
      exact iff_of_true rfl fun both => both.2.elim nothing
    | some y =>
      refine iff_of_false ?_ (not_not_intro ⟨⟨_, x, first, rfl⟩, ⟨_, y, second, rfl⟩⟩)
      intro shown
      obtain ⟨operator, -, rest⟩ := bind_eq_ok_iff.1 shown
      obtain ⟨result, -, same⟩ := bind_eq_ok_iff.1 rest
      cases same

/-- Of two operands that denote rationals, the numeral of the exact result on what is left of them
is shown, unless it has too many digits. -/
theorem previewOfKey_denotes {operator : Operator} (whole : operator ≠ .divide)
    (first : left.Denotes p) (second : right.Denotes r) :
    previewOfKey [operator.key] left right =
      some <$> writeInt (operator.exact (towardZero p) (towardZero r)) := by
  obtain ⟨x, left_read, rfl⟩ := first
  obtain ⟨y, right_read, rfl⟩ := second
  have named : Operator.ofKey [operator.key] = .ok operator := by cases operator <;> rfl
  have applied := Operator.apply_eq_exact (fun divides => absurd divides whole) x.truncate
    (y := y.truncate)
  have shown : shownResult operator x y = operator.apply x.truncate y.truncate >>= writeInt := by
    cases operator with
    | divide => exact absurd rfl whole
    | add | subtract | multiply => rfl
  rw [applied, x.truncate_eq, y.truncate_eq] at shown
  simp only [previewOfKey, left_read, right_read, named, shown, bind, Except.bind]
  cases writeInt (operator.exact (towardZero x.toRat) (towardZero y.toRat)) with
  | error e => rfl
  | ok text => rfl

end Text

/-- The quotient that is asked for by its key is defined for every divisor other than zero, and it
is what is left of the exact quotient. -/
theorem divide_eq_ok_iff : (Operator.ofKey "/" >>= fun operator => operator.apply x y) = .ok q ↔
    y ≠ 0 ∧ q = towardZero ((x : ℚ) / y) := by
  rw [show Operator.ofKey "/" = .ok .divide from rfl]
  show Operator.apply .divide x y = .ok q ↔ _
  rw [Operator.apply_eq_ok_iff, towardZero_div]
  exact and_congr_left fun _ => forall_prop_of_true rfl

/-- Nothing is lost before fractions are dropped. The integer in an operand is what is left of the
rational that the text denotes, and a text that denotes none has no integer. Of a sum, a difference
or a product nothing is shown unless both operands denote rationals, and then it is the numeral of
the exact result on what is left of them, if that numeral may be written. An integer quotient is
given for every divisor other than zero, and is what is left of the exact quotient: what remains is
less than the divisor, and it is nothing or has the sign of the dividend. -/
theorem truncates_exactly (left right : Text) (x y : ℤ) :
    (∀ n, operandInt? left = some n ↔ ∃ q, left.Denotes q ∧ towardZero q = n) ∧
    (∀ operator : Operator, operator ≠ .divide →
      (previewOfKey [operator.key] left right = .ok none ↔
        ¬((∃ p, left.Denotes p) ∧ ∃ q, right.Denotes q)) ∧
      ∀ p q, left.Denotes p → right.Denotes q →
        let result := operator.exact (towardZero p) (towardZero q)
        previewOfKey [operator.key] left right =
          if Text.exceedsDigitLimit result then .error .tooManyDigits
          else .ok (some (Text.ofInt result))) ∧
    ∀ q, ((Operator.ofKey "/" >>= fun operator => operator.apply x y) = .ok q ↔
        y ≠ 0 ∧ q = towardZero ((x : ℚ) / y)) ∧
      (y ≠ 0 ∧ q = towardZero ((x : ℚ) / y) ↔ IsQuotient x y q) := by
  refine ⟨fun n => Text.operandInt?_eq_some_iff, fun operator whole =>
    ⟨Text.previewOfKey_eq_none_iff, ?_⟩, fun q => ⟨divide_eq_ok_iff, ?_, fun quotient => ?_⟩⟩
  · intro p q first second result
    rw [Text.previewOfKey_denotes whole first second, writeInt]
    by_cases long : Text.exceedsDigitLimit result = true
    · rw [if_pos long, if_pos long]
      rfl
    · rw [if_neg long, if_neg long]
      rfl
  · rintro ⟨nonzero, rfl⟩
    rw [towardZero_div]
    exact isQuotient_tdiv nonzero x
  · have nonzero : y ≠ 0 := by
      rintro rfl
      exact absurd quotient.less (Nat.not_lt_zero _)
    rw [towardZero_div]
    exact ⟨nonzero, quotient.unique (isQuotient_tdiv nonzero x)⟩

end Reckoner
