import Reckoner.Proofs.Decimal.Whole

/-!
# Texts in order

Texts are compared as in a dictionary, by the numbers of their code points. Digits of the same
count compare as the numbers that they denote, so fields of a fixed width compare as numbers, and
what stands behind them decides only where they are equal. Numerals of different lengths need not
compare as their numbers do.
-/

namespace Reckoner

instance : Std.Asymm (fun left right : CodePoint => left < right) :=
  ⟨fun _ _ below above => Nat.lt_asymm below above⟩

instance : Std.Trichotomous (fun left right : CodePoint => left < right) :=
  ⟨fun _ _ notBelow notAbove => CodePoint.toNat_injective
    (Nat.le_antisymm (Nat.le_of_not_lt notAbove) (Nat.le_of_not_lt notBelow))⟩

namespace Text

/-- Of two different texts, one that does not come after the other comes before it. -/
theorem not_lt_iff_of_ne {left right : Text} (different : left ≠ right) :
    ¬right < left ↔ left < right := by
  constructor
  · intro notAbove
    by_contra notBelow
    exact different (List.le_antisymm (List.not_lt.1 notAbove) (List.not_lt.1 notBelow))
  · exact List.lt_asymm

/-- Behind the same code point, the rest decides. -/
theorem cons_lt_cons_iff {c : CodePoint} {front back : Text} :
    c :: front < c :: back ↔ front < back := by
  have irreflexive : ¬c < c := Nat.lt_irrefl _
  rw [List.cons_lt_cons_iff, iff_false_intro irreflexive, false_or, and_iff_right rfl]

/-! ## Digits -/

/-- Digits compare as their values. -/
theorem digitPoint_lt_iff : ∀ left right : Fin 10,
    digitPoint left < digitPoint right ↔ left.val < right.val := by
  decide

/-- Different digits have different characters. -/
theorem digitPoint_inj {left right : Fin 10} :
    digitPoint left = digitPoint right ↔ left.val = right.val := by
  constructor
  · intro same
    have values := congrArg digitValue? same
    rw [digitValue?_digitPoint, digitValue?_digitPoint] at values
    exact Option.some.inj values
  · intro same
    rw [Fin.ext same]

/-- Digits read after a number do not fall below the number with as many zeros. -/
theorem le_digitsValue (before : Nat) (digits : List (Fin 10)) :
    before * 10 ^ digits.length ≤ digitsValue before (digits.map Fin.val) := by
  induction digits generalizing before with
  | nil => simp [digitsValue]
  | cons digit digits ih =>
    refine Nat.le_trans ?_ (ih (before * 10 + digit))
    rw [List.length_cons, Nat.pow_succ', ← Nat.mul_assoc]
    exact Nat.mul_le_mul_right _ (Nat.le_add_right _ _)

/-- Equally many digits behind a smaller number make a smaller number. -/
theorem digitsValue_lt_digitsValue {first second : Nat} {left right : List (Fin 10)}
    (lt : first < second) (lengths : left.length = right.length) :
    digitsValue first (left.map Fin.val) < digitsValue second (right.map Fin.val) := by
  have room : (first + 1) * 10 ^ left.length ≤ digitsValue second (right.map Fin.val) := by
    rw [lengths]
    exact Nat.le_trans (Nat.mul_le_mul_right _ lt) (le_digitsValue second right)
  exact Nat.lt_of_lt_of_le (digitsValue_lt first left) room

/-- Equally many digits compare as their numbers; what follows decides where these are equal. -/
theorem spelled_append_lt_iff {left right : List (Fin 10)} (lengths : left.length = right.length)
    (before : Nat) (front back : Text) :
    spelled left ++ front < spelled right ++ back ↔
      digitsValue before (left.map Fin.val) < digitsValue before (right.map Fin.val) ∨
        digitsValue before (left.map Fin.val) = digitsValue before (right.map Fin.val) ∧
          front < back := by
  induction left generalizing right before with
  | nil =>
    obtain rfl := List.length_eq_zero_iff.1 lengths.symm
    simp [spelled]
  | cons first left ih =>
    cases right with
    | nil => cases lengths
    | cons second right =>
      have others : left.length = right.length := Nat.succ.inj lengths
      have below {a b : Fin 10} (lt : a.val < b.val) {left right : List (Fin 10)}
          (lengths : left.length = right.length) :
          digitsValue (before * 10 + a) (left.map Fin.val) <
            digitsValue (before * 10 + b) (right.map Fin.val) :=
        digitsValue_lt_digitsValue (Nat.add_lt_add_left lt _) lengths
      show digitPoint first :: (spelled left ++ front) <
          digitPoint second :: (spelled right ++ back) ↔
        digitsValue (before * 10 + first) (left.map Fin.val) <
            digitsValue (before * 10 + second) (right.map Fin.val) ∨
          digitsValue (before * 10 + first) (left.map Fin.val) =
            digitsValue (before * 10 + second) (right.map Fin.val) ∧ front < back
      rw [List.cons_lt_cons_iff, digitPoint_lt_iff, digitPoint_inj]
      rcases Nat.lt_trichotomy first.val second.val with lt | same | gt
      · exact ⟨fun _ => .inl (below lt others), fun _ => .inl lt⟩
      · obtain rfl := Fin.ext same
        have rest := ih others (before * 10 + first)
        simpa only [Nat.lt_irrefl, false_or, true_and] using rest
      · have above := below gt others.symm
        constructor
        · rintro (lt | ⟨same, -⟩)
          · omega
          · omega
        · rintro (lt | ⟨same, -⟩)
          · omega
          · omega

/-! ## Numerals -/

/-- Numerals with equally many digits compare as their numbers. -/
theorem ofNat_lt_ofNat_iff {left right : Nat} (counts : digitCount left = digitCount right) :
    ofNat left < ofNat right ↔ left < right := by
  obtain ⟨first, -, leftNumeral, leftValue⟩ := exists_digits left
  obtain ⟨second, -, rightNumeral, rightValue⟩ := exists_digits right
  have lengths : first.length = second.length := by
    rwa [← spelled_length, ← spelled_length, leftNumeral, rightNumeral]
  have order := spelled_append_lt_iff lengths 0 [] []
  rwa [List.append_nil, List.append_nil, leftNumeral, rightNumeral, leftValue, rightValue,
    iff_false_intro (List.not_lt_nil []), and_false, or_false] at order

/-- Different numbers have different numerals. -/
theorem ofNat_injective {left right : Nat} (same : ofNat left = ofNat right) : left = right := by
  have counts : digitCount left = digitCount right := congrArg List.length same
  have below := ofNat_lt_ofNat_iff counts
  have above := ofNat_lt_ofNat_iff counts.symm
  rw [same, iff_false_intro (List.lt_irrefl _), false_iff] at below above
  omega

/-- A numeral filled up with zeros is spelled by as many digits as it is wide. -/
theorem exists_padded {width n : Nat} (positive : 0 < width) (fits : n < 10 ^ width) :
    ∃ digits : List (Fin 10), digits.length = width ∧
      spelled digits = padZeros width (ofNat n) ∧ digitsValue 0 (digits.map Fin.val) = n := by
  obtain ⟨digits, -, numeral, value⟩ := exists_digits n
  have short : digitCount n ≤ width := (digitCount_le_iff positive).2 fits
  have count : digits.length = digitCount n := by rw [← spelled_length, numeral, digitCount]
  have padding (zeros : Nat) :
      digitsValue 0 ((List.replicate zeros (0 : Fin 10)).map Fin.val) = 0 := by
    induction zeros with
    | zero => rfl
    | succ zeros ih => exact ih
  refine ⟨List.replicate (width - digitCount n) 0 ++ digits, ?_, ?_, ?_⟩
  · rw [List.length_append, List.length_replicate]
    omega
  · rw [spelled, List.map_append, List.map_replicate, ← spelled, numeral]
    rfl
  · have joined (front : List (Fin 10)) : digitsValue 0 ((front ++ digits).map Fin.val) =
        digitsValue (digitsValue 0 (front.map Fin.val)) (digits.map Fin.val) := by
      rw [List.map_append, digitsValue, List.foldl_append]
      rfl
    rw [joined, padding, value]

/-- Numerals filled up to the same width compare as their numbers; what follows decides where
these are equal. -/
theorem padZeros_append_lt_iff {width left right : Nat} (positive : 0 < width)
    (first : left < 10 ^ width) (second : right < 10 ^ width) (front back : Text) :
    padZeros width (ofNat left) ++ front < padZeros width (ofNat right) ++ back ↔
      left < right ∨ left = right ∧ front < back := by
  obtain ⟨leftDigits, leftLength, leftNumeral, leftValue⟩ := exists_padded positive first
  obtain ⟨rightDigits, rightLength, rightNumeral, rightValue⟩ := exists_padded positive second
  have order := spelled_append_lt_iff (leftLength.trans rightLength.symm) 0 front back
  rwa [leftNumeral, rightNumeral, leftValue, rightValue] at order

/-- Digits before a mark that is below every digit compare like the digits alone; what follows the
mark decides where these are equal. -/
theorem digits_mark_lt_iff {left right : Text} (first : left.AllDigits) (second : right.AllDigits)
    {mark : CodePoint} (below : mark < ('0' : CodePoint)) (front back : Text) :
    left ++ mark :: front < right ++ mark :: back ↔ left < right ∨ left = right ∧ front < back := by
  have marked {c : CodePoint} (digit : c.isAsciiDigit = true) : mark.toNat < c.toNat :=
    Nat.lt_of_lt_of_le below (isAsciiDigit_iff.1 digit).1
  induction left generalizing right with
  | nil =>
    cases right with
    | nil => simp
    | cons c right =>
      have smaller : mark < c := marked (second c (List.mem_cons_self ..))
      exact iff_of_true (List.cons_lt_cons_iff.2 (.inl smaller)) (.inl (List.nil_lt_cons ..))
  | cons c left ih =>
    have larger : mark.toNat < c.toNat := marked (first c (List.mem_cons_self ..))
    cases right with
    | nil =>
      refine iff_of_false (fun lt => ?_) (fun either => ?_)
      · rcases List.cons_lt_cons_iff.1 lt with above | ⟨rfl, -⟩
        · exact Nat.lt_asymm larger above
        · exact Nat.lt_irrefl _ larger
      · rcases either with lt | ⟨same, -⟩
        · exact List.not_lt_nil _ lt
        · cases same
    | cons d right =>
      have others : left ++ mark :: front < right ++ mark :: back ↔
          left < right ∨ left = right ∧ front < back :=
        ih (fun e member => first e (List.mem_cons_of_mem _ member))
          (fun e member => second e (List.mem_cons_of_mem _ member))
      rw [List.cons_append, List.cons_append, List.cons_lt_cons_iff, List.cons_lt_cons_iff, others,
        List.cons.injEq, and_or_left, or_assoc, and_assoc]

end Text

end Reckoner
