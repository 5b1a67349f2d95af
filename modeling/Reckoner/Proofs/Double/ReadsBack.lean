import Reckoner.Proofs.Decimal.Significant

/-!
# Decimals that read back

The decimals that are read as one magnitude form an interval around it. So if any decimal with so
many digits is read as the magnitude, one of the two neighbours of the magnitude among them is; and
the shortest decimal, which is sought among the neighbours with one digit more at a time, reads back
and has the fewest digits that any such decimal has.
-/

namespace Reckoner

namespace Scaled

/-- The rational that a decimal magnitude is. -/
def toRat (s : Scaled) : ℚ := s.coefficient * 10 ^ s.exponent

/-- A decimal magnitude with a sign. -/
def decimal (s : Scaled) (negative : Bool) : Decimal := ⟨negative, s.coefficient, s.exponent⟩

/-- A decimal magnitude with a sign is the rational with that sign. -/
theorem toRat_decimal (s : Scaled) (negative : Bool) :
    (s.decimal negative).toRat = signedRat negative s.toRat := rfl

/-- A decimal magnitude is read as a finite double exactly if that one has the nearest magnitude. -/
theorem toDouble_eq_finite_iff {s : Scaled} {negative sign : Bool} {units : ℕ}
    {exact : Representable units} : (s.decimal negative).toDouble = .finite sign units exact ↔
      negative = sign ∧ UnitsNear (s.toRat * unitsPerOne) units :=
  Decimal.toDouble_eq_finite_iff

/-- A decimal magnitude reads back as the nearest number of units. -/
theorem readsAs_iff {s : Scaled} {units : ℕ} (exact : Representable units) :
    s.readsAs units = true ↔ UnitsNear (s.toRat * unitsPerOne) units := by
  have near : s.toDouble false = .finite false units exact ↔ _ := toDouble_eq_finite_iff
  rw [and_iff_right rfl] at near
  rw [← near, readsAs]
  cases read : s.toDouble false with
  | nan => simp
  | infinite negative => simp
  | finite negative others held =>
    have sign : false = negative := (toDouble_eq_finite_iff.1 read).1
    subst sign
    simp

/-- Zeros at the end of a coefficient can be left out. -/
theorem toRat_dropZeros (fuel : ℕ) (s : Scaled) : (s.dropZeros fuel).toRat = s.toRat := by
  induction fuel generalizing s with
  | zero => rfl
  | succ fuel ih =>
    unfold dropZeros
    split
    · rename_i ends
      have tenth : (s.coefficient : ℚ) = (s.coefficient / 10 : ℕ) * 10 := by
        exact_mod_cast (show s.coefficient = s.coefficient / 10 * 10 by omega)
      rw [ih, toRat, toRat, tenth, ten_zpow_add, zpow_one]
      ring
    · rfl

end Scaled

/-- The exact decimal is the magnitude itself. -/
theorem toRat_exactScaled (units : ℕ) : (exactScaled units).toRat = units / unitsPerOne := by
  have halves (k : ℕ) : ((units * 5 ^ k : ℕ) : ℚ) * 10 ^ (-(k : ℤ)) = units / (2 ^ k : ℕ) := by
    have five : (5 : ℚ) ^ k ≠ 0 := pow_ne_zero k (by norm_num)
    rw [zpow_neg, zpow_natCast, show (10 : ℚ) = 2 * 5 by norm_num, mul_pow, Nat.cast_mul,
      Nat.cast_pow, Nat.cast_pow, Nat.cast_ofNat, Nat.cast_ofNat, ← div_eq_mul_inv,
      mul_div_mul_right _ _ five]
  exact halves unitExponent

/-! ## Neighbours -/

section Neighbours

variable {units digits : ℕ} {t : ℚ} {s : Scaled}

/-- The exponent of the last of so many digits of a magnitude. -/
def lastExponent (digits units : ℕ) : ℤ := leadingExponent units unitsPerOne + 1 - digits

/-- The exponent of the last of some digits, as it is computed. -/
theorem lastExponent_eq (some_digit : 0 < digits) :
    leadingExponent units unitsPerOne - (digits - 1 : ℕ) = lastExponent digits units := by
  unfold lastExponent
  omega

/-- The beginning of a decade is a power of ten in steps of the last digit. -/
theorem pow_mul_step (units : ℕ) (some_digit : 0 < digits) :
    ((10 ^ (digits - 1) : ℕ) : ℚ) * 10 ^ lastExponent digits units =
      10 ^ leadingExponent units unitsPerOne := by
  have exponent : ((digits - 1 : ℕ) : ℤ) + lastExponent digits units =
      leadingExponent units unitsPerOne := by
    unfold lastExponent
    omega
  rw [Nat.cast_pow, Nat.cast_ofNat, ← zpow_natCast, ← ten_zpow_add, exponent]

/-- A magnitude leads at its exponent. -/
theorem leadsAt_units (positive : 0 < units) :
    LeadsAt ((units : ℚ) / unitsPerOne) (leadingExponent units unitsPerOne) :=
  leadsAt_leadingExponent positive unitsPerOne_pos

/-- A magnitude is a number of units. -/
theorem units_div_mul (units : ℕ) : (units : ℚ) / unitsPerOne * unitsPerOne = units :=
  div_mul_cancel₀ _ Double.unitsPerOne_cast_pos.ne'

/-- Decimals compare in units as they do as rationals. -/
theorem mul_units_le {p q : ℚ} (le : p ≤ q) : p * unitsPerOne ≤ q * unitsPerOne :=
  mul_le_mul_of_nonneg_right le Double.unitsPerOne_cast_pos.le

/-- Distances in units are those as rationals, in units. -/
theorem abs_sub_mul_units (p q : ℚ) :
    |p - q| * unitsPerOne = |p * unitsPerOne - q * unitsPerOne| := by
  rw [← sub_mul, abs_mul, abs_of_pos Double.unitsPerOne_cast_pos]

/-- The distance of a magnitude from a decimal, in units. -/
theorem abs_mul_units_sub (q : ℚ) (units : ℕ) :
    |q * unitsPerOne - units| = |(units : ℚ) / unitsPerOne - q| * unitsPerOne := by
  rw [abs_sub_mul_units, units_div_mul, abs_sub_comm]

/-- A magnitude that is not negative is no negative number of units. -/
theorem mul_units_nonneg {q : ℚ} (nonneg : 0 ≤ q) : 0 ≤ q * unitsPerOne :=
  mul_nonneg nonneg Double.unitsPerOne_cast_pos.le

/-- Some magnitude is nearest to any rational number of units. -/
theorem exists_unitsNear {q : ℚ} (nonneg : 0 ≤ q) : ∃ units, UnitsNear q units := by
  have near := nearestUnits_near q.num.natAbs q.den_pos
  have value : ((q.num.natAbs : ℕ) : ℚ) / q.den = q := by
    rw [Nat.cast_natAbs, abs_of_nonneg (Rat.num_nonneg.2 nonneg), Rat.num_div_den]
  exact ⟨_, value ▸ near⟩

/-- What lies between a magnitude and a decimal that is read as it is read as it too. -/
theorem near_of_between {p : ℚ} (exact : Representable units) (nonneg : 0 ≤ t)
    (near : UnitsNear (t * unitsPerOne) units)
    (between : t ≤ p ∧ p ≤ units / unitsPerOne ∨ units / unitsPerOne ≤ p ∧ p ≤ t) :
    UnitsNear (p * unitsPerOne) units := by
  have self := UnitsNear.self exact.spacing_dvd
  have units_nonneg : (0 : ℚ) ≤ units / unitsPerOne :=
    div_nonneg (Nat.cast_nonneg _) (Nat.cast_nonneg _)
  rw [← units_div_mul units] at self
  have p_nonneg : 0 ≤ p := by
    rcases between with ⟨le, -⟩ | ⟨le, -⟩
    · exact nonneg.trans le
    · exact units_nonneg.trans le
  obtain ⟨others, found⟩ := exists_unitsNear (mul_units_nonneg p_nonneg)
  have same : others = units := by
    rcases between with ⟨above, below⟩ | ⟨above, below⟩
    · exact near.between self (mul_units_nonneg nonneg) (mul_units_le above)
        (mul_units_le below) found
    · exact self.between near (mul_units_nonneg units_nonneg) (mul_units_le above)
        (mul_units_le below) found
  rwa [same] at found

/-- The neighbours among the decimals with so many digits: the nearest one, the one below and the one
above. -/
def neighbours (digits units nearest : ℕ) : List Scaled :=
  let below := ⌊(units : ℚ) / unitsPerOne / 10 ^ lastExponent digits units⌋₊
  [nearest, below, below + 1].map fun coefficient => ⟨coefficient, lastExponent digits units⟩

/-- The first neighbour that reads back is taken. -/
theorem neighbourReadingBack?_eq_find? (units : ℕ) (some_digit : 0 < digits) :
    ∃ nearest : ℕ,
      NearestEven ((units : ℚ) / unitsPerOne / 10 ^ lastExponent digits units) nearest ∧
      neighbourReadingBack? digits units =
        (neighbours digits units nearest).find? (·.readsAs units) := by
  obtain ⟨steps_pos, ratio⟩ := inSteps_div units unitsPerOne_pos (lastExponent digits units)
  have near := nearestEven_roundHalfEven
    (inSteps units unitsPerOne (lastExponent digits units)).1 steps_pos
  have floor := Nat.floor_div_eq_div (K := ℚ)
    (inSteps units unitsPerOne (lastExponent digits units)).1
    (inSteps units unitsPerOne (lastExponent digits units)).2
  rw [ratio] at near floor
  refine ⟨_, near, ?_⟩
  unfold neighbourReadingBack? neighbours
  simp only [lastExponent_eq some_digit, ← floor]
  generalize lastExponent digits units = exponent
  generalize (inSteps units unitsPerOne exponent).1 / (inSteps units unitsPerOne exponent).2 = below
  generalize roundHalfEven (inSteps units unitsPerOne exponent).1
    (inSteps units unitsPerOne exponent).2 = nearest
  have chosen (a b c : Scaled) :
      (if a.readsAs units then some a else if b.readsAs units then some b
        else if c.readsAs units then some c else none) =
      [a, b, c].find? (·.readsAs units) := by
    simp only [List.find?_cons, List.find?_nil]
    cases a.readsAs units <;> cases b.readsAs units <;> cases c.readsAs units <;> rfl
  exact chosen _ _ _

/-- A neighbour among the decimals with so many digits is found only if it reads back, and it has no
more digits. -/
theorem neighbourReadingBack?_reads (positive : 0 < units) (exact : Representable units)
    (some_digit : 0 < digits) (found : neighbourReadingBack? digits units = some s) :
    UnitsNear (s.toRat * unitsPerOne) units ∧ HasDigits digits s.toRat := by
  have steps := Nat.div_lt_of_lt_mul (inSteps_lt positive unitsPerOne_pos some_digit)
  obtain ⟨exponent, coefficient⟩ := neighbourReadingBack?_size found
  rw [← exponent] at steps
  refine ⟨?_, hasDigits_of_le some_digit (Nat.le_trans coefficient steps) s.exponent⟩
  obtain ⟨nearest, -, search⟩ := neighbourReadingBack?_eq_find? units some_digit
  rw [search] at found
  exact (Scaled.readsAs_iff exact).1 (List.find?_some (p := fun x : Scaled => x.readsAs units) found)

/-- If a decimal with so many digits is read as a magnitude, a neighbour among them is. -/
theorem neighbourReadingBack?_isSome (positive : 0 < units) (exact : Representable units)
    (some_digit : 0 < digits) (few : HasDigits digits t) (nonneg : 0 ≤ t)
    (near : UnitsNear (t * unitsPerOne) units) :
    (neighbourReadingBack? digits units).isSome = true := by
  have leads := leadsAt_units positive
  have step := ten_zpow_pos (lastExponent digits units)
  have least : ((10 ^ (digits - 1) : ℕ) : ℚ) ≤ units / unitsPerOne / 10 ^ lastExponent digits units :=
    (leads.div_step some_digit).1
  have first := pow_mul_step units some_digit
  have floor_le := Nat.floor_le (least.trans' (Nat.cast_nonneg _))
  have lt_floor := Nat.lt_floor_add_one
    ((units : ℚ) / unitsPerOne / 10 ^ lastExponent digits units)
  have reached := Nat.le_floor least
  obtain ⟨nearest, -, search⟩ := neighbourReadingBack?_eq_find? units some_digit
  rw [search, List.find?_isSome]
  unfold neighbours
  simp only
  generalize ⌊(units : ℚ) / unitsPerOne / 10 ^ lastExponent digits units⌋₊ = floor
    at floor_le lt_floor reached ⊢
  rw [le_div_iff₀ step] at floor_le
  rw [div_lt_iff₀ step] at lt_floor
  rcases le_or_gt t (units / unitsPerOne) with le | gt
  · -- The neighbour below is between the decimal and the magnitude.
    have above : t ≤ floor * 10 ^ lastExponent digits units := by
      by_cases lower : t < 10 ^ leadingExponent units unitsPerOne
      · refine lower.le.trans (first.symm.le.trans ?_)
        exact mul_le_mul_of_nonneg_right (Nat.cast_le.2 reached) step.le
      · obtain ⟨count, rfl⟩ := few.exists_steps (not_lt.1 lower)
        refine mul_le_mul_of_nonneg_right (Nat.cast_le.2 ?_) step.le
        have counted := le.trans_lt lt_floor
        exact Nat.lt_succ_iff.1 (by exact_mod_cast (mul_lt_mul_iff_of_pos_right step).1 counted)
    refine ⟨⟨floor, lastExponent digits units⟩, by simp, (Scaled.readsAs_iff exact).2 ?_⟩
    exact near_of_between exact nonneg near (.inl ⟨above, floor_le⟩)
  · -- The neighbour above is.
    obtain ⟨count, rfl⟩ := few.exists_steps (leads.le.trans gt.le)
    have below : ((floor + 1 : ℕ) : ℚ) * 10 ^ lastExponent digits units ≤
        count * 10 ^ lastExponent digits units := by
      refine mul_le_mul_of_nonneg_right (Nat.cast_le.2 ?_) step.le
      have counted := floor_le.trans_lt gt
      exact Nat.succ_le_of_lt (by exact_mod_cast (mul_lt_mul_iff_of_pos_right step).1 counted)
    refine ⟨⟨floor + 1, lastExponent digits units⟩, by simp, (Scaled.readsAs_iff exact).2 ?_⟩
    exact near_of_between exact nonneg near
      (.inr ⟨by exact_mod_cast lt_floor.le, below⟩)

/-- If the nearest decimal with so many digits reads back, it is taken. -/
theorem neighbourReadingBack?_nearest (some_digit : 0 < digits) (exact : Representable units)
    {steps : ℕ}
    (nearest : NearestEven ((units : ℚ) / unitsPerOne / 10 ^ lastExponent digits units) steps)
    (near : UnitsNear (steps * 10 ^ lastExponent digits units * unitsPerOne) units) :
    neighbourReadingBack? digits units = some ⟨steps, lastExponent digits units⟩ := by
  obtain ⟨found, nearest', search⟩ := neighbourReadingBack?_eq_find? units some_digit
  obtain rfl : steps = found := by exact_mod_cast nearest.unique nearest'
  rw [search]
  exact List.find?_cons_of_pos ((Scaled.readsAs_iff exact).2 near)

end Neighbours

/-! ## The shortest decimal -/

/-- The shortest decimal is the first neighbour that is found, and the exact decimal if there is
none. -/
theorem shortest_cases (units : ℕ) :
    (∃ digits s, 0 < digits ∧ neighbourReadingBack? digits units = some s ∧
      (∀ fewer, 0 < fewer → fewer < digits → neighbourReadingBack? fewer units = none) ∧
      (shortest units).toRat = s.toRat) ∨
    (∀ digits, 0 < digits → digits ≤ 17 → neighbourReadingBack? digits units = none) ∧
      (shortest units).toRat = units / unitsPerOne := by
  unfold shortest
  simp only [Scaled.toRat_dropZeros]
  cases found : (List.range 17).filterMap fun fewer => neighbourReadingBack? (fewer + 1) units with
  | nil =>
    refine .inr ⟨fun digits some_digit few => ?_, toRat_exactScaled units⟩
    have none := List.filterMap_eq_nil_iff.1 found (digits - 1) (List.mem_range.2 (by omega))
    rwa [Nat.sub_add_cancel some_digit] at none
  | cons s others =>
    obtain ⟨before, index, after, parts, skipped, reads, -⟩ := List.filterMap_eq_cons_iff.1 found
    refine .inl ⟨index + 1, s, Nat.succ_pos index, reads, fun fewer some_digit less => ?_, rfl⟩
    have ordered := List.pairwise_lt_range (n := 17)
    rw [parts, List.pairwise_append, List.pairwise_cons] at ordered
    obtain ⟨-, ⟨later, -⟩, -⟩ := ordered
    have index_lt : index < 17 := List.mem_range.1 (parts ▸ List.mem_append_cons_self)
    have tried : fewer - 1 ∈ before ++ index :: after := by
      rw [← parts, List.mem_range]
      omega
    rcases List.mem_append.1 tried with earlier | same
    · have none := skipped _ earlier
      rwa [Nat.sub_add_cancel some_digit] at none
    · rcases List.mem_cons.1 same with equal | beyond
      · omega
      · have := later _ beyond
        omega

section Shortest

variable {units : ℕ}

/-- The shortest decimal of a magnitude reads back. -/
theorem shortest_near (positive : 0 < units) (exact : Representable units) :
    UnitsNear ((shortest units).toRat * unitsPerOne) units := by
  rcases shortest_cases units with ⟨digits, s, some_digit, found, -, value⟩ | ⟨-, value⟩
  · rw [value]
    exact (neighbourReadingBack?_reads positive exact some_digit found).1
  · rw [value, units_div_mul]
    exact UnitsNear.self exact.spacing_dvd

/-- Zero is not read as a positive magnitude. -/
theorem UnitsNear.pos {q : ℚ} (near : UnitsNear q units) (nonneg : 0 ≤ q) (positive : 0 < units) :
    0 < q := by
  refine nonneg.lt_of_ne fun zero => ?_
  have none := near.le_of_le (Nat.dvd_zero _) (by rw [← zero, Nat.cast_zero])
  omega

/-- The shortest decimal of a positive magnitude is not zero. -/
theorem shortest_coefficient_pos (positive : 0 < units) (exact : Representable units) :
    0 < (shortest units).coefficient := by
  have near := shortest_near positive exact
  refine Nat.pos_of_ne_zero fun zero => ?_
  have none : (shortest units).toRat = 0 := by rw [Scaled.toRat, zero, Nat.cast_zero, zero_mul]
  rw [none, zero_mul] at near
  exact absurd (near.pos le_rfl positive) (lt_irrefl 0)

/-- If some decimal with at most seventeen digits is read as a magnitude, the shortest decimal of the
magnitude is a neighbour with the fewest digits of all such decimals. -/
theorem shortest_fewest (positive : 0 < units) (exact : Representable units) {digits : ℕ} {t : ℚ}
    (few : HasDigits digits t) (le : digits ≤ 17) (nonneg : 0 ≤ t)
    (near : UnitsNear (t * unitsPerOne) units) :
    ∃ fewest s, 0 < fewest ∧ neighbourReadingBack? fewest units = some s ∧
      (shortest units).toRat = s.toRat ∧ HasDigits fewest (shortest units).toRat ∧
      ∀ digits t, HasDigits digits t → 0 ≤ t → UnitsNear (t * unitsPerOne) units →
        fewest ≤ digits := by
  have some_digit {digits : ℕ} {t : ℚ} (few : HasDigits digits t) (nonneg : 0 ≤ t)
      (near : UnitsNear (t * unitsPerOne) units) : 0 < digits := by
    refine Nat.pos_of_ne_zero fun zero => ?_
    obtain ⟨coefficient, exponent, bound, value⟩ := few
    have none : coefficient = 0 := by
      rw [zero, Nat.pow_zero] at bound
      omega
    rw [none, Nat.cast_zero, zero_mul, abs_eq_zero] at value
    have pos := near.pos (mul_units_nonneg nonneg) positive
    rw [value, zero_mul] at pos
    exact absurd pos (lt_irrefl 0)
  have reached {digits : ℕ} {t : ℚ} (few : HasDigits digits t) (nonneg : 0 ≤ t)
      (near : UnitsNear (t * unitsPerOne) units) : neighbourReadingBack? digits units ≠ none :=
    Option.isSome_iff_ne_none.1 (neighbourReadingBack?_isSome positive exact
      (some_digit few nonneg near) few nonneg near)
  rcases shortest_cases units with ⟨fewest, s, enough, found, skipped, value⟩ | ⟨none, -⟩
  · refine ⟨fewest, s, enough, found, value, ?_, fun digits t few nonneg near => ?_⟩
    · rw [value]
      exact (neighbourReadingBack?_reads positive exact enough found).2
    · refine not_lt.1 fun less => ?_
      exact reached few nonneg near (skipped digits (some_digit few nonneg near) less)
  · exact absurd (none digits (some_digit few nonneg near) le) (reached few nonneg near)

end Shortest

/-! ## Decimals with twelve digits -/

section Twelve

variable {units : ℕ} {p q : ℚ}

/-- A rational is at most half a unit from the nearest magnitude, or at most 2^-53 of it. -/
theorem UnitsNear.error (near : UnitsNear q units) (nonneg : 0 ≤ q) :
    |q - units| ≤ 1 / 2 ∨ |q - units| * 2 ^ 53 ≤ units := by
  have within := near.within
  by_cases wide : spacing ⌊q⌋₊ = 1
  · rw [wide, Nat.cast_one] at within
    exact .inl within
  · have least := near.ge_of_ge (Nat.dvd_mul_left _ _) (UnitsNear.mul_spacing_floor_le nonneg wide)
    have least' : ((2 : ℚ) ^ 52) * spacing ⌊q⌋₊ ≤ units := by exact_mod_cast least
    right
    linarith

/-- A rational is at most 2^-52 of a normal magnitude from it, if that is the nearest one. -/
theorem UnitsNear.relative_error (near : UnitsNear q units) (nonneg : 0 ≤ q)
    (normal : 2 ^ 51 ≤ units) : |q - units| * 2 ^ 52 ≤ units := by
  have normal' : (2 ^ 51 : ℚ) ≤ units := by exact_mod_cast normal
  rcases near.error nonneg with half | fraction
  · linarith
  · have := abs_nonneg (q - units)
    linarith

/-- Decimals with so many digits are not much closer to each other than their last digits. -/
theorem HasDigits.lt_gap {digits : ℕ} (left : HasDigits digits p) (right : HasDigits digits q)
    (nonneg : 0 ≤ p) (less : p < q) : p < (q - p) * 10 ^ digits := by
  obtain ⟨c, j, bound, value⟩ := left
  obtain ⟨d, k, bound', value'⟩ := right
  rw [abs_of_nonneg nonneg] at value
  rw [abs_of_nonneg (nonneg.trans less.le)] at value'
  have scale : ((10 ^ digits : ℕ) : ℚ) = 10 ^ digits := by rw [Nat.cast_pow, Nat.cast_ofNat]
  -- Both are multiples of the finer of the two steps, and the one with that step is few of them.
  have counted (step : ℤ) (a b : ℕ) (first : p = a * 10 ^ step) (second : q = b * 10 ^ step)
      (few : p < 10 ^ digits * 10 ^ step) : p < (q - p) * 10 ^ digits := by
    have positive := ten_zpow_pos step
    have apart : (a : ℚ) + 1 ≤ b := by
      rw [first, second, mul_lt_mul_iff_of_pos_right positive] at less
      exact_mod_cast less
    have gap : 10 ^ step ≤ q - p := by
      rw [first, second, ← sub_mul]
      exact le_mul_of_one_le_left positive.le (by linarith)
    refine few.trans_le ?_
    rw [mul_comm]
    exact mul_le_mul_of_nonneg_right gap (pow_nonneg (by norm_num) digits)
  rcases le_total j k with finer | finer
  · obtain ⟨shift, -, power⟩ := exists_ten_zpow finer
    refine counted j c (d * 10 ^ shift) value ?_ ?_
    · rw [value', power, Nat.cast_mul, mul_assoc]
    · rw [value, ← scale]
      exact mul_lt_mul_of_pos_right (Nat.cast_lt.2 bound) (ten_zpow_pos j)
  · obtain ⟨shift, -, power⟩ := exists_ten_zpow finer
    refine counted k (c * 10 ^ shift) d ?_ value' (less.trans ?_)
    · rw [value, power, Nat.cast_mul, mul_assoc]
    · rw [value', ← scale]
      exact mul_lt_mul_of_pos_right (Nat.cast_lt.2 bound') (ten_zpow_pos k)

/-- A normal magnitude is read from one decimal with twelve digits at most. -/
theorem HasDigits.eq_of_near (left : HasDigits 12 p) (right : HasDigits 12 q) (p_nonneg : 0 ≤ p)
    (q_nonneg : 0 ≤ q) (near : UnitsNear (p * unitsPerOne) units)
    (near' : UnitsNear (q * unitsPerOne) units) (normal : 2 ^ 51 ≤ units) : p = q := by
  have units_pos := Double.unitsPerOne_cast_pos
  have normal' : (2 ^ 51 : ℚ) ≤ units := by exact_mod_cast normal
  have error {p : ℚ} (nonneg : 0 ≤ p) (near : UnitsNear (p * unitsPerOne) units) :=
    near.relative_error (mul_units_nonneg nonneg) normal
  have ordered {p q : ℚ} (left : HasDigits 12 p) (right : HasDigits 12 q) (p_nonneg : 0 ≤ p)
      (q_nonneg : 0 ≤ q) (near : UnitsNear (p * unitsPerOne) units)
      (near' : UnitsNear (q * unitsPerOne) units) : ¬p < q := by
    intro less
    have gap := left.lt_gap right p_nonneg less
    have gap' := mul_lt_mul_of_pos_right gap units_pos
    have below := abs_le.1 (le_of_mul_le_mul_right
      ((error p_nonneg near).trans_eq (div_mul_cancel₀ _ (by norm_num)).symm)
      (by norm_num : (0 : ℚ) < 2 ^ 52))
    have above := abs_le.1 (le_of_mul_le_mul_right
      ((error q_nonneg near').trans_eq (div_mul_cancel₀ _ (by norm_num)).symm)
      (by norm_num : (0 : ℚ) < 2 ^ 52))
    have parts : (q - p) * 10 ^ 12 * unitsPerOne =
        (q * unitsPerOne - p * unitsPerOne) * 10 ^ 12 := by ring
    rw [parts] at gap'
    linarith
  exact le_antisymm (not_lt.1 (ordered right left q_nonneg p_nonneg near' near))
    (not_lt.1 (ordered left right p_nonneg q_nonneg near near'))

/-- From 10^-323 on, a power of ten is more than a unit. -/
theorem one_lt_step {exponent : ℤ} (ge : -323 ≤ exponent) : (1 : ℚ) < 10 ^ exponent * unitsPerOne := by
  have above (k : ℕ) (limit : 10 ^ k < unitsPerOne) (ge : -(k : ℤ) ≤ exponent) :
      (1 : ℚ) < 10 ^ exponent * unitsPerOne := by
    have limit' : ((10 ^ k : ℕ) : ℚ) < unitsPerOne := Nat.cast_lt.2 limit
    rw [Nat.cast_pow, Nat.cast_ofNat, ← zpow_natCast] at limit'
    refine lt_of_lt_of_le ?_
      (mul_le_mul_of_nonneg_right (ten_zpow_le.2 ge) Double.unitsPerOne_cast_pos.le)
    rwa [zpow_neg, inv_mul_eq_div, one_lt_div (ten_zpow_pos k)]
  exact above 323 unitsPerOne_bounds.1 ge

/-- Below 10^-323, a power of ten is less than a unit. -/
theorem step_lt_one {exponent : ℤ} (lt : exponent < -323) : 10 ^ exponent * unitsPerOne < (1 : ℚ) := by
  have below (k : ℕ) (limit : unitsPerOne < 10 ^ k) (le : exponent ≤ -(k : ℤ)) :
      10 ^ exponent * unitsPerOne < (1 : ℚ) := by
    have limit' : (unitsPerOne : ℚ) < ((10 ^ k : ℕ) : ℚ) := Nat.cast_lt.2 limit
    rw [Nat.cast_pow, Nat.cast_ofNat, ← zpow_natCast] at limit'
    refine lt_of_le_of_lt
      (mul_le_mul_of_nonneg_right (ten_zpow_le.2 le) Double.unitsPerOne_cast_pos.le) ?_
    rwa [zpow_neg, inv_mul_eq_div, div_lt_one (ten_zpow_pos k)]
  exact below 324 unitsPerOne_bounds.2 (by omega)

/-- Where a step of the twelfth digit is more than a unit, a decimal is less than half a step from
the magnitude that it is read as. -/
theorem UnitsNear.lt_half_step (near : UnitsNear (q * unitsPerOne) units) (nonneg : 0 ≤ q)
    (positive : 0 < units) (coarse : (1 : ℚ) < 10 ^ lastExponent 12 units * unitsPerOne) :
    |(units : ℚ) / unitsPerOne - q| < 10 ^ lastExponent 12 units / 2 := by
  have units_pos := Double.unitsPerOne_cast_pos
  have below : (units : ℚ) / unitsPerOne < (10 ^ 12 : ℕ) * 10 ^ lastExponent 12 units :=
    (div_lt_iff₀ (ten_zpow_pos _)).1 ((leadsAt_units positive).div_step (by decide)).2
  have below' := mul_lt_mul_of_pos_right below units_pos
  rw [units_div_mul] at below'
  rw [← mul_lt_mul_iff_of_pos_right units_pos, ← abs_mul_units_sub, div_mul_eq_mul_div]
  rcases near.error (mul_units_nonneg nonneg) with half | fraction
  · linarith
  · push_cast at below'
    linarith

/-- Where a step is less than a unit, the number of steps nearest to a magnitude is read as it. -/
theorem near_of_fine_steps (exact : Representable units) {steps : ℕ} {exponent : ℤ}
    (fine : 10 ^ exponent * unitsPerOne < (1 : ℚ))
    (nearest : NearestEven ((units : ℚ) / unitsPerOne / 10 ^ exponent) steps) :
    UnitsNear (steps * 10 ^ exponent * unitsPerOne) units := by
  have nonneg : (0 : ℚ) ≤ steps * 10 ^ exponent * unitsPerOne :=
    mul_units_nonneg (mul_nonneg (Nat.cast_nonneg _) (ten_zpow_pos exponent).le)
  obtain ⟨others, found⟩ := exists_unitsNear nonneg
  -- Half a step is less than half a unit.
  have close : |(steps : ℚ) * 10 ^ exponent * unitsPerOne - units| < 1 / 2 := by
    have within := mul_units_le nearest.within_steps
    rw [Int.cast_natCast, ← abs_mul_units_sub] at within
    linarith
  have same := found.eq_of_lt_half nonneg exact.spacing_dvd close
  rwa [same] at found

/-- The magnitude that a decimal with twelve digits is read as, rounded to twelve digits, is read as
the same magnitude again. -/
theorem HasDigits.near_of_nearest (few : HasDigits 12 q) (nonneg : 0 ≤ q)
    (near : UnitsNear (q * unitsPerOne) units) (positive : 0 < units) (exact : Representable units)
    {steps : ℕ}
    (nearest : NearestEven ((units : ℚ) / unitsPerOne / 10 ^ lastExponent 12 units) steps) :
    UnitsNear (steps * 10 ^ lastExponent 12 units * unitsPerOne) units := by
  have leads := leadsAt_units positive
  have first : ((10 ^ 11 : ℕ) : ℚ) * 10 ^ lastExponent 12 units =
      10 ^ leadingExponent units unitsPerOne := pow_mul_step units (show 0 < 12 by decide)
  by_cases coarse : -323 ≤ lastExponent 12 units
  · have close := near.lt_half_step nonneg positive (one_lt_step coarse)
    by_cases lower : q < 10 ^ leadingExponent units unitsPerOne
    · -- The decimal lies below the decade, so the beginning of the decade is the one rounded to.
      have start : NearestEven ((units : ℚ) / unitsPerOne / 10 ^ lastExponent 12 units)
          ((10 ^ 11 : ℕ) : ℤ) := by
        refine nearestEven_of_steps ?_
        rw [Int.cast_natCast, first, abs_of_nonneg (sub_nonneg.2 leads.le)]
        have distance := le_abs_self ((units : ℚ) / unitsPerOne - q)
        linarith
      obtain rfl : steps = 10 ^ 11 := by exact_mod_cast nearest.unique start
      rw [first]
      exact near_of_between exact nonneg near (.inl ⟨lower.le, leads.le⟩)
    · -- The decimal is itself the one rounded to.
      obtain ⟨count, counted⟩ := few.exists_steps (not_lt.1 lower)
      have value : q = count * 10 ^ lastExponent 12 units := counted
      have same : NearestEven ((units : ℚ) / unitsPerOne / 10 ^ lastExponent 12 units)
          (count : ℤ) := by
        refine nearestEven_of_steps ?_
        rwa [Int.cast_natCast, ← value]
      obtain rfl : steps = count := by exact_mod_cast nearest.unique same
      rwa [← value]
  · exact near_of_fine_steps exact (step_lt_one (not_le.1 coarse)) nearest

end Twelve

end Reckoner
