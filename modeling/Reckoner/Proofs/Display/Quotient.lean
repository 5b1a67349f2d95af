import Reckoner.Proofs.Decimal.Numeral
import Reckoner.Proofs.Display.Operand

/-!
# Shown quotients

A quotient is shown as the multiple of 10^-10 nearest to it, written in the one way in which no
digit could be left out. So the text depends on the multiple alone, and different multiples have
different texts; a negative quotient that rounds to zero is among those shown as zero.
-/

namespace Reckoner

/-- Numerals without a digit that could be left out, and with no more than so many places behind
the point. -/
def Text.IsCanonical (places : ℕ) (text : Text) : Prop :=
  ∃ negative whole, ∃ fraction : Option (List (Fin 10)), IsWhole whole ∧
    (∀ decimals ∈ fraction, IsFraction places decimals) ∧
    text = Display.signed negative (spelled whole ++ pointed fraction)

namespace Display

/-! ## Steps of the last place -/

/-- The text of a whole number of steps of a quotient's last place. -/
def stepsText (steps : ℤ) : Text :=
  if steps = 0 then "0"
  else signed (decide (steps < 0)) (fixedPoint quotientPlaces steps.natAbs)

/-- The text of steps is canonical and denotes as many steps. -/
theorem stepsText_spec {steps : ℤ} (few : steps.natAbs < 10 ^ 1000) :
    (stepsText steps).IsCanonical quotientPlaces ∧
      (stepsText steps).Denotes (steps / 10 ^ quotientPlaces) := by
  unfold stepsText
  split
  · rename_i zero
    refine ⟨⟨false, [0], none, .zero, fun _ held => absurd held (Option.not_mem_none _), rfl⟩, ?_⟩
    rw [zero, Int.cast_zero, zero_div]
    exact Text.denotes_zero
  · obtain ⟨whole, fraction, plain, places, numeral, written, value⟩ :=
      exists_fixedPoint (show 0 < quotientPlaces by decide) steps.natAbs
    refine ⟨⟨_, whole, fraction, plain, places, by rw [written]⟩, ?_⟩
    have few_whole : whole.length ≤ 10 ^ 15 := by
      have less := Nat.lt_of_le_of_lt (Nat.div_le_self steps.natAbs (10 ^ quotientPlaces)) few
      have count := (Text.digitCount_le_iff (by decide)).2 less
      rw [Text.digitCount, ← numeral, Text.spelled_length] at count
      exact Nat.le_trans count (by decide)
    have few_decimals : fraction ≠ some [] ∧ (fraction.getD []).length ≤ 10 ^ 15 := by
      cases fraction with
      | none => exact ⟨(Option.some_ne_none _).symm, Nat.zero_le _⟩
      | some decimals =>
        have behind := places decimals rfl
        exact ⟨fun empty => behind.nonempty (Option.some.inj empty),
          Nat.le_trans behind.few (by decide)⟩
    have spells := Text.spells_pointed whole fraction plain few_decimals.1 few_whole few_decimals.2
    have sign : signedRat (decide (steps < 0)) (steps.natAbs / 10 ^ quotientPlaces) =
        (steps : ℚ) / 10 ^ quotientPlaces := by
      rw [← Double.signedUnits_div, Double.signedUnits_natAbs]
    rw [value] at spells
    rw [written, ← sign]
    exact spells.denotes _

/-- Texts of different numbers of steps are different. -/
theorem stepsText_inj {steps others : ℤ} (few : steps.natAbs < 10 ^ 1000)
    (few' : others.natAbs < 10 ^ 1000) : stepsText steps = stepsText others ↔ steps = others := by
  refine ⟨fun same => ?_, congrArg stepsText⟩
  have value := (same ▸ (stepsText_spec few).2).unique (stepsText_spec few').2
  have scale : (10 : ℚ) ^ quotientPlaces ≠ 0 := pow_ne_zero _ (by norm_num)
  exact_mod_cast (div_left_inj' scale).1 value

/-- No number of steps is a zero with a minus sign. -/
theorem stepsText_ne {steps : ℤ} (few : steps.natAbs < 10 ^ 1000) : stepsText steps ≠ "-0" := by
  intro same
  have zero : Text.Denotes ("-0" : Text) 0 := by
    refine ⟨⟨true, 0, 0⟩, by decide +kernel, ?_⟩
    show -((0 : ℕ) * 10 ^ (0 : ℤ) : ℚ) = 0
    rw [Nat.cast_zero, zero_mul, neg_zero]
  have value := (same ▸ (stepsText_spec few).2).unique zero
  have scale : (10 : ℚ) ^ quotientPlaces ≠ 0 := pow_ne_zero _ (by norm_num)
  have none : steps = 0 := by exact_mod_cast (div_eq_zero_iff.1 value).resolve_right scale
  rw [stepsText, if_pos none] at same
  exact absurd same (by decide)

/-! ## Quotients -/

/-- The steps to which a magnitude is rounded are nearest to it. -/
theorem countSteps_nearest (units : ℕ) :
    NearestEven ((units : ℚ) / unitsPerOne * 10 ^ quotientPlaces) (countSteps units : ℕ) := by
  have near := nearestEven_roundHalfEven (units * 10 ^ quotientPlaces) unitsPerOne_pos
  rwa [Nat.cast_mul, Nat.cast_pow, Nat.cast_ofNat, mul_div_right_comm] at near

/-- A magnitude with a sign is nearest to its steps with that sign. -/
theorem nearestEven_signed {negative : Bool} {units count : ℕ} {exact : Representable units}
    (near : NearestEven ((units : ℚ) / unitsPerOne * 10 ^ quotientPlaces) (count : ℕ)) :
    NearestEven ((Double.finite negative units exact).toRat * 10 ^ quotientPlaces)
      (Double.signedUnits negative count) := by
  rw [Double.toRat_finite]
  unfold signedRat Double.signedUnits
  split
  · rw [neg_mul]
    exact near.neg
  · exact near

/-- A magnitude with a sign is shown as the text of its signed steps. -/
theorem stepsText_signedUnits (negative : Bool) (count : ℕ) :
    stepsText (Double.signedUnits negative count) =
      if count = 0 then ("0" : Text) else signed negative (fixedPoint quotientPlaces count) := by
  have size := Double.natAbs_signedUnits negative count
  by_cases zero : count = 0
  · have none : Double.signedUnits negative count = 0 := by
      rw [← Int.natAbs_eq_zero, size, zero]
    rw [stepsText, if_pos none, if_pos zero]
  · have some_steps : Double.signedUnits negative count ≠ 0 := by
      rw [← Int.natAbs_ne_zero, size]
      exact zero
    have sign : decide (Double.signedUnits negative count < 0) = negative := by
      unfold Double.signedUnits
      cases negative with
      | false => simp
      | true => simpa using Nat.pos_of_ne_zero zero
    rw [stepsText, if_neg some_steps, if_neg zero, sign, size]

/-- A finite quotient is shown as the steps to which its magnitude is rounded, with its sign. -/
theorem quotient_finite (negative : Bool) {units : ℕ} (exact : Representable units) :
    quotient (.finite negative units exact) =
      stepsText (Double.signedUnits negative (countSteps units)) := by
  rw [stepsText_signedUnits, quotient, countSteps]

/-- A finite quotient is shown as the nearest number of steps. -/
theorem exists_steps {value : Double} (finite : value.isFinite = true) :
    ∃ steps : ℤ, steps.natAbs < 10 ^ 1000 ∧
      NearestEven (value.toRat * 10 ^ quotientPlaces) steps ∧ quotient value = stepsText steps := by
  obtain ⟨negative, units, exact, rfl⟩ := Double.exists_finite finite
  refine ⟨_, ?_, nearestEven_signed (countSteps_nearest units), quotient_finite negative exact⟩
  rw [Double.natAbs_signedUnits]
  exact countSteps_lt exact

/-- A finite quotient is shown as a canonical numeral with at most ten places, never as a zero with
a minus sign. The text denotes the multiple of 10^-10 nearest to the quotient, a tie going to the
even one, and other finite quotients have the same text exactly if their nearest multiple is the
same. -/
theorem quotient_nearest {value : Double} (finite : value.isFinite = true) :
    (quotient value).IsCanonical 10 ∧ quotient value ≠ "-0" ∧
      (∃ steps : ℤ, NearestEven (value.toRat * 10 ^ 10) steps ∧
        (quotient value).Denotes (steps / 10 ^ 10)) ∧
      ∀ other : Double, other.isFinite = true →
        (quotient value = quotient other ↔ ∃ steps : ℤ,
          NearestEven (value.toRat * 10 ^ 10) steps ∧
            NearestEven (other.toRat * 10 ^ 10) steps) := by
  obtain ⟨steps, few, near, shown⟩ := exists_steps finite
  obtain ⟨canonical, denotes⟩ := stepsText_spec few
  rw [shown]
  refine ⟨canonical, stepsText_ne few, ⟨steps, near, denotes⟩, fun other finite' => ?_⟩
  obtain ⟨others, few', near', shown'⟩ := exists_steps finite'
  rw [shown', stepsText_inj few few']
  constructor
  · rintro rfl
    exact ⟨steps, near, near'⟩
  · rintro ⟨common, left, right⟩
    exact (near.unique left).trans (right.unique near')

/-- The double next to a third. -/
def oneThird : Double := .round false unitsPerOne 3

/-- It is finite. -/
theorem oneThird_isFinite : oneThird.isFinite = true :=
  Double.round_isFinite false (by decide) (by decide +kernel)

/-- A third is finite and shown with ten places. -/
theorem oneThird_nearest : oneThird.isFinite = true ∧ quotient oneThird = "0.3333333333" ∧
    (quotient oneThird).IsCanonical 10 ∧ ∃ steps : ℤ,
      NearestEven (oneThird.toRat * 10 ^ 10) steps ∧
        (quotient oneThird).Denotes (steps / 10 ^ 10) := by
  obtain ⟨canonical, -, nearest, -⟩ := quotient_nearest oneThird_isFinite
  exact ⟨oneThird_isFinite, by decide +kernel, canonical, nearest⟩

end Display

end Reckoner
