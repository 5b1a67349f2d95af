import Reckoner.Proofs.Double.Range
import Reckoner.Proofs.Stamps.Cutoff

/-!
# The last seven days by the clock

Of a moment the clock shows the double next to its seconds, and what was first seen in the seven
days before is compared with that double less the seconds of seven days. Rounding never carries a
value across a number that is a double, so the seven days do not begin before the calendar, and
every reading in them stands for a moment as long as that of now does. From the second week of 1970
on the difference is exact.
-/

namespace Reckoner

open Calendar (Moment microsPerSecond microsPerDay)
open Calendar.Moment (epochMicros)

/-! ## Rounding up to a number and from a number on -/

namespace Number

variable {sum bound : ℤ} {d : ℕ}

/-- What is from the units of a double on has its double from there on. -/
theorem le_place_round (positive : 0 < d) (exact : Representable bound.natAbs)
    (ge : bound * d ≤ sum) : ∃ p ∈ (Number.double (.round (decide (sum < 0)) sum.natAbs d)).place?,
      ((bound : ℤ) : WithTop ℤ) ≤ p := by
  have size : (bound * d).natAbs = bound.natAbs * d := by rw [Int.natAbs_mul, Int.natAbs_natCast]
  by_cases negative : sum < 0
  · have below : bound < 0 := by
      by_contra least
      have product : 0 ≤ bound * d := Int.mul_nonneg (not_lt.1 least) (Int.natCast_nonneg d)
      omega
    have le := nearestUnits_le positive exact (show sum.natAbs ≤ bound.natAbs * d by omega)
    have finite : nearestUnits sum.natAbs d < unitsLimit := Nat.lt_of_le_of_lt le exact.lt_limit
    rw [decide_eq_true negative, Double.round, dif_pos finite, place?_finite]
    refine ⟨_, rfl, WithBot.coe_le_coe.2 (WithTop.coe_le_coe.2 ?_)⟩
    rw [Double.signedUnits, if_pos rfl]
    omega
  · rw [decide_eq_false negative]
    unfold Double.round
    split
    · rw [place?_finite]
      refine ⟨_, rfl, WithBot.coe_le_coe.2 (WithTop.coe_le_coe.2 ?_)⟩
      rw [Double.signedUnits, if_neg Bool.false_ne_true]
      by_cases below : bound ≤ 0
      · omega
      · have product : 0 ≤ bound * d := Int.mul_nonneg (by omega) (Int.natCast_nonneg d)
        have least := le_nearestUnits positive exact (show bound.natAbs * d ≤ sum.natAbs by omega)
        omega
    · exact ⟨⊤, rfl, le_top⟩

end Number

/-! ## Moments of readings -/

namespace Calendar.Moment

/-- The whole number of microseconds that is nearest to a number of units of doubles. -/
def microsOfUnits (units : ℤ) : ℤ :=
  let nearest : ℤ := roundHalfEven (units.natAbs * microsPerSecond) unitsPerOne
  if units < 0 then -nearest else nearest

/-- It is the nearest one, below zero as well. -/
theorem microsOfUnits_near (units : ℤ) :
    NearestEven ((units : ℚ) * microsPerSecond / unitsPerOne) (microsOfUnits units) := by
  have near := nearestEven_roundHalfEven (units.natAbs * microsPerSecond) unitsPerOne_pos
  rw [Nat.cast_mul] at near
  unfold microsOfUnits
  by_cases negative : units < 0
  · have size : ((units.natAbs : ℕ) : ℚ) = -units := by
      rw [Nat.cast_natAbs, abs_of_neg negative, Int.cast_neg]
    rw [size, neg_mul, neg_div] at near
    have opposite := near.neg
    rw [neg_neg] at opposite
    rwa [if_pos negative]
  · have size : ((units.natAbs : ℕ) : ℚ) = units := by
      rw [Nat.cast_natAbs, abs_of_nonneg (not_lt.1 negative)]
    rw [size] at near
    rwa [if_neg negative]

/-- More units have no fewer microseconds. -/
theorem microsOfUnits_mono {units others : ℤ} (le : units ≤ others) :
    microsOfUnits units ≤ microsOfUnits others := by
  refine (microsOfUnits_near units).mono (microsOfUnits_near others) ?_
  have cast : (units : ℚ) ≤ others := Int.cast_le.2 le
  have scale : (0 : ℚ) ≤ microsPerSecond := Nat.cast_nonneg _
  exact div_le_div_of_nonneg_right (mul_le_mul_of_nonneg_right cast scale)
    Double.unitsPerOne_cast_pos.le

/-- Whole seconds are whole microseconds. -/
theorem microsOfUnits_seconds (n : ℤ) : microsOfUnits (n * unitsPerOne) = n * microsPerSecond := by
  have near := microsOfUnits_near (n * unitsPerOne)
  have whole : ((n * unitsPerOne : ℤ) : ℚ) * microsPerSecond / unitsPerOne =
      ((n * microsPerSecond : ℤ) : ℚ) := by
    have nonzero := Double.unitsPerOne_cast_pos.ne'
    push_cast
    field_simp
  rw [whole] at near
  exact near.unique (nearestEven_self _)

/-- A moment stands at a number of microseconds since 1970 if it lies in the calendar. -/
theorem exists_sinceEpoch_iff {past : ℤ} : (∃ moment, sinceEpoch past = .ok moment) ↔
    0 ≤ epochMicros + past ∧ epochMicros + past < (dayLimit * microsPerDay : ℕ) := by
  unfold sinceEpoch ofMicros?
  cases micros : (epochMicros : ℤ) + past with
  | ofNat n =>
    by_cases inside : n < dayLimit * microsPerDay
    · simp only [dif_pos inside]
      exact iff_of_true ⟨_, rfl⟩ ⟨Int.natCast_nonneg n, Int.ofNat_lt.2 inside⟩
    · simp only [dif_neg inside]
      exact iff_of_false nofun fun within => inside (Int.ofNat_lt.1 within.2)
  | negSucc n => exact iff_of_false nofun fun within => absurd within.1 (by omega)

end Calendar.Moment

namespace Number

open Calendar.Moment (microsOfUnits sinceEpoch)

variable {number least most : Number} {units : ℤ}

/-- A number that stands for a moment has a number of units. -/
theorem exists_units {moment : Moment} (stands : number.moment = .ok moment) :
    ∃ units : ℤ, number.place? = some ((units : WithTop ℤ) : WithBot (WithTop ℤ)) := by
  cases number with
  | int n => exact ⟨n * unitsPerOne, rfl⟩
  | double value =>
    cases value with
    | nan => cases stands
    | infinite negative => cases stands
    | finite negative units exact => exact ⟨_, place?_finite negative exact⟩

/-- The moment of a number is that of the microseconds in its units. -/
theorem moment_eq (held : number.place? = some ((units : WithTop ℤ) : WithBot (WithTop ℤ))) :
    number.moment = sinceEpoch (microsOfUnits units) := by
  cases number with
  | int n =>
    obtain rfl : n * unitsPerOne = units :=
      WithTop.coe_inj.1 (WithBot.coe_inj.1 (Option.some.inj held))
    rw [Calendar.Moment.microsOfUnits_seconds]
    rfl
  | double value =>
    cases value with
    | nan => cases held
    | infinite negative =>
      cases negative with
      | false => exact absurd (WithBot.coe_inj.1 (Option.some.inj held)) WithTop.top_ne_coe
      | true => exact absurd (Option.some.inj held) WithBot.bot_ne_coe
    | finite negative magnitude exact =>
      rw [place?_finite] at held
      obtain rfl := WithTop.coe_inj.1 (WithBot.coe_inj.1 (Option.some.inj held))
      have near := Calendar.Moment.microsOfUnits_near (Double.signedUnits negative magnitude)
      have size := nearestEven_roundHalfEven (magnitude * microsPerSecond) unitsPerOne_pos
      rw [Nat.cast_mul] at size
      simp only [Number.moment, Moment.ofClock]
      cases negative with
      | false =>
        have value : ((Double.signedUnits false magnitude : ℤ) : ℚ) = magnitude :=
          Int.cast_natCast magnitude
        rw [value] at near
        rw [if_neg Bool.false_ne_true, size.unique near]
      | true =>
        have below : ((Double.signedUnits true magnitude : ℤ) : ℚ) * microsPerSecond / unitsPerOne =
            -((magnitude : ℚ) * microsPerSecond / unitsPerOne) := by
          rw [Double.signedUnits, if_pos rfl, Int.cast_neg, Int.cast_natCast, neg_mul, neg_div]
        rw [below] at near
        rw [if_pos rfl, size.neg.unique near]

/-- Between two numbers of units there are numbers of units only. -/
theorem exists_units_between {low high : ℤ}
    (low_held : least.place? = some ((low : WithTop ℤ) : WithBot (WithTop ℤ)))
    (high_held : most.place? = some ((high : WithTop ℤ) : WithBot (WithTop ℤ)))
    (above : number.isAtLeast least = true) (below : most.isAtLeast number = true) :
    ∃ units : ℤ, number.place? = some ((units : WithTop ℤ) : WithBot (WithTop ℤ)) ∧
      low ≤ units ∧ units ≤ high := by
  rw [isAtLeast_iff, low_held] at above
  rw [isAtLeast_iff, high_held] at below
  obtain ⟨place, held, start, begins_at, from_low⟩ := above
  obtain ⟨finish, ends_at, other, held', to_high⟩ := below
  rw [← Option.some.inj begins_at] at from_low
  rw [← Option.some.inj ends_at] at to_high
  obtain rfl := Option.mem_unique held held'
  obtain ⟨inner, rfl⟩ := WithBot.ne_bot_iff_exists.1
    (ne_of_gt (lt_of_lt_of_le (WithBot.bot_lt_coe _) from_low))
  obtain ⟨units, rfl⟩ := WithTop.ne_top_iff_exists.1
    (ne_of_lt (lt_of_le_of_lt (WithBot.coe_le_coe.1 to_high) (WithTop.coe_lt_top _)))
  exact ⟨units, held, WithTop.coe_le_coe.1 (WithBot.coe_le_coe.1 from_low),
    WithTop.coe_le_coe.1 (WithBot.coe_le_coe.1 to_high)⟩

/-- Between two numbers that stand for moments every number does. -/
theorem exists_moment_between {first last : Moment} (begins : least.moment = .ok first)
    (ends : most.moment = .ok last) (above : number.isAtLeast least = true)
    (below : most.isAtLeast number = true) : ∃ moment, number.moment = .ok moment := by
  obtain ⟨low, low_held⟩ := exists_units begins
  obtain ⟨high, high_held⟩ := exists_units ends
  obtain ⟨units, held, low_le, le_high⟩ := exists_units_between low_held high_held above below
  have start := Calendar.Moment.exists_sinceEpoch_iff.1 ⟨first, moment_eq low_held ▸ begins⟩
  have finish := Calendar.Moment.exists_sinceEpoch_iff.1 ⟨last, moment_eq high_held ▸ ends⟩
  have from_start := Calendar.Moment.microsOfUnits_mono low_le
  have to_finish := Calendar.Moment.microsOfUnits_mono le_high
  rw [moment_eq held]
  exact Calendar.Moment.exists_sinceEpoch_iff.2 ⟨by omega, by omega⟩

/-- The rational that a number is; infinities and what is no number count as zero. -/
def toRat : Number → ℚ
  | .int n => n
  | .double value => value.toRat

/-- A number of units is the rational of which there are as many. -/
theorem toRat_of_place
    (held : number.place? = some ((units : WithTop ℤ) : WithBot (WithTop ℤ))) :
    number.toRat = units / unitsPerOne := by
  cases number with
  | int n =>
    obtain rfl : n * unitsPerOne = units :=
      WithTop.coe_inj.1 (WithBot.coe_inj.1 (Option.some.inj held))
    rw [toRat, Int.cast_mul, Int.cast_natCast,
      mul_div_cancel_right₀ _ Double.unitsPerOne_cast_pos.ne']
  | double value =>
    cases value with
    | nan => cases held
    | infinite negative =>
      cases negative with
      | false => exact absurd (WithBot.coe_inj.1 (Option.some.inj held)) WithTop.top_ne_coe
      | true => exact absurd (Option.some.inj held) WithBot.bot_ne_coe
    | finite negative magnitude exact =>
      rw [place?_finite] at held
      obtain rfl := WithTop.coe_inj.1 (WithBot.coe_inj.1 (Option.some.inj held))
      rfl

end Number

/-! ## The clock -/

namespace Calendar.Moment

/-- The microseconds from the start of 1970 to a moment. -/
def sinceEpochStart (now : Moment) : ℤ := (now.micros : ℤ) - epochMicros

/-- The clock rounds the units in the seconds since 1970. -/
theorem clock_eq (now : Moment) : now.clock =
    .round (decide (now.sinceEpochStart * unitsPerOne < 0))
      (now.sinceEpochStart * unitsPerOne).natAbs microsPerSecond := by
  have units : (0 : ℤ) < unitsPerOne := Int.natCast_pos.2 unitsPerOne_pos
  have sign : (now.sinceEpochStart * unitsPerOne < 0) = (now.sinceEpochStart < 0) := by
    rw [← not_le, ← not_le, mul_nonneg_iff_of_pos_right units]
  rw [Int.natAbs_mul, Int.natAbs_natCast]
  simp only [sign]
  rfl

/-- The clock shows a finite double. -/
theorem clock_isFinite (now : Moment) : now.clock.isFinite = true := by
  have bound : now.sinceEpochStart.natAbs ≤ 10 ^ 18 := by
    have inside := now.lt_limit
    simp only [dayLimit, microsPerDay, microsPerSecond] at inside
    simp only [sinceEpochStart, epochMicros, microsPerDay, microsPerSecond]
    omega
  rw [clock_eq]
  refine Double.round_isFinite _ (by decide) ?_
  calc (now.sinceEpochStart * unitsPerOne).natAbs
      = now.sinceEpochStart.natAbs * unitsPerOne := by rw [Int.natAbs_mul, Int.natAbs_natCast]
    _ ≤ 10 ^ 18 * unitsPerOne := Nat.mul_le_mul_right _ bound
    _ ≤ microsPerSecond * greatestUnits := by decide +kernel

/-- Whole seconds of at most 53 bits are a double. -/
theorem representable_seconds {seconds : ℤ} (few : seconds.natAbs ≤ 2 ^ 53) :
    Representable (seconds * unitsPerOne).natAbs := by
  rw [Int.natAbs_mul, Int.natAbs_natCast]
  refine ⟨spacing_dvd_mul_pow few, ?_⟩
  calc seconds.natAbs * unitsPerOne
      ≤ 2 ^ 53 * unitsPerOne := Nat.mul_le_mul_right _ few
    _ < unitsLimit := by decide +kernel

/-- A moment from some seconds since 1970 on has a clock from there on. -/
theorem le_clock {now : Moment} {seconds : ℤ} (few : seconds.natAbs ≤ 2 ^ 53)
    (ge : seconds * microsPerSecond ≤ now.sinceEpochStart) :
    ∃ negative units exact, now.clock = .finite negative units exact ∧
      seconds * unitsPerOne ≤ Double.signedUnits negative units := by
  obtain ⟨negative, units, exact', clock⟩ := Double.exists_finite now.clock_isFinite
  have scaled : seconds * unitsPerOne * microsPerSecond ≤ now.sinceEpochStart * unitsPerOne := by
    rw [mul_right_comm]
    exact Int.mul_le_mul_of_nonneg_right ge (Int.natCast_nonneg _)
  obtain ⟨place, held, le⟩ := Number.le_place_round (d := microsPerSecond) (by decide)
    (representable_seconds few) scaled
  rw [← clock_eq, clock, Number.place?_finite] at held
  rw [← Option.some.inj held] at le
  exact ⟨negative, units, exact', clock, WithTop.coe_le_coe.1 (WithBot.coe_le_coe.1 le)⟩

/-- A moment within some seconds of 1970 has a clock within them. -/
theorem clock_units_le {now : Moment} {seconds : ℕ} (few : seconds ≤ 2 ^ 53)
    (bound : now.sinceEpochStart.natAbs ≤ seconds * microsPerSecond) {negative : Bool} {units : ℕ}
    {exact : Representable units} (clock : now.clock = .finite negative units exact) :
    units ≤ seconds * unitsPerOne := by
  have product : (now.sinceEpochStart * unitsPerOne).natAbs ≤
      seconds * unitsPerOne * microsPerSecond := by
    rw [Int.natAbs_mul, Int.natAbs_natCast, Nat.mul_right_comm]
    exact Nat.mul_le_mul_right _ bound
  have held : Representable ((seconds : ℤ) * unitsPerOne).natAbs := representable_seconds few
  rw [Int.natAbs_mul, Int.natAbs_natCast, Int.natAbs_natCast] at held
  have rounded := clock_eq now
  rw [clock] at rounded
  unfold Double.round at rounded
  split at rounded
  · injection rounded with _ same
    rw [same]
    exact nearestUnits_le (by decide) held product
  · cases rounded

/-- Before the last second of the calendar what the clock shows is read back as a moment. -/
theorem exists_ofClock {now : Moment}
    (early : now.micros + microsPerSecond ≤ dayLimit * microsPerDay) :
    ∃ moment, ofClock now.clock = .ok moment := by
  have start : -62135596800 * microsPerSecond ≤ now.sinceEpochStart := by
    simp only [sinceEpochStart, epochMicros, microsPerDay, microsPerSecond]
    omega
  have bound : now.sinceEpochStart.natAbs ≤ 253402300799 * microsPerSecond := by
    simp only [dayLimit, microsPerDay, microsPerSecond] at early
    simp only [sinceEpochStart, epochMicros, microsPerDay, microsPerSecond]
    omega
  obtain ⟨negative, units, exact, clock, least⟩ := le_clock (by decide) start
  have most := clock_units_le (by decide) bound clock
  have signed_most : Double.signedUnits negative units ≤ 253402300799 * unitsPerOne := by
    have size := Double.natAbs_signedUnits negative units
    omega
  have after := microsOfUnits_mono least
  have before := microsOfUnits_mono signed_most
  rw [microsOfUnits_seconds] at after before
  have moment := Number.moment_eq (Number.place?_finite negative exact)
  rw [← clock] at moment
  show ∃ moment, (Number.double now.clock).moment = .ok moment
  rw [moment]
  refine exists_sinceEpoch_iff.2 ⟨?_, ?_⟩
  · simp only [epochMicros, microsPerDay, microsPerSecond] at after ⊢
    omega
  · simp only [epochMicros, dayLimit, microsPerDay, microsPerSecond] at before ⊢
    omega

end Calendar.Moment

/-! ## Seven days before -/

namespace Number

/-- The seconds of seven days are a double. -/
theorem exists_week :
    ∃ exact, Double.ofInt 604800 = .finite false (604800 * unitsPerOne) exact :=
  ⟨by decide +kernel, by decide +kernel⟩

/-- A difference from the units of a double on has its double from there on. -/
theorem le_place_sub (left right : Bool) {units others : ℕ} (exact : Representable units)
    (exact' : Representable others) {bound : ℤ} (held : Representable bound.natAbs)
    (ge : bound ≤ Double.signedUnits left units - Double.signedUnits right others) :
    ∃ p ∈ (Number.double (.finite left units exact - .finite right others exact')).place?,
      ((bound : ℤ) : WithTop ℤ) ≤ p := by
  rw [sub_finite]
  split
  · rename_i none
    rw [Double.zero, place?_finite, Double.signedUnits_zero]
    exact ⟨_, rfl, WithBot.coe_le_coe.2 (WithTop.coe_le_coe.2 (none ▸ ge))⟩
  · exact le_place_round Nat.one_pos held (by rwa [Nat.cast_one, mul_one])

end Number

namespace Stamps

variable {now : Moment} {stamp : Number}

/-- A number that the clock may have shown in the seven days up to a moment: it is not less than
what the clock shows less the seconds of seven days, and not more than what the clock shows. -/
structure IsOfLastWeek (now : Moment) (stamp : Number) : Prop where
  least : stamp.isAtLeast (.double (now.clock - .ofInt 604800)) = true
  most : (Number.double now.clock).isAtLeast stamp = true

/-- By default the oldest reading that is kept is that of seven days before. -/
theorem cutoff_clock (now : Moment) : cutoff (.double now.clock) defaultRetention =
    .ok (.double (now.clock - .ofInt 604800)) := by
  have finite : (Double.ofInt 604800).isFinite = true := by decide +kernel
  have week : Number.combine (· - ·) (· - ·) (.double now.clock) (.int 604800) =
      some (.double (now.clock - .ofInt 604800)) := by
    simp only [Number.combine, Number.toDouble?, finite, ↓reduceIte]
    rfl
  have days : Number.combine (· * ·) (· * ·) defaultRetention secondsPerDay =
      some (.int 604800) := rfl
  rw [cutoff, days, Option.bind_some, week]

/-- What the clock shows is not less than that of seven days before. -/
theorem isAtLeast_week (now : Moment) :
    (Number.double now.clock).isAtLeast (.double (now.clock - .ofInt 604800)) = true :=
  Number.isAtLeast_sub now.clock_isFinite (Number.isNonneg_ofInt (by decide))

/-- Seven days that begin in the calendar do not begin before it by the clock either. -/
theorem week_isAtLeast_start (past : 7 * microsPerDay ≤ now.micros) :
    (Number.double (now.clock - .ofInt 604800)).isAtLeast (.int (-62135596800)) = true := by
  have late : -62134992000 * microsPerSecond ≤ now.sinceEpochStart := by
    simp only [microsPerDay, microsPerSecond] at past
    simp only [Moment.sinceEpochStart, epochMicros, microsPerDay, microsPerSecond]
    omega
  obtain ⟨negative, units, exact, clock, least⟩ := Moment.le_clock (by decide) late
  obtain ⟨exact', week⟩ := Number.exists_week
  have difference : -62135596800 * (unitsPerOne : ℤ) ≤
      Double.signedUnits negative units - Double.signedUnits false (604800 * unitsPerOne) := by
    rw [Double.signedUnits.eq_1 false, if_neg Bool.false_ne_true]
    push_cast
    omega
  obtain ⟨place, held, le⟩ := Number.le_place_sub negative false exact exact'
    (Moment.representable_seconds (by decide)) difference
  rw [Number.isAtLeast_iff, Number.place?_int, clock, week]
  exact ⟨place, held, _, rfl, le⟩

/-- If the clock of a moment is read back as a moment, then every number of the last seven days is,
as long as these begin in the calendar. -/
theorem IsOfLastWeek.exists_moment (recent : IsOfLastWeek now stamp)
    (past : 7 * microsPerDay ≤ now.micros)
    (read : ∃ moment, Moment.ofClock now.clock = .ok moment) :
    ∃ moment, stamp.moment = .ok moment := by
  obtain ⟨last, ends⟩ : ∃ last, (Number.double now.clock).moment = .ok last := read
  have begins : (Number.int (-62135596800)).moment = .ok ⟨0, Calendar.limit_pos⟩ := by
    decide +kernel
  exact Number.exists_moment_between begins ends
    (Number.isAtLeast_trans recent.least (week_isAtLeast_start past)) recent.most

/-! ## The exact difference -/

/-- The units of a double less those of seven days are the units of a double, unless there are too
many of them. -/
theorem representable_sub_week {units : ℕ} (exact : Representable units)
    (few : units ≤ 10 ^ 12 * unitsPerOne) : Representable (units - 604800 * unitsPerOne) := by
  refine ⟨Nat.dvd_sub ?_ ?_, Nat.lt_of_le_of_lt (Nat.sub_le _ _) exact.lt_limit⟩
  · exact (spacing_dvd_spacing (Nat.sub_le _ _)).trans exact.spacing_dvd
  · -- The seconds of seven days are a multiple of 2^7, and the spacing is no greater than that.
    have week : 604800 * unitsPerOne = 4725 * 2 ^ 1081 := by decide +kernel
    have size : units - 604800 * unitsPerOne < 2 ^ 1133 := by
      refine Nat.lt_of_le_of_lt ((Nat.sub_le _ _).trans few) ?_
      decide +kernel
    have fine : (units - 604800 * unitsPerOne).log2 - 52 ≤ 1081 := by
      by_cases none : units - 604800 * unitsPerOne = 0
      · rw [none]
        decide
      · have bits := (Nat.log2_lt none).2 size
        omega
    rw [spacing]
    generalize (units - 604800 * unitsPerOne).log2 - 52 = shift at fine ⊢
    rw [week]
    exact pow_dvd_mul_pow fine 4725

/-- Such a difference is not rounded. -/
theorem finite_sub_week {units week : ℕ} (exact : Representable units) (exact' : Representable week)
    (rest : Representable (units - week)) (more : week ≤ units) :
    Double.finite false units exact - Double.finite false week exact' =
      .finite false (units - week) rest := by
  have difference : Double.signedUnits false units - Double.signedUnits false week =
      ((units - week : ℕ) : ℤ) := by
    rw [Double.signedUnits, Double.signedUnits, if_neg Bool.false_ne_true,
      if_neg Bool.false_ne_true, Int.ofNat_sub more]
  rw [Number.sub_finite]
  simp only [difference]
  by_cases none : units - week = 0
  · rw [if_pos (by omega), Double.zero, Bool.false_and, Double.finite.injEq]
    exact ⟨rfl, none.symm⟩
  · have kept : nearestUnits (units - week) 1 = units - week := by
      have near := nearestUnits_near (units - week) Nat.one_pos
      rw [Nat.cast_one, div_one] at near
      exact near.unique (UnitsNear.self rest.spacing_dvd)
    have finite : nearestUnits (units - week) 1 < unitsLimit := kept.symm ▸ rest.lt_limit
    rw [if_neg (by omega), Int.natAbs_natCast, decide_eq_false (by omega), Double.round,
      dif_pos finite, Double.finite.injEq]
    exact ⟨rfl, kept⟩

/-- From the second week of 1970 on what the clock shows less the seconds of seven days is the exact
difference. -/
theorem exists_week_sub (late : epochMicros + 7 * microsPerDay ≤ now.micros) :
    ∃ units exact rest, 604800 * unitsPerOne ≤ units ∧ now.clock = .finite false units exact ∧
      now.clock - .ofInt 604800 = .finite false (units - 604800 * unitsPerOne) rest := by
  have after : 604800 * microsPerSecond ≤ now.sinceEpochStart := by
    simp only [epochMicros, microsPerDay, microsPerSecond] at late
    simp only [Moment.sinceEpochStart, epochMicros, microsPerDay, microsPerSecond]
    omega
  have bound : now.sinceEpochStart.natAbs ≤ 10 ^ 12 * microsPerSecond := by
    have inside := now.lt_limit
    simp only [Calendar.dayLimit, microsPerDay, microsPerSecond] at inside
    simp only [Moment.sinceEpochStart, epochMicros, microsPerDay, microsPerSecond]
    omega
  obtain ⟨negative, units, exact, clock, least⟩ := Moment.le_clock (by decide) after
  obtain ⟨exact', week⟩ := Number.exists_week
  obtain rfl : negative = false := by
    cases negative with
    | false => rfl
    | true =>
      have some_units := unitsPerOne_pos
      rw [Double.signedUnits, if_pos rfl] at least
      omega
  have more : 604800 * unitsPerOne ≤ units := by
    rw [Double.signedUnits, if_neg Bool.false_ne_true] at least
    exact_mod_cast least
  have rest := representable_sub_week exact (Moment.clock_units_le (by decide) bound clock)
  refine ⟨units, exact, rest, more, clock, ?_⟩
  rw [clock, week, finite_sub_week exact exact' rest more]

/-- So a number of the last seven days is then within 604800 seconds of what the clock shows. -/
theorem IsOfLastWeek.within (recent : IsOfLastWeek now stamp)
    (late : epochMicros + 7 * microsPerDay ≤ now.micros) :
    now.clock.toRat - 604800 ≤ stamp.toRat ∧ stamp.toRat ≤ now.clock.toRat := by
  obtain ⟨units, exact, rest, more, clock, difference⟩ := exists_week_sub late
  obtain ⟨least, most⟩ := recent
  rw [difference] at least
  rw [clock] at most ⊢
  obtain ⟨place, held, from_low, to_high⟩ := Number.exists_units_between
    (Number.place?_finite false rest) (Number.place?_finite false exact) least most
  have positive := Double.unitsPerOne_cast_pos
  rw [Double.signedUnits, if_neg Bool.false_ne_true, Int.ofNat_sub more] at from_low
  have low : (units : ℚ) - 604800 * unitsPerOne ≤ place := by exact_mod_cast from_low
  rw [Number.toRat_of_place held, Double.toRat, le_div_iff₀ positive, sub_mul,
    div_mul_cancel₀ _ positive.ne']
  exact ⟨low, div_le_div_of_nonneg_right (Int.cast_le.2 to_high) positive.le⟩

end Stamps

end Reckoner
