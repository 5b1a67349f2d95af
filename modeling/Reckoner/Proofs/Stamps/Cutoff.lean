import Mathlib.Data.Int.ConditionallyCompleteOrder
import Reckoner.Proofs.Decimal.Value
import Reckoner.Stamps

/-!
# Numbers in order and the oldest reading that is kept

Numbers compare by their places on the line, so those that have a place are linearly ordered. What
is subtracted from now is not negative, and rounding a difference keeps it from going above a double
that it started from; so the oldest reading that is kept is not later than now. The exception is an
integer that is itself rounded up on becoming a double.
-/

namespace Reckoner

/-- The place of a position among the integers, one before all of them and one behind. -/
def Position.place : Position → WithBot (WithTop ℤ)
  | .below => ⊥
  | .at units => (units : WithTop ℤ)
  | .above => ⊤

/-- A position is left of another if its place is less. -/
theorem Position.isBefore_iff {p q : Position} : p.isBefore q = true ↔ p.place < q.place := by
  have inside (units : ℤ) : ((units : WithTop ℤ) : WithBot (WithTop ℤ)) < ⊤ := by
    rw [← WithBot.coe_top]
    exact WithBot.coe_lt_coe.2 (WithTop.coe_lt_top units)
  cases p
  all_goals
    cases q
    all_goals simp [isBefore, place, inside]

namespace Number

/-- The place of a number that is one. -/
def place? (number : Number) : Option (WithBot (WithTop ℤ)) := number.position?.map Position.place

variable {left right other : Number}

/-- A number is at least another if both have a place and that of the other one is not greater. -/
theorem isAtLeast_iff : left.isAtLeast right = true ↔
    ∃ p ∈ left.place?, ∃ q ∈ right.place?, q ≤ p := by
  unfold isAtLeast place?
  cases left.position? with
  | none => simp
  | some p =>
    cases right.position? with
    | none => simp
    | some q =>
      simp [← not_lt, ← Position.isBefore_iff]

/-- A number is less than another if both have a place and its own is less. -/
theorem isLess_iff : left.isLess right = true ↔ ∃ p ∈ left.place?, ∃ q ∈ right.place?, p < q := by
  unfold isLess place?
  cases left.position? with
  | none => simp
  | some p =>
    cases right.position? with
    | none => simp
    | some q => simp [← Position.isBefore_iff]

/-- No number is less than itself. -/
theorem isLess_self (number : Number) : number.isLess number = false := by
  rw [Bool.eq_false_iff, ne_eq, isLess_iff]
  rintro ⟨p, held, q, held', less⟩
  obtain rfl := Option.mem_unique held held'
  exact lt_irrefl p less

/-- A number that is at least some number is at least itself. -/
theorem isAtLeast_self (least : left.isAtLeast right = true) : left.isAtLeast left = true := by
  obtain ⟨p, held, -⟩ := isAtLeast_iff.1 least
  exact isAtLeast_iff.2 ⟨p, held, p, held, le_rfl⟩

/-- What is at least a number is at least what that one is at least. -/
theorem isAtLeast_trans (first : left.isAtLeast right = true)
    (second : right.isAtLeast other = true) : left.isAtLeast other = true := by
  obtain ⟨p, left_held, q, right_held, le⟩ := isAtLeast_iff.1 first
  obtain ⟨q', right_held', r, other_held, le'⟩ := isAtLeast_iff.1 second
  obtain rfl := Option.mem_unique right_held right_held'
  exact isAtLeast_iff.2 ⟨p, left_held, r, other_held, le'.trans le⟩

/-- A number that is at least another is not less. -/
theorem not_isLess_of_isAtLeast (least : left.isAtLeast right = true) :
    left.isLess right = false := by
  rw [Bool.eq_false_iff, ne_eq, isLess_iff]
  rintro ⟨p, left_held, q, right_held, less⟩
  obtain ⟨p', left_held', q', right_held', le⟩ := isAtLeast_iff.1 least
  obtain rfl := Option.mem_unique left_held left_held'
  obtain rfl := Option.mem_unique right_held right_held'
  exact not_lt.2 le less

/-- Of two numbers that have a place, the first is at least the second unless it is less. -/
theorem isAtLeast_of_not_isLess {least least' : Number} (first : left.isAtLeast least = true)
    (second : right.isAtLeast least' = true) (not_less : left.isLess right = false) :
    left.isAtLeast right = true := by
  obtain ⟨p, left_held, -⟩ := isAtLeast_iff.1 first
  obtain ⟨q, right_held, -⟩ := isAtLeast_iff.1 second
  refine isAtLeast_iff.2 ⟨p, left_held, q, right_held, not_lt.1 fun less => ?_⟩
  rw [isLess_iff.2 ⟨p, left_held, q, right_held, less⟩] at not_less
  cases not_less

end Number

/-! ## Rounded differences -/

/-- The magnitude nearest to one that does not exceed a magnitude of a double does not either. -/
theorem nearestUnits_le {n d units : ℕ} (positive : 0 < d) (exact : Representable units)
    (le : n ≤ units * d) : nearestUnits n d ≤ units := by
  have bound : (n : ℚ) / d ≤ units := by
    rw [div_le_iff₀ (Nat.cast_pos.2 positive)]
    exact_mod_cast le
  exact (nearestUnits_near n positive).mono (UnitsNear.self exact.spacing_dvd) (by positivity) bound

/-- The magnitude nearest to one that is not below a magnitude of a double is not either. -/
theorem le_nearestUnits {n d units : ℕ} (positive : 0 < d) (exact : Representable units)
    (le : units * d ≤ n) : units ≤ nearestUnits n d := by
  have bound : (units : ℚ) ≤ n / d := by
    rw [le_div_iff₀ (Nat.cast_pos.2 positive)]
    exact_mod_cast le
  exact (UnitsNear.self exact.spacing_dvd).mono (nearestUnits_near n positive)
    (Nat.cast_nonneg units) bound

namespace Number

/-- A finite double has the place of its units. -/
theorem place?_finite (negative : Bool) {units : ℕ} (exact : Representable units) :
    (Number.double (.finite negative units exact)).place? =
      some ((Double.signedUnits negative units : ℤ) : WithTop ℤ) := by
  cases negative
  · rfl
  · rfl

/-- An integer has the place of its units. -/
theorem place?_int (n : ℤ) :
    (Number.int n).place? = some ((n * unitsPerOne : ℤ) : WithTop ℤ) := rfl

/-- The double next to a sum that does not exceed the units of a double has no greater place than
those units. -/
theorem exists_place_round {sum left : ℤ} (exact : Representable left.natAbs) (le : sum ≤ left) :
    ∃ p ∈ (Number.double (.round (decide (sum < 0)) sum.natAbs 1)).place?,
      p ≤ ((left : ℤ) : WithTop ℤ) := by
  unfold Double.round
  split
  · rename_i below
    rw [place?_finite]
    refine ⟨_, rfl, WithBot.coe_le_coe.2 (WithTop.coe_le_coe.2 ?_)⟩
    unfold Double.signedUnits
    by_cases negative : sum < 0
    · rw [if_pos (decide_eq_true negative)]
      by_cases other : left < 0
      · have bound := le_nearestUnits Nat.one_pos exact
          (show left.natAbs * 1 ≤ sum.natAbs by omega)
        omega
      · omega
    · rw [if_neg (by simpa using negative)]
      have bound := nearestUnits_le Nat.one_pos exact
        (show sum.natAbs ≤ left.natAbs * 1 by omega)
      omega
  · rename_i beyond
    by_cases negative : sum < 0
    · rw [decide_eq_true negative]
      exact ⟨⊥, rfl, bot_le⟩
    · have bound := nearestUnits_le Nat.one_pos exact
        (show sum.natAbs ≤ left.natAbs * 1 by omega)
      exact absurd (Nat.lt_of_le_of_lt bound exact.lt_limit) beyond

/-- A number that is not negative. -/
def IsNonneg (number : Number) : Prop := ∃ p ∈ number.place?, 0 ≤ p

/-- A double that is not negative is infinite, or has a number of units that is not negative. -/
theorem IsNonneg.double_cases {value : Double} (nonneg : (Number.double value).IsNonneg) :
    value = .infinite false ∨ ∃ negative units exact, value = .finite negative units exact ∧
      0 ≤ Double.signedUnits negative units := by
  obtain ⟨place, held, nonneg⟩ := nonneg
  cases value with
  | nan => cases held
  | infinite negative =>
    cases negative with
    | true =>
      cases held
      exact absurd nonneg (by decide)
    | false => exact .inl rfl
  | finite negative units exact =>
    rw [place?_finite] at held
    obtain rfl := Option.some.inj held
    exact .inr ⟨negative, units, exact, rfl, WithTop.coe_le_coe.1 (WithBot.coe_le_coe.1 nonneg)⟩

/-- The difference of two finite doubles is the exact one, rounded. -/
theorem sub_finite (left right : Bool) {units others : ℕ} (exact : Representable units)
    (exact' : Representable others) :
    let difference := Double.signedUnits left units - Double.signedUnits right others
    Double.finite left units exact - Double.finite right others exact' =
      if difference = 0 then Double.zero (left && !right)
      else Double.round (decide (difference < 0)) difference.natAbs 1 := by
  intro difference
  have sum : Double.signedUnits left units + Double.signedUnits (!right) others = difference := by
    rw [Double.signedUnits_not]
    rfl
  show (if Double.signedUnits left units + Double.signedUnits (!right) others = 0 then _ else _) = _
  rw [sum]

/-- Subtracting what is not negative from a double does not go above it. -/
theorem isAtLeast_sub {left right : Double} (finite : left.isFinite = true)
    (nonneg : (Number.double right).IsNonneg) :
    (Number.double left).isAtLeast (.double (left - right)) = true := by
  obtain ⟨sign, units, exact, rfl⟩ := Double.exists_finite finite
  rw [isAtLeast_iff, place?_finite]
  refine ⟨_, rfl, ?_⟩
  rcases nonneg.double_cases with rfl | ⟨negative, others, exact', rfl, least⟩
  · exact ⟨⊥, rfl, bot_le⟩
  · rw [sub_finite]
    split
    · rename_i zero
      rw [Double.zero, place?_finite, Double.signedUnits_zero]
      exact ⟨_, rfl, WithBot.coe_le_coe.2 (WithTop.coe_le_coe.2 (by omega))⟩
    · refine exists_place_round ?_ (by omega)
      rwa [Double.natAbs_signedUnits]

/-- A magnitude is rounded to a number that is not negative. -/
theorem isNonneg_round (n d : ℕ) : (Number.double (.round false n d)).IsNonneg := by
  unfold Double.round
  split
  · rw [IsNonneg, place?_finite]
    exact ⟨_, rfl, WithBot.coe_le_coe.2 (WithTop.coe_le_coe.2 (Int.natCast_nonneg _))⟩
  · exact ⟨⊤, rfl, le_top⟩

/-- An integer that is not negative becomes such a double. -/
theorem isNonneg_ofInt {n : ℤ} (nonneg : 0 ≤ n) : (Number.double (.ofInt n)).IsNonneg := by
  rw [Double.ofInt, decide_eq_false (not_lt.2 nonneg)]
  exact isNonneg_round _ _

/-- The seconds of a day are a double. -/
theorem exists_day : ∃ units exact, 0 < units ∧ Double.ofInt 86400 = .finite false units exact :=
  ⟨86400 * unitsPerOne, by decide +kernel, by decide +kernel, by decide +kernel⟩

/-- Nothing is rounded to nothing. -/
theorem nearestUnits_zero {d : ℕ} (positive : 0 < d) : nearestUnits 0 d = 0 := by
  have near := nearestUnits_near 0 positive
  rw [Nat.cast_zero, zero_div, ← Nat.cast_zero] at near
  exact near.unique (UnitsNear.self (Nat.dvd_zero _))

/-- The seconds in a number of days that is not negative are not negative. -/
theorem isNonneg_days {days : Double} (nonneg : (Number.double days).IsNonneg) :
    (Number.double (days * .ofInt 86400)).IsNonneg := by
  obtain ⟨units, exact, positive, day⟩ := exists_day
  rw [day]
  rcases nonneg.double_cases with rfl | ⟨negative, others, exact', rfl, least⟩
  · have product : Double.infinite false * Double.finite false units exact =
        if units = 0 then .nan else .infinite false := rfl
    rw [product, if_neg positive.ne']
    exact ⟨⊤, rfl, le_top⟩
  · have product : Double.finite negative others exact' * Double.finite false units exact =
        (Double.finite negative others exact').mul (.finite false units exact) := rfl
    rw [product, Double.mul, Bool.xor_false]
    cases negative with
    | false => exact isNonneg_round _ _
    | true =>
      have none : others = 0 := by
        unfold Double.signedUnits at least
        rw [if_pos rfl] at least
        omega
      rw [none, Nat.zero_mul, Decimal.round_eq_limited, nearestUnits_zero unitsPerOne_pos,
        Decimal.limited_zero, IsNonneg, Double.zero, place?_finite, Double.signedUnits_zero]
      exact ⟨_, rfl, le_rfl⟩

/-- What is at least zero is not negative. -/
theorem isNonneg_of_isAtLeast {number : Number} (nonneg : number.isAtLeast (.int 0) = true) :
    number.IsNonneg := by
  obtain ⟨p, held, q, zero, le⟩ := isAtLeast_iff.1 nonneg
  rw [place?_int, Int.zero_mul] at zero
  rw [← Option.some.inj zero] at le
  exact ⟨p, held, le⟩

/-- Integers compare as integers. -/
theorem isAtLeast_int {m n : ℤ} : (Number.int m).isAtLeast (.int n) = true ↔ n ≤ m := by
  have units : (0 : ℤ) < unitsPerOne := Int.natCast_pos.2 unitsPerOne_pos
  rw [isAtLeast_iff, place?_int, place?_int]
  constructor
  · rintro ⟨p, first, q, second, le⟩
    rw [← Option.some.inj first, ← Option.some.inj second] at le
    have le : n * (unitsPerOne : ℤ) ≤ m * unitsPerOne :=
      WithTop.coe_le_coe.1 (WithBot.coe_le_coe.1 le)
    exact Int.le_of_mul_le_mul_right le units
  · intro le
    refine ⟨_, rfl, _, rfl, WithBot.coe_le_coe.2 (WithTop.coe_le_coe.2 ?_)⟩
    exact Int.mul_le_mul_of_nonneg_right le units.le

/-- A number that is neither an infinity nor not a number. -/
def IsFinite : Number → Prop
  | .int _ => True
  | .double value => value.isFinite = true

/-- A finite number is at least itself. -/
theorem IsFinite.isAtLeast_self {number : Number} (finite : number.IsFinite) :
    number.isAtLeast number = true := by
  cases number with
  | int n => exact isAtLeast_int.2 le_rfl
  | double value =>
    obtain ⟨sign, units, exact, rfl⟩ := Double.exists_finite finite
    rw [isAtLeast_iff, place?_finite]
    exact ⟨_, rfl, _, rfl, le_rfl⟩

/-- A number does not grow when it meets another one: an integer that becomes a double is not rounded
up. -/
def NotRaised : Number → Number → Prop
  | .int n, .double _ => (Number.int n).isAtLeast (.double (.ofInt n)) = true
  | _, _ => True

end Number

namespace Number

variable {onInts : ℤ → ℤ → ℤ} {onDoubles : Double → Double → Double}

/-- An operation is exact on integers and on doubles otherwise. -/
theorem combine_cases {left right result : Number}
    (combined : combine onInts onDoubles left right = some result) :
    (∃ m n, left = .int m ∧ right = .int n ∧ result = .int (onInts m n)) ∨
    (∀ m n, left = .int m → right ≠ .int n) ∧ ∃ x y, left.toDouble? = some x ∧
      right.toDouble? = some y ∧ result = .double (onDoubles x y) := by
  unfold combine at combined
  split at combined
  · exact .inl ⟨_, _, rfl, rfl, (Option.some.inj combined).symm⟩
  · rename_i apart
    simp only [Option.bind_eq_bind, Option.bind_eq_some_iff, Option.pure_def] at combined
    obtain ⟨x, first, y, second, same⟩ := combined
    exact .inr ⟨apart, x, y, first, second, (Option.some.inj same).symm⟩

/-- A double is its own double. -/
theorem toDouble?_double (value : Double) : (Number.double value).toDouble? = some value := rfl

/-- The double of an integer is the one next to it. -/
theorem toDouble?_int {n : ℤ} {value : Double} (next : (Number.int n).toDouble? = some value) :
    value = .ofInt n ∧ value.isFinite = true := by
  unfold toDouble? at next
  simp only at next
  split at next
  · rename_i finite
    rw [← Option.some.inj next]
    exact ⟨rfl, finite⟩
  · cases next

end Number

namespace Stamps

variable {now retention oldest span : Number}

/-- The oldest reading that is kept is as long ago as the retention. -/
theorem cutoff_eq_ok (found : cutoff now retention = .ok oldest) :
    ∃ span, Number.combine (· * ·) (· * ·) retention secondsPerDay = some span ∧
      Number.combine (· - ·) (· - ·) now span = some oldest := by
  unfold cutoff at found
  split at found
  · rename_i same
    cases found
    exact Option.bind_eq_some_iff.1 same
  · cases found

/-- A retention that is not negative has no negative number of seconds. It is an integer of seconds
if it is an integer of days, and a double otherwise. -/
theorem span_cases (nonneg : retention.isAtLeast (.int 0) = true)
    (spanned : Number.combine (· * ·) (· * ·) retention secondsPerDay = some span) :
    (∃ seconds, 0 ≤ seconds ∧ span = .int seconds) ∨
    ∃ days seconds, retention = .double days ∧ span = .double seconds ∧
      (Number.double seconds).IsNonneg := by
  cases retention with
  | int days =>
    cases spanned
    have positive := Number.isAtLeast_int.1 nonneg
    exact .inl ⟨days * 86400, by omega, rfl⟩
  | double days =>
    rcases Number.combine_cases spanned with ⟨m, n, absurd, -⟩ | ⟨-, x, y, first, second, rfl⟩
    · cases absurd
    · rw [Number.toDouble?_double] at first
      rw [← Option.some.inj first, (Number.toDouble?_int second).1]
      exact .inr ⟨days, _, rfl, rfl, Number.isNonneg_days (Number.isNonneg_of_isAtLeast nonneg)⟩

/-- The oldest reading that is kept is not later than now. -/
theorem isAtLeast_cutoff (finite : now.IsFinite) (nonneg : retention.isAtLeast (.int 0) = true)
    (held : now.NotRaised retention) (found : cutoff now retention = .ok oldest) :
    now.isAtLeast oldest = true := by
  obtain ⟨span, spanned, subtracted⟩ := cutoff_eq_ok found
  rcases span_cases nonneg spanned with ⟨seconds, positive, rfl⟩ |
    ⟨days, seconds, rfl, rfl, positive⟩
  · rcases Number.combine_cases subtracted with ⟨m, n, rfl, same, rfl⟩ |
      ⟨apart, x, y, first, second, rfl⟩
    · rw [Number.isAtLeast_int, ← Number.int.inj same]
      omega
    · cases now with
      | int n => exact absurd rfl (apart n seconds rfl)
      | double value =>
        rw [Number.toDouble?_double] at first
        rw [← Option.some.inj first, (Number.toDouble?_int second).1]
        exact Number.isAtLeast_sub finite (Number.isNonneg_ofInt positive)
  · rcases Number.combine_cases subtracted with ⟨m, n, -, absurd, -⟩ |
      ⟨-, x, y, first, second, rfl⟩
    · cases absurd
    · rw [Number.toDouble?_double] at second
      rw [← Option.some.inj second]
      cases now with
      | int n =>
        obtain ⟨same, finite⟩ := Number.toDouble?_int first
        rw [same] at finite ⊢
        exact Number.isAtLeast_trans held (Number.isAtLeast_sub finite positive)
      | double value =>
        rw [Number.toDouble?_double] at first
        rw [← Option.some.inj first]
        exact Number.isAtLeast_sub finite positive

end Stamps

end Reckoner
