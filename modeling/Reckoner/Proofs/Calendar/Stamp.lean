import Reckoner.Proofs.Calendar.Date
import Reckoner.Proofs.Text.Order

/-!
# Stamps in order

A stamp is a year, of which no zeros are written, and five fields of two digits. Behind the year
the fields compare as numbers do, and they follow the order of time within the year. Years compare
as their numerals: in the order of time if the numerals have the same length, but not always
otherwise. So two stamps stand in the order of their moments exactly if their years do.
-/

namespace Reckoner

namespace Calendar

namespace Moment

/-! ## Fields -/

/-- Numbers of two digits, each behind its mark. -/
def fields : Text → List Nat → Text
  | mark :: marks, n :: numbers => mark :: (two n ++ fields marks numbers)
  | _, _ => []

/-- Fields behind the same marks compare as their numbers. -/
theorem fields_lt_iff {marks : Text} {left right : List Nat}
    (leftLength : left.length = marks.length) (rightLength : right.length = marks.length)
    (first : ∀ n ∈ left, n < 100) (second : ∀ n ∈ right, n < 100) :
    fields marks left < fields marks right ↔ left < right := by
  induction marks generalizing left right with
  | nil =>
    obtain rfl := List.length_eq_zero_iff.1 leftLength
    obtain rfl := List.length_eq_zero_iff.1 rightLength
    exact iff_of_false (List.not_lt_nil _) (List.not_lt_nil _)
  | cons mark marks ih =>
    obtain ⟨n, left, rfl⟩ := List.exists_cons_of_length_eq_add_one leftLength
    obtain ⟨m, right, rfl⟩ := List.exists_cons_of_length_eq_add_one rightLength
    have others : fields marks left < fields marks right ↔ left < right :=
      ih (Nat.succ.inj leftLength) (Nat.succ.inj rightLength)
        (fun n member => first n (List.mem_cons_of_mem _ member))
        (fun n member => second n (List.mem_cons_of_mem _ member))
    have padded := Text.padZeros_append_lt_iff Nat.two_pos (first n (List.mem_cons_self ..))
      (second m (List.mem_cons_self ..)) (fields marks left) (fields marks right)
    rw [fields, fields, Text.cons_lt_cons_iff, List.cons_lt_cons_iff, ← others]
    exact padded

/-- What a stamp says behind the year: month, day, hours, minutes and seconds. -/
def withinYear (moment : Moment) : List Nat :=
  [moment.date.month, moment.date.day, moment.secondOfDay / 3600, moment.secondOfDay / 60 % 60,
    moment.secondOfDay % 60]

/-- The marks before the fields of a stamp. -/
def marks : Text := ['-', '-', ' ', ':', ':']

/-- A stamp is the year and the fields behind it. -/
theorem stamp_eq (moment : Moment) :
    moment.stamp = Text.ofNat moment.date.year ++ fields marks moment.withinYear := by
  simp only [stamp, clockText, marks, withinYear, fields, List.append_assoc, List.append_nil]
  rfl

/-- The fields of a stamp have two digits. -/
theorem withinYear_lt (moment : Moment) : ∀ n ∈ moment.withinYear, n < 100 := by
  have date := Date.ofDayNumber_bounds (moment.micros / microsPerDay)
  have seconds : moment.secondOfDay < 86400 := Nat.mod_lt _ (by decide)
  simp only [withinYear, List.forall_mem_cons]
  exact ⟨date.1, date.2, by omega, by omega, by omega, nofun⟩

/-! ## The order of time -/

/-- The whole days before a moment are those of its seconds. -/
theorem days_eq (moment : Moment) : moment.micros / microsPerDay = moment.seconds / 86400 := by
  rw [seconds, Nat.div_div_eq_div_mul, Nat.mul_comm]
  rfl

/-- A moment in a later second has a later year, or later fields in the same year. -/
theorem year_or_fields_lt {earlier later : Moment} (lt : earlier.seconds < later.seconds) :
    earlier.date.year < later.date.year ∨
      earlier.date.year = later.date.year ∧ earlier.withinYear < later.withinYear := by
  have days : earlier.seconds / 86400 ≤ later.seconds / 86400 :=
    Nat.div_le_div_right (Nat.le_of_lt lt)
  simp only [date, withinYear, days_eq, List.cons_lt_cons_iff]
  rcases Nat.lt_or_eq_of_le days with before | same
  · rcases Date.ofDayNumber_lt before with year | ⟨year, month | ⟨month, day⟩⟩
    · exact .inl year
    · exact .inr ⟨year, .inl month⟩
    · exact .inr ⟨year, .inr ⟨month, .inl day⟩⟩
  · have clock : earlier.secondOfDay < later.secondOfDay := by
      unfold secondOfDay
      omega
    rw [same]
    exact .inr ⟨rfl, .inr ⟨rfl, .inr ⟨rfl, by omega⟩⟩⟩

/-- Within a year the fields follow the order of time. -/
theorem withinYear_lt_iff {left right : Moment} (years : left.date.year = right.date.year) :
    left.withinYear < right.withinYear ↔ left.seconds < right.seconds := by
  have follow {earlier later : Moment} (years : earlier.date.year = later.date.year)
      (lt : earlier.seconds < later.seconds) : earlier.withinYear < later.withinYear := by
    rcases year_or_fields_lt lt with before | ⟨-, fields⟩
    · omega
    · exact fields
  refine ⟨fun below => ?_, follow years⟩
  rcases Nat.lt_trichotomy left.seconds right.seconds with lt | same | gt
  · exact lt
  · refine absurd below ?_
    simp only [withinYear, date, days_eq, secondOfDay, same]
    exact List.lt_irrefl _
  · exact absurd below (List.lt_asymm (follow years.symm gt))

/-! ## The order of stamps -/

/-- Stamps compare by the numerals of their years, and by time within a year. -/
theorem stamp_lt_iff {left right : Moment} :
    left.stamp < right.stamp ↔ Text.ofNat left.date.year < Text.ofNat right.date.year ∨
      left.date.year = right.date.year ∧ left.seconds < right.seconds := by
  have fieldOrder : fields marks left.withinYear < fields marks right.withinYear ↔
      left.withinYear < right.withinYear :=
    fields_lt_iff rfl rfl left.withinYear_lt right.withinYear_lt
  have numerals : Text.ofNat left.date.year = Text.ofNat right.date.year ↔
      left.date.year = right.date.year := ⟨Text.ofNat_injective, congrArg Text.ofNat⟩
  have below : ('-' : CodePoint) < ('0' : CodePoint) := by decide
  have yearOrder := Text.digits_mark_lt_iff (Text.allDigits_ofNat left.date.year)
    (Text.allDigits_ofNat right.date.year) below
    (two left.date.month ++ fields marks.tail left.withinYear.tail)
    (two right.date.month ++ fields marks.tail right.withinYear.tail)
  rw [numerals] at yearOrder
  rw [stamp_eq, stamp_eq]
  refine yearOrder.trans (or_congr_right (and_congr_right fun years => ?_))
  exact (Text.cons_lt_cons_iff (c := '-')).symm.trans (fieldOrder.trans (withinYear_lt_iff years))

/-- Whether two years compare as their numerals do. -/
def YearsInOrder (left right : Nat) : Prop := Text.ofNat left < Text.ofNat right ↔ left < right

instance (left right : Nat) : Decidable (YearsInOrder left right) :=
  inferInstanceAs (Decidable (_ ↔ _))

/-- Years with equally many digits compare as their numerals do. -/
theorem yearsInOrder_of_digitCount {left right : Nat}
    (counts : Text.digitCount left = Text.digitCount right) : YearsInOrder left right :=
  Text.ofNat_lt_ofNat_iff counts

/-- No moment has a year after 9999. -/
theorem year_le (moment : Moment) : moment.date.year ≤ 9999 := by
  have day : moment.micros / microsPerDay < dayLimit :=
    (Nat.div_lt_iff_lt_mul (by decide)).2 moment.lt_limit
  obtain ⟨-, begins, -⟩ := Date.yearOf_spec (moment.micros / microsPerDay)
  rw [date, Date.year_ofDayNumber]
  by_contra after
  have first := daysBeforeYear_add_length (show 0 < 9999 by decide) (Nat.lt_of_not_le after)
  have last : daysBeforeYear 9999 + yearLength 9999 = dayLimit := by decide
  omega

/-- Years of four digits compare as their numerals do. -/
theorem yearsInOrder_of_four_digits {left right : Moment} (first : 1000 ≤ left.date.year)
    (second : 1000 ≤ right.date.year) : YearsInOrder left.date.year right.date.year := by
  have four {moment : Moment} (long : 1000 ≤ moment.date.year) :
      Text.digitCount moment.date.year = 4 := by
    have most : Text.digitCount moment.date.year ≤ 4 :=
      (Text.digitCount_le_iff (by decide)).2 (Nat.lt_succ_of_le moment.year_le)
    have least : ¬Text.digitCount moment.date.year ≤ 3 := fun fewer =>
      absurd ((Text.digitCount_le_iff (by decide)).1 fewer) (Nat.not_lt.2 long)
    omega
  exact yearsInOrder_of_digitCount ((four first).trans (four second).symm)

/-- A stamp is not after another exactly if its moment is not in a later second, as long as the
years compare as their numerals do, and only then. -/
theorem stamp_le_iff_seconds {left right : Moment} :
    (left.stamp ≤ right.stamp ↔ left.seconds ≤ right.seconds) ↔
      YearsInOrder left.date.year right.date.year := by
  rw [← List.not_lt, stamp_lt_iff, YearsInOrder]
  by_cases years : left.date.year = right.date.year
  · have irreflexive := List.lt_irrefl (Text.ofNat right.date.year)
    simp only [years, irreflexive, Nat.lt_irrefl, true_and, false_or, Nat.not_lt]
  · have different : Text.ofNat left.date.year ≠ Text.ofNat right.date.year :=
      fun same => years (Text.ofNat_injective same)
    have seconds : left.seconds ≤ right.seconds ↔ left.date.year < right.date.year := by
      have forward : left.seconds < right.seconds → left.date.year < right.date.year := fun lt =>
        (year_or_fields_lt lt).resolve_right fun both => years both.1
      have backward : right.seconds < left.seconds → right.date.year < left.date.year := fun lt =>
        (year_or_fields_lt lt).resolve_right fun both => years both.1.symm
      have apart : left.seconds ≠ right.seconds := fun same =>
        years (by rw [date, date, days_eq, days_eq, same])
      omega
    simp only [Ne.symm years, false_and, or_false, Text.not_lt_iff_of_ne different, seconds]

/-- The year 999 comes after the year 1000 as a numeral. -/
example : ¬YearsInOrder 999 1000 := by decide

end Moment

end Calendar

end Reckoner
