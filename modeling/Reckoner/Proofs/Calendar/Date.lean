import Mathlib.Algebra.GroupWithZero.Nat
import Mathlib.Data.Nat.Init
import Mathlib.Tactic.SplitIfs
import Reckoner.Calendar.Moment

/-!
# Dates in order

A day has a year, a month and a day of the month, and a later day has a later date. The year of a
day is that in which its number lies: the days before the year are not more than the day's number,
and the days of the year reach beyond it. Within a year the months take their days in turn.
-/

namespace Reckoner

namespace Calendar

/-! ## Years -/

/-- The days of a year. -/
def yearLength (year : Nat) : Nat := if isLeapYear year then 366 else 365

/-- A leap year is a fourth year, but of those that end a century only every fourth. -/
theorem isLeapYear_iff {year : Nat} :
    isLeapYear year = true ↔ 4 ∣ year ∧ (¬100 ∣ year ∨ 400 ∣ year) := by
  simp only [isLeapYear, Bool.and_eq_true, Bool.or_eq_true, beq_iff_eq, bne_iff_ne,
    Nat.dvd_iff_mod_eq_zero, ne_eq]

/-- A year ends where the next one begins. -/
theorem daysBeforeYear_succ (past : Nat) :
    daysBeforeYear (past + 2) = daysBeforeYear (past + 1) + yearLength (past + 1) := by
  have centuries : past / 100 ≤ past / 4 := Nat.div_le_div_left (by decide) (by decide)
  have hundredth : 100 ∣ past + 1 → 4 ∣ past + 1 := Nat.dvd_trans (by decide)
  have cycle : 400 ∣ past + 1 → 100 ∣ past + 1 := Nat.dvd_trans (by decide)
  simp only [daysBeforeYear, yearLength, isLeapYear_iff, Nat.add_sub_cancel,
    show past + 2 - 1 = past + 1 from rfl, Nat.succ_div]
  split_ifs <;> grind

/-- A later year begins no earlier than the end of the years before it. -/
theorem daysBeforeYear_add_length {year later : Nat} (positive : 0 < year) (before : year < later) :
    daysBeforeYear year + yearLength year ≤ daysBeforeYear later := by
  obtain ⟨past, rfl⟩ : ∃ past, year = past + 1 := ⟨year - 1, by omega⟩
  induction later, before using Nat.le_induction with
  | base => exact Nat.le_of_eq (daysBeforeYear_succ past).symm
  | succ later passed ih =>
    obtain ⟨earlier, rfl⟩ : ∃ earlier, later = earlier + 1 := ⟨later - 1, by omega⟩
    exact Nat.le_trans ih (Nat.le.intro (daysBeforeYear_succ earlier).symm)

/-- The days before a year, which a cycle of 400 years, a century, a span of four years and a year
of its own are counted from. -/
theorem daysBeforeYear_parts (cycles : Nat) {century fours year : Nat} (century_le : century ≤ 3)
    (fours_le : fours ≤ 24) (year_le : year ≤ 3) :
    daysBeforeYear (cycles * 400 + century * 100 + fours * 4 + year + 1) =
      cycles * 146097 + century * 36524 + fours * 1461 + year * 365 := by
  have by4 : (cycles * 400 + century * 100 + fours * 4 + year) / 4 =
      cycles * 100 + century * 25 + fours := by omega
  have by100 : (cycles * 400 + century * 100 + fours * 4 + year) / 100 =
      cycles * 4 + century := by omega
  have by400 : (cycles * 400 + century * 100 + fours * 4 + year) / 400 = cycles := by omega
  simp only [daysBeforeYear, Nat.add_sub_cancel, by4, by100, by400]
  omega

/-- The last year of a span of four years is a leap year, unless the span ends a century that is
not the last one of its cycle. -/
theorem isLeapYear_parts (cycles : Nat) {century fours year : Nat} (century_le : century ≤ 3)
    (fours_le : fours ≤ 24) (year_le : year ≤ 3) :
    isLeapYear (cycles * 400 + century * 100 + fours * 4 + year + 1) = true ↔
      year = 3 ∧ (fours ≠ 24 ∨ century = 3) := by
  rw [isLeapYear_iff]
  omega

namespace Date

/-- The year of a day is that in which the day lies, and the days before it in that year are
counted from its beginning. -/
theorem yearOf_spec (day : Nat) :
    0 < (yearOf day).1 ∧ daysBeforeYear (yearOf day).1 + (yearOf day).2 = day ∧
      (yearOf day).2 < yearLength (yearOf day).1 := by
  simp only [yearOf]
  generalize hcycles : day / 146097 = cycles
  generalize hinCycle : day % 146097 = inCycle
  generalize hcentury : min (inCycle / 36524) 3 = century
  generalize hinCentury : inCycle - century * 36524 = inCentury
  generalize hfours : inCentury / 1461 = fours
  generalize hinFour : inCentury % 1461 = inFour
  generalize hyear : min (inFour / 365) 3 = year
  have century_le : century ≤ 3 := by omega
  have year_le : year ≤ 3 := by omega
  have fours_le : fours ≤ 24 := by omega
  have whole : day = cycles * 146097 + century * 36524 + fours * 1461 + inFour := by omega
  have past : year * 365 ≤ inFour := by omega
  refine ⟨Nat.succ_pos _, ?_, ?_⟩
  · rw [daysBeforeYear_parts cycles century_le fours_le year_le]
    omega
  · simp only [yearLength, isLeapYear_parts cycles century_le fours_le year_le]
    split_ifs with leap
    · omega
    · omega

/-- A day of a later year is a later day. -/
theorem yearOf_mono {day later : Nat} (le : day ≤ later) : (yearOf day).1 ≤ (yearOf later).1 := by
  obtain ⟨-, first, -⟩ := yearOf_spec day
  obtain ⟨positive, second, within⟩ := yearOf_spec later
  refine Nat.le_of_not_lt fun before => ?_
  have ends := daysBeforeYear_add_length positive before
  omega

/-! ## Months -/

/-- The months of a year make up the year. -/
theorem sum_monthLengths (year : Nat) : (monthLengths year).sum = yearLength year := by
  unfold monthLengths yearLength
  split <;> rfl

/-- No month is longer than 31 days. -/
theorem monthLengths_le (year : Nat) : ∀ length ∈ monthLengths year, length ≤ 31 := by
  unfold monthLengths
  split <;> decide

/-- A day lies in one of the months that are still to come, or behind them. -/
theorem monthOf_bounds (month day : Nat) (lengths : List Nat) :
    month ≤ (monthOf month day lengths).1 ∧
      (monthOf month day lengths).1 ≤ month + lengths.length := by
  induction lengths generalizing month day with
  | nil => exact ⟨Nat.le_refl _, Nat.le_refl _⟩
  | cons length lengths ih =>
    obtain ⟨lower, upper⟩ := ih (month + 1) (day - length)
    rw [monthOf, List.length_cons]
    split
    · exact ⟨Nat.le_refl _, by omega⟩
    · exact ⟨by omega, by omega⟩

/-- A day of the months to come has no greater number in its month than the month has days. -/
theorem monthOf_day_le {lengths : List Nat} {longest : Nat}
    (bounded : ∀ length ∈ lengths, length ≤ longest) {day : Nat} (month : Nat)
    (within : day < lengths.sum) : (monthOf month day lengths).2 ≤ longest := by
  induction lengths generalizing month day with
  | nil => exact absurd within (Nat.not_lt_zero _)
  | cons length lengths ih =>
    have first := bounded length (List.mem_cons_self ..)
    rw [List.sum_cons] at within
    rw [monthOf]
    split
    · show day + 1 ≤ longest
      omega
    · exact ih (fun other member => bounded other (List.mem_cons_of_mem _ member)) _ (by omega)

/-- A later day lies in a later month, or later in the same one. -/
theorem monthOf_lt {day later : Nat} (month : Nat) (lengths : List Nat) (lt : day < later) :
    (monthOf month day lengths).1 < (monthOf month later lengths).1 ∨
      (monthOf month day lengths).1 = (monthOf month later lengths).1 ∧
        (monthOf month day lengths).2 < (monthOf month later lengths).2 := by
  induction lengths generalizing month day later with
  | nil => exact .inr ⟨rfl, Nat.succ_lt_succ lt⟩
  | cons length lengths ih =>
    simp only [monthOf]
    by_cases first : day < length
    · rw [if_pos first]
      by_cases second : later < length
      · rw [if_pos second]
        exact .inr ⟨rfl, Nat.succ_lt_succ lt⟩
      · rw [if_neg second]
        exact .inl (monthOf_bounds (month + 1) (later - length) lengths).1
    · rw [if_neg first, if_neg (by omega)]
      exact ih (month + 1) (by omega)

/-! ## Dates -/

/-- The date of a day of a year. -/
def inYear (year dayOfYear : Nat) : Date :=
  ⟨year, (monthOf 1 dayOfYear (monthLengths year)).1, (monthOf 1 dayOfYear (monthLengths year)).2⟩

/-- The date of a day is that of its year and its place in the year. -/
theorem ofDayNumber_eq (day : Nat) : ofDayNumber day = inYear (yearOf day).1 (yearOf day).2 := by
  delta ofDayNumber
  generalize yearOf day = parts
  rfl

/-- The year of the date of a day. -/
theorem year_ofDayNumber (day : Nat) : (ofDayNumber day).year = (yearOf day).1 := by
  rw [ofDayNumber_eq, inYear]

/-- No month and no day of a month has more than two digits. -/
theorem inYear_bounds {year dayOfYear : Nat} (within : dayOfYear < yearLength year) :
    (inYear year dayOfYear).month < 100 ∧ (inYear year dayOfYear).day < 100 := by
  have month := (monthOf_bounds 1 dayOfYear (monthLengths year)).2
  rw [← sum_monthLengths] at within
  have day := monthOf_day_le (monthLengths_le year) 1 within
  have twelve : (monthLengths year).length = 12 := rfl
  rw [twelve] at month
  exact ⟨Nat.lt_of_le_of_lt month (by decide), Nat.lt_of_le_of_lt day (by decide)⟩

/-- A day of a later year, or a later day of the same year, has a later year, or a later month in
the same year, or a later day of the same month. -/
theorem inYear_lt {year next first second : Nat} (years : year ≤ next)
    (days : year = next → first < second) :
    (inYear year first).year < (inYear next second).year ∨
      (inYear year first).year = (inYear next second).year ∧
        ((inYear year first).month < (inYear next second).month ∨
          (inYear year first).month = (inYear next second).month ∧
            (inYear year first).day < (inYear next second).day) := by
  rcases Nat.lt_or_eq_of_le years with before | rfl
  · exact .inl before
  · exact .inr ⟨rfl, monthOf_lt 1 (monthLengths year) (days rfl)⟩

/-- The months and days of the dates of days have two digits. -/
theorem ofDayNumber_bounds (day : Nat) :
    (ofDayNumber day).month < 100 ∧ (ofDayNumber day).day < 100 := by
  rw [ofDayNumber_eq]
  exact inYear_bounds (yearOf_spec day).2.2

/-- The date of a later day is later, by year, month and day of the month. -/
theorem ofDayNumber_lt {day later : Nat} (lt : day < later) :
    (ofDayNumber day).year < (ofDayNumber later).year ∨
      (ofDayNumber day).year = (ofDayNumber later).year ∧
        ((ofDayNumber day).month < (ofDayNumber later).month ∨
          (ofDayNumber day).month = (ofDayNumber later).month ∧
            (ofDayNumber day).day < (ofDayNumber later).day) := by
  rw [ofDayNumber_eq, ofDayNumber_eq]
  refine inYear_lt (yearOf_mono (Nat.le_of_lt lt)) fun same => ?_
  obtain ⟨-, first, -⟩ := yearOf_spec day
  obtain ⟨-, second, -⟩ := yearOf_spec later
  rw [← same] at second
  omega

end Date

end Calendar

end Reckoner
