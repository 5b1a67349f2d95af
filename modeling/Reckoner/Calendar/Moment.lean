import Reckoner.Text.Basic
import Reckoner.Double.Basic

/-!
# Moments

Points of time without a zone, counted in microseconds from the start of the year 1 and ending
with the year 9999. Their date follows the Gregorian calendar throughout. A moment is logged to
the second, with the year in as many digits as it has.
-/

namespace Reckoner

namespace Calendar

/-- Whether a year has a 29th of February. -/
def isLeapYear (year : Nat) : Bool :=
  year % 4 == 0 && (year % 100 != 0 || year % 400 == 0)

/-- The days before the first day of a year, from the start of the year 1. -/
def daysBeforeYear (year : Nat) : Nat :=
  let past := year - 1
  past * 365 + past / 4 - past / 100 + past / 400

/-- The lengths of the months of a year. -/
def monthLengths (year : Nat) : List Nat :=
  [31, if isLeapYear year then 29 else 28, 31, 30, 31, 30, 31, 31, 30, 31, 30, 31]

/-- A date by year, month and day of the month, each counted from 1. -/
structure Date where
  year : Nat
  month : Nat
  day : Nat
  deriving DecidableEq, Repr

namespace Date

/-- The days before a date, from the start of the year 1. -/
def dayNumber (date : Date) : Nat :=
  ((monthLengths date.year).take (date.month - 1)).foldl (· + ·) (daysBeforeYear date.year)
    + (date.day - 1)

/-- Whether the date stands in the calendar. -/
def isValid (date : Date) : Bool :=
  decide (1 ≤ date.year) && decide (date.year ≤ 9999) && decide (1 ≤ date.month)
    && decide (1 ≤ date.day)
    && decide (date.day ≤ (monthLengths date.year).getD (date.month - 1) 0)

/-- The year of a day, and the days of that year before it. A cycle of 400 years is 146097 days,
a century at most 36524 and a span of four years at most 1461. -/
def yearOf (day : Nat) : Nat × Nat :=
  let inCycle := day % 146097
  let century := min (inCycle / 36524) 3
  let inCentury := inCycle - century * 36524
  let inFour := inCentury % 1461
  let year := min (inFour / 365) 3
  (day / 146097 * 400 + century * 100 + inCentury / 1461 * 4 + year + 1, inFour - year * 365)

/-- The month and day of the month of a day of the year, given the months still to come. -/
def monthOf (month day : Nat) : List Nat → Nat × Nat
  | [] => (month, day + 1)
  | length :: lengths =>
    if day < length then (month, day + 1) else monthOf (month + 1) (day - length) lengths

/-- The date of a day. -/
def ofDayNumber (day : Nat) : Date :=
  let (year, dayOfYear) := yearOf day
  let (month, dayOfMonth) := monthOf 1 dayOfYear (monthLengths year)
  ⟨year, month, dayOfMonth⟩

end Date

/-- Why a reading of a clock stands for no moment. -/
inductive ClockError where
  | notANumber
  /-- The seconds have more bits than a clock. -/
  | beyondClock
  /-- The year has more bits than are kept of one. -/
  | beyondYears
  /-- The reading lies in a year that the calendar does not have. -/
  | outOfRange (year : Int)
  deriving DecidableEq, Repr

/-- The wording of a clock error. -/
def ClockError.message : ClockError → Text
  | .notANumber => "Invalid value NaN (not a number)"
  | .beyondClock => "timestamp out of range for platform time_t"
  | .beyondYears => "[Errno 75] Value too large for defined data type"
  | .outOfRange year => "year " ++ Text.ofInt year ++ " is out of range"

/-- Microseconds in a second. -/
def microsPerSecond : Nat := 1000000

/-- Microseconds in a day. -/
def microsPerDay : Nat := 86400 * microsPerSecond

/-- The days from the start of the year 1 to the end of the year 9999. -/
def dayLimit : Nat := 3652059

/-- There is a first moment. -/
theorem limit_pos : 0 < dayLimit * microsPerDay := by
  decide

/-- A point of time in the years 1 to 9999. -/
structure Moment where
  micros : Nat
  lt_limit : micros < dayLimit * microsPerDay
  deriving DecidableEq

namespace Moment

/-- The moment at a number of microseconds, if it is in range. -/
def ofMicros? (micros : Int) : Option Moment :=
  match micros with
  | .ofNat micros =>
    if h : micros < dayLimit * microsPerDay then some ⟨micros, h⟩ else none
  | .negSucc _ => none

/-- The seconds from the start of the year 1, the fraction dropped. -/
def seconds (moment : Moment) : Nat := moment.micros / microsPerSecond

/-- The date. -/
def date (moment : Moment) : Date := .ofDayNumber (moment.micros / microsPerDay)

/-- The seconds since midnight, the fraction dropped. -/
def secondOfDay (moment : Moment) : Nat := moment.seconds % 86400

/-- Two digits at least. -/
def two (n : Nat) : Text := Text.padZeros 2 (Text.ofNat n)

/-- Hours and minutes. -/
def clockText (moment : Moment) : Text :=
  two (moment.secondOfDay / 3600) ++ ":" ++ two (moment.secondOfDay / 60 % 60)

/-- The moment to the second: `year-month-day hours:minutes:seconds`. The year is not padded. -/
def stamp (moment : Moment) : Text :=
  let date := moment.date
  Text.ofNat date.year ++ "-" ++ two date.month ++ "-" ++ two date.day ++ " " ++ moment.clockText
    ++ ":" ++ two (moment.secondOfDay % 60)

/-- The names of the months, cut to three letters. -/
def monthNames : List Text :=
  ["Jan", "Feb", "Mar", "Apr", "May", "Jun", "Jul", "Aug", "Sep", "Oct", "Nov", "Dec"]

/-- Month, day, hours and minutes. -/
def short (moment : Moment) : Text :=
  let date := moment.date
  monthNames.getD (date.month - 1) [] ++ " " ++ two date.day ++ " " ++ moment.clockText

/-- A whole number of a text of ASCII digits. -/
def field? (text : Text) : Option Nat :=
  if !text.isEmpty && text.all CodePoint.isAsciiDigit then some (Text.digitsNat text) else none

/-- The microseconds that a fraction of up to six digits denotes. -/
def fractionMicros? (digits : Text) : Option Nat :=
  if 6 < digits.length then none
  else field? (digits ++ Text.zeros (6 - digits.length))

/-- Reads `year-month-day hours:minutes:seconds`, with an optional fraction of a second. -/
def ofText? (text : Text) : Option Moment := do
  let (dateText, clock) := Text.splitFirst ' ' text
  let (whole, fraction) := Text.splitFirst '.' (← clock)
  match Text.splitOn '-' dateText, Text.splitOn ':' whole with
  | [year, month, day], [hours, minutes, seconds] =>
    let date : Date := ⟨← field? year, ← field? month, ← field? day⟩
    let hours ← field? hours
    let minutes ← field? minutes
    let seconds ← field? seconds
    let micros ← match fraction with
      | some digits => fractionMicros? digits
      | none => some 0
    if date.isValid && decide (hours < 24) && decide (minutes < 60) && decide (seconds < 60) then
      ofMicros? ((date.dayNumber * 86400 + hours * 3600 + minutes * 60 + seconds) * microsPerSecond
        + micros : Nat)
    else none
  | _, _ => none

/-- The start of the year 1970, from which clocks count seconds. -/
def epochMicros : Nat := 719162 * microsPerDay

/-- The reading of a clock: the double next to the seconds since 1970. -/
def clock (moment : Moment) : Double :=
  let past : Int := (moment.micros : Int) - epochMicros
  .round (decide (past < 0)) (past.natAbs * unitsPerOne) microsPerSecond

/-- The year of a number of microseconds, of those before the year 1 and after the year 9999 as
well: the calendar repeats every 146097 days, which are 400 years. -/
def yearOfMicros (micros : Int) : Int :=
  let day := micros.fdiv microsPerDay
  let cycle := day.fdiv 146097
  cycle * 400 + (Date.yearOf (day - cycle * 146097).toNat).1

/-- The year from which years are counted where few bits are kept of them. -/
def countedFrom : Int := 1900

/-- Why no moment stands at a number of microseconds since 1970 that lies outside the calendar. A
year that is counted from 1900 has 32 bits, and so has the year that is named. -/
def clockError (past : Int) : ClockError :=
  let seconds := past.fdiv microsPerSecond
  let year := yearOfMicros (epochMicros + past)
  if seconds < -2 ^ 63 ∨ 2 ^ 63 ≤ seconds then .beyondClock
  else if year - countedFrom < -2 ^ 31 ∨ 2 ^ 31 ≤ year - countedFrom then .beyondYears
  else .outOfRange (year.bmod (2 ^ 32))

/-- The moment at a number of microseconds since 1970. -/
def sinceEpoch (past : Int) : Except ClockError Moment :=
  match ofMicros? (epochMicros + past) with
  | some moment => .ok moment
  | none => .error (clockError past)

/-- The moment at a reading of a clock, to the nearest microsecond. -/
def ofClock : Double → Except ClockError Moment
  | .nan => .error .notANumber
  | .infinite _ => .error .beyondClock
  | .finite negative units _ =>
    let past : Int := roundHalfEven (units * microsPerSecond) unitsPerOne
    sinceEpoch (if negative then -past else past)

end Moment

end Calendar

end Reckoner
