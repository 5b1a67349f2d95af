import Reckoner.Calendar.Moment
import Reckoner.Json.Basic

/-!
# Spans of days

A number of days before a moment, given as a JSON value. Whole days count exactly, a fraction of
a day is rounded to the microsecond, and both the span and the moment it leads to are bounded.
-/

namespace Reckoner

namespace Calendar

/-- Why there is no moment so many days ago. -/
inductive SpanError where
  /-- The value is no number; its kind is named. -/
  | notNumeric (kind : Text)
  | notANumber
  | infinite
  | tooManyDays (days : Int)
  /-- More days than a machine integer holds. -/
  | beyondMachine
  /-- The moment is not in the years 1 to 9999. -/
  | outOfRange
  deriving DecidableEq, Repr

/-- The wording of a span error. -/
def SpanError.message : SpanError → Text
  | .notNumeric kind => "unsupported type for timedelta days component: " ++ kind
  | .notANumber => "cannot convert float NaN to integer"
  | .infinite => "cannot convert float infinity to integer"
  | .tooManyDays days => "days=" ++ Text.ofInt days ++ "; must have magnitude <= 999999999"
  | .beyondMachine => "Python int too large to convert to C int"
  | .outOfRange => "date value out of range"

/-- The microseconds of a fraction of a day: the product is rounded to a double first. -/
def fractionOfDay (units : Nat) : Nat :=
  match Double.round false (units * microsPerDay) 1 with
  | .finite _ product _ => product
  | _ => 0

/-- The microseconds in a finite number of days. The whole days are exact; the fraction is
rounded to the even neighbour together with them. -/
def microsOfDouble (negative : Bool) (units : Nat) : Int :=
  let whole := units / unitsPerOne * microsPerDay
  let fraction := fractionOfDay (units % unitsPerOne)
  let micros : Int := roundHalfEven (whole * unitsPerOne + fraction) unitsPerOne
  if negative then -micros else micros

/-- The microseconds in a number of days. -/
def microsOfDays : Json → Except SpanError Int
  | .int days => .ok (days * microsPerDay)
  | .bool day => .ok (if day then microsPerDay else 0)
  | .double (.finite negative units _) => .ok (microsOfDouble negative units)
  | .double (.infinite _) => .error .infinite
  | .double .nan => .error .notANumber
  | .string _ => .error (.notNumeric "str")
  | .array _ => .error (.notNumeric "list")
  | .object _ => .error (.notNumeric "dict")
  | .null => .error (.notNumeric "NoneType")

/-- The span of a number of microseconds, if its whole days are within bounds. -/
def checkSpan (micros : Int) : Except SpanError Int :=
  let days := Int.fdiv micros microsPerDay
  if days < -2147483648 ∨ 2147483647 < days then .error .beyondMachine
  else if days < -999999999 ∨ 999999999 < days then .error (.tooManyDays days)
  else .ok micros

/-- The moment a number of days before another. -/
def daysBefore (days : Json) (now : Moment) : Except SpanError Moment := do
  let micros ← checkSpan (← microsOfDays days)
  match Moment.ofMicros? (now.micros - micros) with
  | some moment => .ok moment
  | none => .error .outOfRange

end Calendar

end Reckoner
