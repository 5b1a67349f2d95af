import Reckoner.Arithmetic
import Reckoner.History.Log

/-!
# Compute services

What a calculator asks of a service, near or far: the exact result of an operation on two
integers, logged on the way. A service answers with named values or fails with one of the errors
collected here.
-/

namespace Reckoner

/-- How an answer that is not as promised breaks the reading of it. -/
inductive ShapeError where
  | notIterable (kind : Text)
  | notSubscriptable (kind : Text)
  | textIndex
  | listIndex
  deriving DecidableEq, Repr

/-- The wording of a shape error. -/
def ShapeError.message : ShapeError → Text
  | .notIterable kind => "'" ++ kind ++ "' object is not iterable"
  | .notSubscriptable kind => "'" ++ kind ++ "' object is not subscriptable"
  | .textIndex => "string indices must be integers, not 'str'"
  | .listIndex => "list indices must be integers or slices, not str"

/-- Why a service gives no answer. -/
inductive ServiceError where
  | invalidOperand (name : Text) (value : Json)
  | calculation (error : CalculationError)
  | log (error : LogError)
  | span (error : Calendar.SpanError)
  /-- The far service could not be reached or answered something unusable. -/
  | unavailable (message : Text)
  /-- The far service refused the request, with this status. -/
  | rejected (message : Text) (status : Int)
  | missingName (name : Text)
  | shape (error : ShapeError)
  /-- A request holds a text that has no bytes. -/
  | unencodable (error : Utf8.EncodeError)
  /-- The result of an answer is an infinity. -/
  | infiniteResult

/-- The wording of a service error. -/
def ServiceError.message : ServiceError → Text
  | .invalidOperand name value => name ++ " must be an integer, got " ++ value.describe
  | .calculation error => error.message
  | .log error => error.message
  | .span error => error.message
  | .unavailable message => message
  | .rejected message _ => message
  | .missingName name => name.quoted
  | .shape error => error.message
  | .unencodable error => error.message
  | .infiniteResult => "cannot convert float infinity to integer"

/-- Whether the error is one that services announce, rather than an accident of using one. -/
def ServiceError.isAnnounced : ServiceError → Bool
  | .invalidOperand _ _ => true
  | .calculation (.divisionByZero _) => true
  | .unavailable _ => true
  | .rejected _ _ => true
  | _ => false

/-- The answer to a calculation: named values, of which one is the result. -/
abbrev Answer := Fields

namespace Answer

/-- The answer that a result and its expression make. -/
def make (result expression : Json) : Answer :=
  [("result", result), ("expression", expression)]

/-- The result, if the answer has one. -/
def result? (answer : Answer) : Option Json := Fields.get? answer "result"

end Answer

/-- What stands behind a calculator: it computes on two integers and may change its own state. -/
abbrev Provider (σ : Type) := Operator → Int → Int → σ → Except ServiceError Answer × σ

/-- The provider of a calculator without a service. -/
def Provider.missing {σ : Type} : Provider σ := fun _ _ _ state =>
  (.error (.unavailable "No compute service configured"), state)

end Reckoner
