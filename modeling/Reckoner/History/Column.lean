import Reckoner.Calendar.Span
import Reckoner.Decimal.Integer
import Reckoner.Double.Reader
import Reckoner.Json.Basic
import Reckoner.Text.Utf8

/-!
# Values in a table

What becomes of a value that is handed to the table of calculations. A column holds text, so
numbers are written as numerals; a limit on the number of rows is a whole number, so texts are
read. Integers have 64 bits there, and text is stored by its bytes.
-/

namespace Reckoner

/-- Why the log refuses a request. -/
inductive LogError where
  /-- A column that must have a text has none. -/
  | missing (column : Text)
  /-- An integer has more bits than the table takes. -/
  | beyondColumn
  /-- A text has no bytes. -/
  | unencodable (error : Utf8.EncodeError)
  /-- The value at a place of the request is of a kind that the table does not take. -/
  | unsupported (place : Nat) (kind : Text)
  /-- A limit is no whole number. -/
  | notWhole
  /-- The table cannot be used at the moment. -/
  | locked
  deriving DecidableEq, Repr

/-- The wording of a refusal. -/
def LogError.message : LogError → Text
  | .missing column => "NOT NULL constraint failed: calculations." ++ column
  | .beyondColumn => "Python int too large to convert to SQLite INTEGER"
  | .unencodable error => error.message
  | .unsupported place kind =>
    "Error binding parameter " ++ Text.ofNat place ++ ": type '" ++ kind ++ "' is not supported"
  | .notWhole => "datatype mismatch"
  | .locked => "database is locked"

namespace Column

/-- Whether an integer has more bits than the table takes. -/
def exceeds (n : Int) : Bool := decide (n < -2 ^ 63) || decide (2 ^ 63 ≤ n)

/-- The integer, if the table takes it. -/
def integer (n : Int) : Except LogError Int := if exceeds n then .error .beyondColumn else .ok n

/-- The text, if it has bytes. -/
def encodable (text : Text) : Except LogError Text :=
  (fun _ => text) <$> (Utf8.check text).mapError .unencodable

/-! ## Texts -/

/-- The significant digits of a double in a column. -/
def digits : Nat := 15

/-- The text of a double in a column: fifteen significant digits, of which a half rounds the last
one up, always with a point. What is no number has no text, and zero has no sign. -/
def numeral? : Double → Option Text
  | .nan => none
  | .infinite negative => some (if negative then "-Inf" else "Inf")
  | .finite negative units _ =>
    if units = 0 then some "0.0"
    else
      let rounded := toSignificant roundHalfUp digits units unitsPerOne
      let magnitude := Layout.pointed.write (rounded.dropZeros digits)
      some (if negative then '-' :: magnitude else magnitude)

/-- The text that a value has in the column at a place of the request: numbers become numerals,
truth values one or zero, and null stays without a text. -/
def text (place : Nat) : Json → Except LogError (Option Text)
  | .null => .ok none
  | .bool value => .ok (some (if value then "1" else "0"))
  | .int n => (fun n => some (Text.ofInt n)) <$> integer n
  | .double value => .ok (numeral? value)
  | .string text => some <$> encodable text
  | .array _ => .error (.unsupported place "list")
  | .object _ => .error (.unsupported place "dict")

/-! ## Limits -/

/-- The whole number that a double is, if it is one and lies between the least and the greatest
integer of the table. -/
def whole? : Double → Option Int
  | .finite negative units _ =>
    if units % unitsPerOne = 0 then
      let whole : Int := (units / unitsPerOne : Nat)
      let value := if negative then -whole else whole
      if exceeds value || value == -2 ^ 63 then none else some value
    else none
  | _ => none

/-- Whether a character may surround a numeral in the table. -/
def isBlank (c : CodePoint) : Bool :=
  c == ' ' || (decide (0x9 ≤ c.toNat) && decide (c.toNat ≤ 0xd))

/-- Whether a character may stand in a numeral in the table. -/
def isNumeralPart (c : CodePoint) : Bool :=
  c.isAsciiDigit || c == '.' || c == '+' || c == '-' || c == 'e' || c == 'E'

/-- The whole number that a text names, by an integer or by a double. -/
def wholeOfText? (text : Text) : Option Int :=
  let numeral := Text.trim isBlank text
  if numeral.all isNumeralPart then
    ((Text.toInt? numeral).filter (!exceeds ·)) <|> (Double.ofText? numeral).bind whole?
  else none

/-- The limit that a value at a place of the request sets. -/
def limit (place : Nat) : Json → Except LogError Int
  | .null => .error .notWhole
  | .bool value => .ok (if value then 1 else 0)
  | .int n => integer n
  | .double value => orNotWhole (whole? value)
  | .string text => do orNotWhole (wholeOfText? (← encodable text))
  | .array _ => .error (.unsupported place "list")
  | .object _ => .error (.unsupported place "dict")
where
  /-- A limit that may not be a whole number. -/
  orNotWhole : Option Int → Except LogError Int
    | some n => .ok n
    | none => .error .notWhole

end Column

end Reckoner
