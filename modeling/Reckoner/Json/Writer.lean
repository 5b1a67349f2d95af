import Reckoner.Json.Basic
import Reckoner.Text.Surrogate

/-!
# Writing JSON

Values as ASCII text: code points beyond ASCII and control characters are escaped, those beyond
U+FFFF as surrogate pairs; doubles take their shortest numeral, and the doubles without one take
their names.
-/

namespace Reckoner

namespace Json

/-- A code point inside quotation marks. -/
def writePoint (c : CodePoint) : Text :=
  if c = '"' then "\\\""
  else if c = '\\' then "\\\\"
  else if c = '\n' then "\\n"
  else if c = '\r' then "\\r"
  else if c = '\t' then "\\t"
  else if c = '\x08' then "\\b"
  else if c = '\x0c' then "\\f"
  else if 0x20 ≤ c.toNat ∧ c.toNat < 0x7F then [c]
  else if c.toNat < 0x10000 then "\\u" ++ Text.hex 4 c.toNat
  else
    "\\u" ++ Text.hex 4 (Surrogate.first c.toNat) ++ "\\u" ++ Text.hex 4 (Surrogate.second c.toNat)

/-- Text between quotation marks. -/
def writeText (text : Text) : Text := "\"" ++ text.flatMap writePoint ++ "\""

/-- A double. -/
def writeDouble : Double → Text
  | .nan => "NaN"
  | .infinite negative => if negative then "-Infinity" else "Infinity"
  | value => value.toText

mutual

/-- A value on one line, without blanks. -/
def write : Json → Text
  | .null => "null"
  | .bool value => if value then "true" else "false"
  | .int value => Text.ofInt value
  | .double value => writeDouble value
  | .string value => writeText value
  | .array items => "[" ++ writeItems items ++ "]"
  | .object fields => "\x7b" ++ writeFields fields ++ "\x7d"

/-- List items with commas between them. -/
def writeItems : List Json → Text
  | [] => []
  | [item] => write item
  | item :: next :: items => write item ++ "," ++ writeItems (next :: items)

/-- Named values with commas between them. -/
def writeFields : List (Text × Json) → Text
  | [] => []
  | [(name, value)] => writeText name ++ ":" ++ write value
  | (name, value) :: next :: fields =>
    writeText name ++ ":" ++ write value ++ "," ++ writeFields (next :: fields)

end

end Json

end Reckoner
