import Reckoner.Double.Layout
import Reckoner.Text.Quoted

/-!
# JSON values

The values that travel between a client and a server and lie in the stamp file. Integers and
doubles are told apart, and an object keeps the order in which its names first came.
-/

namespace Reckoner

/-- A JSON value. -/
inductive Json where
  | null
  | bool (value : Bool)
  | int (value : Int)
  | double (value : Double)
  | string (value : Text)
  | array (items : List Json)
  | object (fields : List (Text × Json))

/-- Named values in order. -/
abbrev Fields := List (Text × Json)

namespace Fields

/-- The value of a name. -/
def get? (fields : Fields) (name : Text) : Option Json := fields.lookup name

/-- Sets the value of a name, where the name stands already or else at the end. -/
def put (name : Text) (value : Json) : Fields → Fields
  | [] => [(name, value)]
  | (other, held) :: rest =>
    if other = name then (name, value) :: rest else (other, held) :: put name value rest

/-- The fields that come from naming values one after another: the last value of a name holds. -/
def ofList (pairs : Fields) : Fields :=
  pairs.foldl (fun fields pair => put pair.1 pair.2 fields) []

/-- Puts a named value before the first one whose name comes later. -/
def insertByName (field : Text × Json) : Fields → Fields
  | [] => [field]
  | next :: fields =>
    if field.1 ≤ next.1 then field :: next :: fields else next :: insertByName field fields

/-- Named values by ascending name. -/
def byName (fields : Fields) : Fields := fields.foldr insertByName []

end Fields

namespace Json

/-- The fields of an object. -/
def fields? : Json → Option Fields
  | .object fields => some fields
  | _ => none

/-- Whether a value is null. -/
def isNull : Json → Bool
  | .null => true
  | _ => false

/-- Whether a value counts as true: not null, false, zero, not-empty text, list or object. -/
def isTruthy : Json → Bool
  | .null => false
  | .bool value => value
  | .int value => value != 0
  | .double value => !value.isZero
  | .string value => !value.isEmpty
  | .array items => !items.isEmpty
  | .object fields => !fields.isEmpty

mutual

/-- How a message describes a value: text is quoted, and names of constants are capitalised. -/
def describe : Json → Text
  | .null => "None"
  | .bool value => if value then "True" else "False"
  | .int value => Text.ofInt value
  | .double value => value.toText
  | .string value => value.quoted
  | .array items => "[" ++ describeItems items ++ "]"
  | .object fields => "\x7b" ++ describeFields fields ++ "\x7d"

/-- The descriptions of list items, with commas between them. -/
def describeItems : List Json → Text
  | [] => []
  | [item] => describe item
  | item :: next :: items => describe item ++ ", " ++ describeItems (next :: items)

/-- The descriptions of an object's fields, with commas between them. -/
def describeFields : List (Text × Json) → Text
  | [] => []
  | [(name, value)] => name.quoted ++ ": " ++ describe value
  | (name, value) :: next :: fields =>
    name.quoted ++ ": " ++ describe value ++ ", " ++ describeFields (next :: fields)

end

/-- A value as text: text stands for itself, anything else is described. -/
def plain : Json → Text
  | .string value => value
  | value => value.describe

mutual

/-- Whether some integer in the value has too many digits to be written. -/
def exceedsDigitLimit : Json → Bool
  | .int value => Text.exceedsDigitLimit value
  | .array items => anyExceeds items
  | .object fields => anyFieldExceeds fields
  | _ => false

/-- Whether some item has an integer with too many digits. -/
def anyExceeds : List Json → Bool
  | [] => false
  | item :: items => exceedsDigitLimit item || anyExceeds items

/-- Whether some field has an integer with too many digits. -/
def anyFieldExceeds : List (Text × Json) → Bool
  | [] => false
  | (_, value) :: fields => exceedsDigitLimit value || anyFieldExceeds fields

end

mutual

/-- The value with the names of every object in ascending order. -/
def sortNames : Json → Json
  | .array items => .array (sortNamesOfItems items)
  | .object fields => .object (Fields.byName (sortNamesOfFields fields))
  | value => value

/-- Sorts the names within each item. -/
def sortNamesOfItems : List Json → List Json
  | [] => []
  | item :: items => sortNames item :: sortNamesOfItems items

/-- Sorts the names within each field's value. -/
def sortNamesOfFields : List (Text × Json) → List (Text × Json)
  | [] => []
  | (name, value) :: fields => (name, sortNames value) :: sortNamesOfFields fields

end

end Json

end Reckoner
