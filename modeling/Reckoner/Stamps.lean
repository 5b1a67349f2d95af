import Reckoner.Arithmetic
import Reckoner.Calendar.Moment
import Reckoner.Double.Arithmetic
import Reckoner.Json.Reader
import Reckoner.Json.Writer
import Reckoner.Text.Utf8

/-!
# First sightings

A file that remembers when each logged calculation was first seen on this machine. It holds one
JSON object from entries to clock readings; whatever else it holds is ignored, and so is a file that
cannot be written. Readings that are older than the retention are forgotten whenever something is
recorded.
-/

namespace Reckoner

/-- A number as it is compared: an integer or a double. -/
inductive Number where
  | int (value : Int)
  | double (value : Double)
  deriving DecidableEq

/-- Where a number stands on the line: an integer of units, or beyond either end. -/
inductive Position where
  | below
  | at (units : Int)
  | above
  deriving DecidableEq

/-- Whether a position is left of another. -/
def Position.isBefore : Position → Position → Bool
  | .below, .below => false
  | .below, _ => true
  | .at _, .below => false
  | .at left, .at right => decide (left < right)
  | .at _, .above => true
  | .above, _ => false

namespace Number

/-- The position of a number that is one. -/
def position? : Number → Option Position
  | .int value => some (.at (value * unitsPerOne))
  | .double .nan => none
  | .double (.infinite negative) => some (if negative then .below else .above)
  | .double (.finite negative units _) => some (.at (if negative then -units else units))

/-- Whether a number is less than another, compared exactly. Nothing is less or greater than what
is no number. -/
def isLess (left right : Number) : Bool :=
  match left.position?, right.position? with
  | some left, some right => left.isBefore right
  | _, _ => false

/-- Whether a number is at least another. -/
def isAtLeast (left right : Number) : Bool :=
  match left.position?, right.position? with
  | some left, some right => !left.isBefore right
  | _, _ => false

/-- The number of a JSON value; truth values count as one and zero. -/
def ofJson? : Json → Option Number
  | .int value => some (.int value)
  | .bool value => some (.int (if value then 1 else 0))
  | .double value => some (.double value)
  | _ => none

/-- The JSON value of a number. -/
def toJson : Number → Json
  | .int value => .int value
  | .double value => .double value

/-- Whether a number is zero. -/
def isZero : Number → Bool
  | .int value => value == 0
  | .double value => value.isZero

/-- The moment at which a clock reads a number. -/
def moment : Number → Except Calendar.ClockError Calendar.Moment
  | .int value => Calendar.Moment.sinceEpoch (value * Calendar.microsPerSecond)
  | .double value => Calendar.Moment.ofClock value

/-- The double next to a number, unless an integer is too great for one. -/
def toDouble? : Number → Option Double
  | .int value => if (Double.ofInt value).isFinite then some (.ofInt value) else none
  | .double value => some value

/-- An operation on two numbers, exact on two integers and on doubles otherwise. -/
def combine (onInts : Int → Int → Int) (onDoubles : Double → Double → Double) :
    Number → Number → Option Number
  | .int left, .int right => some (.int (onInts left right))
  | left, right => do return .double (onDoubles (← left.toDouble?) (← right.toDouble?))

end Number

namespace Stamps

/-- Why nothing is recorded. -/
inductive RecordError where
  /-- The file nests containers deeper than is read. -/
  | tooDeep (container : Json.Container)
  /-- An integer is too great for a double. -/
  | beyondDoubles
  /-- An integer has too many digits to be written. -/
  | tooManyDigits
  deriving DecidableEq, Repr

/-- The wording of a failure. -/
def RecordError.message : RecordError → Text
  | .tooDeep .array =>
    "maximum recursion depth exceeded while decoding a JSON array from a unicode string"
  | .tooDeep .object =>
    "maximum recursion depth exceeded while decoding a JSON object from a unicode string"
  | .beyondDoubles => "int too large to convert to float"
  | .tooManyDigits => digitLimitMessage

/-- The name under which a logged calculation is remembered. -/
def entryKey (expression result : Text) : Text := expression ++ "=" ++ result

/-- Seconds in a day. -/
def secondsPerDay : Number := .int 86400

/-- The days for which a reading is kept unless something else is asked for. -/
def defaultRetention : Number := .int 7

/-- The file and how it is used. -/
structure Store where
  /-- The bytes of the file, if there is one. -/
  content : Option (List UInt8)
  writable : Bool
  retention : Number

/-- The store of a file that does not exist yet. -/
def Store.new : Store := ⟨none, true, defaultRetention⟩

/-- The readings in a file: none unless it holds a JSON object in UTF-8. -/
def load (content : Option (List UInt8)) : Except RecordError Fields :=
  match content.bind Utf8.decode? with
  | none => .ok []
  | some text =>
    match Json.ofText Json.depthLimit text with
    | .ok (.object fields) => .ok fields
    | .ok _ => .ok []
    | .error .malformed => .ok []
    | .error (.tooDeep container) => .error (.tooDeep container)

/-- Whether a reading is a number not older than the cutoff. -/
def isRecent (cutoff : Number) (reading : Json) : Bool :=
  match Number.ofJson? reading with
  | some number => number.isAtLeast cutoff
  | none => false

/-- The readings that are not older than the cutoff. -/
def prune (cutoff : Number) (readings : Fields) : Fields :=
  readings.filter fun field => isRecent cutoff field.2

/-- The earlier of a held reading and now. -/
def earlier (held : Json) (now : Number) : Json :=
  match Number.ofJson? held with
  | some number => if now.isLess number then now.toJson else held
  | none => held

/-- Remembers one entry. -/
def remember (now : Number) (readings : Fields) (entry : Text × Text) : Fields :=
  let key := entryKey entry.1 entry.2
  Fields.put key (earlier ((Fields.get? readings key).getD now.toJson) now) readings

/-- The oldest reading that is kept. -/
def cutoff (now retention : Number) : Except RecordError Number :=
  match (Number.combine (· * ·) (· * ·) retention secondsPerDay).bind
      (Number.combine (· - ·) (· - ·) now) with
  | some number => .ok number
  | none => .error .beyondDoubles

/-- A line of the file. -/
def line (field : Text × Json) : Text :=
  "  " ++ Json.writeText field.1 ++ ": " ++ field.2.write

/-- The text of the file: an object with a line for each reading. -/
def fileText (readings : Fields) : Text :=
  if readings.isEmpty then "\x7b\x7d"
  else "\x7b\n" ++ Text.joinWith ",\n" (readings.map line) ++ "\n\x7d"

/-- What is written of an object if the value of a name cannot be: the readings before it, and the
name. -/
def brokenText (before : Fields) (name : Text) : Text :=
  "\x7b\n" ++ Text.joinWith ",\n" ((before.map line).concat ("  " ++ Json.writeText name ++ ": "))

/-- Writes the file, if that can be done. An integer of too many digits breaks writing off. -/
def Store.save (store : Store) (readings : Fields) : Except RecordError Unit × Store :=
  if store.writable then
    match readings.span fun field => !field.2.exceedsDigitLimit with
    | (_, []) => (.ok (), { store with content := some (Utf8.bytes (fileText readings)) })
    | (before, (name, _) :: _) =>
      (.error .tooManyDigits, { store with content := some (Utf8.bytes (brokenText before name)) })
  else (.ok (), store)

/-- The readings after entries have been seen. -/
def recorded (content : Option (List UInt8)) (retention now : Number)
    (entries : List (Text × Text)) : Except RecordError Fields := do
  let held ← load content
  let oldest ← cutoff now retention
  return entries.foldl (remember now) (prune oldest held)

/-- Records that entries have been seen, and gives all readings. -/
def Store.record (store : Store) (entries : List (Text × Text)) (now : Number) :
    Except RecordError Fields × Store :=
  match recorded store.content store.retention now entries with
  | .ok readings =>
    let (written, store) := store.save readings
    (written.map fun _ => readings, store)
  | .error e => (.error e, store)

/-- Forgets every reading. -/
def Store.clear (store : Store) : Store := (store.save []).2

end Stamps

end Reckoner
