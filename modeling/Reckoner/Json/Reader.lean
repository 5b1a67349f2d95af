import Reckoner.Decimal.Reader
import Reckoner.Json.Basic
import Reckoner.Text.Surrogate

/-!
# Reading JSON

The usual grammar, with the names `NaN`, `Infinity` and `-Infinity` for the doubles that have no
numeral. A numeral with a point or an exponent is a double, any other an integer; integers longer
than the digit limit are refused. The last value of a repeated name holds. Containers may be
nested to a depth that the caller chooses, and the refusal of a deeper one comes as soon as it is
opened.
-/

namespace Reckoner

namespace Json

/-- A list or an object. -/
inductive Container where
  | array
  | object
  deriving DecidableEq, Repr

/-- Why a text is not read as a value. -/
inductive ReadError where
  | malformed
  | tooDeep (container : Container)
  deriving DecidableEq, Repr

/-- What is read from the front of a text, and the rest of the text. -/
abbrev Reader (α : Type) := Text → Except ReadError (α × Text)

namespace Reader

/-- A blank between the parts of a value. -/
def isBlank (c : CodePoint) : Bool := c == ' ' || c == '\t' || c == '\n' || c == '\r'

/-- The text from its first character that is not a blank. -/
def skipBlanks (text : Text) : Text := text.dropWhile isBlank

/-- What text inside quotation marks is made of: code points as they stand, and code units by
number. -/
inductive Piece where
  | point (c : CodePoint)
  | unit (n : Nat)

/-- The number of four hexadecimal digits. -/
def hex4? (a b c d : CodePoint) : Option Nat := do
  return (((← Text.hexValue? a) * 16 + (← Text.hexValue? b)) * 16 + (← Text.hexValue? c)) * 16
    + (← Text.hexValue? d)

/-- The character that a letter after a backslash stands for. -/
def escaped? (letter : CodePoint) : Option CodePoint :=
  if letter = '"' ∨ letter = '\\' ∨ letter = '/' then some letter
  else if letter = 'b' then some '\x08'
  else if letter = 'f' then some '\x0c'
  else if letter = 'n' then some '\n'
  else if letter = 'r' then some '\r'
  else if letter = 't' then some '\t'
  else none

/-- The pieces up to the closing quotation mark. Control characters must be escaped. -/
def pieces : Reader (List Piece)
  | [] => .error .malformed
  | c :: rest =>
    if c = '"' then .ok ([], rest)
    else if c = '\\' then
      match rest with
      | 'u' :: a :: b :: c :: d :: rest =>
        match hex4? a b c d, pieces rest with
        | some unit, .ok (more, after) => .ok (.unit unit :: more, after)
        | _, _ => .error .malformed
      | letter :: rest =>
        match escaped? letter, pieces rest with
        | some c, .ok (more, after) => .ok (.point c :: more, after)
        | _, _ => .error .malformed
      | [] => .error .malformed
    else if c.toNat < 0x20 then .error .malformed
    else
      match pieces rest with
      | .ok (more, after) => .ok (.point c :: more, after)
      | .error e => .error e

/-- The text of pieces: the two halves of a surrogate pair make one character if both are given by
number. -/
def joinPieces : List Piece → Text
  | [] => []
  | .point c :: rest => c :: joinPieces rest
  | .unit high :: .unit low :: rest =>
    if Surrogate.isFirst high && Surrogate.isSecond low then
      (Surrogate.join high low : CodePoint) :: joinPieces rest
    else .ofNat high :: joinPieces (.unit low :: rest)
  | .unit unit :: rest => .ofNat unit :: joinPieces rest

/-- Text after its opening quotation mark. -/
def quotedText : Reader Text := fun text =>
  match pieces text with
  | .ok (read, rest) => .ok (joinPieces read, rest)
  | .error e => .error e

/-- The digits at the front, and what follows them. -/
def spanDigits (text : Text) : Text × Text :=
  (text.takeWhile CodePoint.isAsciiDigit, text.dropWhile CodePoint.isAsciiDigit)

/-- The digits before the point: a single zero, or a run that starts with another digit. -/
def wholeDigits : Reader Text
  | '0' :: rest => .ok (['0'], rest)
  | text =>
    match spanDigits text with
    | ([], _) => .error .malformed
    | (digits, rest) => .ok (digits, rest)

/-- A point and the digits after it; a point without a digit is left where it is. -/
def fraction? : Text → Option (Text × Text)
  | '.' :: rest =>
    match spanDigits rest with
    | ([], _) => none
    | (digits, rest) => some (digits, rest)
  | _ => none

/-- An exponent; a letter without digits after it is left where it is. -/
def exponent? : Text → Option (Int × Text)
  | mark :: rest =>
    if mark = 'e' ∨ mark = 'E' then
      let (negative, unsigned) := Text.takeSign rest
      match spanDigits unsigned with
      | ([], _) => none
      | (digits, rest) =>
        let size : Int := Text.digitsNat digits
        some (if negative then -size else size, rest)
    else none
  | [] => none

/-- The magnitude of a number whose sign has been read. -/
def magnitude (negative : Bool) : Reader Json := fun text =>
  match wholeDigits text with
  | .error e => .error e
  | .ok (whole, afterWhole) =>
    let (fraction, afterFraction) := (fraction? afterWhole).getD ([], afterWhole)
    let (exponent, rest) := (exponent? afterFraction).getD (0, afterFraction)
    if rest.length = afterWhole.length then
      let size : Int := Text.digitsNat whole
      if digitLimit < whole.length then .error .malformed
      else .ok (.int (if negative then -size else size), rest)
    else
      let decimal : Decimal :=
        ⟨negative, Text.digitsNat (whole ++ fraction), exponent - fraction.length⟩
      .ok (.double decimal.toDouble, rest)

/-- A number: a numeral or the name of a double without one. -/
def number : Reader Json
  | '-' :: rest =>
    if ("Infinity" : Text).isPrefixOf rest then .ok (.double (.infinite true), rest.drop 8)
    else magnitude true rest
  | text => magnitude false text

/-- A value that is written by a name. -/
def named? (text : Text) : Option (Json × Text) :=
  if ("null" : Text).isPrefixOf text then some (.null, text.drop 4)
  else if ("true" : Text).isPrefixOf text then some (.bool true, text.drop 4)
  else if ("false" : Text).isPrefixOf text then some (.bool false, text.drop 5)
  else if ("NaN" : Text).isPrefixOf text then some (.double .nan, text.drop 3)
  else if ("Infinity" : Text).isPrefixOf text then some (.double (.infinite false), text.drop 8)
  else none

/-- The items of a list after its opening bracket, of which there is at least one. The number
bounds the items. -/
def items (item : Reader Json) : Nat → Reader (List Json)
  | 0 => fun _ => .error .malformed
  | fuel + 1 => fun text =>
    match item (skipBlanks text) with
    | .error e => .error e
    | .ok (value, rest) =>
      match skipBlanks rest with
      | ',' :: rest =>
        match items item fuel rest with
        | .ok (values, rest) => .ok (value :: values, rest)
        | .error e => .error e
      | ']' :: rest => .ok ([value], rest)
      | _ => .error .malformed

/-- A list after its opening bracket. -/
def array (item : Reader Json) : Reader Json := fun text =>
  match skipBlanks text with
  | ']' :: rest => .ok (.array [], rest)
  | text =>
    match items item text.length text with
    | .ok (values, rest) => .ok (.array values, rest)
    | .error e => .error e

/-- A name and its value. -/
def field (item : Reader Json) : Reader (Text × Json)
  | '"' :: rest =>
    match quotedText rest with
    | .error e => .error e
    | .ok (name, rest) =>
      match skipBlanks rest with
      | ':' :: rest =>
        match item (skipBlanks rest) with
        | .ok (value, rest) => .ok ((name, value), rest)
        | .error e => .error e
      | _ => .error .malformed
  | _ => .error .malformed

/-- The fields of an object after its opening brace, of which there is at least one. The number
bounds the fields. -/
def fields (item : Reader Json) : Nat → Reader Fields
  | 0 => fun _ => .error .malformed
  | fuel + 1 => fun text =>
    match field item (skipBlanks text) with
    | .error e => .error e
    | .ok (pair, rest) =>
      match skipBlanks rest with
      | ',' :: rest =>
        match fields item fuel rest with
        | .ok (pairs, rest) => .ok (pair :: pairs, rest)
        | .error e => .error e
      | '}' :: rest => .ok ([pair], rest)
      | _ => .error .malformed

/-- An object after its opening brace. -/
def object (item : Reader Json) : Reader Json := fun text =>
  match skipBlanks text with
  | '}' :: rest => .ok (.object [], rest)
  | text =>
    match fields item text.length text with
    | .ok (pairs, rest) => .ok (.object (Fields.ofList pairs), rest)
    | .error e => .error e

/-- A value without blanks before it. Values inside a container are read by `inner`; without one
no container may be opened. -/
def valueWith (inner : Option (Reader Json)) : Reader Json
  | '"' :: rest =>
    match quotedText rest with
    | .ok (text, rest) => .ok (.string text, rest)
    | .error e => .error e
  | '[' :: rest =>
    match inner with
    | some item => array item rest
    | none => .error (.tooDeep .array)
  | '{' :: rest =>
    match inner with
    | some item => object item rest
    | none => .error (.tooDeep .object)
  | text =>
    match named? text with
    | some read => .ok read
    | none => number text

/-- A value whose containers are nested at most `depth` deep. -/
def value : Nat → Reader Json
  | 0 => valueWith none
  | depth + 1 => valueWith (some (value depth))

end Reader

/-- The value that a text denotes, blanks around it aside. -/
def ofText (depth : Nat) (text : Text) : Except ReadError Json :=
  match Reader.value depth (Reader.skipBlanks text) with
  | .error e => .error e
  | .ok (value, rest) =>
    if (Reader.skipBlanks rest).isEmpty then .ok value else .error .malformed

/-- How deep containers may be nested in what is read from a request or a file. -/
def depthLimit : Nat := 950

end Json

end Reckoner
