import Reckoner.Text.Quoted
import Reckoner.Web.Host.Classes
import Reckoner.Web.Host.Punycode

/-!
# Host names

A host name is a list of labels with dots between them. What is sent of it is ASCII: a label beyond
ASCII is prepared, code point by code point, and what is then still beyond ASCII is written in
letters and figures behind a mark. A label has between one and sixty-three characters in that form.
-/

namespace Reckoner

namespace Host

/-- Why a text is no host name. -/
inductive NameError where
  /-- A label has no characters or too many. -/
  | labelSize
  /-- The last label of a name in ASCII has too many characters. -/
  | lastLabelSize
  | refused (c : CodePoint)
  /-- A label has letters of both directions. -/
  | mixedDirections
  /-- A label with letters from right to left begins or ends with something else. -/
  | openDirection
  /-- A label beyond ASCII begins with the mark. -/
  | marked
  deriving DecidableEq, Repr

/-- The cause in the wording of a name error. -/
def NameError.cause : NameError → Text
  | .labelSize => "label empty or too long"
  | .lastLabelSize => "label too long"
  | .refused c => "Invalid character " ++ Text.quoted [c]
  | .mixedDirections => "Violation of BIDI requirement 2"
  | .openDirection => "Violation of BIDI requirement 3"
  | .marked => "Label starts with ACE prefix"

/-- The wording of a name error. -/
def NameError.message (e : NameError) : Text :=
  "encoding with 'idna' codec failed (UnicodeError: " ++ e.cause ++ ")"

/-- The greatest number of characters in a label. -/
def longestLabel : Nat := 63

/-- The mark before a label that stands for one beyond ASCII. -/
def mark : Text := "xn--"

/-- A label that is neither empty nor too long. -/
def sized (label : Text) : Except NameError Text :=
  if label.isEmpty || decide (longestLabel < label.length) then .error .labelSize else .ok label

/-- What a code point of a label beyond ASCII stands for. -/
def image (c : CodePoint) : Text :=
  if c.isAscii then [c]
  else if isIgnored c then []
  else (asciiText? c).getD [(asciiImage? c).getD c]

/-- Whether the letters of a label run in one direction, from its first character to its last. -/
def checkDirections (label : Text) : Except NameError Unit :=
  if !label.any isRightToLeft then .ok ()
  else if label.any isLeftToRight then .error .mixedDirections
  else if (label.head?.any isRightToLeft) && (label.getLast?.any isRightToLeft) then .ok ()
  else .error .openDirection

/-- A label beyond ASCII, prepared. -/
def prepare (label : Text) : Except NameError Text := do
  let prepared := label.flatMap image
  match prepared.find? isRefused with
  | some c => throw (.refused c)
  | none => checkDirections prepared
  return prepared

/-- A label in the form in which it is sent. -/
def encodeLabel (label : Text) : Except NameError Text := do
  if label.all (·.isAscii) then sized label
  else
    let prepared ← prepare label
    if prepared.all (·.isAscii) then sized prepared
    else if mark.isPrefixOf prepared then throw .marked
    else sized (mark ++ Punycode.encode prepared)

/-- A dot of any script, which ends a label. -/
def isDot (c : CodePoint) : Bool :=
  c == '.' || c == '\u3002' || c == '\uFF0E' || c == '\uFF61'

/-- A name in ASCII, which is sent as it is. Its last label may be empty. -/
def checkAscii (name : Text) : Except NameError Text := do
  let labels := Text.splitOn '.' name
  let _ ← labels.dropLast.mapM sized
  if longestLabel < (labels.getLastD []).length then throw .lastLabelSize
  return name

/-- A name in the form in which it is sent. -/
def encode (name : Text) : Except NameError Text :=
  if name.all (·.isAscii) then checkAscii name
  else do
    let labels := Text.splitWhere isDot name
    if (labels.getLastD []).isEmpty then
      return (Text.joinWith "." (← labels.dropLast.mapM encodeLabel)).concat '.'
    else return Text.joinWith "." (← labels.mapM encodeLabel)

end Host

end Reckoner
