import Reckoner.Json.Reader
import Reckoner.Text.Utf8

/-!
# JSON as bytes

A byte-order mark at the front of a body tells its form and is no part of the text. Without a mark
the null bytes among the first four tell it: every JSON text begins with an ASCII character, so they
show how many bytes a code unit has and which of them comes first. What tells nothing is UTF-8. In
each form halves of surrogate pairs without a partner pass, and UTF-8 keeps even two halves apart
that would make a pair.
-/

namespace Reckoner

namespace Json

/-- The form of a JSON text in bytes: the size of a code unit, and for units of more than one byte
whether the greatest byte comes first. -/
inductive Encoding where
  | utf8
  | utf16 (bigEndian : Bool)
  | utf32 (bigEndian : Bool)
  deriving DecidableEq, Repr

namespace Encoding

/-- The form that null bytes tell. -/
def ofNulls : List UInt8 → Encoding
  | 0 :: 0 :: _ :: _ :: _ => .utf32 true
  | 0 :: _ :: _ :: _ :: _ => .utf16 true
  | _ :: 0 :: 0 :: 0 :: _ => .utf32 false
  | _ :: 0 :: _ :: _ :: _ => .utf16 false
  | [0, _] => .utf16 true
  | [_, 0] => .utf16 false
  | _ => .utf8

/-- The form that the first bytes tell, and the bytes without the mark. The mark of four bytes
is looked for first, since the mark of two bytes may begin it. -/
def detect : List UInt8 → Encoding × List UInt8
  | 0x00 :: 0x00 :: 0xFE :: 0xFF :: rest => (.utf32 true, rest)
  | 0xFF :: 0xFE :: 0x00 :: 0x00 :: rest => (.utf32 false, rest)
  | 0xFE :: 0xFF :: rest => (.utf16 true, rest)
  | 0xFF :: 0xFE :: rest => (.utf16 false, rest)
  | 0xEF :: 0xBB :: 0xBF :: rest => (.utf8, rest)
  | bytes => (ofNulls bytes, bytes)

/-- Bytes in groups of two; none if a byte is left over. -/
def pairs? : List UInt8 → Option (List (UInt8 × UInt8))
  | [] => some []
  | [_] => none
  | a :: b :: rest => (pairs? rest).map ((a, b) :: ·)

/-- A code unit of two bytes. -/
def unit (bigEndian : Bool) (bytes : UInt8 × UInt8) : Nat :=
  if bigEndian then bytes.1.toNat * 256 + bytes.2.toNat else bytes.2.toNat * 256 + bytes.1.toNat

/-- The code points of numbers, if all of them have one. -/
def points? (numbers : List Nat) : Option Text :=
  numbers.mapM fun n => if n < 0x110000 then some (.ofNat n) else none

/-- The numbers that pairs of code units make. -/
def wide (bigEndian : Bool) : List Nat → Option (List Nat)
  | [] => some []
  | [_] => none
  | a :: b :: rest =>
    (wide bigEndian rest).map ((if bigEndian then a * 0x10000 + b else b * 0x10000 + a) :: ·)

/-- The text of bytes in a form. -/
def decode? (encoding : Encoding) (bytes : List UInt8) : Option Text :=
  match encoding with
  | .utf8 => Utf8.decodePassing? bytes
  | .utf16 bigEndian => (pairs? bytes).map fun units => Text.ofUnits (units.map (unit bigEndian))
  | .utf32 bigEndian =>
    (pairs? bytes).bind fun units => (wide bigEndian (units.map (unit bigEndian))).bind points?

end Encoding

/-- The text of a body. -/
def decode? (bytes : List UInt8) : Option Text :=
  (Encoding.detect bytes).1.decode? (Encoding.detect bytes).2

/-- The value that bytes denote. -/
def ofBytes (depth : Nat) (bytes : List UInt8) : Except ReadError Json :=
  match decode? bytes with
  | some text => ofText depth text
  | none => .error .malformed

end Json

end Reckoner
