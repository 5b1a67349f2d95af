import Reckoner.Text.Basic

/-!
# Text as bytes

The UTF-8 form of text. Reading is strict (one bad byte and there is no text), passing (the three
bytes that the pattern of UTF-8 gives to half of a surrogate pair stand for that half, and any other
bad byte leaves no text) or lenient (each longest part that could begin a character is replaced by
U+FFFD); all three read the same characters from well-formed bytes. Half of a surrogate pair has no
bytes in UTF-8, so that text with a half in it is refused when it is written.
-/

namespace Reckoner

namespace Utf8

/-- One step of reading: a character and the number of bytes it takes, or the number of bytes
that begin no character. -/
inductive Step where
  | character (c : Char) (size : Nat)
  | malformed (size : Nat)

/-- Whether a byte continues a character. -/
def isContinuation (b : UInt8) : Bool := 0x80 ≤ b && b ≤ 0xBF

/-- The six payload bits of a continuation byte. -/
def payload (b : UInt8) : Nat := b.toNat % 64

/-- The second bytes that may follow a first byte, which exclude overlong forms, surrogates and
code points beyond U+10FFFF. -/
def secondRange (first : UInt8) : UInt8 × UInt8 :=
  if first = 0xE0 then (0xA0, 0xBF)
  else if first = 0xED then (0x80, 0x9F)
  else if first = 0xF0 then (0x90, 0xBF)
  else if first = 0xF4 then (0x80, 0x8F)
  else (0x80, 0xBF)

/-- Whether `second` may follow `first`. -/
def accepts (first second : UInt8) : Bool :=
  (secondRange first).1 ≤ second && second ≤ (secondRange first).2

/-- Reads what starts with `first`, given the bytes after it. -/
def step (first : UInt8) (rest : List UInt8) : Step :=
  if first < 0x80 then .character (Char.ofNat first.toNat) 1
  else if first < 0xC2 then .malformed 1
  else if first < 0xE0 then
    match rest with
    | b :: _ =>
      if isContinuation b then
        .character (Char.ofNat ((first.toNat - 0xC0) * 64 + payload b)) 2
      else .malformed 1
    | [] => .malformed 1
  else if first < 0xF0 then
    match rest with
    | b :: c :: _ =>
      if !accepts first b then .malformed 1
      else if !isContinuation c then .malformed 2
      else .character (Char.ofNat ((first.toNat - 0xE0) * 4096 + payload b * 64 + payload c)) 3
    | [b] => if accepts first b then .malformed 2 else .malformed 1
    | [] => .malformed 1
  else if first < 0xF5 then
    match rest with
    | b :: c :: d :: _ =>
      if !accepts first b then .malformed 1
      else if !isContinuation c then .malformed 2
      else if !isContinuation d then .malformed 3
      else
        .character (Char.ofNat
          ((first.toNat - 0xF0) * 262144 + payload b * 4096 + payload c * 64 + payload d)) 4
    | [b, c] =>
      if !accepts first b then .malformed 1
      else if !isContinuation c then .malformed 2
      else .malformed 3
    | [b] => if accepts first b then .malformed 2 else .malformed 1
    | [] => .malformed 1
  else .malformed 1

/-- The characters of a byte list, with `none` for each part that begins no character. The first
argument counts the bytes left to skip of the character just read. -/
def decodeFrom : Nat → List UInt8 → List (Option Char)
  | _, [] => []
  | skip + 1, _ :: rest => decodeFrom skip rest
  | 0, first :: rest =>
    match step first rest with
    | .character c size => some c :: decodeFrom (size - 1) rest
    | .malformed size => none :: decodeFrom (size - 1) rest

/-- The text of well-formed bytes; bytes that are not have none. -/
def decode? (bytes : List UInt8) : Option Text :=
  ((decodeFrom 0 bytes).mapM id).map (List.map CodePoint.char)

/-- The half of a surrogate pair whose bytes by the pattern of UTF-8 stand first. -/
def half? : List UInt8 → Option CodePoint
  | 0xED :: b :: c :: _ =>
    if 0xA0 ≤ b && isContinuation b && isContinuation c then
      some (.ofNat (0xD000 + payload b * 64 + payload c))
    else none
  | _ => none

/-- One step of passing reading: a character or a half, and the number of bytes it takes. -/
def point? (first : UInt8) (rest : List UInt8) : Option (CodePoint × Nat) :=
  match step first rest with
  | .character c size => some (.char c, size)
  | .malformed _ => (half? (first :: rest)).map fun half => (half, 3)

/-- The code points of a byte list, up to the first part that begins none. The first argument
counts the bytes left to skip of the code point just read. -/
def pointsFrom : Nat → List UInt8 → List (Option CodePoint)
  | _, [] => []
  | skip + 1, _ :: rest => pointsFrom skip rest
  | 0, first :: rest =>
    match point? first rest with
    | some (point, size) => some point :: pointsFrom (size - 1) rest
    | none => [none]

/-- The text of bytes that are well-formed up to halves, each of which stands for itself. -/
def decodePassing? (bytes : List UInt8) : Option Text := (pointsFrom 0 bytes).mapM id

/-- The text of any bytes, with U+FFFD for what begins no character. -/
def decodeLenient (bytes : List UInt8) : Text :=
  (decodeFrom 0 bytes).map fun read => .char (read.getD '\uFFFD')

/-- The bytes of a number below 2^21 by the pattern of UTF-8, in the fewest bytes. -/
def bytesOfNat (n : Nat) : List UInt8 :=
  if n < 0x80 then [n.toUInt8]
  else if n < 0x800 then [(0xC0 + n / 64).toUInt8, (0x80 + n % 64).toUInt8]
  else if n < 0x10000 then
    [(0xE0 + n / 4096).toUInt8, (0x80 + n / 64 % 64).toUInt8, (0x80 + n % 64).toUInt8]
  else
    [(0xF0 + n / 262144).toUInt8, (0x80 + n / 4096 % 64).toUInt8,
      (0x80 + n / 64 % 64).toUInt8, (0x80 + n % 64).toUInt8]

/-- The bytes of a code point. Those of a half follow the pattern and are well-formed nowhere. -/
def bytesOf (c : CodePoint) : List UInt8 := bytesOfNat c.toNat

/-- The bytes of text. -/
def bytes (text : Text) : List UInt8 := text.flatMap bytesOf

/-- A run of halves that keeps a text from being written: its place in the text, the first half of
it, and how many more there are. -/
structure EncodeError where
  place : Nat
  half : CodePoint
  more : Nat
  deriving DecidableEq, Repr

/-- The wording of a refusal to write text. -/
def EncodeError.message (e : EncodeError) : Text :=
  let what : Text :=
    if e.more = 0 then
      "character '\\u" ++ Text.hex 4 e.half.toNat ++ "' in position " ++ Text.ofNat e.place
    else
      "characters in position " ++ Text.ofNat e.place ++ "-" ++ Text.ofNat (e.place + e.more)
  "'utf-8' codec can't encode " ++ what ++ ": surrogates not allowed"

/-- The first run of halves in a text, if there is one. -/
def firstFault? (text : Text) : Option EncodeError :=
  match text.dropWhile (!·.isHalf) with
  | [] => none
  | half :: rest =>
    some ⟨(text.takeWhile (!·.isHalf)).length, half, (rest.takeWhile (·.isHalf)).length⟩

/-- Text that can be written. -/
def check (text : Text) : Except EncodeError Unit :=
  match firstFault? text with
  | some fault => .error fault
  | none => .ok ()

/-- The bytes of text without halves. -/
def encode (text : Text) : Except EncodeError (List UInt8) :=
  match firstFault? text with
  | some fault => .error fault
  | none => .ok (bytes text)

end Utf8

end Reckoner
