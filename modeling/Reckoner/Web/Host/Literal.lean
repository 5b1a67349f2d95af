import Reckoner.Text.Quoted

/-!
# Numeric hosts

A host in brackets is a numeric address: eight groups of hexadecimal digits, of which one run of
zeros may be left out, the last two perhaps written as four decimal numbers. An address of four
decimal numbers alone does not stand in brackets, and a form of a later version is told by its
first letter.
-/

namespace Reckoner

namespace Host

/-- Why brackets hold no host. -/
inductive LiteralError where
  /-- The form of a later version is not kept. -/
  | laterVersion
  | notNumeric (host : Text)
  /-- Four decimal numbers need no brackets. -/
  | bare
  deriving DecidableEq, Repr

/-- The wording of a refused host in brackets. -/
def LiteralError.message : LiteralError → Text
  | .laterVersion => "IPvFuture address is invalid"
  | .notNumeric host => Text.quoted host ++ " does not appear to be an IPv4 or IPv6 address"
  | .bare => "An IPv4 address cannot be in brackets"

/-- Whether a text is a decimal number of one byte, without a zero before other digits. -/
def isByteNumeral (text : Text) : Bool :=
  !text.isEmpty && decide (text.length ≤ 3) && text.all CodePoint.isAsciiDigit
    && (text.length == 1 || text.head? != some '0') && decide (Text.digitsNat text ≤ 255)

/-- Whether a text is an address of four decimal numbers. -/
def isFourNumbers (text : Text) : Bool :=
  let numbers := Text.splitOn '.' text
  numbers.length == 4 && numbers.all isByteNumeral

/-- Whether a text is a group of hexadecimal digits. -/
def isGroup (text : Text) : Bool :=
  !text.isEmpty && decide (text.length ≤ 4) && text.all fun c => (Text.hexValue? c).isSome

/-- The groups of an address, with two groups in place of four decimal numbers at its end. -/
def groupsOf? (parts : List Text) : Option (List Text) :=
  let last := parts.getLastD []
  if ('.' : CodePoint) ∈ last then
    if isFourNumbers last then some (parts.dropLast ++ [("0" : Text), "0"]) else none
  else some parts

/-- Whether groups with a gap among them, which is an empty group that is neither first nor last,
are an address. An empty group at either end must be next to the gap. -/
def isGapped (before after : List Text) : Bool :=
  let front := if before.head? = some [] then before.drop 1 else before
  let back := if after.getLast? = some [] then after.dropLast else after
  (front.length == before.length || front.isEmpty) && (back.length == after.length || back.isEmpty)
    && decide (front.length + back.length < 8) && front.all isGroup && back.all isGroup

/-- Whether groups are an address. -/
def areGroups (groups : List Text) : Bool :=
  let inner := groups.dropLast.drop 1
  match inner.findIdx? (·.isEmpty) with
  | none => groups.length == 8 && groups.all isGroup
  | some place =>
    decide (groups.length ≤ 9) && decide ((inner.filter (·.isEmpty)).length = 1)
      && isGapped (groups.take (place + 1)) (groups.drop (place + 2))

/-- Whether a text is an address of eight groups, perhaps with a zone after a percent sign. -/
def isEightGroups (text : Text) : Bool :=
  let (address, zone) := Text.splitFirst '%' text
  let parts := Text.splitOn ':' address
  let zoned := match zone with
    | none => true
    | some zone => !zone.isEmpty && ('%' : CodePoint) ∉ zone
  zoned && decide (3 ≤ parts.length) && (groupsOf? parts).any areGroups

/-- Whether a text that begins with the letter of later versions has their form: hexadecimal
digits, a point and something after it. -/
def isLaterVersion (text : Text) : Bool :=
  let digits := (text.drop 1).takeWhile fun c => (Text.hexValue? c).isSome
  let rest := (text.drop 1).dropWhile fun c => (Text.hexValue? c).isSome
  !digits.isEmpty && rest.head? == some '.' && decide (2 ≤ rest.length)

/-- Accepts a host in brackets. -/
def checkLiteral (host : Text) : Except LiteralError Unit :=
  if host.head? = some 'v' then
    if isLaterVersion host then .ok () else .error .laterVersion
  else if isFourNumbers host then .error .bare
  else if isEightGroups host then .ok ()
  else .error (.notNumeric host)

end Host

end Reckoner
