import Reckoner.Text.Utf8
import Reckoner.Web.Host.Literal
import Reckoner.Web.Host.Name

/-!
# Addresses

An address has a scheme, an authority that names a host, a path and a query. A text is split into
these parts by the first marks that end them, and never fails to be an address for its path or
query; only its authority can be wrong. What is sent of an address is ASCII: the host by the rules
of host names, everything else percent-encoded.
-/

namespace Reckoner

namespace Web

/-- Why a text is no address, or an address cannot be sent. -/
inductive AddressError where
  /-- One bracket stands without the other. -/
  | unbalancedBrackets
  | literal (error : Host.LiteralError)
  /-- The authority holds a code point that stands for a mark. -/
  | hiddenMark (authority : Text)
  | portNotNumeric (port : Text)
  /-- The port has too many digits to be read. -/
  | portTooLong (digits : Nat)
  | portOutOfRange
  | hostName (error : Host.NameError)
  | unencodable (error : Utf8.EncodeError)
  deriving DecidableEq, Repr

/-- The wording of an address error. -/
def AddressError.message : AddressError → Text
  | .unbalancedBrackets => "Invalid IPv6 URL"
  | .literal error => error.message
  | .hiddenMark authority =>
    "netloc '" ++ authority ++ "' contains invalid characters under NFKC normalization"
  | .portNotNumeric port => "Port could not be cast to integer value as " ++ port.quoted
  | .portTooLong digits =>
    "Exceeds the limit (4300 digits) for integer string conversion: value has "
      ++ Text.ofNat digits
      ++ " digits; use sys.set_int_max_str_digits() to increase the limit"
  | .portOutOfRange => "Port out of range 0-65535"
  | .hostName error => error.message
  | .unencodable error => error.message

/-! ## Percent-encoding -/

/-- The bytes of percent-encoded text. A percent sign without two hexadecimal digits stands for
itself. -/
def percentDecode : Text → List UInt8
  | [] => []
  | '%' :: a :: b :: rest =>
    match Text.hexValue? a, Text.hexValue? b with
    | some high, some low => (high * 16 + low).toUInt8 :: percentDecode rest
    | _, _ => Utf8.bytesOf '%' ++ percentDecode (a :: b :: rest)
  | c :: rest => Utf8.bytesOf c ++ percentDecode rest

/-- The text of percent-encoded text. -/
def decodeText (text : Text) : Text := Utf8.decodeLenient (percentDecode text)

/-- A name or value of a query, in which a plus sign is a space. -/
def decodeQueryText (text : Text) : Text :=
  decodeText (text.map fun (c : CodePoint) => if c = '+' then ' ' else c)

/-- The names and values of a query; a name without a value has an empty one. -/
def queryPairs (query : Text) : List (Text × Text) :=
  ((Text.splitOn '&' query).filter (!·.isEmpty)).map fun piece =>
    let (name, value) := Text.splitFirst '=' piece
    (decodeQueryText name, decodeQueryText (value.getD []))

/-- Whether a character stands for itself everywhere. -/
def isUnreserved (c : CodePoint) : Bool :=
  c.isAsciiLetter || c.isAsciiDigit || c == '_' || c == '.' || c == '-' || c == '~'

/-- A byte as a percent sign and two hexadecimal digits. -/
def percentByte (byte : UInt8) : Text := '%' :: (Text.hex 2 byte.toNat).map CodePoint.upper

/-- Text with everything percent-encoded that is neither unreserved nor among the characters
given. -/
def percentEncode (kept text : Text) : Except AddressError Text :=
  match Utf8.firstFault? text with
  | some fault => .error (.unencodable fault)
  | none => .ok (text.flatMap fun c =>
    if isUnreserved c || c ∈ kept then [c] else (Utf8.bytesOf c).flatMap percentByte)

/-! ## The parts of an address -/

/-- An address by its parts, each empty if it is not there. -/
structure Reference where
  scheme : Text
  authority : Text
  path : Text
  query : Text
  deriving DecidableEq, Repr

/-- Whether a character is skipped at the front of an address: a space or a control. -/
def isSkippedInFront (c : CodePoint) : Bool := decide (c.toNat ≤ 0x20)

/-- Whether a character is dropped from an address: a tab or the end of a line. -/
def isDropped (c : CodePoint) : Bool := c == '\t' || c == '\n' || c == '\r'

/-- Whether a text names a scheme. -/
def isScheme : Text → Bool
  | [] => false
  | first :: rest =>
    first.isAsciiLetter && rest.all fun c =>
      c.isAsciiLetter || c.isAsciiDigit || c == '+' || c == '-' || c == '.'

/-- The scheme that the first colon ends, and the rest. -/
def splitScheme (text : Text) : Text × Text :=
  match Text.splitFirst ':' text with
  | (scheme, some rest) => if isScheme scheme then (Text.lower scheme, rest) else ([], text)
  | (_, none) => ([], text)

/-- Whether a character ends an authority. -/
def endsAuthority (c : CodePoint) : Bool := c == '/' || c == '?' || c == '#'

/-- The authority that two slashes introduce, and the rest. -/
def splitAuthority : Text → Text × Text
  | '/' :: '/' :: rest => (rest.takeWhile (!endsAuthority ·), rest.dropWhile (!endsAuthority ·))
  | text => ([], text)

/-- Accepts an authority whose brackets, if it has any, hold a numeric host. -/
def checkBrackets (authority : Text) : Except AddressError Unit :=
  let opened := Text.splitFirst '[' authority
  let closed := Text.splitFirst ']' authority
  match opened.2, closed.2 with
  | none, none => .ok ()
  | some inside, some _ =>
    (Host.checkLiteral (Text.splitFirst ']' inside).1).mapError .literal
  | _, _ => .error .unbalancedBrackets

/-- Accepts an authority without code points that stand for a mark. -/
def checkMarks (authority : Text) : Except AddressError Unit :=
  if authority.any Host.isDivider then .error (.hiddenMark authority) else .ok ()

/-- The parts of the address that a text writes. What follows a number sign is no part of it. -/
def Reference.ofText (text : Text) : Except AddressError Reference := do
  let (scheme, text) := splitScheme ((text.dropWhile isSkippedInFront).filter (!isDropped ·))
  let (authority, text) := splitAuthority text
  checkBrackets authority
  let (text, _) := Text.splitFirst '#' text
  let (path, query) := Text.splitFirst '?' text
  checkMarks authority
  return ⟨scheme, authority, path, query.getD []⟩

/-- What an address asks of its host: its path with its query. -/
def Reference.request (reference : Reference) : Text :=
  if reference.query.isEmpty then reference.path else reference.path ++ "?" ++ reference.query

/-! ## Sending an address -/

/-- An authority by its parts. -/
structure Authority where
  user : Text
  password : Text
  host : Text
  port : Text
  deriving DecidableEq, Repr

/-- The parts of an authority. The last at-sign ends what stands before the host, and a host in
brackets may hold colons. -/
def Authority.ofText (text : Text) : Authority :=
  let (access, place) := Text.splitLast '@' text
  let (user, password) := Text.splitFirst ':' (access.getD [])
  let (host, port) :=
    match (Text.splitFirst '[' place).2 with
    | some inside =>
      let (host, after) := Text.splitFirst ']' inside
      (host, (Text.splitFirst ':' (after.getD [])).2)
    | none => Text.splitFirst ':' place
  ⟨user, password.getD [], host, port.getD []⟩

/-- A host in small letters, its zone excepted. -/
def lowerHost (host : Text) : Text :=
  match Text.splitFirst '%' host with
  | (name, some zone) => Text.lower name ++ "%" ++ zone
  | (name, none) => Text.lower name

/-- The number of a port; none if the text is empty. -/
def portOf (port : Text) : Except AddressError (Option Nat) :=
  if port.isEmpty then .ok none
  else if !port.all CodePoint.isAsciiDigit then .error (.portNotNumeric port)
  else if digitLimit < port.length then .error (.portTooLong port.length)
  else if 65535 < Text.digitsNat port then .error .portOutOfRange
  else .ok (some (Text.digitsNat port))

/-- What is sent of a host. Brackets are put back around one with colons. -/
def sentHost (host : Text) : Except AddressError Text := do
  let name ← (Host.encode (lowerHost host)).mapError .hostName
  return if (':' : CodePoint) ∈ name then "[" ++ name ++ "]" else name

/-- What is sent of a port; zero is left out. -/
def sentPort (port : Text) : Except AddressError Text := do
  match ← portOf port with
  | some (n + 1) => return ":" ++ Text.ofNat (n + 1)
  | _ => return []

/-- The characters that stand for themselves before a host. -/
def keptBeforeHost : Text := "%!$&'()*+,;="

/-- The characters that stand for themselves in a path. -/
def keptInPath : Text := "%!$&'()*+,/:;=@"

/-- What is sent of the user and password before a host. -/
def sentAccess (user password : Text) : Except AddressError Text := do
  if user.isEmpty then return []
  let user ← percentEncode keptBeforeHost user
  if password.isEmpty then return user.concat '@'
  let password ← percentEncode keptBeforeHost password
  return user ++ ":" ++ password ++ "@"

/-- An authority as it is sent. -/
def Authority.sent (authority : Authority) : Except AddressError Text := do
  let host ← sentHost authority.host
  let port ← sentPort authority.port
  let access ← sentAccess authority.user authority.password
  return access ++ host ++ port

/-- An address without its query as it is sent. A path of two slashes in front keeps them by an
empty authority. -/
def Reference.sent (reference : Reference) : Except AddressError Text := do
  let path ← percentEncode keptInPath reference.path
  let authority ← (Authority.ofText reference.authority).sent
  let written : Text :=
    if !authority.isEmpty || ("//" : Text).isPrefixOf path then
      let rooted := if path.isEmpty || path.head? = some '/' then path else '/' :: path
      "//" ++ authority ++ rooted
    else path
  return if reference.scheme.isEmpty then written else reference.scheme ++ ":" ++ written

/-! ## Addresses on the server -/

/-- An address on the server: whether it is that of a socket, the host by which it is reached, a
path, and the names and values after the question mark. -/
structure Address where
  isSocket : Bool
  host : Text
  path : Text
  query : List (Text × Text)
  deriving DecidableEq, Repr

/-- The scheme of an address that has none. -/
def defaultScheme : Text := "http"

/-- The schemes of addresses of sockets. -/
def socketSchemes : List Text := ["ws", "wss"]

/-- The host of an address that has none. -/
def defaultHost : Text := "localhost"

/-- Text, or another one in place of no text. -/
def orElse (text other : Text) : Text := if text.isEmpty then other else text

/-- The host of an address as it is sent. It is split off once more, since what is sent may have
brackets that were not written. -/
def Reference.host (reference : Reference) : Except AddressError Text := do
  let home : Reference :=
    ⟨orElse reference.scheme defaultScheme, orElse reference.authority defaultHost, "/", []⟩
  return (← Reference.ofText (← home.sent)).authority

/-- The address on the server that another writes. What it asks of its host is an address of its
own, and so is the path of that. -/
def Address.ofReference (reference : Reference) : Except AddressError Address := do
  let asked ← Reference.ofText reference.request
  let path ← (← Reference.ofText asked.path).sent
  let host ← reference.host
  return ⟨decide (reference.scheme ∈ socketSchemes), host, decodeText path,
    queryPairs asked.query⟩

/-- Whether the name of the host, without its port, can be sent. -/
def Address.hasName (address : Address) : Bool :=
  match Host.encode (Text.lower (Text.splitFirst ':' address.host).1) with
  | .ok _ => true
  | .error _ => false

end Web

end Reckoner
