import Reckoner.Json.Bytes
import Reckoner.Service.Basic
import Reckoner.Web.Address

/-!
# Requests and responses

What a client and the server exchange, as data: a request by method, address and body, and a
response by status and body. A body is read as JSON if its content type says so.
-/

namespace Reckoner

namespace Web

/-- What a request carries beside its address. -/
inductive Payload where
  /-- Nothing, or nothing that can be used. -/
  | absent
  | value (json : Json)
  /-- Containers nested deeper than the server reads. -/
  | tooDeep

/-- The characters beyond ASCII whose capitals are ASCII letters, with those letters. -/
def asciiCapitals : List (CodePoint × Text) := [
  ('ß', "SS"), ('ı', "I"), ('ſ', "S"), ('ﬀ', "FF"), ('ﬁ', "FI"), ('ﬂ', "FL"), ('ﬃ', "FFI"),
  ('ﬄ', "FFL"), ('ﬅ', "ST"), ('ﬆ', "ST")]

/-- The name of a method, which is written in capitals. -/
def methodName (text : Text) : Text :=
  text.flatMap fun c => (asciiCapitals.lookup c).getD [c.upper]

/-- A request as the server sees it. -/
structure Request where
  method : Text
  /-- Whether the response is to come without its body. -/
  headOnly : Bool
  address : Address
  payload : Payload

/-- Why texts make no request. -/
inductive RequestError where
  | address (error : AddressError)
  /-- The content type does not stand on one line. -/
  | brokenHeader
  | unencodable (error : Utf8.EncodeError)
  deriving DecidableEq, Repr

/-- The wording of a request error. -/
def RequestError.message : RequestError → Text
  | .address error => error.message
  | .brokenHeader => "Header values must not contain newline characters."
  | .unencodable error => error.message

/-- The body of a response. -/
inductive Body where
  | json (value : Json)
  | page (text : Text)
  /-- A page of which only its status matters. -/
  | blank

/-- A response. -/
structure Response where
  status : Nat
  body : Body

/-- Whether a content type is JSON, its parameters aside. -/
def isJsonType (contentType : Text) : Bool :=
  let kind := Text.lower (Text.trimBlanks (Text.splitFirst ';' contentType).1)
  kind == ("application/json" : Text)
    || (("application/" : Text).isPrefixOf kind && ("+json" : Text).isSuffixOf kind)

/-- What a body carries under a content type. -/
def Payload.ofBody (contentType : Text) (body : List UInt8) : Payload :=
  if isJsonType contentType then
    match Json.ofBytes Json.depthLimit body with
    | .ok json => .value json
    | .error .malformed => .absent
    | .error (.tooDeep _) => .tooDeep
  else .absent

/-- Whether a text goes on after the end of a line. -/
def hasLineEnd (text : Text) : Bool := text.any fun c => c == '\n' || c == '\r'

/-- The request that its parts write. The body is left out of the response only if the method is
written in capitals. -/
def Request.ofTexts (method target contentType body : Text) : Except RequestError Request := do
  let reference ← (Reference.ofText target).mapError .address
  let address ← (Address.ofReference reference).mapError .address
  if hasLineEnd contentType then throw .brokenHeader
  let bytes ← (Utf8.encode body).mapError .unencodable
  (Utf8.check reference.request).mapError .unencodable
  return ⟨methodName method, method == ("HEAD" : Text), address, .ofBody contentType bytes⟩

end Web

end Reckoner
