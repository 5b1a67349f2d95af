import Reckoner.Web.Server

/-!
# The client

The service as it is reached over the network. Every call makes one request; its answer must be a
JSON object that says it succeeded, and everything else becomes an error that names the request.
What carries the requests is a parameter: a script, or the server itself.
-/

namespace Reckoner

namespace Web

/-- What a client sends beside method and address. -/
inductive Attachment where
  | none
  /-- Named values as the body. -/
  | body (fields : Fields)
  /-- The days of a query, which may be left out. -/
  | days (days : Json)

/-- A request as the client makes it. -/
structure Call where
  method : Text
  path : Text
  attachment : Attachment

/-- What comes back: a failure on the way, or a status with a body if that is JSON. Bodies whose
containers are nested deeper than JSON is read are left out: reading one breaks off with an error
that is no failure of the call. -/
inductive Exchange where
  | failure (message : Text)
  | answer (status : Int) (body : Option Json)

/-- What carries requests, with a state of its own. A request that cannot be written is an error
at once. -/
abbrev Carrier (σ : Type) := Call → σ → Except ServiceError Exchange × σ

namespace Client

/-- The wording for a body that says it failed. -/
def failureMessage (body : Json) : Text :=
  match body with
  | .object fields => ((Fields.get? fields "error").getD (.string "unknown error")).plain
  | _ => "unknown error"

/-- The fields of a body that is an object and says it succeeded. -/
def successFields? : Json → Option Fields
  | .object fields =>
    if ((Fields.get? fields "success").getD .null).isTruthy then some fields else none
  | _ => none

/-- The status as it is quoted. -/
def statusNote (status : Int) : Text := " (HTTP " ++ Text.ofInt status ++ ")"

/-- What an exchange amounts to, for a request that is named by `label`. -/
def interpret (label : Text) : Exchange → Except ServiceError Fields
  | .failure message => .error (.unavailable (label ++ " failed: " ++ message))
  | .answer status none =>
    .error (.unavailable (label ++ " returned a non-JSON body" ++ statusNote status))
  | .answer status (some body) =>
    match successFields? body with
    | some fields => .ok fields
    | none =>
      if 400 ≤ status ∧ status < 500 then .error (.rejected (failureMessage body) status)
      else .error (.unavailable (label ++ ": " ++ failureMessage body ++ statusNote status))

/-- Makes a request of the server at `base`. -/
def request {σ : Type} (carrier : Carrier σ) (base : Text) (call : Call) (state : σ) :
    Except ServiceError Fields × σ :=
  match carrier call state with
  | (.error e, state) => (.error e, state)
  | (.ok exchange, state) =>
    (interpret (call.method ++ " " ++ base ++ call.path) exchange, state)

/-- The address of a server without slashes at its end. -/
def baseOf (address : Text) : Text := Text.trimEnd (· == '/') address

/-- The integer that a result stands for: numbers are cut toward zero, texts are read. -/
def integerOf : Json → Except ServiceError (Option Int)
  | .int value => .ok (some value)
  | .bool value => .ok (some (if value then 1 else 0))
  | .double (.finite negative units _) =>
    let whole : Int := (units / unitsPerOne : Nat)
    .ok (some (if negative then -whole else whole))
  | .double (.infinite _) => .error .infiniteResult
  | .string text => .ok (Text.toInt? text)
  | _ => .ok none

/-- The answer in a body, for the operation of a name. -/
def answerOf (name : Text) (body : Fields) : Except ServiceError Answer :=
  match (Fields.get? body "data").bind Json.fields? with
  | none => .error (.unavailable malformed)
  | some data =>
    match Fields.get? data "result" with
    | none => .error (.unavailable malformed)
    | some result =>
      match integerOf result with
      | .error e => .error e
      | .ok none =>
        .error (.unavailable ("Non-integer " ++ name ++ " result: " ++ result.describe))
      | .ok (some value) =>
        .ok (.make (.int value) ((Fields.get? data "expression").getD (.string [])))
where
  /-- The wording for a body without data or without a result in it. -/
  malformed : Text := "Malformed " ++ name ++ " response: " ++ (Json.object body).describe

/-- The request for an operation. -/
def computeCall (operator : Operator) (x y : Json) : Call :=
  ⟨"POST", "/api/" ++ operationName operator, .body [("x", x), ("y", y)]⟩

/-- Asks for an operation. -/
def compute {σ : Type} (carrier : Carrier σ) (base : Text) (operator : Operator) (x y : Json)
    (state : σ) : Except ServiceError Answer × σ :=
  match request carrier base (computeCall operator x y) state with
  | (.error e, state) => (.error e, state)
  | (.ok body, state) => (answerOf (operationName operator) body, state)

/-- What goes through a value one by one, if it has parts: the names of an object, the characters
of a text, the items of a list. -/
def partsOf : Json → Except ShapeError (List Json)
  | .array items => .ok items
  | .object fields => .ok (fields.map fun field => .string field.1)
  | .string text => .ok (text.map fun c => .string [c])
  | .null => .error (.notIterable "NoneType")
  | .bool _ => .error (.notIterable "bool")
  | .int _ => .error (.notIterable "int")
  | .double _ => .error (.notIterable "float")

/-- A named part of a listed entry. -/
def namedPart (name : Text) : Json → Except ServiceError Json
  | .object fields =>
    match Fields.get? fields name with
    | some value => .ok value
    | none => .error (.missingName name)
  | .string _ => .error (.shape .textIndex)
  | .array _ => .error (.shape .listIndex)
  | .null => .error (.shape (.notSubscriptable "NoneType"))
  | .bool _ => .error (.shape (.notSubscriptable "bool"))
  | .int _ => .error (.shape (.notSubscriptable "int"))
  | .double _ => .error (.shape (.notSubscriptable "float"))

/-- A listed entry: its expression and its result. -/
def entryOf (item : Json) : Except ServiceError (Json × Json) := do
  let expression ← namedPart "expression" item
  let result ← namedPart "result" item
  return (expression, result)

/-- The entries that a body lists. -/
def entriesOf (body : Fields) : Except ServiceError (List (Json × Json)) := do
  let parts ← (partsOf ((Fields.get? body "data").getD (.array []))).mapError .shape
  parts.mapM entryOf

/-- Asks for the log of the last days. -/
def history {σ : Type} (carrier : Carrier σ) (base : Text) (days : Json) (state : σ) :
    Except ServiceError (List (Json × Json)) × σ :=
  match request carrier base ⟨"GET", "/api/history", .days days⟩ state with
  | (.error e, state) => (.error e, state)
  | (.ok body, state) => (entriesOf body, state)

/-- Asks to empty the log. -/
def clear {σ : Type} (carrier : Carrier σ) (base : Text) (state : σ) :
    Except ServiceError Unit × σ :=
  match request carrier base ⟨"DELETE", "/api/history", .none⟩ state with
  | (.error e, state) => (.error e, state)
  | (.ok _, state) => (.ok (), state)

/-- Asks for a sign of life. A service that is unavailable or refuses gives none; an error of
another kind is passed on. -/
def ping {σ : Type} (carrier : Carrier σ) (base : Text) (state : σ) :
    Except ServiceError Bool × σ :=
  match request carrier base ⟨"GET", "/api/health", .none⟩ state with
  | (.ok _, state) => (.ok true, state)
  | (.error (.unavailable _), state) => (.ok false, state)
  | (.error (.rejected _ _), state) => (.ok false, state)
  | (.error e, state) => (.error e, state)

/-- Asks for a sign of life, again and again until there is one, and at most once more than
`retries` times. -/
def await {σ : Type} (carrier : Carrier σ) (base : Text) : Nat → σ → Except ServiceError Bool × σ
  | 0, state => ping carrier base state
  | retries + 1, state =>
    match ping carrier base state with
    | (.ok false, state) => await carrier base retries state
    | answered => answered

/-- The client as what stands behind a calculator. -/
def provider {σ : Type} (carrier : Carrier σ) (base : Text) : Provider σ :=
  fun operator x y state => compute carrier base operator (.int x) (.int y) state

end Client

/-! ## The server as a carrier -/

/-- The values that the days of a request are sent as, one by one. Days that are null are not
sent. -/
def daysSent : Json → List Json
  | .array items => items.filter (!·.isNull)
  | days => [days].filter (!·.isNull)

/-- The request that the server gets for a call. Objects in a body are sent with their names in
order. -/
def Call.toRequest (call : Call) : Request where
  method := call.method
  headOnly := false
  address := ⟨false, defaultHost, call.path, match call.attachment with
    | .days days => (daysSent days).map fun item => ("days", item.plain)
    | _ => []⟩
  payload := match call.attachment with
    | .body fields => .value (Json.object fields).sortNames
    | _ => .absent

/-- Why a value cannot be sent in a query, if it cannot. -/
def queryFault? : Json → Option ServiceError
  | .string text => (Utf8.firstFault? text).map .unencodable
  | value => if value.exceedsDigitLimit then some (.calculation .tooManyDigits) else none

/-- Why a call cannot be written, if it cannot. -/
def Call.fault? (call : Call) : Option ServiceError :=
  match call.attachment with
  | .none => none
  | .body fields =>
    if (Json.object fields).exceedsDigitLimit then some (.calculation .tooManyDigits) else none
  | .days days => (daysSent days).findSome? queryFault?

/-- What a client gets of a response. -/
def Response.toExchange (response : Response) : Exchange :=
  .answer response.status (match response.body with
    | .json value => some value
    | _ => none)

/-- Calls that get lost on the way, each with a message. A call that cannot be written is not on
the way. -/
def Carrier.losing {σ : Type} (lost : Call → Option Text) (carrier : Carrier σ) : Carrier σ :=
  fun call state =>
    match call.fault?, lost call with
    | none, some message => (.ok (.failure message), state)
    | _, _ => carrier call state

/-- The server behind a client, at a moment. -/
def serverCarrier (now : Calendar.Moment) : Carrier Archive := fun call archive =>
  match call.fault? with
  | some fault => (.error fault, archive)
  | none =>
    let (response, archive) := handle now call.toRequest archive
    (.ok response.toExchange, archive)

end Web

end Reckoner
