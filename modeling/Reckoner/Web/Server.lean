import Reckoner.Decimal.Integer
import Reckoner.Service.Local
import Reckoner.Theme
import Reckoner.Web.Message

/-!
# The server

The addresses of the web service and what each method does there: one address for each of the
four operations, the log, a sign of life and a page that lists them. Every answer of the service
itself is a JSON object that says whether it succeeded; refusals say why.
-/

namespace Reckoner

namespace Web

/-- The name of an operation in an address. -/
def operationName : Operator → Text
  | .add => "add"
  | .subtract => "subtract"
  | .multiply => "multiply"
  | .divide => "divide"

/-- The operations in the order in which they are listed. -/
def operations : List Operator := [.add, .subtract, .multiply, .divide]

/-- The operation of a name. -/
def operationOf? (name : Text) : Option Operator :=
  operations.find? fun operator => operationName operator = name

/-- What stands at a path. -/
inductive Resource where
  | info
  | health
  | log
  | operation (name : Text)
  /-- A place for a file. There are no files. -/
  | file
  | nothing
  deriving DecidableEq, Repr

/-- Whether a text names a file: it does not begin with a slash, and does not go on after the end
of a line in a second place or later. -/
def namesFile : Text → Bool
  | [] => false
  | first :: rest => first != '/' && !decide (('\n' : CodePoint) ∈ rest)

/-- The place for a file of a name. -/
def Resource.ofFileName (name : Text) : Resource := if namesFile name then .file else .nothing

/-- What stands under a name in the part of the service. -/
def Resource.ofServiceName (name : Text) : Resource :=
  if name = ("health" : Text) then .health
  else if name = ("history" : Text) then .log
  else if name = [] then .nothing
  else .operation name

/-- What stands at a path. The paths of the sign of life and of the log are operation paths as
well. -/
def Resource.ofPath (path : Text) : Resource :=
  match Text.splitOn '/' path with
  | [] :: first :: names =>
    if first = ("api" : Text) then
      match names with
      | [] => .info
      | [name] => .ofServiceName name
      | _ => .nothing
    else if first = ("static" : Text) then .ofFileName (Text.joinWith ['/'] names)
    else .nothing
  | _ => .nothing

/-- What a request asks for. -/
inductive Action where
  | info
  | health
  | listLog
  | clearLog
  | compute (name : Text)
  /-- Which methods there are; the answer has no body. -/
  | options
  | file
  | missing
  | wrongMethod
  deriving DecidableEq, Repr

/-- Whether a method reads. -/
def isReading (method : Text) : Bool := method = ("GET" : Text) || method = ("HEAD" : Text)

/-- What a method asks of a resource. -/
def Action.of (method : Text) (resource : Resource) : Action :=
  if resource = .nothing then .missing
  else if method = ("OPTIONS" : Text) then .options
  else
    match resource with
    | .info => if isReading method then .info else .wrongMethod
    | .health =>
      if isReading method then .health
      else if method = ("POST" : Text) then .compute "health"
      else .wrongMethod
    | .log =>
      if isReading method then .listLog
      else if method = ("DELETE" : Text) then .clearLog
      else if method = ("POST" : Text) then .compute "history"
      else .wrongMethod
    | .operation name => if method = ("POST" : Text) then .compute name else .wrongMethod
    | .file => if isReading method then .file else .wrongMethod
    | .nothing => .missing

/-- Whether something at a resource does not take a method. The paths of the sign of life and of
the log stand for two things, which take different methods. -/
def Resource.refuses (method : Text) (resource : Resource) : Bool :=
  if method = ("OPTIONS" : Text) then false
  else
    match resource with
    | .info | .file => !isReading method
    | .health | .log => true
    | .operation _ => method != ("POST" : Text)
    | .nothing => false

/-- A path in which every pair of slashes is one. -/
def mergeSlashes : Text → Text
  | '/' :: '/' :: rest => '/' :: mergeSlashes rest
  | c :: rest => c :: mergeSlashes rest
  | [] => []

/-- A path with one slash at its beginning. -/
def rootedPath (path : Text) : Text := '/' :: path.dropWhile (· == '/')

/-- A refusal by the service. -/
def refusal (status : Nat) (message : Text) : Response :=
  ⟨status, .json (.object [("error", .string message), ("success", .bool false)])⟩

/-- Success, with further named values. -/
def success (fields : Fields) : Response :=
  ⟨200, .json (.object (fields ++ [(("success" : Text), Json.bool true)]))⟩

/-- The status of a refused calculation: a wrong operand or a zero divisor is the client's
fault. -/
def refusalStatus : ServiceError → Nat
  | .invalidOperand _ _ => 400
  | .calculation (.divisionByZero _) => 400
  | _ => 500

/-- Runs one of the operations on the operands of a payload. An unknown operation is noticed
before a payload that cannot be used. -/
def compute (now : Calendar.Moment) (name : Text) (payload : Payload) (archive : Archive) :
    Response × Archive :=
  match operationOf? name with
  | none => (refusal 404 ("Unknown operation: " ++ name), archive)
  | some operator =>
    match payload with
    | .tooDeep => (⟨500, .blank⟩, archive)
    | .value (.object fields) =>
      let operand (name : Text) : Json := (Fields.get? fields name).getD .null
      match LocalService.run now operator (operand "x") (operand "y") archive with
      | (.ok answer, archive) =>
        (success [("data", .object [
          ("expression", (Fields.get? answer "expression").getD .null),
          ("result", (answer.result?).getD .null)])], archive)
      | (.error e, archive) => (refusal (refusalStatus e) e.message, archive)
    | _ => (refusal 400 "Request body must be a JSON object", archive)

/-- The days that a query asks for: null without any, and nothing if they are no integer. -/
def queryDays? (query : List (Text × Text)) : Option Json :=
  match query.lookup ("days" : Text) with
  | none => some .null
  | some text => (Text.toInt? text).map .int

/-- An entry of the listed log. -/
def listed (entry : Text × Text) : Json :=
  .object [("expression", .string entry.1), ("result", .string entry.2)]

/-- Lists the log. -/
def listLog (now : Calendar.Moment) (query : List (Text × Text)) (archive : Archive) : Response :=
  match queryDays? query with
  | none => refusal 400 "days must be an integer"
  | some days =>
    match LocalService.history now days archive with
    | .ok entries =>
      success [("count", .int entries.length), ("data", .array (entries.map listed))]
    | .error e => refusal 500 e.message

/-- Empties the log. -/
def clearLog (archive : Archive) : Response × Archive :=
  match LocalService.clear archive with
  | (.ok (), archive) => (success [], archive)
  | (.error e, archive) => (refusal 500 e.message, archive)

/-- The sign of life. -/
def health : Response :=
  success [("data", .object [
    ("app", .string appName), ("status", .string "ok"), ("version", .string appVersion)])]

/-- The line of an operation on the page. -/
def infoItem (operator : Operator) : Text :=
  "            <li>POST /api/" ++ operationName operator
    ++ " - \x7b\"x\": int, \"y\": int\x7d</li>"

/-- The page that lists the addresses. -/
def infoPage : Text :=
  "\n    <html>\n    <head><title>" ++ appName
    ++ " API</title></head>\n    <body style=\"font-family: monospace; padding: 40px; background: "
    ++ Theme.background ++ "; color: " ++ Theme.confirmed ++ ";\">\n        <h1>"
    ++ appName ++ " API Server</h1>\n        <h2>Available Endpoints:</h2>\n        <ul>\n"
    ++ Text.joinWith ['\n'] (operations.map infoItem)
    ++ "\n            <li><a href=\"/api/history\" style=\"color: " ++ Theme.operator
    ++ ";\">GET /api/history?days=7</a> - Calculation history</li>"
    ++ "\n            <li>DELETE /api/history - Clear history</li>"
    ++ "\n            <li><a href=\"/api/health\" style=\"color: "
    ++ Theme.operator
    ++ ";\">GET /api/health</a> - Service status</li>\n        </ul>"
    ++ "\n    </body>\n    </html>\n    "

/-- Carries out an action. -/
def perform (now : Calendar.Moment) (request : Request) (archive : Archive) :
    Action → Response × Archive
  | .info => (⟨200, .page infoPage⟩, archive)
  | .health => (health, archive)
  | .listLog => (listLog now request.address.query archive, archive)
  | .clearLog => clearLog archive
  | .compute name => compute now name request.payload archive
  | .options => (⟨200, .page []⟩, archive)
  | .file => (⟨404, .blank⟩, archive)
  | .missing => (⟨404, .blank⟩, archive)
  | .wrongMethod => (⟨405, .blank⟩, archive)

/-- A response without its body, as a request for the head alone is answered. -/
def Response.head (response : Response) : Response :=
  ⟨response.status, if response.status = 200 then .page [] else .blank⟩

/-- What a request asks for, and whether it is redirected first: that is so if nothing stands at
the path but something does at the path with its pairs of slashes merged. -/
def actionFor (method path : Text) : Action × Bool :=
  match Action.of method (.ofPath path) with
  | .missing =>
    let merged := mergeSlashes path
    if merged = path then (.missing, false)
    else
      match Action.of method (.ofPath merged) with
      | .missing => (.missing, false)
      | .wrongMethod => (.wrongMethod, false)
      | action => (action, true)
  | action => (action, false)

/-- The status of a request over a socket, over which nothing answers. -/
def socketStatus (method path : Text) : Nat :=
  let found : List Resource := [.ofPath path, .ofPath (mergeSlashes path)]
  if found.any (·.refuses method) then 405
  else if found.all (· = .nothing) then 404
  else 400

/-- Answers a request. A host without a proper name is refused; slashes at the beginning of a path
count as one. -/
def handle (now : Calendar.Moment) (request : Request) (archive : Archive) :
    Response × Archive :=
  if !request.address.hasName then (⟨400, .blank⟩, archive)
  else if request.address.isSocket then
    (⟨socketStatus request.method (rootedPath request.address.path), .blank⟩, archive)
  else
    match actionFor request.method (rootedPath request.address.path) with
    | (_, true) => (⟨308, .blank⟩, archive)
    | (action, false) =>
      let (response, archive) := perform now request archive action
      (if request.headOnly then response.head else response, archive)

end Web

end Reckoner
