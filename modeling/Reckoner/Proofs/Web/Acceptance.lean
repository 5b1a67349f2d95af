import Reckoner.Json.Writer
import Reckoner.Proofs.Web.Route

/-!
# Which requests are computed and logged

The server computes what is posted to the path of an operation as a readable object with two
integers, if the calculation is possible; then it answers with the exact result and the log gains
one row in front. Nothing else but deleting the log changes it, a failure of the service itself
always says why, and the log is listed as it stands. All this holds after any requests whatever,
since each of them leaves a log that works.
-/

namespace Reckoner

namespace Web

/-! ## Calculations -/

/-- A payload carries two integers under the names of the operands. -/
def Payload.Carries (payload : Payload) (x y : Int) : Prop :=
  ∃ fields, payload = .value (.object fields) ∧
    Fields.get? fields "x" = some (.int x) ∧ Fields.get? fields "y" = some (.int y)

variable {archive : Archive} {operator : Operator} {x y : Int}

/-- A possible calculation is answered with its exact result, and a log that works gains its
row. -/
theorem compute_accepted {payload : Payload} (carried : payload.Carries x y)
    (possible : operator.Computable x y) (working : archive.Working) (now : Calendar.Moment) :
    ∃ after, compute now (operationName operator) payload archive =
        (computedResponse operator x y, after) ∧
      after.Working ∧ after.log.newestFirst = limited Log.defaultCapacity
        (⟨archive.log.lastId + 1, LocalService.loggedExpression operator x y,
          Text.ofInt (operator.exact x y), now.stamp⟩ :: archive.log.newestFirst) := by
  obtain ⟨fields, rfl, first, second⟩ := carried
  obtain ⟨after, computed, still, listed⟩ := LocalService.run_computed possible working now
  refine ⟨after, ?_, still, listed⟩
  apply compute_answered
  rw [first, second]
  exact computed

/-- A field that is an integer where there may be none is there. -/
theorem get?_of_getD {fields : Fields} {name : Text} {n : Int}
    (held : (Fields.get? fields name).getD .null = .int n) :
    Fields.get? fields name = some (.int n) := by
  cases found : Fields.get? fields name with
  | none =>
    rw [found] at held
    cases held
  | some value =>
    rw [found] at held
    exact congrArg some held

/-- A refusal is no success. -/
theorem le_refusalStatus (e : ServiceError) : 400 ≤ refusalStatus e := by
  unfold refusalStatus
  split
  · exact Nat.le_refl _
  · exact Nat.le_refl _
  · decide

/-- What is not possible to calculate is refused, and the log stays. -/
theorem compute_declined {name : Text} {payload : Payload}
    (impossible : ∀ operator x y, name = operationName operator → payload.Carries x y →
      ¬operator.Computable x y) (now : Calendar.Moment) (archive : Archive) :
    ∃ response, compute now name payload archive = (response, archive) ∧
      400 ≤ response.status := by
  cases known : operationOf? name with
  | none =>
    simp only [compute, known]
    exact ⟨_, rfl, show 400 ≤ 404 by decide⟩
  | some operator =>
    obtain rfl := operationName_of_operationOf? known
    cases payload with
    | absent =>
      simp only [compute, known]
      exact ⟨_, rfl, Nat.le_refl 400⟩
    | tooDeep =>
      simp only [compute, known]
      exact ⟨_, rfl, show 400 ≤ 500 by decide⟩
    | value json =>
      cases json with
      | object fields =>
        have refused : ∀ outcome, LocalService.compute operator
            ((Fields.get? fields "x").getD .null) ((Fields.get? fields "y").getD .null) ≠
              .ok outcome := by
          intro outcome computed
          obtain ⟨x, y, first, second, possible, -⟩ := LocalService.compute_eq_ok_iff.1 computed
          exact impossible operator x y rfl
            ⟨fields, rfl, get?_of_getD first, get?_of_getD second⟩ possible
        obtain ⟨e, failed⟩ := LocalService.run_refused refused now archive
        rw [compute_refused failed]
        exact ⟨_, rfl, le_refusalStatus e⟩
      | null | bool | int | double | string | array =>
        simp only [compute, known]
        exact ⟨_, rfl, Nat.le_refl 400⟩

/-! ## Failures that say why -/

/-- The actions of the service itself. Everything else is answered before it is asked. -/
def Action.isOwn : Action → Bool
  | .info | .health | .listLog | .clearLog | .compute _ => true
  | .options | .file | .missing | .wrongMethod => false

/-- A response is a success or a refusal that says why. -/
def Response.SaysWhy (response : Response) : Prop :=
  response.status = 200 ∨ ∃ message, response = refusal response.status message

/-- A refusal says why. -/
theorem saysWhy_refusal (status : Nat) (message : Text) : (refusal status message).SaysWhy :=
  .inr ⟨message, rfl⟩

/-- A success need not say why. -/
theorem saysWhy_success (fields : Fields) : (success fields).SaysWhy := .inl rfl

/-- A calculation is computed or refused, unless the payload is nested too deep to be read. -/
theorem compute_saysWhy {payload : Payload} (shallow : payload ≠ .tooDeep)
    (now : Calendar.Moment) (name : Text) (archive : Archive) :
    (compute now name payload archive).1.SaysWhy := by
  unfold compute
  split
  · exact saysWhy_refusal ..
  · split
    · exact absurd rfl shallow
    · simp only
      split
      · exact saysWhy_success _
      · exact saysWhy_refusal ..
    · exact saysWhy_refusal ..

/-- The service itself says why it fails. -/
theorem perform_saysWhy {request : Request} (shallow : request.payload ≠ .tooDeep)
    {action : Action} (own : action.isOwn = true) (now : Calendar.Moment) (archive : Archive) :
    (perform now request archive action).1.SaysWhy := by
  cases action with
  | info => exact .inl rfl
  | health => exact saysWhy_success _
  | listLog =>
    show (listLog now request.address.query archive).SaysWhy
    unfold listLog
    split
    · exact saysWhy_refusal ..
    · split
      · exact saysWhy_success _
      · exact saysWhy_refusal ..
  | clearLog =>
    show (clearLog archive).1.SaysWhy
    unfold clearLog
    split
    · exact saysWhy_success _
    · exact saysWhy_refusal ..
  | compute name => exact compute_saysWhy shallow now name archive
  | options | file | missing | wrongMethod => cases own

/-! ## Requests -/

/-- A request as it is sent, with the bytes of its body, and the moment at which it comes. -/
structure Sent where
  method : Text
  address : Address
  contentType : Text
  body : List UInt8
  now : Calendar.Moment

namespace Sent

/-- The request that the server sees. -/
def request (sent : Sent) : Request :=
  ⟨methodName sent.method, sent.method == ("HEAD" : Text), sent.address,
    .ofBody sent.contentType sent.body⟩

/-- The response to a request, and the log after it. -/
def serve (sent : Sent) (archive : Archive) : Response × Archive :=
  handle sent.now sent.request archive

/-- The log after requests, which was empty before them. -/
def logAfter (requests : List Sent) : Archive :=
  requests.foldl (fun archive sent => (sent.serve archive).2) .new

/-- A request reaches the service: its host has a proper name, and it does not come over a
socket. -/
def Arrives (sent : Sent) : Prop :=
  sent.address.hasName = true ∧ sent.address.isSocket = false

/-- A request by a method for what stands under a name of the service. -/
structure IsFor (sent : Sent) (method name : Text) : Prop where
  arrives : sent.Arrives
  method : methodName sent.method = method
  path : rootedPath sent.address.path = servicePath name

/-- The body is sent as JSON, and is read as an object in which the operands are integers. -/
def Carries (sent : Sent) (x y : Int) : Prop :=
  isJsonType sent.contentType = true ∧
    ∃ fields, Json.ofBytes Json.depthLimit sent.body = .ok (.object fields) ∧
      Fields.get? fields "x" = some (.int x) ∧ Fields.get? fields "y" = some (.int y)

/-- A request for a calculation that is possible. -/
structure Computes (sent : Sent) (operator : Operator) (x y : Int) : Prop where
  posted : sent.IsFor "POST" (operationName operator)
  carries : sent.Carries x y
  possible : operator.Computable x y

variable {sent : Sent}

/-- A payload carries operands exactly if the body does. -/
theorem carries_payload : sent.request.payload.Carries x y ↔ sent.Carries x y := by
  show (Payload.ofBody sent.contentType sent.body).Carries x y ↔ sent.Carries x y
  unfold Payload.ofBody Payload.Carries Carries
  cases isJsonType sent.contentType with
  | false => simp
  | true =>
    cases Json.ofBytes Json.depthLimit sent.body with
    | ok json => simp
    | error e =>
      cases e with
      | malformed => simp
      | tooDeep => simp

/-! ## Routes -/

/-- A request that reaches the service has the action of its address carried out, and gets the
response to it, without the body if it asks for the head alone. -/
theorem serve_of_action (arrives : sent.Arrives) {action : Action}
    (direct : actionFor (methodName sent.method) (rootedPath sent.address.path) = (action, false))
    (archive : Archive) :
    sent.serve archive =
      (if sent.method = "HEAD" then (perform sent.now sent.request archive action).1.head
        else (perform sent.now sent.request archive action).1,
      (perform sent.now sent.request archive action).2) := by
  simp only [serve, handle, request, arrives.1, arrives.2, Bool.not_true, Bool.false_eq_true,
    ↓reduceIte, direct, beq_iff_eq]

/-- A request that does not reach the service, or has to be mended first, changes nothing. -/
theorem serve_cases (sent : Sent) (archive : Archive) :
    (∃ status, status ≠ 200 ∧ sent.serve archive = (⟨status, .blank⟩, archive)) ∨
      sent.Arrives ∧ ∃ action,
        actionFor (methodName sent.method) (rootedPath sent.address.path) = (action, false) := by
  unfold serve handle
  cases named : sent.address.hasName with
  | false =>
    simp only [request, named, Bool.not_false, ↓reduceIte]
    exact .inl ⟨400, by decide, rfl⟩
  | true =>
    cases socket : sent.address.isSocket with
    | true =>
      simp only [request, named, socket, Bool.not_true, Bool.false_eq_true, ↓reduceIte]
      refine .inl ⟨_, ?_, rfl⟩
      unfold socketStatus
      simp only
      split
      · decide
      · split
        · decide
        · decide
    | false =>
      simp only [request, named, socket, Bool.not_true, Bool.false_eq_true, ↓reduceIte]
      rcases route : actionFor (methodName sent.method) (rootedPath sent.address.path) with
        ⟨action, mended⟩
      cases mended with
      | true => exact .inl ⟨308, by decide, rfl⟩
      | false => exact .inr ⟨⟨named, socket⟩, action, rfl⟩

/-- A request by a method that asks for an action at once gets the response to it in full, unless it
asks for the head alone. -/
theorem IsFor.serve {method name : Text} (isFor : sent.IsFor method name)
    (whole : method ≠ methodName "HEAD") {action : Action}
    (direct : actionFor method (servicePath name) = (action, false)) (archive : Archive) :
    sent.serve archive = perform sent.now sent.request archive action := by
  rw [← isFor.method, ← isFor.path] at direct
  have full : sent.method ≠ "HEAD" := by
    intro head
    apply whole
    rw [← isFor.method, head]
  rw [serve_of_action isFor.arrives direct, if_neg full]

/-! ## What each request does -/

/-- A possible calculation is answered with its exact result, and a log that works gains its
row. -/
theorem Computes.serve (computes : sent.Computes operator x y) (working : archive.Working) :
    ∃ after, sent.serve archive = (computedResponse operator x y, after) ∧
      after.Working ∧ after.log.newestFirst = limited Log.defaultCapacity
        (⟨archive.log.lastId + 1, LocalService.loggedExpression operator x y,
          Text.ofInt (operator.exact x y), sent.now.stamp⟩ :: archive.log.newestFirst) := by
  have route : actionFor "POST" (servicePath (operationName operator)) =
      (.compute (operationName operator), false) := by
    cases operator with
    | add | subtract | multiply | divide => decide +kernel
  rw [computes.posted.serve (by decide) route]
  exact compute_accepted (carries_payload.2 computes.carries) computes.possible working sent.now

/-- Deleting the log empties it. -/
theorem serve_delete (deletes : sent.IsFor "DELETE" "history") (working : archive.Working) :
    ∃ after, sent.serve archive = (success [], after) ∧ after.Working ∧
      after.log.newestFirst = [] := by
  have route : actionFor "DELETE" (servicePath "history") = (.clearLog, false) := by
    decide +kernel
  obtain ⟨after, cleared, still, empty⟩ := working.clear
  refine ⟨after, ?_, still, empty⟩
  rw [deletes.serve (by decide) route]
  simp only [perform, clearLog, cleared]

/-- Getting the log without a number of days lists all of it, the newest row first. -/
theorem serve_list (gets : sent.IsFor "GET" "history")
    (all : sent.address.query.lookup ("days" : Text) = none) (working : archive.Working) :
    sent.serve archive =
      (success [("count", .int archive.log.newestFirst.length),
        ("data", .array (archive.log.newestFirst.map fun row =>
          listed (row.expression, row.result)))], archive) := by
  have route : actionFor "GET" (servicePath "history") = (.listLog, false) := by
    decide +kernel
  rw [gets.serve (by decide) route]
  simp only [perform, listLog, request, queryDays?, all, working.history, List.length_map,
    List.map_map]
  rfl

/-- No other request changes the log. -/
theorem serve_unchanged (impossible : ∀ operator x y, ¬sent.Computes operator x y)
    (keeps : ¬sent.IsFor "DELETE" "history") (archive : Archive) :
    (sent.serve archive).2 = archive := by
  rcases sent.serve_cases archive with ⟨status, -, blank⟩ | ⟨arrives, action, direct⟩
  · rw [blank]
  · rw [serve_of_action arrives direct]
    cases action with
    | info | health | listLog | options | file | missing | wrongMethod => rfl
    | clearLog =>
      rcases actionFor_direct direct with same | other | other
      · obtain ⟨method, named⟩ := clearLog_deleted same.symm
        exact absurd ⟨arrives, method, path_of_name? named⟩ keeps
      · cases other
      · cases other
    | compute name =>
      rcases actionFor_direct direct with same | other | other
      · obtain ⟨method, named⟩ := compute_posted same.symm
        have posted : sent.IsFor "POST" name := ⟨arrives, method, path_of_name? named⟩
        have not_possible : ∀ operator x y, name = operationName operator →
            sent.request.payload.Carries x y → ¬operator.Computable x y :=
          fun operator x y place carried possible => impossible operator x y
            ⟨place ▸ posted, carries_payload.1 carried, possible⟩
        obtain ⟨response, declined, -⟩ := compute_declined not_possible sent.now archive
        show (Web.compute sent.now name sent.request.payload archive).2 = archive
        rw [declined]
      · cases other
      · cases other

/-- A log that works goes on working, whatever is requested. -/
theorem serve_working (sent : Sent) (working : archive.Working) :
    (sent.serve archive).2.Working := by
  by_cases computes : ∃ operator x y, sent.Computes operator x y
  · obtain ⟨operator, x, y, computes⟩ := computes
    obtain ⟨after, served, still, -⟩ := computes.serve working
    rw [served]
    exact still
  · by_cases deletes : sent.IsFor "DELETE" "history"
    · obtain ⟨after, served, still, -⟩ := serve_delete deletes working
      rw [served]
      exact still
    · rw [serve_unchanged (fun operator x y possible => computes ⟨operator, x, y, possible⟩)
        deletes]
      exact working

/-- After any requests the log works. -/
theorem working_logAfter (requests : List Sent) : (logAfter requests).Working := by
  have from_working : ∀ archive : Archive, archive.Working →
      (requests.foldl (fun archive sent => (sent.serve archive).2) archive).Working := by
    induction requests with
    | nil => exact fun archive working => working
    | cons sent requests ih =>
      exact fun archive working => ih _ (sent.serve_working working)
  exact from_working .new Archive.working_new

/-- What is posted to the service succeeds exactly if it is a possible calculation. -/
theorem serve_post_iff {name : Text} (posted : sent.IsFor "POST" name)
    (working : archive.Working) :
    (sent.serve archive).1.status = 200 ↔ ∃ operator x y, name = operationName operator ∧
      sent.Carries x y ∧ operator.Computable x y := by
  constructor
  · intro success
    by_contra impossible
    rcases sent.serve_cases archive with ⟨status, failure, blank⟩ | ⟨-, action, direct⟩
    · rw [blank] at success
      exact failure success
    · rw [posted.method, posted.path] at direct
      rw [posted.serve (by decide) direct] at success
      rcases actionFor_post direct with rfl | rfl | rfl
      · have not_possible : ∀ operator x y, name = operationName operator →
            sent.request.payload.Carries x y → ¬operator.Computable x y :=
          fun operator x y named carried possible => impossible
            ⟨operator, x, y, named, carries_payload.1 carried, possible⟩
        obtain ⟨response, declined, failure⟩ := compute_declined not_possible sent.now archive
        have answered : perform sent.now sent.request archive (.compute name) =
            (response, archive) := declined
        rw [answered] at success
        simp only at success
        omega
      · cases success
      · cases success
  · rintro ⟨operator, x, y, rfl, carries, possible⟩
    have computes : sent.Computes operator x y := ⟨posted, carries, possible⟩
    obtain ⟨after, served, -⟩ := computes.serve working
    rw [served]
    rfl

/-- The action of a request is carried out by the service itself. -/
def Handled (sent : Sent) : Prop :=
  sent.Arrives ∧ ∃ action, action.isOwn = true ∧
    actionFor (methodName sent.method) (rootedPath sent.address.path) = (action, false)

/-- The body is not nested deeper than the server reads. -/
def Shallow (sent : Sent) : Prop :=
  ∀ container, Json.ofBytes Json.depthLimit sent.body ≠ .error (.tooDeep container)

/-- A failure of the service itself says why, without the body if the head alone is asked for. -/
theorem serve_saysWhy (handled : sent.Handled) (shallow : sent.Shallow)
    (failed : 400 ≤ (sent.serve archive).1.status) :
    ∃ message, (sent.serve archive).1 =
      if sent.method = "HEAD" then (refusal (sent.serve archive).1.status message).head
      else refusal (sent.serve archive).1.status message := by
  obtain ⟨arrives, action, own, direct⟩ := handled
  have readable : sent.request.payload ≠ .tooDeep := by
    show Payload.ofBody sent.contentType sent.body ≠ .tooDeep
    unfold Payload.ofBody
    split
    · split
      · nofun
      · nofun
      · rename_i container deep
        exact absurd deep (shallow container)
    · nofun
  rw [serve_of_action arrives direct] at failed ⊢
  simp only at failed ⊢
  rcases perform_saysWhy readable own sent.now archive with success | ⟨message, refused⟩
  · split at failed
    · rw [Response.head, success] at failed
      exact absurd failed (by decide)
    · rw [success] at failed
      exact absurd failed (by decide)
  · refine ⟨message, ?_⟩
    split
    · exact congrArg Response.head refused
    · exact refused

/-- One and two with a third number in their object, which has more digits than the server reads. -/
def longSurplus : Fields := [("x", .int 1), ("y", .int 2), ("z", .int (10 ^ 4300))]

/-- These fields posted to the addition. -/
def surplusPost : Sent where
  method := "POST"
  address := ⟨false, defaultHost, "/api/add", []⟩
  contentType := "application/json"
  body := Utf8.bytes (Json.write (.object longSurplus))
  now := ⟨0, Calendar.limit_pos⟩

end Sent

end Web

end Reckoner
