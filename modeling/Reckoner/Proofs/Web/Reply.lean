import Reckoner.Web.Client

/-!
# What the client makes of a reply

A calculation is promised the integer in a reply that says it succeeded, and without one the
announcement that the service is unavailable, or that it refused if the status says so. The client
makes one request and keeps that promise for every reply but those whose result is something else
that can be turned into an integer: a truth value, a number with a point or an exponent, or a text
of digits. Such a result is taken for the integer it is turned into, and of an infinity the
conversion itself breaks off.
-/

namespace Reckoner

/-- A value is no integer, but one is made of it, or would be made of it if it were finite. -/
def Json.Coercible : Json → Prop
  | .bool _ => True
  | .double value => value ≠ .nan
  | .string text => (Text.toInt? text).isSome = true
  | _ => False

namespace Web

/-! ## Replies -/

/-- A body is an object of these fields, and says it succeeded. -/
def SaysSuccess (body : Json) (fields : Fields) : Prop :=
  body = .object fields ∧
    ∃ value, Fields.get? fields "success" = some value ∧ value.isTruthy = true

/-- Data are an object with a result. -/
def HasResult (fields : Fields) (result : Json) : Prop :=
  ∃ data, Fields.get? fields "data" = some (.object data) ∧
    Fields.get? data "result" = some result

namespace Exchange

/-- A reply says it succeeded, with a body of these fields. -/
def Succeeds (reply : Exchange) (fields : Fields) : Prop :=
  ∃ status body, reply = .answer status (some body) ∧ SaysSuccess body fields

/-- A reply says it succeeded, and its data have a result. -/
def Carries (reply : Exchange) (result : Json) : Prop :=
  ∃ status body fields, reply = .answer status (some body) ∧ SaysSuccess body fields ∧
    HasResult fields result

/-- A reply blames the request and does not say it succeeded. -/
def Declines (reply : Exchange) : Prop :=
  ∃ status body, reply = .answer status (some body) ∧ 400 ≤ status ∧ status < 500 ∧
    ∀ fields, ¬SaysSuccess body fields

variable {reply : Exchange} {status : Int} {body : Json} {fields : Fields} {result other : Json}

/-- What the data of a body have is what its reply carries. -/
theorem carries_iff (success : SaysSuccess body fields) :
    (answer status (some body)).Carries result ↔ HasResult fields result := by
  constructor
  · rintro ⟨_, _, _, same, ⟨object, -⟩, has⟩
    cases same
    cases success.1.symm.trans object
    exact has
  · exact fun has => ⟨status, body, fields, rfl, success, has⟩

/-- A reply that says it succeeded declines nothing. -/
theorem not_declines (success : SaysSuccess body fields) :
    ¬(answer status (some body)).Declines := by
  rintro ⟨_, _, same, -, -, unsuccessful⟩
  cases same
  exact unsuccessful fields success

/-- A reply that carries something says it succeeded. -/
theorem Carries.succeeds (carries : reply.Carries result) : ∃ fields, reply.Succeeds fields := by
  obtain ⟨status, body, fields, rfl, success, -⟩ := carries
  exact ⟨fields, status, body, rfl, success⟩

/-- A reply succeeds with one body at most. -/
theorem Succeeds.unique {others : Fields} (first : reply.Succeeds fields)
    (second : reply.Succeeds others) : fields = others := by
  obtain ⟨status, body, rfl, object, -⟩ := first
  obtain ⟨_, _, same, other, -⟩ := second
  cases same
  cases object.symm.trans other
  rfl

/-- A reply has one result at most. -/
theorem Carries.unique (first : reply.Carries result) (second : reply.Carries other) :
    result = other := by
  obtain ⟨status, body, fields, rfl, success, data, named, held⟩ := first
  obtain ⟨others, named', held'⟩ := (carries_iff success).1 second
  cases named.symm.trans named'
  exact Option.some.inj (held.symm.trans held')

/-- A reply that carries something declines nothing. -/
theorem Carries.not_declines (carries : reply.Carries result) : ¬reply.Declines := by
  obtain ⟨status, body, fields, rfl, success, -⟩ := carries
  exact Exchange.not_declines success

end Exchange

/-- What is promised of a calculation for a reply. -/
structure AsPromised (reply : Exchange) (outcome : Except ServiceError Answer) : Prop where
  /-- What is returned is the integer that the reply carries. -/
  returned : ∀ answer, outcome = .ok answer →
    ∃ n, reply.Carries (.int n) ∧ answer.result? = some (.int n)
  /-- An integer is returned. -/
  returns : ∀ n, reply.Carries (.int n) → ∃ answer, outcome = .ok answer
  /-- A refusal is announced if the reply declines the request, and only then. -/
  rejected : (∃ message status, outcome = .error (.rejected message status)) ↔ reply.Declines
  /-- Nothing but an announcement is raised. -/
  announced : ∀ e, outcome = .error e →
    (∃ message, e = .unavailable message) ∨ ∃ message status, e = .rejected message status

/-! ## What is made of them -/

/-- What comes of a reply, as far as it is known from what the reply carries. -/
inductive Comes (reply : Exchange) : Except ServiceError Answer → Prop where
  /-- An integer is returned. -/
  | integer {n : Int} {answer : Answer} (carries : reply.Carries (.int n))
      (returned : answer.result? = some (.int n)) : Comes reply (.ok answer)
  /-- The integer that something else is turned into is returned. -/
  | coerced {result : Json} {n : Int} {answer : Answer} (carries : reply.Carries result)
      (coercible : result.Coercible) (turned : Client.integerOf result = .ok (some n))
      (returned : answer.result? = some (.int n)) : Comes reply (.ok answer)
  /-- An infinity breaks the conversion off. -/
  | infinite {negative : Bool} (carries : reply.Carries (.double (.infinite negative))) :
      Comes reply (.error .infiniteResult)
  /-- A refusal is announced. -/
  | declined {message : Text} {status : Int} (declines : reply.Declines) :
      Comes reply (.error (.rejected message status))
  /-- That nothing usable came is announced. -/
  | unusable {message : Text} (no_integer : ∀ n, ¬reply.Carries (.int n))
      (no_other : ∀ result, reply.Carries result → ¬result.Coercible)
      (no_refusal : ¬reply.Declines) : Comes reply (.error (.unavailable message))

namespace Client

/-- The fields of a body that says it succeeded. -/
theorem successFields?_eq_some_iff {body : Json} {fields : Fields} :
    successFields? body = some fields ↔ SaysSuccess body fields := by
  unfold successFields? SaysSuccess
  cases body with
  | object held =>
    simp only [Json.object.injEq]
    split
    · rename_i truthy
      constructor
      · intro same
        obtain rfl := Option.some.inj same
        cases named : Fields.get? held "success" with
        | none =>
          rw [named] at truthy
          cases truthy
        | some value =>
          rw [named] at truthy
          exact ⟨rfl, value, rfl, truthy⟩
      · rintro ⟨rfl, -⟩
        rfl
    · rename_i untrue
      constructor
      · nofun
      · rintro ⟨rfl, value, named, truthy⟩
        rw [named] at untrue
        exact absurd truthy untrue
  | null | bool | int | double | string | array =>
    constructor
    · nofun
    · rintro ⟨same, -⟩
      cases same

/-- What is turned into an integer. An integer stays what it is. -/
theorem integerOf_cases (result : Json) :
    (∃ n, result = .int n) ∨ (result.Coercible ∧ ∃ n, integerOf result = .ok (some n)) ∨
      (∃ negative, result = .double (.infinite negative)) ∨ integerOf result = .ok none := by
  cases result with
  | int n => exact .inl ⟨n, rfl⟩
  | bool value => exact .inr (.inl ⟨trivial, _, rfl⟩)
  | double value =>
    cases value with
    | nan => exact .inr (.inr (.inr rfl))
    | infinite negative => exact .inr (.inr (.inl ⟨negative, rfl⟩))
    | finite negative units exact => exact .inr (.inl ⟨nofun, _, rfl⟩)
  | string text =>
    cases read : Text.toInt? text with
    | none => exact .inr (.inr (.inr (congrArg Except.ok read)))
    | some n =>
      refine .inr (.inl ⟨?_, n, congrArg Except.ok read⟩)
      rw [Json.Coercible, read]
      rfl
  | null | array | object => exact .inr (.inr (.inr rfl))

/-- Something comes of turning what can be turned into an integer. -/
theorem integerOf_coercible {result : Json} (coercible : result.Coercible) :
    integerOf result ≠ .ok none := by
  intro nothing
  cases result with
  | null | int | array | object => exact coercible
  | bool value => cases nothing
  | double value =>
    cases value with
    | nan => exact coercible rfl
    | infinite negative => cases nothing
    | finite negative units exact => cases nothing
  | string text =>
    have read : Text.toInt? text = none := Except.ok.inj nothing
    rw [Json.Coercible, read] at coercible
    cases coercible

variable {name : Text} {fields : Fields} {result : Json}

/-- A result that is turned into an integer is answered. -/
theorem answerOf_integer {n : Int} (has : HasResult fields result)
    (turned : integerOf result = .ok (some n)) :
    ∃ answer, answerOf name fields = .ok answer ∧ answer.result? = some (.int n) := by
  obtain ⟨data, named, held⟩ := has
  refine ⟨.make (.int n) ((Fields.get? data "expression").getD (.string [])), ?_, rfl⟩
  simp only [answerOf, named, Option.bind_some, Json.fields?, held, turned]

/-- An infinity breaks off. -/
theorem answerOf_infinite {negative : Bool}
    (has : HasResult fields (.double (.infinite negative))) :
    answerOf name fields = .error .infiniteResult := by
  obtain ⟨data, named, held⟩ := has
  simp only [answerOf, named, Option.bind_some, Json.fields?, held, integerOf]

/-- Data without a result that can be turned into an integer are of no use. -/
theorem answerOf_unusable
    (nothing : ∀ result, HasResult fields result → integerOf result = .ok none) :
    ∃ message, answerOf name fields = .error (.unavailable message) := by
  unfold answerOf
  split
  · exact ⟨_, rfl⟩
  · rename_i data read
    split
    · exact ⟨_, rfl⟩
    · rename_i result held
      have has : HasResult fields result := by
        obtain ⟨value, named, object⟩ := Option.bind_eq_some_iff.1 read
        cases value with
        | object other =>
          obtain rfl := Option.some.inj object
          exact ⟨other, named, held⟩
        | null | bool | int | double | string | array => cases object
      simp only [nothing result has]
      exact ⟨_, rfl⟩

/-- What is read of a reply before its data are looked at. -/
inductive Reads (reply : Exchange) : Except ServiceError Fields → Prop where
  /-- The fields of a body that says it succeeded. -/
  | succeeded {fields : Fields} (succeeds : reply.Succeeds fields) : Reads reply (.ok fields)
  /-- A refusal. -/
  | declined {message : Text} {status : Int} (declines : reply.Declines) :
      Reads reply (.error (.rejected message status))
  /-- Nothing usable. -/
  | unusable {message : Text} (no_success : ∀ fields, ¬reply.Succeeds fields)
      (no_refusal : ¬reply.Declines) : Reads reply (.error (.unavailable message))

/-- Every reply is read as one of three things. -/
theorem interpret_reads (label : Text) (reply : Exchange) :
    Reads reply (interpret label reply) := by
  cases reply with
  | failure message => exact .unusable nofun nofun
  | answer status body =>
    cases body with
    | none => exact .unusable nofun nofun
    | some body =>
      cases read : successFields? body with
      | some fields =>
        simp only [interpret, read]
        exact .succeeded ⟨status, body, rfl, successFields?_eq_some_iff.1 read⟩
      | none =>
        have unsuccessful : ∀ fields, ¬SaysSuccess body fields := fun fields success => by
          rw [successFields?_eq_some_iff.2 success] at read
          cases read
        by_cases blames : 400 ≤ status ∧ status < 500
        · simp only [interpret, read, if_pos blames]
          exact .declined ⟨status, body, rfl, blames.1, blames.2, unsuccessful⟩
        · simp only [interpret, read, if_neg blames]
          refine .unusable ?_ ?_
          · rintro fields ⟨_, _, same, success⟩
            cases same
            exact unsuccessful fields success
          · rintro ⟨_, _, same, above, below, -⟩
            cases same
            exact blames ⟨above, below⟩

/-- A carrier that always brings the same reply, and records the calls. -/
def always (reply : Exchange) : Carrier (List Call) := fun call calls =>
  (.ok reply, calls ++ [call])

variable (base : Text) (operator : Operator) (x y : Json) (reply : Exchange) (calls : List Call)

/-- A request brings the reply as it is read, and is recorded. -/
theorem request_always (call : Call) : request (always reply) base call calls =
    (interpret (call.method ++ " " ++ base ++ call.path) reply, calls ++ [call]) := rfl

/-- A calculation is one request, and what it comes to is read from the reply. -/
theorem compute_always : ∃ label, compute (always reply) base operator x y calls =
    (interpret label reply >>= answerOf (operationName operator),
      calls ++ [computeCall operator x y]) := by
  refine ⟨"POST" ++ " " ++ base ++ ("/api/" ++ operationName operator), ?_⟩
  simp only [compute, request_always, computeCall]
  cases interpret ("POST" ++ " " ++ base ++ ("/api/" ++ operationName operator)) reply with
  | error e => rfl
  | ok body => rfl

/-- Of a reply that says it succeeded, the result counts. -/
theorem comes_success {status : Int} {body : Json} (success : SaysSuccess body fields) :
    Comes (.answer status (some body)) (answerOf name fields) := by
  by_cases useless : ∀ result, HasResult fields result → integerOf result = .ok none
  · obtain ⟨message, unusable⟩ : ∃ message, answerOf name fields = .error (.unavailable message) :=
      answerOf_unusable useless
    rw [unusable]
    refine .unusable (fun n carries => ?_) (fun result carries coercible => ?_)
      (Exchange.not_declines success)
    · exact absurd (useless _ ((Exchange.carries_iff success).1 carries)) nofun
    · exact integerOf_coercible coercible (useless _ ((Exchange.carries_iff success).1 carries))
  · obtain ⟨result, used⟩ := Classical.not_forall.1 useless
    obtain ⟨has, some_integer⟩ := Classical.not_imp.1 used
    have carries : (Exchange.answer status (some body)).Carries result :=
      (Exchange.carries_iff success).2 has
    rcases integerOf_cases result with ⟨n, rfl⟩ | ⟨coercible, n, turned⟩ | ⟨negative, rfl⟩ | none
    · obtain ⟨answer, answered, returned⟩ := answerOf_integer has rfl
      rw [answered]
      exact .integer carries returned
    · obtain ⟨answer, answered, returned⟩ := answerOf_integer has turned
      rw [answered]
      exact .coerced carries coercible turned returned
    · rw [answerOf_infinite has]
      exact .infinite carries
    · exact absurd none some_integer

/-- Every reply comes to one of five things. -/
theorem compute_comes : Comes reply (compute (always reply) base operator x y calls).1 := by
  obtain ⟨label, computed⟩ := compute_always base operator x y reply calls
  have reads := interpret_reads label reply
  rw [computed]
  generalize interpret label reply = read at reads
  cases reads with
  | succeeded succeeds =>
    obtain ⟨status, body, rfl, success⟩ := succeeds
    exact comes_success success
  | declined declines => exact .declined declines
  | unusable no_success no_refusal =>
    refine .unusable (fun n carries => ?_) (fun result carries => ?_) no_refusal
    · exact carries.succeeds.elim no_success
    · exact absurd carries.succeeds fun ⟨fields, success⟩ => no_success fields success

end Client

/-! ## The promise -/

namespace Comes

variable {reply : Exchange} {outcome : Except ServiceError Answer}

/-- Without a result that has to be turned into an integer the promise is kept. -/
theorem asPromised (comes : Comes reply outcome)
    (no_other : ∀ result, reply.Carries result → ¬result.Coercible) : AsPromised reply outcome := by
  cases comes with
  | @integer n answer carries returned =>
    refine ⟨?_, fun _ _ => ⟨answer, rfl⟩, ⟨nofun, fun declines => ?_⟩, nofun⟩
    · intro _ same
      cases same
      exact ⟨n, carries, returned⟩
    · exact absurd declines carries.not_declines
  | coerced carries coercible => exact absurd coercible (no_other _ carries)
  | infinite carries => exact absurd nofun (no_other _ carries)
  | @declined message status declines =>
    refine ⟨nofun, fun n carries => absurd declines carries.not_declines,
      ⟨fun _ => declines, fun _ => ⟨message, status, rfl⟩⟩, ?_⟩
    intro _ same
    cases same
    exact .inr ⟨message, status, rfl⟩
  | @unusable message no_integer _ no_refusal =>
    refine ⟨nofun, fun n carries => absurd carries (no_integer n),
      ⟨nofun, fun declines => absurd declines no_refusal⟩, ?_⟩
    intro _ same
    cases same
    exact .inl ⟨message, rfl⟩

/-- A result that is no integer is taken for the one it is turned into, or breaks off. -/
theorem of_coercible (comes : Comes reply outcome) {result : Json} (carries : reply.Carries result)
    (coercible : result.Coercible) :
    (∃ n answer, Client.integerOf result = .ok (some n) ∧ outcome = .ok answer ∧
      answer.result? = some (.int n)) ∨ outcome = .error .infiniteResult := by
  cases comes with
  | integer other =>
    rw [carries.unique other] at coercible
    exact coercible.elim
  | @coerced _ n answer other _ turned returned =>
    rw [← carries.unique other] at turned
    exact .inl ⟨n, answer, turned, rfl, returned⟩
  | infinite => exact .inr rfl
  | declined declines => exact absurd declines carries.not_declines
  | unusable _ no_other => exact absurd coercible (no_other result carries)

end Comes

/-- What is returned for a result that is no integer, or that it breaks off, is not as promised. -/
theorem AsPromised.not_coercible {reply : Exchange} {outcome : Except ServiceError Answer}
    (promised : AsPromised reply outcome) (comes : Comes reply outcome) {result : Json}
    (carries : reply.Carries result) : ¬result.Coercible := by
  intro coercible
  rcases comes.of_coercible carries coercible with ⟨n, answer, -, returned, -⟩ | broken
  · obtain ⟨m, integer, -⟩ := promised.returned answer returned
    rw [carries.unique integer] at coercible
    exact coercible
  · rcases promised.announced _ broken with ⟨message, same⟩ | ⟨message, status, same⟩
    · cases same
    · cases same

/-- A calculation makes one request, whatever the reply. What it comes to is as promised if and
only if the result in the reply, if there is one, is not something else than an integer of which
one can be made. Such a result is returned as the integer made of it, unless it is an infinity: then
the conversion breaks off with an error that is not announced. -/
theorem Client.compute_asPromised_iff (base : Text) (operator : Operator) (x y : Json)
    (reply : Exchange) (calls : List Call) :
    let called := Client.compute (Client.always reply) base operator x y calls
    called.2 = calls ++ [Client.computeCall operator x y] ∧
    (AsPromised reply called.1 ↔ ∀ result, reply.Carries result → ¬result.Coercible) ∧
    ∀ result, reply.Carries result → result.Coercible →
      (∃ n answer, Client.integerOf result = .ok (some n) ∧ called.1 = .ok answer ∧
        answer.result? = some (.int n)) ∨ called.1 = .error .infiniteResult := by
  intro called
  have comes : Comes reply called.1 := Client.compute_comes base operator x y reply calls
  refine ⟨?_, ⟨fun promised result carries => promised.not_coercible comes carries,
    comes.asPromised⟩, fun result carries coercible => comes.of_coercible carries coercible⟩
  obtain ⟨label, computed⟩ := Client.compute_always base operator x y reply calls
  rw [show called = _ from computed]

/-- A reply that says it succeeded with this result. -/
def Exchange.successWith (result : Json) : Exchange :=
  .answer 200 (some (.object [("success", .bool true), ("data", .object [("result", result)])]))

/-- A truth value is returned as an integer, and an infinity breaks off unannounced: neither is as
promised. -/
theorem Client.compute_truth_and_infinity :
    let sum (result : Json) := (Client.compute (Client.always (.successWith result))
      "http://calc.test" .add (.int 2) (.int 3) []).1
    sum (.bool true) = .ok (.make (.int 1) (.string [])) ∧
      ¬AsPromised (.successWith (.bool true)) (sum (.bool true)) ∧
      sum (.double (.infinite false)) = .error .infiniteResult ∧
      ¬AsPromised (.successWith (.double (.infinite false))) (sum (.double (.infinite false))) := by
  intro sum
  have carries (result : Json) : (Exchange.successWith result).Carries result :=
    ⟨200, _, _, rfl, ⟨rfl, .bool true, rfl, rfl⟩, _, rfl, rfl⟩
  refine ⟨rfl, fun promised => ?_, rfl, fun promised => ?_⟩
  · obtain ⟨n, integer, -⟩ := promised.returned _ rfl
    cases (carries _).unique integer
  · rcases promised.announced _ rfl with ⟨message, same⟩ | ⟨message, status, same⟩
    · cases same
    · cases same

end Web

end Reckoner
