import Reckoner.Calculator.Button
import Reckoner.Proofs.Web.Route
import Reckoner.Web.Client

/-!
# Near and far

A calculator may have the service beside it or reach it through a client and a server. The way is
followed here from end to end: the call that the client makes, the route on which the server
answers it, and what the client reads from the answer. A success comes back as it was computed, a
refusal of any kind comes back as a failure, and the log is changed alike. So a calculator never
shows which of the two stands behind it, whatever is pressed and whatever befalls the log.
-/

namespace Reckoner

/-! ## Services that are alike -/

/-- Two services have the same outcome of every call, and are left in the same state by it. -/
def Provider.Alike {σ : Type} (left right : Provider σ) : Prop :=
  ∀ operator x y service,
    Calculator.outcomeOf (left operator x y service).1 =
        Calculator.outcomeOf (right operator x y service).1 ∧
      (left operator x y service).2 = (right operator x y service).2

namespace Calculator

variable {σ : Type} {left right : Provider σ}

/-- Confirming comes to the same in front of services that are alike. -/
theorem equals_alike (alike : Provider.Alike left right) (depth : Nat) (calculator : Calculator)
    (service : σ) :
    calculator.equals depth left service = calculator.equals depth right service := by
  unfold equals
  split
  · rfl
  · rfl
  · rename_i pending after begun
    obtain ⟨outcome, log⟩ := alike pending.operator pending.x pending.y service
    simp only [callService, outcome, log]

/-- Every press comes to the same in front of services that are alike. -/
theorem press_alike (alike : Provider.Alike left right) (depth : Nat) (name : Text)
    (calculator : Calculator) (service : σ) :
    calculator.press depth left name service = calculator.press depth right name service := by
  unfold press
  cases Button.ofName? name with
  | none => rfl
  | some button =>
    cases button with
    | equals => exact equals_alike alike (depth - 1) calculator service
    | digit | point | operator | openParen | closeParen | power | percent | square | root |
      reciprocal | negate | erase | clear => rfl

end Calculator

namespace Web

/-! ## On the server -/

/-- The address of an operation leads to it. -/
theorem actionFor_operation (operator : Operator) :
    actionFor "POST" (rootedPath ("/api/" ++ operationName operator)) =
      (.compute (operationName operator), false) := by
  cases operator with
  | add | subtract | multiply | divide => decide +kernel

/-- The host of an address that has none can be named. -/
theorem hasName_defaultHost (isSocket : Bool) (path : Text) (query : List (Text × Text)) :
    (Address.mk isSocket defaultHost path query).hasName = true := by
  show (Address.mk false defaultHost [] []).hasName = true
  decide +kernel

/-- The operands are sent in the order of their names. -/
theorem sortNames_operands (x y : Int) :
    (Json.object [("x", .int x), ("y", .int y)]).sortNames =
      .object [("x", .int x), ("y", .int y)] := by
  have ascending : Text.ofString "x" ≤ Text.ofString "y" := by decide
  simp only [Json.sortNames, Json.sortNamesOfFields, Fields.byName, List.foldr_cons,
    List.foldr_nil, Fields.insertByName, if_pos ascending]

/-- The server computes what a client asks for. -/
theorem handle_computeCall (now : Calendar.Moment) (operator : Operator) (x y : Int)
    (archive : Archive) :
    handle now (Client.computeCall operator (.int x) (.int y)).toRequest archive =
      compute now (operationName operator)
        (.value (.object [("x", .int x), ("y", .int y)])) archive := by
  have route := actionFor_operation operator
  simp only [handle, Call.toRequest, Client.computeCall, hasName_defaultHost, Bool.not_true,
    Bool.false_eq_true, ↓reduceIte, sortNames_operands, route, perform]

/-! ## On the client -/

namespace Client

variable {operator : Operator} {x y : Int}

/-- The body of a refusal does not say that it succeeded. -/
theorem successFields?_refusal (message : Text) :
    successFields? (.object [("error", .string message), ("success", .bool false)]) = none :=
  rfl

/-- A refusal is a failure, whatever its status. -/
theorem interpret_refusal (label : Text) (status : Nat) (message : Text) :
    ∃ e, interpret label (refusal status message).toExchange = .error e := by
  simp only [refusal, Response.toExchange, interpret, successFields?_refusal]
  split
  · exact ⟨_, rfl⟩
  · exact ⟨_, rfl⟩

/-- A call that cannot be written would have been refused as well. -/
theorem refused_of_fault {fault : ServiceError}
    (unwritten : (computeCall operator (.int x) (.int y)).fault? = some fault)
    (now : Calendar.Moment) (archive : Archive) :
    ∃ e, LocalService.run now operator (.int x) (.int y) archive = (.error e, archive) := by
  apply LocalService.run_refused
  intro outcome computed
  obtain ⟨m, n, first, second, possible, -⟩ := LocalService.compute_eq_ok_iff.1 computed
  cases first
  cases second
  simp [Call.fault?, computeCall, Json.exceedsDigitLimit, Json.anyFieldExceeds, possible.first,
    possible.second] at unwritten

/-- A client of the server is as good as the service beside the calculator. -/
theorem provider_alike (now : Calendar.Moment) (base : Text) :
    Provider.Alike (provider (serverCarrier now) base) (LocalService.provider now) := by
  intro operator x y archive
  cases unwritten : (computeCall operator (.int x) (.int y)).fault? with
  | some fault =>
    obtain ⟨e, refused⟩ := refused_of_fault unwritten now archive
    simp only [provider, compute, request, serverCarrier, unwritten, LocalService.provider, refused]
    exact ⟨rfl, trivial⟩
  | none =>
    cases computed : LocalService.run now operator (.int x) (.int y) archive with
    | mk outcome after =>
      cases outcome with
      | error e =>
        have refused : Web.compute now (operationName operator)
            (.value (.object [("x", .int x), ("y", .int y)])) archive =
              (refusal (refusalStatus e) e.message, after) := compute_refused computed
        obtain ⟨failure, failed⟩ := interpret_refusal
          ((computeCall operator (.int x) (.int y)).method ++ " " ++ base ++
            (computeCall operator (.int x) (.int y)).path) (refusalStatus e) e.message
        simp only [provider, compute, request, serverCarrier, unwritten, handle_computeCall,
          refused, failed, LocalService.provider, computed]
        exact ⟨rfl, trivial⟩
      | ok answer =>
        obtain ⟨m, n, first, second, -, rfl⟩ := LocalService.run_answer computed
        cases first
        cases second
        have answered : Web.compute now (operationName operator)
            (.value (.object [("x", .int x), ("y", .int y)])) archive =
              (computedResponse operator x y, after) := compute_answered computed
        simp only [provider, compute, request, serverCarrier, unwritten, handle_computeCall,
          answered, LocalService.provider, computed]
        exact ⟨rfl, rfl⟩

end Client

end Web

/-! ## Sessions -/

/-- A press of a button by name, the moment of it, the depth that is left for nesting, and what
befalls the log just before: others may use it, lock it or give it back. -/
structure Scene where
  name : Text
  now : Calendar.Moment
  depth : Nat
  befalls : Archive → Archive

namespace Scene

/-- The press of a scene, with a service that depends on the time: whether it breaks off, and the
calculator and the log after it. -/
def play (service : Calendar.Moment → Provider Archive) (scene : Scene) (calculator : Calculator)
    (log : Archive) : Except StepError Unit × Calculator × Archive :=
  calculator.press scene.depth (service scene.now) scene.name (scene.befalls log)

/-- What comes of scene after scene. -/
def watch (service : Calendar.Moment → Provider Archive) :
    List Scene → Calculator → Archive → List (Except StepError Unit × Calculator × Archive)
  | [], _, _ => []
  | scene :: scenes, calculator, log =>
    let seen := scene.play service calculator log
    seen :: watch service scenes seen.2.1 seen.2.2

/-- A calculator that reaches its service through a client of the server and one that has it at
hand go through the same states and leave the same logs, and a press breaks off in front of both or
of neither: after every press of every session, whatever befalls the log in between. -/
theorem watch_far (base : Text) (scenes : List Scene) (calculator : Calculator) (log : Archive) :
    watch (fun now => Web.Client.provider (Web.serverCarrier now) base) scenes calculator log =
      watch LocalService.provider scenes calculator log := by
  induction scenes generalizing calculator log with
  | nil => simp only [watch]
  | cons scene scenes ih =>
    have alike := Web.Client.provider_alike scene.now base
    have same : scene.play (fun now => Web.Client.provider (Web.serverCarrier now) base) calculator
        log = scene.play LocalService.provider calculator log := by
      simp only [play, Calculator.press_alike alike]
    simp only [watch, same, ih]

/-- Scenes of the buttons of these names, with nothing in between. -/
def inPeace (names : List Text) : List Scene :=
  names.map fun name => ⟨name, ⟨0, Calendar.limit_pos⟩, Calculator.scriptDepth, id⟩

/-- A divisor that is cut to zero is refused by the server. The quotient is shown all the same, and
nothing is logged. -/
example :
    ((watch (fun now => Web.Client.provider (Web.serverCarrier now) "http://localhost")
      (inPeace [['7'], ['÷'], ['0'], ['.'], ['5'], ['=']]) .new .new).getLast?.map fun seen =>
        (seen.2.1.state, seen.2.2.log)) =
      some (.calculated ['1', '4'] "7 ÷ 0.5 = 14", .empty) := by
  decide +kernel

end Scene

end Reckoner
