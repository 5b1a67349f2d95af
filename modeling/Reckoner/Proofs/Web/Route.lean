import Reckoner.Proofs.Service.Local
import Reckoner.Web.Server

/-!
# Which address leads where

A path is taken apart at its slashes. What stands under a name in the part of the service stands
there at one path only, so an action that touches the log tells its method and its path: a
calculation is posted to the path of its name, and only deleting the log empties it. A path that
has to be mended first leads to no action at all.
-/

namespace Reckoner

namespace Text

/-- A text is taken apart as a list. -/
theorem splitOn_eq (mark : CodePoint) (text : Text) : splitOn mark text = List.splitOn mark text := by
  show splitWhere (· == mark) text = List.splitOnP (· == mark) text
  induction text with
  | nil => rfl
  | cons c rest ih =>
    rw [splitWhere, ih, List.splitOnP_cons_eq_if_modifyHead]
    cases pieces : List.splitOnP (· == mark) rest with
    | nil => exact absurd pieces (List.splitOnP_ne_nil _ _)
    | cons piece pieces => rfl

/-- The pieces with the mark between them are the text. -/
theorem intercalate_splitOn (mark : CodePoint) (text : Text) :
    List.intercalate [mark] (splitOn mark text) = text := by
  rw [splitOn_eq]
  exact List.intercalate_splitOn mark

/-- There is at least one piece. -/
theorem splitOn_ne_nil (mark : CodePoint) (text : Text) : splitOn mark text ≠ [] := by
  rw [splitOn_eq]
  exact List.splitOnP_ne_nil _ _

/-- What stands before the first mark is the first piece. -/
theorem splitOn_append_cons {mark : CodePoint} {piece : Text} (unmarked : mark ∉ piece)
    (rest : Text) : splitOn mark (piece ++ mark :: rest) = piece :: splitOn mark rest := by
  rw [splitOn_eq, splitOn_eq]
  show List.splitOnP (· == mark) _ = piece :: List.splitOnP (· == mark) rest
  refine List.splitOnP_append_cons_of_forall_mem (p := (· == mark)) ?_ mark
    (beq_self_eq_true mark) rest
  intro c member
  rw [beq_eq_false_iff_ne]
  rintro rfl
  exact unmarked member

end Text

namespace Web

/-! ## What stands at a path -/

/-- The path of a name in the part of the service. -/
def servicePath (name : Text) : Text := "/api/" ++ name

/-- The pieces of a path of the service. -/
theorem splitOn_servicePath (name : Text) :
    Text.splitOn '/' (servicePath name) = [] :: "api" :: Text.splitOn '/' name := by
  have first : Text.splitOn '/' (servicePath name) =
      [] :: Text.splitOn '/' ("api" ++ ('/' : CodePoint) :: name) :=
    Text.splitOn_append_cons List.not_mem_nil _
  have second : Text.splitOn '/' ("api" ++ ('/' : CodePoint) :: name) =
      ("api" : Text) :: Text.splitOn '/' name :=
    Text.splitOn_append_cons (show ('/' : CodePoint) ∉ Text.ofString "api" by decide) name
  rw [first, second]

/-- The name under which something stands in the part of the service. -/
def Resource.name? : Resource → Option Text
  | .health => some "health"
  | .log => some "history"
  | .operation name => some name
  | .info | .file | .nothing => none

/-- What stands under a name of the service bears that name. -/
theorem name?_ofServiceName (name : Text) :
    (Resource.ofServiceName name).name? = some name ∨ Resource.ofServiceName name = .nothing := by
  unfold Resource.ofServiceName
  by_cases health : name = ("health" : Text)
  · rw [if_pos health, health]
    exact .inl rfl
  · rw [if_neg health]
    by_cases history : name = ("history" : Text)
    · rw [if_pos history, history]
      exact .inl rfl
    · rw [if_neg history]
      by_cases empty : name = []
      · rw [if_pos empty]
        exact .inr rfl
      · rw [if_neg empty]
        exact .inl rfl

/-- What stands at a path of the service bears the name at its end, if anything stands there. -/
theorem name?_ofPath_servicePath (name : Text) :
    (Resource.ofPath (servicePath name)).name? = some name ∨
      Resource.ofPath (servicePath name) = .nothing := by
  rw [Resource.ofPath, splitOn_servicePath]
  cases pieces : Text.splitOn '/' name with
  | nil => exact absurd pieces (Text.splitOn_ne_nil '/' name)
  | cons piece others =>
    cases others with
    | nil =>
      have whole := Text.intercalate_splitOn '/' name
      rw [pieces] at whole
      have same : piece = name := by simpa [List.intercalate] using whole
      rw [same]
      exact name?_ofServiceName name
    | cons next others => exact .inr rfl

/-- What bears a name stands at the path of that name. -/
theorem path_of_name? {path name : Text} (named : (Resource.ofPath path).name? = some name) :
    path = servicePath name := by
  have whole := Text.intercalate_splitOn '/' path
  unfold Resource.ofPath at named
  split at named
  · rename_i first names pieces
    split at named
    · rename_i service
      split at named
      · cases named
      · rename_i place
        have same : place = name := by
          rcases name?_ofServiceName place with bears | nothing
          · exact Option.some.inj (bears.symm.trans named)
          · rw [nothing] at named
            cases named
        rw [pieces, service, same] at whole
        simp only [List.intercalate, List.intersperse_cons_cons, List.intersperse_singleton,
          List.flatten_cons, List.flatten_nil, List.nil_append, List.append_nil] at whole
        exact whole.symm
      · cases named
    · split at named
      · unfold Resource.ofFileName at named
        split at named
        · cases named
        · cases named
      · cases named
  · cases named

/-! ## What is asked of it -/

/-- Only a post asks for a calculation, and it asks for the one of that name. -/
theorem compute_posted {method : Text} {resource : Resource} {name : Text}
    (asked : Action.of method resource = .compute name) :
    method = "POST" ∧ resource.name? = some name := by
  cases resource with
  | info | file | nothing => grind [Action.of]
  | health | log | operation place => grind [Action.of, Resource.name?]

/-- Only deleting asks for the log to be emptied. -/
theorem clearLog_deleted {method : Text} {resource : Resource}
    (asked : Action.of method resource = .clearLog) :
    method = "DELETE" ∧ resource.name? = some "history" := by
  cases resource with
  | info | file | nothing | health | operation place => grind [Action.of]
  | log => grind [Action.of, Resource.name?]

/-- A post to what bears a name asks for the calculation of that name. -/
theorem of_post {resource : Resource} {name : Text} (named : resource.name? = some name) :
    Action.of "POST" resource = .compute name := by
  cases resource with
  | info | file | nothing => cases named
  | health | log | operation place =>
    cases named
    rfl

/-- What is carried out at once is what the path itself asks for, unless that is nothing. -/
theorem actionFor_direct {method path : Text} {action : Action}
    (direct : actionFor method path = (action, false)) :
    action = Action.of method (.ofPath path) ∨ action = .missing ∨ action = .wrongMethod := by
  unfold actionFor at direct
  split at direct
  · simp only at direct
    split at direct
    · cases direct
      exact .inr (.inl rfl)
    · split at direct
      · cases direct
        exact .inr (.inl rfl)
      · cases direct
        exact .inr (.inr rfl)
      · cases direct
  · cases direct
    exact .inl rfl

/-- A post to a path of the service leads to the calculation of its name, or nowhere. -/
theorem actionFor_post {name : Text} {action : Action}
    (direct : actionFor "POST" (servicePath name) = (action, false)) :
    action = .compute name ∨ action = .missing ∨ action = .wrongMethod := by
  rcases actionFor_direct direct with same | other
  · rcases name?_ofPath_servicePath name with named | nothing
    · exact .inl (same.trans (of_post named))
    · rw [nothing] at same
      exact .inr (.inl same)
  · exact .inr other

/-! ## Calculations -/

/-- The name of an operation names it. -/
theorem operationOf?_operationName (operator : Operator) :
    operationOf? (operationName operator) = some operator := by
  cases operator with
  | add | subtract | multiply | divide => decide +kernel

/-- An operation that a name names has that name. -/
theorem operationName_of_operationOf? {name : Text} {operator : Operator}
    (found : operationOf? name = some operator) : name = operationName operator := by
  have same := List.find?_some found
  rw [decide_eq_true_eq] at same
  exact same.symm

variable {now : Calendar.Moment} {operator : Operator} {fields : Fields} {archive after : Archive}

/-- The response to a computed calculation. -/
def computedResponse (operator : Operator) (x y : Int) : Response :=
  success [("data", .object [
    ("expression", .string (LocalService.loggedExpression operator x y)),
    ("result", .int (operator.exact x y))])]

/-- A computed calculation is answered with its expression and its result. -/
theorem compute_answered {result expression : Json}
    (answered : LocalService.run now operator ((Fields.get? fields "x").getD .null)
      ((Fields.get? fields "y").getD .null) archive = (.ok (.make result expression), after)) :
    compute now (operationName operator) (.value (.object fields)) archive =
      (success [("data", .object [("expression", expression), ("result", result)])], after) := by
  simp only [compute, operationOf?_operationName, answered]
  rfl

/-- A refused calculation is answered with the wording of its error. -/
theorem compute_refused {e : ServiceError}
    (refused : LocalService.run now operator ((Fields.get? fields "x").getD .null)
      ((Fields.get? fields "y").getD .null) archive = (.error e, after)) :
    compute now (operationName operator) (.value (.object fields)) archive =
      (refusal (refusalStatus e) e.message, after) := by
  simp only [compute, operationOf?_operationName, refused]

end Web

end Reckoner
