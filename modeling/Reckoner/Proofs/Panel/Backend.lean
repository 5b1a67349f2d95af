import Reckoner.Panel.Basic
import Reckoner.Proofs.Web.Agreement

/-!
# What stands behind a panel

The local service, or the server behind a client whose calls may get lost on the way. Nothing that
a panel asks of either changes more of the log than its rows, and the rows do not matter to a
calculation: its outcome depends only on whether the log can be used and how many rows it keeps.
What is answered to a calculation is always an integer whose numeral may be written.
-/

namespace Reckoner

/-! ## Logs that differ in their rows -/

/-- Two logs differ at most in their rows and numbers. -/
structure Archive.Akin (left right : Archive) : Prop where
  locked : left.locked = right.locked
  capacity : left.capacity = right.capacity

namespace Archive

variable {left right other archive : Archive}

/-- A log is akin to itself. -/
theorem Akin.refl (archive : Archive) : archive.Akin archive := ⟨rfl, rfl⟩

/-- Being akin goes both ways. -/
theorem Akin.symm (akin : left.Akin right) : right.Akin left :=
  ⟨akin.locked.symm, akin.capacity.symm⟩

/-- What is akin to the same is akin. -/
theorem Akin.trans (first : left.Akin right) (second : right.Akin other) : left.Akin other :=
  ⟨first.locked.trans second.locked, first.capacity.trans second.capacity⟩

/-- Adding changes rows only. -/
theorem add_akin (expression result : Json) (moment : Calendar.Moment) (archive : Archive) :
    (archive.add expression result moment).2.Akin archive := by
  unfold add
  split
  · exact .refl _
  · split
    · exact .refl _
    · exact .refl _
    · exact ⟨rfl, rfl⟩

/-- Adding to logs that are akin fails in the same way or succeeds in both. -/
theorem Akin.add (akin : left.Akin right) (expression result : Json) (moment : Calendar.Moment) :
    ((left.add expression result moment).1.map fun _ => ()) =
      (right.add expression result moment).1.map fun _ => () := by
  unfold Archive.add
  rw [akin.locked, akin.capacity]
  split
  · rfl
  · split
    · rfl
    · rfl
    · rfl

/-- Emptying changes rows only. -/
theorem clear_akin (archive : Archive) : (LocalService.clear archive).2.Akin archive := by
  unfold LocalService.clear Archive.clear
  split
  · rename_i emptied
    split at emptied
    · cases emptied
    · cases emptied
      exact ⟨rfl, rfl⟩
  · rename_i failed
    split at failed
    · cases failed
      exact .refl _
    · cases failed

end Archive

namespace LocalService

variable {left right : Archive}

/-- A calculation changes rows only. -/
theorem run_akin (now : Calendar.Moment) (operator : Operator) (x y : Json) (archive : Archive) :
    (run now operator x y archive).2.Akin archive := by
  unfold run
  split
  · exact .refl _
  · rename_i computed _
    have added := archive.add_akin (.string computed.expression) (.string computed.resultText) now
    split
    · rename_i failed
      rwa [failed] at added
    · rename_i passed
      rwa [passed] at added

/-- The rows do not matter to a calculation. -/
theorem run_rows (akin : left.Akin right) (now : Calendar.Moment) (operator : Operator)
    (x y : Json) : (run now operator x y left).1 = (run now operator x y right).1 := by
  unfold run
  split
  · rfl
  · rename_i computed _
    have alike := akin.add (.string computed.expression) (.string computed.resultText) now
    split
    · rename_i failed
      rw [failed] at alike
      split
      · rename_i failed'
        rw [failed'] at alike
        cases alike
        rfl
      · rename_i passed
        rw [passed] at alike
        cases alike
    · rename_i passed
      rw [passed] at alike
      split
      · rename_i failed
        rw [failed] at alike
        cases alike
      · rfl

end LocalService

namespace Web

/-! ## On the way -/

/-- Computing changes rows only. -/
theorem compute_akin (now : Calendar.Moment) (name : Text) (payload : Payload)
    (archive : Archive) : (compute now name payload archive).2.Akin archive := by
  unfold compute
  split
  · exact .refl _
  · rename_i operator _
    split
    · exact .refl _
    · rename_i fields
      have ran := LocalService.run_akin now operator ((Fields.get? fields "x").getD .null)
        ((Fields.get? fields "y").getD .null) archive
      simp only
      split
      · rename_i passed
        rwa [passed] at ran
      · rename_i failed
        rwa [failed] at ran
    · exact .refl _

/-- Emptying the log changes rows only. -/
theorem clearLog_akin (archive : Archive) : (clearLog archive).2.Akin archive := by
  have emptied := archive.clear_akin
  unfold clearLog
  split
  · rename_i passed
    rwa [passed] at emptied
  · rename_i failed
    rwa [failed] at emptied

/-- No request changes more of the log than its rows. -/
theorem handle_akin (now : Calendar.Moment) (request : Request) (archive : Archive) :
    (handle now request archive).2.Akin archive := by
  have performed (action : Action) : (perform now request archive action).2.Akin archive := by
    cases action with
    | clearLog => exact clearLog_akin archive
    | compute name => exact compute_akin now name request.payload archive
    | info | health | listLog | options | file | missing | wrongMethod => exact .refl _
  unfold handle
  split
  · exact .refl _
  · split
    · exact .refl _
    · split
      · exact .refl _
      · exact performed _

/-- Whether a call arrives or not, it changes no more of the log than its rows. -/
theorem losing_akin (lost : Call → Option Text) (now : Calendar.Moment) (call : Call)
    (archive : Archive) : ((serverCarrier now).losing lost call archive).2.Akin archive := by
  unfold Carrier.losing serverCarrier
  split
  · exact .refl _
  · split
    · exact .refl _
    · exact handle_akin ..

/-- A request changes of the log what its call changes. -/
theorem Client.request_akin {carrier : Carrier Archive}
    (keeps : ∀ call archive, (carrier call archive).2.Akin archive) (base : Text) (call : Call)
    (archive : Archive) : (Client.request carrier base call archive).2.Akin archive := by
  have kept := keeps call archive
  unfold Client.request
  split
  · rename_i failed
    rwa [failed] at kept
  · rename_i passed
    rwa [passed] at kept

/-- Listing the log changes of it what its call changes. -/
theorem Client.history_akin {carrier : Carrier Archive}
    (keeps : ∀ call archive, (carrier call archive).2.Akin archive) (base : Text) (days : Json)
    (archive : Archive) : (Client.history carrier base days archive).2.Akin archive := by
  have asked := request_akin keeps base ⟨"GET", "/api/history", .days days⟩ archive
  unfold Client.history
  split
  · rename_i failed
    rwa [failed] at asked
  · rename_i passed
    rwa [passed] at asked

/-- Emptying the log changes of it what its call changes. -/
theorem Client.clear_akin {carrier : Carrier Archive}
    (keeps : ∀ call archive, (carrier call archive).2.Akin archive) (base : Text)
    (archive : Archive) : (Client.clear carrier base archive).2.Akin archive := by
  have asked := request_akin keeps base ⟨"DELETE", "/api/history", .none⟩ archive
  unfold Client.clear
  split
  · rename_i failed
    rwa [failed] at asked
  · rename_i passed
    rwa [passed] at asked

/-- A calculation either fails on the way, or comes to what it does if no call gets lost. -/
theorem Client.provider_losing (lost : Call → Option Text) (now : Calendar.Moment) (base : Text)
    (operator : Operator) (x y : Int) :
    (∃ e, ∀ archive, Client.provider ((serverCarrier now).losing lost) base operator x y archive =
        (.error e, archive)) ∨
      ∀ archive, Client.provider ((serverCarrier now).losing lost) base operator x y archive =
        Client.provider (serverCarrier now) base operator x y archive := by
  simp only [provider, compute, request, Carrier.losing]
  split
  · exact .inl ⟨_, fun _ => rfl⟩
  · exact .inr fun _ => rfl

end Web

namespace Backend

/-- What a panel relies on: calculations are answered without regard to the rows of the log, with
integers whose numerals may be written, and nothing changes more of the log than its rows. -/
structure Steady (backend : Backend Archive) : Prop where
  outcome : ∀ now operator x y {left right : Archive}, left.Akin right →
    Calculator.outcomeOf (backend.compute now operator x y left).1 =
      Calculator.outcomeOf (backend.compute now operator x y right).1
  computed : ∀ now operator x y archive, (backend.compute now operator x y archive).2.Akin archive
  written : ∀ now operator x y archive answer,
    Calculator.outcomeOf (backend.compute now operator x y archive).1 = .answered answer →
      ∃ text, Calculator.resultText answer = .ok text
  listed : ∀ now days archive, (backend.history now days archive).2.Akin archive
  cleared : ∀ now archive, (backend.clear now archive).2.Akin archive

/-- An answer of the local service is an integer whose numeral may be written. -/
theorem written_onLog {now : Calendar.Moment} {operator : Operator} {x y : Int} {archive : Archive}
    {answer : Answer} (answered : Calculator.outcomeOf
      (LocalService.provider now operator x y archive).1 = .answered answer) :
    ∃ text, Calculator.resultText answer = .ok text := by
  cases ran : LocalService.provider now operator x y archive with
  | mk outcome after =>
    cases outcome with
    | error e =>
      rw [ran] at answered
      cases answered
    | ok held =>
      rw [ran] at answered
      cases answered
      obtain ⟨m, n, -, -, possible, rfl⟩ := LocalService.run_answer ran
      have named : (Answer.make (.int (operator.exact m n))
          (.string (LocalService.loggedExpression operator m n))).result? =
            some (.int (operator.exact m n)) := rfl
      have written := writeInt_eq_ok_iff.2 ⟨possible.result, rfl⟩
      refine ⟨Text.ofInt (operator.exact m n), ?_⟩
      simp only [Calculator.resultText, named, written, Except.mapError]

/-- The local service is steady. -/
theorem onLog_steady : onLog.Steady where
  outcome now operator x y _ _ akin :=
    congrArg Calculator.outcomeOf (LocalService.run_rows akin now operator (.int x) (.int y))
  computed now operator x y archive :=
    LocalService.run_akin now operator (.int x) (.int y) archive
  written _ _ _ _ _ _ answered := written_onLog answered
  listed _ _ archive := .refl archive
  cleared _ archive := archive.clear_akin

/-- A calculation over the network fails on the way, or comes to what the local service answers
and logs. -/
theorem compute_overNetwork (base : Text) (lost : Web.Call → Option Text)
    (now : Calendar.Moment) (operator : Operator) (x y : Int) :
    (∃ e, ∀ archive, (overNetwork base lost).compute now operator x y archive =
        (.error e, archive)) ∨
      ∀ archive,
        Calculator.outcomeOf ((overNetwork base lost).compute now operator x y archive).1 =
            Calculator.outcomeOf (LocalService.provider now operator x y archive).1 ∧
          ((overNetwork base lost).compute now operator x y archive).2 =
            (LocalService.provider now operator x y archive).2 := by
  simp only [overNetwork]
  rcases Web.Client.provider_losing lost now base operator x y with fails | arrives
  · exact .inl fails
  · refine .inr fun archive => ?_
    rw [arrives]
    exact Web.Client.provider_alike now base operator x y archive

/-- The server behind a client is steady, whatever gets lost on the way. -/
theorem overNetwork_steady (base : Text) (lost : Web.Call → Option Text) :
    (overNetwork base lost).Steady where
  outcome now operator x y left right akin := by
    rcases compute_overNetwork base lost now operator x y with ⟨e, fails⟩ | arrives
    · rw [fails, fails]
    · rw [(arrives left).1, (arrives right).1]
      exact onLog_steady.outcome now operator x y akin
  computed now operator x y archive := by
    rcases compute_overNetwork base lost now operator x y with ⟨e, fails⟩ | arrives
    · rw [fails]
      exact .refl archive
    · rw [(arrives archive).2]
      exact onLog_steady.computed now operator x y archive
  written now operator x y archive answer answered := by
    rcases compute_overNetwork base lost now operator x y with ⟨e, fails⟩ | arrives
    · rw [fails] at answered
      cases answered
    · rw [(arrives archive).1] at answered
      exact written_onLog answered
  listed now days archive :=
    Web.Client.history_akin (Web.losing_akin lost now) base days archive
  cleared now archive := Web.Client.clear_akin (Web.losing_akin lost now) base archive

end Backend

end Reckoner
