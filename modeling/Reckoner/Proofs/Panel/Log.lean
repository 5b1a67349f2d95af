import Reckoner.Proofs.History.Stored
import Reckoner.Proofs.Panel.Settled
import Reckoner.Proofs.Web.Listing

/-!
# The log behind a panel

Whether the service is beside the panel or on a server, what it does to a log is a sequence of
changes: a calculation adds a row or none, and emptying it is one change, unless the call gets lost
on the way. Asking for the last days changes nothing. What is answered is what the log itself lists,
unless that call gets lost.
-/

namespace Reckoner

open Calendar (Moment microsPerDay)

/-! ## Changes -/

/-- The last command of a run finds the state that the others have left. -/
theorem Command.run_concat {σ : Type} (answer : σ → Command → Reply × σ) (start : σ)
    (commands : List Command) (command : Command) :
    (run answer start (commands ++ [command])).2 =
      (answer (run answer start commands).2 command).2 := by
  induction commands generalizing start with
  | nil => rfl
  | cons first commands ih => exact ih _

namespace Change

/-- A log after one change more. -/
theorem log_concat (changes : List Change) (change : Change) :
    log (changes ++ [change]) = ((log changes).answer change.command).2 := by
  rw [log, List.map_append, List.map_singleton, Command.run_concat]
  rfl

/-- A log after changes can be emptied. -/
theorem clear_log (changes : List Change) :
    LocalService.clear (log changes) = (.ok (), log (changes ++ [.clear])) := by
  have unlocked : ¬(log changes).locked = true := by simp [(stores_log changes).usable]
  rw [log_concat]
  simp only [LocalService.clear, Archive.clear, Archive.answer, command, if_neg unlocked]

/-- A calculation makes changes to a log, if any. -/
theorem run_log (now : Moment) (operator : Operator) (x y : Json) (changes : List Change) :
    ∃ more, (LocalService.run now operator x y (log changes)).2 = log (changes ++ more) := by
  unfold LocalService.run
  split
  · exact ⟨[], by rw [List.append_nil]⟩
  · rename_i computed _
    refine ⟨[.add (.string computed.expression) (.string computed.resultText) now], ?_⟩
    rw [log_concat]
    simp only [Archive.answer, command]
    split
    · rename_i failed
      rw [failed]
    · rename_i passed
      rw [passed]

/-- The rows that a log lists of the seven days before a moment, if these begin in the calendar. -/
theorem rows_log (changes : List Change) {now : Moment} (past : 7 * microsPerDay ≤ now.micros) :
    ∃ (rows : List Row) (bound : Moment), (bound.micros : ℤ) = now.micros - 7 * microsPerDay ∧
      LocalService.rows now Panel.historyDays (log changes) = .ok rows ∧
      LocalService.history now Panel.historyDays (log changes) = .ok (rows.map Row.entry) ∧
      (rows = (Entries.ofChanges changes).notBefore bound ↔
        (Entries.ofChanges changes).YearsInOrder bound) ∧
      ∀ row ∈ rows, ∃ entry ∈ (Entries.ofChanges changes).kept, entry.row = row := by
  have within : now.micros - 7 * microsPerDay < Calendar.dayLimit * microsPerDay :=
    Nat.lt_of_le_of_lt (Nat.sub_le _ _) now.lt_limit
  let bound : Moment := ⟨now.micros - 7 * microsPerDay, within⟩
  have before : (bound.micros : ℤ) = now.micros - 7 * microsPerDay := Int.ofNat_sub past
  have stores := stores_log changes
  have listed := rows_eq stores before
  refine ⟨_, bound, before, listed, ?_, listed_iff stores bound, ?_⟩
  · rw [LocalService.history, Panel.historyDays, listed]
    rfl
  · intro row member
    obtain ⟨entry, kept, same⟩ := List.mem_map.1 member
    exact ⟨entry, (List.mem_filter.1 kept).1, same⟩

/-- Of seven days that begin before the calendar nothing can be listed. -/
theorem history_log_early (changes : List Change) {now : Moment}
    (early : now.micros < 7 * microsPerDay) :
    ∃ e, LocalService.history now Panel.historyDays (log changes) = .error e := by
  have unlocked : ¬(log changes).locked = true := by simp [(stores_log changes).usable]
  have none : Moment.ofMicros? (now.micros - 7 * microsPerDay) = none := by
    obtain ⟨gap, below⟩ := Int.eq_negSucc_of_lt_zero
      (show (now.micros : ℤ) - 7 * microsPerDay < 0 by omega)
    rw [below]
    rfl
  have span : Calendar.checkSpan (7 * microsPerDay) = .ok (7 * microsPerDay) := by decide
  refine ⟨.span .outOfRange, ?_⟩
  simp only [LocalService.history, LocalService.rows, Panel.historyDays, if_neg unlocked,
    Calendar.daysBefore, Calendar.microsOfDays, bind, Except.bind, span, none, Except.mapError,
    Functor.map, Except.map]

/-- The names of the entries that are listed are not split. -/
theorem unsplit_history (changes : List Change) {now : Moment} {entries : List (Text × Text)}
    (listed : LocalService.history now Panel.historyDays (log changes) = .ok entries) :
    ∀ name ∈ Stamps.keys entries, name.Unsplit := by
  by_cases past : 7 * microsPerDay ≤ now.micros
  · obtain ⟨rows, -, -, -, same, -, stored⟩ := rows_log changes past
    obtain rfl := Except.ok.inj (same.symm.trans listed)
    intro name member
    obtain ⟨listing, among, rfl⟩ := List.mem_map.1 member
    obtain ⟨row, row_listed, rfl⟩ := List.mem_map.1 among
    obtain ⟨entry, kept, rfl⟩ := stored row row_listed
    obtain ⟨first, second⟩ := Entries.arePlain_ofChanges changes entry kept
    exact Entries.unsplit_entryKey first second
  · obtain ⟨e, failed⟩ := history_log_early changes (Nat.lt_of_not_le past)
    rw [failed] at listed
    cases listed

end Change

/-! ## Calls to a server -/

namespace Web

/-- The call by which a client asks for the log of the last days. -/
def historyCall : Call := ⟨"GET", "/api/history", .days Panel.historyDays⟩

/-- The call by which a client empties the log. -/
def clearCall : Call := ⟨"DELETE", "/api/history", .none⟩

/-- The call for the log can be written. -/
theorem historyCall_fault : historyCall.fault? = none := by
  have few : Text.exceedsDigitLimit 7 = false := by decide +kernel
  simp [historyCall, Panel.historyDays, Call.fault?, daysSent, queryFault?, Json.isNull,
    Json.exceedsDigitLimit, few]

/-- A call that can be written and does not get lost arrives. -/
theorem losing_arrives {σ : Type} {lost : Call → Option Text} {call : Call}
    (arrives : lost call = none) (carrier : Carrier σ) (state : σ) :
    carrier.losing lost call state = carrier call state := by
  unfold Carrier.losing
  rw [arrives]
  split
  · rename_i _ gone
    cases gone
  · rfl

/-- A call that gets lost is a failure on the way. -/
theorem losing_lost {σ : Type} {lost : Call → Option Text} {call : Call} {message : Text}
    (gone : lost call = some message) (written : call.fault? = none) (carrier : Carrier σ)
    (state : σ) : carrier.losing lost call state = (.ok (.failure message), state) := by
  unfold Carrier.losing
  rw [gone, written]

/-- The server lists the log of the last days for a client. -/
theorem handle_historyCall (now : Moment) (archive : Archive) :
    handle now historyCall.toRequest archive =
      (listLog now [("days", ['7'])] archive, archive) := by
  have route : actionFor "GET" (rootedPath "/api/history") = (.listLog, false) := by
    decide +kernel
  have query : Call.toRequest historyCall = ⟨"GET", false,
      ⟨false, defaultHost, "/api/history", [("days", ['7'])]⟩, .absent⟩ := by
    rfl
  simp only [query, handle, hasName_defaultHost, Bool.not_true, Bool.false_eq_true, ↓reduceIte,
    route, perform]

/-- The server empties the log for a client. -/
theorem handle_clearCall (now : Moment) (archive : Archive) :
    handle now clearCall.toRequest archive = clearLog archive := by
  have route : actionFor "DELETE" (rootedPath "/api/history") = (.clearLog, false) := by
    decide +kernel
  have query : Call.toRequest clearCall =
      ⟨"DELETE", false, ⟨false, defaultHost, "/api/history", []⟩, .absent⟩ := rfl
  simp only [query, handle, hasName_defaultHost, Bool.not_true, Bool.false_eq_true, ↓reduceIte,
    route, perform]

/-- Entries that the log lists are read back by a client. -/
theorem entriesOf_listed (count : Json) (entries : List (Text × Text)) (rest : Fields) :
    Client.entriesOf (("count", count) :: ("data", .array (entries.map listed)) :: rest) =
      .ok (entries.map fun entry => (.string entry.1, .string entry.2)) := by
  have all : List.Forall₂ IsEntry (entries.map listed)
      (entries.map fun entry => (.string entry.1, .string entry.2)) := by
    induction entries with
    | nil => exact .nil
    | cons entry entries ih => exact .cons ⟨_, rfl, rfl, rfl⟩ ih
  exact Client.mapM_entryOf_eq_ok_iff.2 all

/-- A client of the server lists what the log lists, and fails if that fails. -/
theorem Client.history_server (base : Text) (now : Moment) (archive : Archive) :
    ∃ outcome, Client.history (serverCarrier now) base Panel.historyDays archive =
        (outcome, archive) ∧
      match LocalService.history now Panel.historyDays archive with
      | .ok entries => outcome = .ok (entries.map fun entry => (.string entry.1, .string entry.2))
      | .error _ => ∃ e, outcome = .error e := by
  have days : queryDays? [("days", ['7'])] = some Panel.historyDays := by
    have seven : Text.toInt? ['7'] = some 7 := by decide +kernel
    have named : List.lookup ("days" : Text) [("days", (['7'] : Text))] =
        some (['7'] : Text) := by decide
    rw [queryDays?, named]
    simp only [seven, Option.map_some, Panel.historyDays]
  have answered : serverCarrier now historyCall archive =
      (.ok (listLog now [("days", ['7'])] archive).toExchange, archive) := by
    simp only [serverCarrier, historyCall_fault, handle_historyCall]
  cases local_listing : LocalService.history now Panel.historyDays archive with
  | ok entries =>
    refine ⟨_, ?_, rfl⟩
    rw [← entriesOf_listed (.int entries.length) entries [("success", .bool true)]]
    rw [historyCall] at answered
    simp only [Client.history, request, answered, listLog, days, local_listing]
    rfl
  | error e =>
    obtain ⟨failure, failed⟩ := interpret_refusal
      (historyCall.method ++ " " ++ base ++ historyCall.path) 500 e.message
    refine ⟨.error failure, ?_, failure, rfl⟩
    rw [historyCall] at answered failed
    simp only [Client.history, request, answered, listLog, days, local_listing, failed]

/-- A client of the server empties a log. -/
theorem Client.clear_server (base : Text) (now : Moment) (changes : List Change) :
    Client.clear (serverCarrier now) base (Change.log changes) =
      (.ok (), Change.log (changes ++ [.clear])) := by
  have written : clearCall.fault? = none := rfl
  have answered : serverCarrier now clearCall (Change.log changes) =
      (.ok (success []).toExchange, Change.log (changes ++ [.clear])) := by
    simp only [serverCarrier, written, handle_clearCall, clearLog, Change.clear_log]
  rw [clearCall] at answered
  simp only [Client.clear, request, answered]
  rfl

end Web

/-! ## Sites -/

namespace Site

/-- A service is reached for the log: the one beside the panel always is, and a server is if the
call does not get lost. -/
def Reached : Site → (Web.Call → Option Text) → Prop
  | .near, _ => True
  | .far _, lost => lost Web.historyCall = none

variable (site : Site) (lost : Web.Call → Option Text) (now : Moment)

/-- Asking for the last days leaves a log, and what is answered is what the log lists, exactly if
the service is reached and the log lists something. -/
theorem history_eq (archive : Archive) :
    ∃ outcome, (site.backend lost).history now Panel.historyDays archive = (outcome, archive) ∧
      ∀ entries, outcome = .ok entries ↔
        site.Reached lost ∧ LocalService.history now Panel.historyDays archive = .ok entries := by
  cases site with
  | near => exact ⟨_, rfl, fun entries => (and_iff_right trivial).symm⟩
  | far base =>
    cases gone : lost Web.historyCall with
    | some message =>
      have failed := Web.losing_lost gone Web.historyCall_fault (Web.serverCarrier now) archive
      rw [Web.historyCall] at failed
      let fault : Text := "GET" ++ " " ++ base ++ "/api/history" ++ " failed: " ++ message
      have not_listed (entries : List (Text × Text)) :
          (.error (.unavailable fault) : Except ServiceError (List (Text × Text))) = .ok entries ↔
            (far base).Reached lost ∧
              LocalService.history now Panel.historyDays archive = .ok entries := by
        constructor
        · intro listed
          cases listed
        · intro both
          cases gone.symm.trans both.1
      refine ⟨.error (.unavailable fault), ?_, not_listed⟩
      simp only [backend, Backend.overNetwork, Web.Client.history, Web.Client.request, failed,
        Web.Client.interpret]
      rfl
    | none =>
      have arrives := Web.losing_arrives gone (Web.serverCarrier now) archive
      obtain ⟨outcome, asked, listed⟩ := Web.Client.history_server base now archive
      have same : Web.Client.history ((Web.serverCarrier now).losing lost) base Panel.historyDays
          archive = (outcome, archive) := by
        rw [Web.historyCall] at arrives
        rw [← asked]
        simp only [Web.Client.history, Web.Client.request, arrives]
      refine ⟨List.map (fun entry => (entry.1.plain, entry.2.plain)) <$> outcome, ?_, ?_⟩
      · simp only [backend, Backend.overNetwork, same]
      · intro entries
        rw [Reached, and_iff_right gone]
        cases local_listing : LocalService.history now Panel.historyDays archive with
        | error e =>
          rw [local_listing] at listed
          obtain ⟨e', rfl⟩ := listed
          constructor
          · intro same
            cases same
          · intro same
            cases same
        | ok others =>
          rw [local_listing] at listed
          subst listed
          have read : (others.map fun entry => (Json.string entry.1, Json.string entry.2)).map
              (fun entry => (entry.1.plain, entry.2.plain)) = others := by
            rw [List.map_map]
            exact List.map_id _
          show Except.ok _ = _ ↔ _
          rw [read]

/-- A log is emptied, which is one change to it, or the call gets lost. -/
theorem clear_log (changes : List Change) :
    (site.backend lost).clear now (Change.log changes) =
        (.ok (), Change.log (changes ++ [.clear])) ∨
      ∃ message, (site.backend lost).clear now (Change.log changes) =
        (.error (.unavailable message), Change.log changes) := by
  cases site with
  | near => exact .inl (Change.clear_log changes)
  | far base =>
    cases gone : lost Web.clearCall with
    | some message =>
      have failed := Web.losing_lost gone rfl (Web.serverCarrier now) (Change.log changes)
      rw [Web.clearCall] at failed
      refine .inr ⟨"DELETE" ++ " " ++ base ++ "/api/history" ++ " failed: " ++ message, ?_⟩
      simp only [backend, Backend.overNetwork, Web.Client.clear, Web.Client.request, failed,
        Web.Client.interpret]
    | none =>
      have arrives := Web.losing_arrives gone (Web.serverCarrier now) (Change.log changes)
      rw [Web.clearCall] at arrives
      refine .inl ?_
      rw [← Web.Client.clear_server base now changes]
      simp only [backend, Backend.overNetwork, Web.Client.clear, Web.Client.request, arrives]

/-- A calculation makes changes to a log, if any. -/
theorem compute_log (operator : Operator) (x y : ℤ) (changes : List Change) :
    ∃ more, ((site.backend lost).compute now operator x y (Change.log changes)).2 =
      Change.log (changes ++ more) := by
  have here := Change.run_log now operator (.int x) (.int y) changes
  cases site with
  | near => exact here
  | far base =>
    rcases Backend.compute_overNetwork base lost now operator x y with ⟨e, fails⟩ | arrives
    · exact ⟨[], by rw [backend, fails, List.append_nil]⟩
    · rw [backend, (arrives _).2]
      exact here

end Site

end Reckoner
