import Reckoner.Proofs.Calculator.Logging
import Reckoner.Proofs.Panel.Log
import Reckoner.Proofs.Panel.Rows

/-!
# The log that a panel lists

A panel lists the log when it is opened, when it is asked to, when the log is emptied, and when a
calculation has come back from the service. Nothing else that happens to a panel changes the log.
So as long as each event is settled before the next one, the panel goes on listing the log as it is,
as of the time when it was last looked at. What is listed has a row for each entry, in order, with
the time of a reading of the last seven days, unless the file of first sightings is nested too deep.
-/

namespace Reckoner

open Calendar (Moment microsPerDay)

/-- The time at which a log is looked at, and the calls that get lost on the way then. -/
structure Sight where
  now : Moment
  lost : Web.Call → Option Text

/-- What is seen of the log in a turn. -/
def Turn.sight (turn : Turn) : Sight := ⟨turn.now, turn.lost⟩

/-- What the service at a site lists of the last days. -/
def Site.listing (site : Site) (sight : Sight) (archive : Archive) :
    Except ServiceError (List (Text × Text)) :=
  ((site.backend sight.lost).history sight.now Panel.historyDays archive).1

namespace Panel

/-! ## What is listed -/

/-- A panel lists the log after some changes, as of a sight. -/
structure ListsLog (site : Site) (sight : Sight) (changes : List Change) (panel : Panel Archive) :
    Prop where
  service : panel.service = Change.log changes
  /-- The service is asked for the entries of the last seven days. They are those of the log that
  are not older, exactly if their years compare with that of the bound as numerals do. -/
  window : site.Reached sight.lost → 7 * microsPerDay ≤ sight.now.micros →
    ∃ (rows : List Row) (bound : Moment),
      (bound.micros : ℤ) = sight.now.micros - 7 * microsPerDay ∧
      site.listing sight panel.service = .ok (rows.map Row.entry) ∧
      (rows = (Entries.ofChanges changes).notBefore bound ↔
        (Entries.ofChanges changes).YearsInOrder bound)
  /-- Every entry that the service lists has its row. The times are those of readings, which the
  file holds if it can be written. -/
  shown : ∀ entries, site.listing sight panel.service = .ok entries →
    ¬Stamps.IsDeep panel.stamps.content → (∃ moment, Moment.ofClock sight.now.clock = .ok moment) →
      ∃ readings, (panel.stamps.writable = true → Stamps.Holds panel.stamps.content readings) ∧
        ShowsFrom sight.now readings 0 entries panel.view.history
  /-- If the service lists nothing, there are no rows. -/
  unlisted : (∀ entries, site.listing sight panel.service ≠ .ok entries) → panel.view.history = []
  /-- If the file is nested too deep, there are no rows either. -/
  broken : Stamps.IsDeep panel.stamps.content → panel.view.history = []

/-- Two panels have the same log, the same file of first sightings and the same list. -/
structure SameList (before after : Panel Archive) : Prop where
  service : after.service = before.service
  stamps : after.stamps = before.stamps
  history : after.view.history = before.view.history
  status : after.view.status = before.view.status

/-- A panel between two events, in front of the log after some changes: no calculation is in flight,
no worker is left, no outcome waits, and the buttons are enabled. -/
structure Idle (changes : List Change) (panel : Panel Archive) : Prop where
  service : panel.service = Change.log changes
  retention : panel.stamps.retention = Stamps.defaultRetention
  rests : panel.calculator.calculating = false
  working : panel.working = []
  queue : panel.queue = []
  enabled : panel.view.enabled = true

/-- After a panel the log is listed again: the next panel lists it, and its file of first sightings
is nested too deep only if the one before was. -/
structure Relists (site : Site) (sight : Sight) (changes : List Change)
    (before after : Panel Archive) : Prop where
  idle : after.Idle changes
  lists : after.ListsLog site sight changes
  flat : ¬Stamps.IsDeep before.stamps.content → ¬Stamps.IsDeep after.stamps.content

variable {site : Site} {sight : Sight} {changes : List Change} {panel before after : Panel Archive}

/-- The same list is a list of the same log. -/
theorem ListsLog.of_sameList (lists : before.ListsLog site sight changes)
    (same : SameList before after) : after.ListsLog site sight changes where
  service := same.service.trans lists.service
  window := same.service ▸ lists.window
  shown := by
    rw [same.service, same.stamps, same.history]
    exact lists.shown
  unlisted := by
    rw [same.service, same.history]
    exact lists.unlisted
  broken := by
    rw [same.stamps, same.history]
    exact lists.broken

/-- Before the last second of the calendar every entry that the service lists has its row, over a
file that is not nested too deep. -/
theorem ListsLog.shown_early (lists : panel.ListsLog site sight changes)
    (flat : ¬Stamps.IsDeep panel.stamps.content)
    (early : sight.now.micros + Calendar.microsPerSecond ≤ Calendar.dayLimit * microsPerDay)
    {entries : List (Text × Text)} (listed : site.listing sight panel.service = .ok entries) :
    ∃ readings, (panel.stamps.writable = true → Stamps.Holds panel.stamps.content readings) ∧
      ShowsFrom sight.now readings 0 entries panel.view.history :=
  lists.shown entries listed flat (Moment.exists_ofClock early)

/-! ## Looking at the log -/

/-- What the service lists of a log. -/
theorem listing_window {archive : Archive} (service : archive = Change.log changes)
    (reached : site.Reached sight.lost) (past : 7 * microsPerDay ≤ sight.now.micros) :
    ∃ (rows : List Row) (bound : Moment),
      (bound.micros : ℤ) = sight.now.micros - 7 * microsPerDay ∧
      site.listing sight archive = .ok (rows.map Row.entry) ∧
      (rows = (Entries.ofChanges changes).notBefore bound ↔
        (Entries.ofChanges changes).YearsInOrder bound) := by
  subst service
  obtain ⟨rows, bound, before, -, local_listing, exact, -⟩ := Change.rows_log changes past
  obtain ⟨outcome, asked, listed⟩ :=
    site.history_eq sight.lost sight.now (Change.log changes)
  refine ⟨rows, bound, before, ?_, exact⟩
  rw [Site.listing, asked]
  exact (listed _).2 ⟨reached, local_listing⟩

/-- What the service lists, the log lists by itself, of seven days that begin in the calendar. -/
theorem listing_local {entries : List (Text × Text)}
    (listed : site.listing sight (Change.log changes) = .ok entries) :
    7 * microsPerDay ≤ sight.now.micros ∧ ∀ name ∈ Stamps.keys entries, name.Unsplit := by
  obtain ⟨outcome, asked, listed_iff⟩ :=
    site.history_eq sight.lost sight.now (Change.log changes)
  rw [Site.listing, asked] at listed
  obtain ⟨-, local_listing⟩ := (listed_iff entries).1 listed
  refine ⟨?_, Change.unsplit_history changes local_listing⟩
  by_contra early
  obtain ⟨e, failed⟩ := Change.history_log_early changes (Nat.lt_of_not_le early)
  rw [failed] at local_listing
  cases local_listing

/-- Looking at the log draws what the service lists of it. -/
theorem drawHistory_eq (service : panel.service = Change.log changes) :
    (drawHistory (site.backend sight.lost) sight.now panel).1 =
      match site.listing sight (Change.log changes) with
      | .error e => (drawNoHistory e panel).1
      | .ok entries => (drawEntries sight.now entries panel).1 := by
  obtain ⟨outcome, asked, -⟩ := site.history_eq sight.lost sight.now (Change.log changes)
  obtain ⟨calculator, archive, stamps, view, working, queue⟩ := panel
  obtain rfl : archive = Change.log changes := service
  rw [Site.listing, drawHistory, asked]
  cases outcome with
  | error e => rfl
  | ok entries => rfl

/-- Another list, with readings kept as long as before, leaves a panel idle. -/
theorem Idle.with_list (idle : panel.Idle changes) {stamps : Stamps.Store}
    (kept : stamps.retention = Stamps.defaultRetention) (history : List HistoryRow)
    (status : Text) :
    Idle changes { panel with stamps, view := { panel.view with history, status } } :=
  ⟨idle.service, kept, idle.rests, idle.working, idle.queue, idle.enabled⟩

/-- After looking at the log without an answer there are no rows. -/
theorem Idle.relists_unlisted (idle : panel.Idle changes) {e : ServiceError}
    (failed : site.listing sight (Change.log changes) = .error e) :
    Relists site sight changes panel (drawNoHistory e panel).1 := by
  obtain ⟨status, drawn⟩ : ∃ status, (drawNoHistory e panel).1 =
      { panel with view := { panel.view with history := [], status } } := by
    unfold drawNoHistory
    split
    · exact ⟨_, rfl⟩
    · exact ⟨_, rfl⟩
  rw [drawn]
  refine ⟨idle.with_list idle.retention _ _,
    ⟨idle.service, listing_window idle.service, ?_, fun _ => rfl, fun _ => rfl⟩, id⟩
  intro entries listed
  rw [idle.service, failed] at listed
  cases listed

/-- After looking at the log with a file that is nested too deep there are no rows. -/
theorem Idle.relists_deep (idle : panel.Idle changes) (deep : Stamps.IsDeep panel.stamps.content)
    (entries : List (Text × Text)) :
    Relists site sight changes panel (drawEntries sight.now entries panel).1 := by
  rw [drawEntries_of_isDeep deep]
  exact ⟨idle.with_list idle.retention _ _,
    ⟨idle.service, listing_window idle.service, fun _ _ flat => absurd deep flat, fun _ => rfl,
      fun _ => rfl⟩, id⟩

/-- After looking at the log with any other file, every entry has its row. -/
theorem Idle.relists_flat (idle : panel.Idle changes) (flat : ¬Stamps.IsDeep panel.stamps.content)
    {entries : List (Text × Text)}
    (listed : site.listing sight (Change.log changes) = .ok entries) :
    Relists site sight changes panel (drawEntries sight.now entries panel).1 := by
  obtain ⟨past, unsplit⟩ := listing_local listed
  have kept : panel.stamps.IsFlat := ⟨idle.retention, flat⟩
  obtain ⟨saved, holds⟩ := kept.saved sight.now unsplit
  rw [drawEntries_of_isFlat kept sight.now unsplit]
  refine ⟨idle.with_list saved.retention _ _,
    ⟨idle.service, listing_window idle.service, ?_, ?_, fun deep => absurd deep saved.flat⟩,
    fun _ => saved.flat⟩
  · intro others listed' _ read
    rw [idle.service, listed] at listed'
    obtain rfl := Except.ok.inj listed'
    refine ⟨Stamps.readingsAfter sight.now entries panel.stamps.content, ?_,
      historyRows_readingsAfter past read _⟩
    intro writable
    refine holds ?_
    rwa [Stamps.Store.save_writable] at writable
  · intro unlisted
    rw [idle.service] at unlisted
    exact absurd listed (unlisted entries)

/-- Looking at the log lists it again. -/
theorem Idle.drawHistory (idle : panel.Idle changes) (site : Site) (sight : Sight) :
    Relists site sight changes panel
      (drawHistory (site.backend sight.lost) sight.now panel).1 := by
  rw [drawHistory_eq idle.service]
  cases listed : site.listing sight (Change.log changes) with
  | error e => exact idle.relists_unlisted listed
  | ok entries =>
    by_cases deep : Stamps.IsDeep panel.stamps.content
    · exact idle.relists_deep deep entries
    · exact idle.relists_flat deep listed

/-- Looking at the log with a file that is nested too deep leaves no rows. -/
theorem drawHistory_of_isDeep (service : panel.service = Change.log changes)
    (deep : Stamps.IsDeep panel.stamps.content) :
    (drawHistory (site.backend sight.lost) sight.now panel).1.view.history = [] := by
  rw [drawHistory_eq service]
  split
  · unfold drawNoHistory
    split
    · rfl
    · rfl
  · rw [drawEntries_of_isDeep deep]

/-! ## Events -/

/-- The log is listed again when that is asked for, when the log is emptied, and when a calculation
is confirmed that goes to the service. -/
def Event.Relists (event : Event) (calculator : Calculator) : Prop :=
  event = .refresh ∨
    (∃ label, event = .click label ∧ Keypad.clicks.lookup label = some .clearHistory) ∨
      event.button? = some ("=" : Text) ∧
        ∃ pending busy, calculator.begin Panel.depth = (.ok (some pending), busy)

/-- A pair that is looked up in a table is in it. -/
theorem mem_of_lookup {α : Type} {table : List (Text × α)} {name : Text} {value : α}
    (found : table.lookup name = some value) : (name, value) ∈ table := by
  obtain ⟨front, back, rfl, -⟩ := List.lookup_eq_some_iff.1 found
  exact List.mem_append_right _ List.mem_cons_self

/-- The button for equals has two names. -/
theorem eq_or_eq_of_equals {name : Text} (equals : Button.ofName? name = some .equals) :
    name = "=" ∨ name = "Enter" := by
  have names : ∀ entry ∈ Button.names, entry.2 = .equals → entry.1 = "=" ∨ entry.1 = "Enter" := by
    decide
  unfold Button.ofName? at equals
  rcases (Option.orElse_eq_some _ _ _).1 equals with digit | ⟨-, others⟩
  · unfold Button.digit? at digit
    split at digit
    · split at digit
      · cases digit
      · cases digit
    · cases digit
  · rcases (Option.orElse_eq_some _ _ _).1 others with operator | ⟨-, found⟩
    · obtain ⟨operator, -, same⟩ := Option.map_eq_some_iff.1 operator
      cases same
    · exact names _ (mem_of_lookup found) rfl

/-- No event presses a button by the name of the key `Enter`. -/
theorem Event.button_ne_enter (event : Event) : event.button? ≠ some ("Enter" : Text) := by
  have keys : ∀ entry ∈ Keypad.namedKeys, entry.2 ≠ "Enter" := by decide
  have clicks : ∀ entry ∈ Keypad.clicks, entry.2 ≠ .press "Enter" := by decide
  have chars : Text.contains "Enter" Keypad.keyChars = false := by decide
  intro pressed
  cases event with
  | refresh => cases pressed
  | key name char =>
    simp only [Event.button?, Keypad.buttonOfKey?] at pressed
    split at pressed
    · rename_i button found
      obtain rfl := Option.some.inj pressed
      exact keys _ (mem_of_lookup found) rfl
    · split at pressed
      · rename_i typed
        obtain rfl := Option.some.inj pressed
        rw [chars, Bool.and_false] at typed
        cases typed
      · cases pressed
  | click label =>
    simp only [Event.button?] at pressed
    split at pressed
    · rename_i button found
      obtain rfl := Option.some.inj pressed
      exact clicks _ (mem_of_lookup found) rfl
    · cases pressed

/-- So an event that presses the button for equals does so by its usual name. -/
theorem Event.eq_of_equals {event : Event} {button : Text} (pressed : event.button? = some button)
    (equals : Button.ofName? button = some .equals) : button = "=" := by
  rcases eq_or_eq_of_equals equals with usual | enter
  · exact usual
  · exact absurd (enter ▸ pressed) event.button_ne_enter

/-- Drawing the display changes the display, its colour and the trail only. -/
theorem drawDisplay_eq (depth : Nat) (panel : Panel Archive) : ∃ display colour trail,
    (drawDisplay depth panel).1 =
      { panel with view := { panel.view with display, colour, trail } } := by
  unfold drawDisplay
  split
  · exact ⟨_, _, _, rfl⟩
  · exact ⟨_, _, _, rfl⟩

/-- Drawing the display keeps the list. -/
theorem Idle.drawDisplay (idle : panel.Idle changes) (depth : Nat) :
    (drawDisplay depth panel).1.Idle changes ∧ SameList panel (drawDisplay depth panel).1 := by
  obtain ⟨display, colour, trail, drawn⟩ := drawDisplay_eq depth panel
  rw [drawn]
  exact ⟨⟨idle.service, idle.retention, idle.rests, idle.working, idle.queue, idle.enabled⟩,
    rfl, rfl, rfl, rfl⟩

/-- Another calculator at rest keeps the list. -/
theorem Idle.with_calculator (idle : panel.Idle changes) {calculator : Calculator}
    (rests : calculator.calculating = false) : Idle changes { panel with calculator } :=
  ⟨idle.service, idle.retention, rests, idle.working, idle.queue, idle.enabled⟩

/-- Confirming what does not go to the service keeps the list. -/
theorem Idle.confirm (idle : panel.Idle changes)
    (quiet : ∀ pending busy, panel.calculator.begin Panel.depth ≠ (.ok (some pending), busy)) :
    (confirm panel).1.Idle changes ∧ SameList panel (confirm panel).1 := by
  unfold Panel.confirm
  rcases Calculator.begin_cases idle.rests Panel.depth with
    ⟨e, failed⟩ | ⟨state, settled⟩ | ⟨pending, -, begun⟩
  · rw [failed]
    exact ⟨idle, rfl, rfl, rfl, rfl⟩
  · rw [settled]
    have still : Idle changes { panel with calculator := { panel.calculator with state } } :=
      idle.with_calculator idle.rests
    obtain ⟨drawn, same⟩ := still.drawDisplay (Panel.depth - 1)
    exact ⟨drawn, same.service, same.stamps, same.history, same.status⟩
  · exact absurd begun (quiet _ _)

/-- Pressing any other button keeps the list. -/
theorem Idle.press (idle : panel.Idle changes) (backend : Backend Archive) (now : Moment)
    {button : Text} (other : Button.ofName? button ≠ some .equals) :
    (press backend now button panel).1.Idle changes ∧
      SameList panel (press backend now button panel).1 := by
  have unnamed : button ≠ "=" := by
    rintro rfl
    exact other (by decide)
  obtain ⟨state, generation, -, ended⟩ :=
    Calculator.press_idle idle.rests (Panel.depth + 1) (backend.compute now) button panel.service
  have service : (panel.calculator.press (Panel.depth + 1) (backend.compute now) button
      panel.service).2.2 = panel.service := by
    unfold Calculator.press
    cases named : Button.ofName? button with
    | none => rfl
    | some known =>
      exact Calculator.pressButton_service fun same => other (named.trans (same ▸ rfl))
  unfold Panel.press
  rw [if_neg unnamed]
  rcases pressed : panel.calculator.press (Panel.depth + 1) (backend.compute now) button
    panel.service with ⟨result, calculator, archive⟩
  rw [pressed] at ended service
  obtain rfl : calculator = _ := ended
  obtain rfl : archive = panel.service := service
  have still : Idle changes { panel with calculator := ⟨state, false, generation⟩ } :=
    idle.with_calculator rfl
  cases result with
  | ok done =>
    obtain ⟨drawn, same⟩ := still.drawDisplay Panel.depth
    exact ⟨drawn, same.service, same.stamps, same.history, same.status⟩
  | error e => exact ⟨still, rfl, rfl, rfl, rfl⟩

/-- Drawing everything lists the log again, if there is a preview or none is due. -/
theorem Idle.drawAll (idle : panel.Idle changes) {depth : Nat}
    (previews : ∀ e, panel.calculator.preview depth ≠ .error e) (other : Nat) (site : Site)
    (sight : Sight) :
    Relists site sight changes panel
      ((Panel.drawDisplay other panel).andThen
        (Panel.drawHistory (site.backend sight.lost) sight.now)).1 := by
  obtain ⟨still, same⟩ := idle.drawDisplay other
  have passes := drawDisplay_passes idle.rests previews other
  rcases drawing : Panel.drawDisplay other panel with ⟨drawn, fault⟩
  rw [drawing] at still same passes
  obtain rfl : fault = none := passes
  obtain ⟨ends, lists, flat⟩ := still.drawHistory site sight
  exact ⟨ends, lists, same.stamps ▸ flat⟩

/-- Emptying the log lists it again. -/
theorem Idle.clearHistory (idle : panel.Idle changes) (site : Site) (sight : Sight) :
    ∃ more, Relists site sight (changes ++ more) panel
      (clearHistory (site.backend sight.lost) sight.now panel).1 := by
  unfold Panel.clearHistory
  rw [idle.service]
  rcases site.clear_log sight.lost sight.now changes with cleared | ⟨message, failed⟩
  · rw [cleared]
    have emptied : Idle (changes ++ [.clear]) { panel with
        service := Change.log (changes ++ [.clear]), stamps := panel.stamps.clear } :=
      ⟨rfl, (panel.stamps.save_retention []).trans idle.retention, idle.rests, idle.working,
        idle.queue, idle.enabled⟩
    obtain ⟨ends, lists, flat⟩ := emptied.drawHistory site sight
    exact ⟨[.clear], ends, lists, fun before => flat (Stamps.not_isDeep_clear before)⟩
  · rw [failed]
    refine ⟨[], ?_⟩
    rw [List.append_nil]
    have same : { panel with service := Change.log changes } = panel := by rw [← idle.service]
    show Relists site sight changes panel
      (Panel.drawHistory _ sight.now { panel with service := Change.log changes }).1
    rw [same]
    exact idle.drawHistory site sight

/-- A calculation that goes to the service lists the log again when its outcome is delivered. -/
theorem Idle.settle_begun (idle : panel.Idle changes) (site : Site) (sight : Sight) {event : Event}
    {pending : PendingCalculation} {busy : Calculator}
    (handled : handle (site.backend sight.lost) sight.now event panel = Panel.confirm panel)
    (begun : panel.calculator.begin Panel.depth = (.ok (some pending), busy)) :
    ∃ more, Relists site sight (changes ++ more) panel
      (settle (site.backend sight.lost) sight.now event panel).1 := by
  obtain ⟨more, computed⟩ := site.compute_log sight.lost sight.now pending.operator pending.x
    pending.y changes
  obtain ⟨state, concluded⟩ := (site.steady sight.lost).concludes sight.now pending panel.service
  obtain ⟨-, -, rfl⟩ := Calculator.begin_pending begun
  obtain ⟨view, started⟩ := confirm_begun begun
  rw [idle.working] at started
  rw [settle_working (handled.trans started) rfl idle.queue]
  have current : pending.token =
      (Calculator.mk panel.calculator.state true pending.token).generation := rfl
  have finished := Calculator.finish_concluded current concluded
  simp only [deliver, finished]
  refine ⟨more, ?_⟩
  have service : (Calculator.callService ((site.backend sight.lost).compute sight.now) pending
      panel.service).2 = Change.log (changes ++ more) := by
    rw [idle.service]
    exact computed
  have delivered : Idle (changes ++ more) { panel with
      calculator := ⟨state, false, pending.token⟩
      service := (Calculator.callService ((site.backend sight.lost).compute sight.now) pending
        panel.service).2
      view := { view with enabled := true }, working := [], queue := [] } :=
    ⟨service, idle.retention, rfl, rfl, rfl, rfl⟩
  have previews (e : CalculationError) :
      (Calculator.mk state false pending.token).preview Panel.depth ≠ .error e := by
    intro failed
    rw [Calculator.preview_concluded concluded] at failed
    cases failed
  obtain ⟨ends, lists, flat⟩ := delivered.drawAll previews (Panel.depth - 1) site sight
  exact ⟨ends, lists, flat⟩

/-! ## Turns -/

/-- An event by which the log is listed again leaves a panel that lists it. -/
theorem Idle.settle_relists (idle : panel.Idle changes) (site : Site) {turn : Turn}
    (relists : turn.event.Relists panel.calculator) :
    ∃ more, Relists site turn.sight (changes ++ more) panel (turn.settle site panel) := by
  obtain ⟨event, now, lost⟩ := turn
  rcases relists with rfl | ⟨label, rfl, clears⟩ | ⟨confirms, pending, busy, begun⟩
  · have drawn : Relists site ⟨now, lost⟩ changes panel
        (handle (site.backend lost) now .refresh panel).1 := idle.drawHistory site ⟨now, lost⟩
    refine ⟨[], ?_⟩
    rw [List.append_nil, Turn.settle, settle_at_once drawn.idle.working drawn.idle.queue]
    exact drawn
  · obtain ⟨more, drawn⟩ := idle.clearHistory site ⟨now, lost⟩
    have handled : handle (site.backend lost) now (.click label) panel =
        Panel.clearHistory (site.backend lost) now panel := by
      simp only [handle, idle.enabled, ↓reduceIte, clears]
    rw [← handled] at drawn
    refine ⟨more, ?_⟩
    rw [Turn.settle, settle_at_once drawn.idle.working drawn.idle.queue]
    exact drawn
  · have handled : handle (site.backend lost) now event panel = Panel.confirm panel := by
      rw [handle_button confirms idle.enabled now, Panel.press, if_pos rfl]
    exact idle.settle_begun site ⟨now, lost⟩ handled begun

/-- Any other event leaves the log, the file and the list as they are. -/
theorem Idle.settle_keeps (idle : panel.Idle changes) (site : Site) {turn : Turn}
    (quiet : ¬turn.event.Relists panel.calculator) :
    (turn.settle site panel).Idle changes ∧ SameList panel (turn.settle site panel) := by
  obtain ⟨event, now, lost⟩ := turn
  have handled : (handle (site.backend lost) now event panel).1.Idle changes ∧
      SameList panel (handle (site.backend lost) now event panel).1 := by
    cases pressed : event.button? with
    | some button =>
      rw [handle_button pressed idle.enabled now]
      by_cases equals : Button.ofName? button = some .equals
      · obtain rfl := Event.eq_of_equals pressed equals
        rw [Panel.press, if_pos rfl]
        exact idle.confirm fun pending busy begun =>
          quiet (.inr (.inr ⟨pressed, pending, busy, begun⟩))
      · exact idle.press _ now equals
    | none =>
      have nothing : panel.Idle changes ∧ SameList panel panel := ⟨idle, rfl, rfl, rfl, rfl⟩
      cases event with
      | refresh => exact absurd (.inl rfl) quiet
      | key name char =>
        have unknown : Keypad.buttonOfKey? name char = none := pressed
        simp only [handle, unknown]
        exact nothing
      | click label =>
        simp only [handle, idle.enabled, ↓reduceIte]
        split
        · rename_i found
          simp only [Event.button?, found] at pressed
          cases pressed
        · rename_i found
          exact absurd (.inr (.inl ⟨label, rfl, found⟩)) quiet
        · exact nothing
  rw [Turn.settle, settle_at_once handled.1.working handled.1.queue]
  exact handled

/-- A panel that lists the log goes on listing it over turns, as of one of them or as before. -/
theorem Idle.run (idle : panel.Idle changes) (lists : panel.ListsLog site sight changes)
    (turns : List Turn) : ∃ more, ∃ last ∈ sight :: turns.map Turn.sight,
      Relists site last (changes ++ more) panel (turns.foldl (Turn.settle site) panel) := by
  induction turns generalizing panel sight changes with
  | nil =>
    refine ⟨[], sight, List.mem_cons_self, ?_⟩
    rw [List.append_nil]
    exact ⟨idle, lists, id⟩
  | cons turn turns ih =>
    by_cases relists : turn.event.Relists panel.calculator
    · obtain ⟨first, next⟩ := idle.settle_relists site relists
      obtain ⟨more, last, member, ends⟩ := ih next.idle next.lists
      refine ⟨first ++ more, last, List.mem_cons_of_mem _ member, ?_⟩
      rw [← List.append_assoc]
      exact ⟨ends.idle, ends.lists, fun flat => ends.flat (next.flat flat)⟩
    · obtain ⟨still, same⟩ := idle.settle_keeps site relists
      obtain ⟨more, last, member, ends⟩ := ih still (lists.of_sameList same)
      refine ⟨more, last, ?_, ends.idle, ends.lists, fun flat => ends.flat (same.stamps ▸ flat)⟩
      exact (List.mem_cons.1 member).elim (fun before => before ▸ List.mem_cons_self)
        fun later => List.mem_cons_of_mem _ (List.mem_cons_of_mem _ later)

/-- A panel that has just been opened lists the log. -/
theorem relists_opened (site : Site) (sight : Sight) (stamps : Stamps.Store)
    (kept : stamps.retention = Stamps.defaultRetention) (changes : List Change) :
    Relists site sight changes ⟨.new, Change.log changes, stamps, .blank, [], []⟩
      (opened (site.backend sight.lost) sight.now stamps (Change.log changes)).1 := by
  have blank : Idle changes ⟨.new, Change.log changes, stamps, .blank, [], []⟩ :=
    ⟨rfl, kept, rfl, rfl, rfl, rfl⟩
  have previews : ∀ e, Calculator.new.preview Panel.depth ≠ .error e := nofun
  exact blank.drawAll previews Panel.depth site sight

/-- Over a file that is nested too deep a panel that has just been opened has no rows. -/
theorem opened_of_isDeep {stamps : Stamps.Store} (deep : Stamps.IsDeep stamps.content) (site : Site)
    (sight : Sight) (changes : List Change) :
    (opened (site.backend sight.lost) sight.now stamps (Change.log changes)).1.view.history =
      [] := by
  let blank : Panel Archive := ⟨.new, Change.log changes, stamps, .blank, [], []⟩
  have previews : ∀ e, blank.calculator.preview Panel.depth ≠ .error e := nofun
  have passes : (drawDisplay Panel.depth blank).2 = none := drawDisplay_passes rfl previews _
  obtain ⟨display, colour, trail, shown⟩ := drawDisplay_eq Panel.depth blank
  show ((drawDisplay Panel.depth blank).andThen (Panel.drawHistory (site.backend sight.lost)
    sight.now)).1.view.history = []
  rcases drawing : drawDisplay Panel.depth blank with ⟨drawn, fault⟩
  rw [drawing] at passes shown
  obtain rfl : fault = none := passes
  obtain rfl : drawn = _ := shown
  exact drawHistory_of_isDeep rfl deep

end Panel

namespace Turn

/-- A morning in the year 2024 on which no call gets lost. -/
def quietMorning : Sight := ⟨Change.nextMorning, fun _ => none⟩

end Turn

end Reckoner
