import Reckoner.Calculator.Button
import Reckoner.Panel.Keypad
import Reckoner.Stamps
import Reckoner.Web.Client

/-!
# The panel

The calculator as it is seen: a display, a trail above it, buttons that can be disabled, and the
logged calculations of the last days with the time at which each was first seen. A confirmed
calculation is computed by a worker beside the panel; what comes of it waits in a queue until the
panel turns to it. The buttons are disabled when a worker starts and enabled when the panel has
turned to an outcome. What happens to a panel is a sequence of occurrences: something the user
does, a worker that gets done, or the panel turning to the queue. A step that breaks off leaves the
panel as far as it got.
-/

namespace Reckoner

/-- A service as the panel uses it. -/
structure Backend (σ : Type) where
  compute : Calendar.Moment → Provider σ
  /-- Lists the expressions and results of the last days. -/
  history : Calendar.Moment → Json → σ → Except ServiceError (List (Text × Text)) × σ
  clear : Calendar.Moment → σ → Except ServiceError Unit × σ

namespace Backend

/-- The local service over a log. -/
def onLog : Backend Archive where
  compute := LocalService.provider
  history now days archive := (LocalService.history now days archive, archive)
  clear _ archive := LocalService.clear archive

/-- The server behind a client, some of whose calls get lost on the way. -/
def overNetwork (base : Text) (lost : Web.Call → Option Text) : Backend Archive where
  compute now := Web.Client.provider ((Web.serverCarrier now).losing lost) base
  history now days archive :=
    let (listed, archive) :=
      Web.Client.history ((Web.serverCarrier now).losing lost) base days archive
    (List.map (fun entry => (entry.1.plain, entry.2.plain)) <$> listed, archive)
  clear now archive := Web.Client.clear ((Web.serverCarrier now).losing lost) base archive

/-- The server behind a client, without any loss. -/
def onServer (base : Text) : Backend Archive := overNetwork base fun _ => none

end Backend

namespace Panel

/-- A row of the listed log: when it was first seen, what was calculated, and the result. -/
structure HistoryRow where
  time : Text
  expression : Text
  result : Text
  /-- Whether the row stands at an even place, counted from zero. -/
  isEven : Bool
  deriving DecidableEq, Repr

/-- What is seen. -/
structure View where
  display : Text
  colour : Text
  trail : Text
  enabled : Bool
  history : List HistoryRow
  status : Text
  deriving DecidableEq, Repr

/-- The view before anything has been drawn. -/
def View.blank : View := ⟨"0", Theme.confirmed, [], true, [], []⟩

/-- An outcome that waits for the panel to turn to it. -/
structure Delivery where
  pending : PendingCalculation
  outcome : Outcome

/-- Why something that happens to a panel breaks off. -/
inductive Fault where
  | step (error : StepError)
  /-- The service fails with an error that it does not announce. -/
  | service (error : ServiceError)
  | stamps (error : Stamps.RecordError)
  | clock (error : Calendar.ClockError)

/-- The wording of a fault. -/
def Fault.message : Fault → Text
  | .step error => error.message
  | .service error => error.message
  | .stamps error => error.message
  | .clock error => error.message

end Panel

/-- The panel, the calculator and the service behind it. -/
structure Panel (σ : Type) where
  calculator : Calculator
  service : σ
  stamps : Stamps.Store
  view : Panel.View
  /-- The calculations that workers are at, oldest first. -/
  working : List PendingCalculation
  /-- The outcomes that wait, oldest first. -/
  queue : List Panel.Delivery

namespace Panel

/-- The text of the window's title. -/
def title : Text := appName

/-- The width and height of the window. -/
def size : Nat × Nat := (720, 480)

/-- The size of the window as a text. -/
def geometry : Text := Text.ofNat size.1 ++ "x" ++ Text.ofNat size.2

/-- The number of buttons. -/
def buttonCount : Nat := Keypad.clicks.length

/-- The days that the listed log goes back. -/
def historyDays : Json := .int 7

/-- The number of buttons that can be clicked. -/
def View.enabledCount (view : View) : Nat := if view.enabled then buttonCount else 0

/-- The depth for what is shown after a press and for what is confirmed. The window's loop and the
handling of an event in it take six calls. -/
def depth : Nat := Calculator.scriptDepth - 6

/-- What the display shows, and in which colour. -/
def shownDisplay (depth : Nat) (calculator : Calculator) : Except CalculationError (Text × Text) :=
  if calculator.calculating then .ok ("…", Theme.preview)
  else
    match calculator.preview depth with
    | .error e => .error e
    | .ok preview =>
      if calculator.state.isFailed then .ok (calculator.state.display, Theme.error)
      else
        match preview with
        | some text => .ok (text, Theme.preview)
        | none => .ok (calculator.state.display, Theme.confirmed)

/-- The trail, or a space if there is none. -/
def shownTrail (calculator : Calculator) : Text :=
  if calculator.state.trail.isEmpty then " " else calculator.state.trail

/-- A panel after a step, and the fault that broke the step off, if one did. -/
abbrev Step (σ : Type) := Panel σ × Option Fault

variable {σ : Type}

/-- Draws the trail and the display. A preview that fails leaves the display as it was. -/
def drawDisplay (depth : Nat) (panel : Panel σ) : Step σ :=
  let view := { panel.view with trail := shownTrail panel.calculator }
  match shownDisplay depth panel.calculator with
  | .ok (display, colour) => ({ panel with view := { view with display, colour } }, none)
  | .error e => ({ panel with view }, some (.step (.calculation e)))

/-- Does one thing after another, unless the first breaks off. -/
def Step.andThen (step : Step σ) (next : Panel σ → Step σ) : Step σ :=
  match step with
  | (panel, none) => next panel
  | broken => broken

/-- The time at which an entry was first seen; a reading of zero shows none. -/
def firstSeen (readings : Fields) (entry : Text × Text) : Except Calendar.ClockError Text :=
  match (Fields.get? readings (Stamps.entryKey entry.1 entry.2)).bind Number.ofJson? with
  | none => .ok []
  | some reading => if reading.isZero then .ok [] else (·.short) <$> reading.moment

/-- The rows of listed entries, from a place on. They end before the first entry whose time
cannot be told. -/
def historyRows (readings : Fields) (isEven : Bool) :
    List (Text × Text) → List HistoryRow × Option Calendar.ClockError
  | [] => ([], none)
  | entry :: entries =>
    match firstSeen readings entry with
    | .error e => ([], some e)
    | .ok time =>
      let (rows, fault) := historyRows readings (!isEven) entries
      (⟨time, entry.1, "= " ++ entry.2, isEven⟩ :: rows, fault)

/-- Shows an empty list because the service failed. Only an announced error has a status. -/
def drawNoHistory (error : ServiceError) (panel : Panel σ) : Step σ :=
  if error.isAnnounced then
    ({ panel with view := { panel.view with
      history := [], status := "History syncs when online" } }, none)
  else ({ panel with view := { panel.view with history := [] } }, some (.service error))

/-- Records entries as seen and shows them. -/
def drawEntries (now : Calendar.Moment) (entries : List (Text × Text)) (panel : Panel σ) :
    Step σ :=
  match panel.stamps.record entries (.double now.clock) with
  | (.error e, stamps) =>
    ({ panel with stamps, view := { panel.view with history := [] } }, some (.stamps e))
  | (.ok readings, stamps) =>
    let status : Text := if entries.isEmpty then "No calculations yet" else []
    let (history, fault) := historyRows readings true entries
    ({ panel with stamps, view := { panel.view with history, status } }, fault.map .clock)

/-- Lists the log of the last days again, and records the entries as seen. -/
def drawHistory (backend : Backend σ) (now : Calendar.Moment) (panel : Panel σ) : Step σ :=
  match backend.history now historyDays panel.service with
  | (.error e, service) => drawNoHistory e { panel with service }
  | (.ok entries, service) => drawEntries now entries { panel with service }

/-- A panel that has just been opened, over a file of first sightings. -/
def opened (backend : Backend σ) (now : Calendar.Moment) (stamps : Stamps.Store) (service : σ) :
    Step σ :=
  let panel : Panel σ := ⟨.new, service, stamps, .blank, [], []⟩
  (drawDisplay depth panel).andThen (drawHistory backend now)

/-- Confirms a calculation. If it needs the service, the buttons are disabled and a worker starts.
What comes of it is drawn a call deeper than what comes of a press. -/
def confirm (panel : Panel σ) : Step σ :=
  match panel.calculator.begin depth with
  | (.error e, calculator) => ({ panel with calculator }, some (.step (.calculation e)))
  | (.ok none, calculator) => drawDisplay (depth - 1) { panel with calculator }
  | (.ok (some pending), calculator) =>
    let view := { panel.view with enabled := false }
    drawDisplay (depth - 1)
      { panel with calculator, view, working := panel.working ++ [pending] }

/-- Presses the button of a name. Pressing is a call less deep than confirming, which the panel
does by itself. -/
def press (backend : Backend σ) (now : Calendar.Moment) (button : Text) (panel : Panel σ) :
    Step σ :=
  if button = ("=" : Text) then confirm panel
  else
    match panel.calculator.press (depth + 1) (backend.compute now) button panel.service with
    | (.ok (), calculator, service) => drawDisplay depth { panel with calculator, service }
    | (.error e, calculator, service) =>
      ({ panel with calculator, service }, some (.step e))

/-- Empties the log and, if that succeeds, forgets when its entries were seen. An announced error
leaves everything as it is. -/
def clearHistory (backend : Backend σ) (now : Calendar.Moment) (panel : Panel σ) : Step σ :=
  match backend.clear now panel.service with
  | (.ok (), service) =>
    drawHistory backend now { panel with service, stamps := panel.stamps.clear }
  | (.error e, service) =>
    if e.isAnnounced then drawHistory backend now { panel with service }
    else ({ panel with service }, some (.service e))

/-- Delivers an outcome: it reaches the calculator, the buttons are enabled, and everything is
drawn again. -/
def deliver (backend : Backend σ) (now : Calendar.Moment) (delivery : Delivery)
    (panel : Panel σ) : Step σ :=
  match panel.calculator.finish delivery.pending delivery.outcome with
  | (.error e, calculator) => ({ panel with calculator }, some (.step e))
  | (.ok (), calculator) =>
    let view := { panel.view with enabled := true }
    (drawDisplay (depth - 1) { panel with calculator, view }).andThen (drawHistory backend now)

/-- What a user does. -/
inductive Event where
  | click (label : Text)
  | key (name char : Text)
  | refresh
  deriving DecidableEq, Repr

/-- Handles an event. A button that is disabled cannot be clicked. -/
def handle (backend : Backend σ) (now : Calendar.Moment) (event : Event) (panel : Panel σ) :
    Step σ :=
  match event with
  | .refresh => drawHistory backend now panel
  | .key name char =>
    match Keypad.buttonOfKey? name char with
    | some button => press backend now button panel
    | none => (panel, none)
  | .click label =>
    if panel.view.enabled then
      match Keypad.clicks.lookup label with
      | some (.press button) => press backend now button panel
      | some .clearHistory => clearHistory backend now panel
      | none => (panel, none)
    else (panel, none)

/-- Turns to the first outcome in the queue. -/
def deliverNext (backend : Backend σ) (now : Calendar.Moment) (panel : Panel σ) : Step σ :=
  match panel.queue with
  | [] => (panel, none)
  | delivery :: queue => deliver backend now delivery { panel with queue }

/-- Lets the worker at a place get done: the service computes, and the outcome joins the queue. -/
def work (backend : Backend σ) (now : Calendar.Moment) (place : Nat) (panel : Panel σ) :
    Panel σ :=
  match panel.working[place]? with
  | none => panel
  | some pending =>
    let (answer, service) := Calculator.callService (backend.compute now) pending panel.service
    { panel with
      service
      working := panel.working.eraseIdx place
      queue := panel.queue ++ [⟨pending, Calculator.outcomeOf answer⟩] }

/-- What happens to a panel. -/
inductive Occurrence where
  | user (event : Event)
  | workerDone (place : Nat)
  | turnToQueue
  deriving DecidableEq, Repr

/-- Lets something happen. -/
def occur (backend : Backend σ) (now : Calendar.Moment) (occurrence : Occurrence)
    (panel : Panel σ) : Step σ :=
  match occurrence with
  | .user event => handle backend now event panel
  | .workerDone place => (work backend now place panel, none)
  | .turnToQueue => deliverNext backend now panel

/-- Lets as many workers get done, oldest first. -/
def workAll (backend : Backend σ) (now : Calendar.Moment) : Nat → Panel σ → Panel σ
  | 0, panel => panel
  | count + 1, panel => workAll backend now count (work backend now 0 panel)

/-- Waits for all workers. -/
def awaitWorkers (backend : Backend σ) (now : Calendar.Moment) (panel : Panel σ) : Panel σ :=
  workAll backend now panel.working.length panel

/-- Turns to as many outcomes. -/
def deliverAll (backend : Backend σ) (now : Calendar.Moment) : Nat → Panel σ → Step σ
  | 0, panel => (panel, none)
  | count + 1, panel => (deliverNext backend now panel).andThen (deliverAll backend now count)

/-- Turns to everything in the queue. An outcome that cannot be delivered is gone, and those after
it wait on. -/
def drainQueue (backend : Backend σ) (now : Calendar.Moment) (panel : Panel σ) : Step σ :=
  deliverAll backend now panel.queue.length panel

/-- Handles an event and waits for the workers; their outcomes stay in the queue. -/
def handleAwaiting (backend : Backend σ) (now : Calendar.Moment) (event : Event)
    (panel : Panel σ) : Step σ :=
  (handle backend now event panel).andThen fun panel => (awaitWorkers backend now panel, none)

/-- Handles an event, waits for the workers and turns to everything in the queue. -/
def settle (backend : Backend σ) (now : Calendar.Moment) (event : Event) (panel : Panel σ) :
    Step σ :=
  (handleAwaiting backend now event panel).andThen (drainQueue backend now)

end Panel

end Reckoner
