import Mathlib.Data.List.Infix
import Reckoner.Proofs.Calculator.Failure
import Reckoner.Proofs.Panel.Backend

/-!
# Panels that settle

A panel hands every calculation to a worker and disables its buttons meanwhile. If each event is
settled before the next one, so that no worker is left and no outcome waits, then none of this is
seen: the panel's calculator is the one on which the buttons of the events are pressed one after
another, with a service that answers at once. The panel shows what that calculator shows, and all
buttons are enabled. The rest of a panel, the listed log and the file of first sightings, has no
part in it, even where one of them breaks an event off.
-/

namespace Reckoner

/-! ## Previews and confirming -/

namespace Calculator

variable {calculator : Calculator} {depth : Nat}

/-- A calculation that cannot begin has no preview, with whatever depth. -/
theorem preview_error_of_begin (rests : calculator.calculating = false) {e : CalculationError}
    {after : Calculator} (failed : calculator.begin depth = (.error e, after)) (other : Nat) :
    ∃ e, calculator.preview other = .error e := by
  -- No service is asked before a calculation begins, so any will do.
  rcases equals_cases rests (depth + 1) ⟨0, by decide⟩ .new with ⟨vanishing, -⟩ | ⟨-, passed, -⟩
  · exact preview_error_iff.2 (.inl vanishing)
  · rw [equals, Nat.add_sub_cancel, failed] at passed
    cases passed

/-- Whether a preview breaks off does not depend on the depth. -/
theorem previews_depth (previews : ∀ e, calculator.preview depth ≠ .error e) (other : Nat) :
    ∀ e, calculator.preview other ≠ .error e := by
  intro e failed
  obtain ⟨e, broken⟩ := preview_error_iff.2 (preview_error_iff.1 ⟨e, failed⟩)
  exact previews e broken

/-- A preview depends on the depth only if an expression is typed. -/
theorem preview_depth
    (no_expression : ∀ expression display, calculator.state ≠ .composing expression display)
    (depth other : Nat) : calculator.preview depth = calculator.preview other := by
  unfold preview
  split
  · rename_i expression display state
    exact absurd state (no_expression expression display)
  · rfl
  · rfl

/-- An expression is confirmed with a result or with an error. -/
theorem confirmExpression_no_expression (typed expression display : Text) :
    confirmExpression depth typed ≠ .composing expression display := by
  unfold confirmExpression
  split
  · nofun
  · split
    · nofun
    · nofun

/-- No expression is left when beginning is done at rest. -/
theorem begin_no_expression (rests : calculator.calculating = false) (depth : Nat)
    (expression display : Text) :
    (calculator.begin depth).2.state ≠ .composing expression display := by
  unfold begin
  rw [if_neg (by simp [rests])]
  split
  · exact confirmExpression_no_expression _ expression display
  · rename_i shown chosen state
    have entering : calculator.state ≠ .composing expression display := by
      rw [state]
      nofun
    split
    · split
      · nofun
      · split
        · exact entering
        · exact entering
    · exact entering
  · rename_i others _
    exact others expression display

/-- If there is a preview or none is due, confirming at rest is settled at once, or hands a
calculation to the service. -/
theorem begin_of_preview (rests : calculator.calculating = false)
    (previews : ∀ e, calculator.preview depth ≠ .error e) :
    (∃ state, calculator.begin depth = (.ok none, ⟨state, false, calculator.generation⟩)) ∨
      ∃ pending, pending.token = calculator.generation + 1 ∧
        calculator.begin depth = (.ok (some pending), ⟨calculator.state, true, pending.token⟩) := by
  rcases begin_cases rests depth with ⟨e, failed⟩ | ⟨state, settled⟩ | begun
  · obtain ⟨e, unpreviewed⟩ := preview_error_of_begin rests failed depth
    exact absurd unpreviewed (previews e)
  · exact .inl ⟨state, by rw [settled, rests]⟩
  · exact .inr begun

/-- The state that a calculation leads to has no preview. -/
theorem preview_concluded {pending : PendingCalculation} {outcome : Outcome} {state : State}
    (concluded : conclude pending outcome = .ok state) (depth generation : Nat) :
    (mk state false generation).preview depth = .ok none := by
  unfold conclude at concluded
  split at concluded
  · rw [← Except.ok.inj concluded]
    rfl
  · rw [← Except.ok.inj concluded]
    rfl
  · rename_i answer _
    cases written : resultText answer with
    | error e =>
      rw [written] at concluded
      cases concluded
    | ok text =>
      rw [written] at concluded
      rw [← Except.ok.inj concluded]
      rfl

end Calculator

namespace Backend.Steady

variable {backend : Backend Archive} {left right : Archive} {depth : Nat}

/-- Whatever comes of a calculation, it is concluded. -/
theorem concludes (steady : backend.Steady) (now : Calendar.Moment) (pending : PendingCalculation)
    (archive : Archive) : ∃ state, Calculator.conclude pending (Calculator.outcomeOf
      (Calculator.callService (backend.compute now) pending archive).1) = .ok state := by
  unfold Calculator.conclude
  split
  · exact ⟨_, rfl⟩
  · exact ⟨_, rfl⟩
  · rename_i answer _ answered
    obtain ⟨text, written⟩ := steady.written now _ _ _ archive answer answered
    rw [written]
    exact ⟨_, rfl⟩

/-- Confirming comes to the same in front of logs that are akin, which stay so. -/
theorem equals_akin (steady : backend.Steady) (now : Calendar.Moment) (akin : left.Akin right)
    (depth : Nat) (calculator : Calculator) :
    (calculator.equals depth (backend.compute now) left).1 =
        (calculator.equals depth (backend.compute now) right).1 ∧
      (calculator.equals depth (backend.compute now) left).2.1 =
        (calculator.equals depth (backend.compute now) right).2.1 ∧
      (calculator.equals depth (backend.compute now) left).2.2.Akin
        (calculator.equals depth (backend.compute now) right).2.2 := by
  unfold Calculator.equals
  split
  · exact ⟨rfl, rfl, akin⟩
  · exact ⟨rfl, rfl, akin⟩
  · rename_i pending after begun
    have outcome := steady.outcome now pending.operator pending.x pending.y akin
    have computed (archive : Archive) :=
      steady.computed now pending.operator pending.x pending.y archive
    simp only [Calculator.callService, outcome]
    exact ⟨trivial, trivial, (computed left).trans (akin.trans (computed right).symm)⟩

/-- A press comes to the same in front of logs that are akin, which stay so. -/
theorem press_akin (steady : backend.Steady) (now : Calendar.Moment) (akin : left.Akin right)
    (depth : Nat) (name : Text) (calculator : Calculator) :
    (calculator.press depth (backend.compute now) name left).1 =
        (calculator.press depth (backend.compute now) name right).1 ∧
      (calculator.press depth (backend.compute now) name left).2.1 =
        (calculator.press depth (backend.compute now) name right).2.1 ∧
      (calculator.press depth (backend.compute now) name left).2.2.Akin
        (calculator.press depth (backend.compute now) name right).2.2 := by
  unfold Calculator.press
  cases Button.ofName? name with
  | none => exact ⟨rfl, rfl, akin⟩
  | some button =>
    cases button with
    | equals => exact steady.equals_akin now akin (depth - 1) calculator
    | digit | point | operator | openParen | closeParen | power | percent | square | root |
      reciprocal | negate | erase | clear => exact ⟨rfl, rfl, akin⟩

/-- Confirming at rest goes through if there is a preview or none is due. -/
theorem equals_passes (steady : backend.Steady) (now : Calendar.Moment) {calculator : Calculator}
    (rests : calculator.calculating = false) (previews : ∀ e, calculator.preview depth ≠ .error e)
    (archive : Archive) (other : Nat) :
    (calculator.equals other (backend.compute now) archive).1 = .ok () := by
  have anywhere := Calculator.previews_depth previews (other - 1)
  rcases Calculator.begin_of_preview rests anywhere with ⟨state, settled⟩ | ⟨pending, -, begun⟩
  · rw [Calculator.equals, settled]
  · obtain ⟨state, concluded⟩ := steady.concludes now pending archive
    rw [Calculator.equals_concludes begun concluded]

/-- A press at rest goes through if there is a preview or none is due. -/
theorem press_passes (steady : backend.Steady) (now : Calendar.Moment) (name : Text)
    {calculator : Calculator} (rests : calculator.calculating = false)
    (previews : ∀ e, calculator.preview depth ≠ .error e) (archive : Archive) (other : Nat) :
    (calculator.press other (backend.compute now) name archive).1 = .ok () := by
  unfold Calculator.press
  cases Button.ofName? name with
  | none => rfl
  | some button =>
    cases button with
    | equals => exact steady.equals_passes now rests previews archive (other - 1)
    | digit | point | operator | openParen | closeParen | power | percent | square | root |
      reciprocal | negate | erase | clear => rfl

end Backend.Steady

namespace Panel

/-! ## Drawing -/

variable {backend : Backend Archive} {panel before after : Panel Archive}
  {machine : Calculator × Archive} {depth : Nat}

/-- Two panels have the same calculator and nothing that goes on apart from it, and look the same
but for the listed log. -/
structure SameFace (before after : Panel Archive) : Prop where
  calculator : after.calculator = before.calculator
  service : after.service.Akin before.service
  working : after.working = before.working
  queue : after.queue = before.queue
  enabled : after.view.enabled = before.view.enabled
  display : after.view.display = before.view.display
  trail : after.view.trail = before.view.trail

/-- The listed log, its status and the file of first sightings have no part in the face. -/
theorem SameFace.listing (panel : Panel Archive) (stamps : Stamps.Store)
    (history : List HistoryRow) (status : Text) :
    SameFace panel { panel with stamps, view := { panel.view with history, status } } :=
  ⟨rfl, .refl _, rfl, rfl, rfl, rfl, rfl⟩

/-- Showing that there is no log to list leaves the face. -/
theorem drawNoHistory_face (e : ServiceError) (panel : Panel Archive) :
    SameFace panel (drawNoHistory e panel).1 := by
  unfold drawNoHistory
  split
  · exact .listing panel _ _ _
  · exact .listing panel _ _ _

/-- Showing entries leaves the face. -/
theorem drawEntries_face (now : Calendar.Moment) (entries : List (Text × Text))
    (panel : Panel Archive) : SameFace panel (drawEntries now entries panel).1 := by
  unfold drawEntries
  split
  · exact .listing panel _ _ _
  · exact .listing panel _ _ _

/-- Another service that is akin leaves the face. -/
theorem SameFace.of_service {service : Archive} (akin : service.Akin before.service)
    (same : SameFace { before with service } after) : SameFace before after :=
  ⟨same.calculator, same.service.trans akin, same.working, same.queue, same.enabled, same.display,
    same.trail⟩

/-- Listing the log leaves the face. -/
theorem drawHistory_face (steady : backend.Steady) (now : Calendar.Moment)
    (panel : Panel Archive) : SameFace panel (drawHistory backend now panel).1 := by
  have listed := steady.listed now historyDays panel.service
  unfold drawHistory
  split
  · rename_i failed
    rw [failed] at listed
    exact .of_service listed (drawNoHistory_face _ _)
  · rename_i passed
    rw [passed] at listed
    exact .of_service listed (drawEntries_face _ _ _)

/-- Emptying the log leaves the face. -/
theorem clearHistory_face (steady : backend.Steady) (now : Calendar.Moment)
    (panel : Panel Archive) : SameFace panel (clearHistory backend now panel).1 := by
  have cleared := steady.cleared now panel.service
  unfold clearHistory
  split
  · rename_i service passed
    rw [passed] at cleared
    have drawn := drawHistory_face steady now
      { panel with service, stamps := panel.stamps.clear }
    exact ⟨drawn.calculator, drawn.service.trans cleared, drawn.working, drawn.queue,
      drawn.enabled, drawn.display, drawn.trail⟩
  · rename_i e service failed
    rw [failed] at cleared
    split
    · exact .of_service cleared (drawHistory_face steady now _)
    · exact ⟨rfl, cleared, rfl, rfl, rfl, rfl, rfl⟩

/-- At rest the display shows what the calculator shows. -/
theorem shownDisplay_rests {calculator : Calculator} (rests : calculator.calculating = false)
    (previews : ∀ e, calculator.preview depth ≠ .error e) :
    ∃ text colour, calculator.shown (depth + 1) = .ok text ∧
      shownDisplay depth calculator = .ok (text, colour) := by
  unfold shownDisplay Calculator.shown
  rw [if_neg (by simp [rests]), Nat.add_sub_cancel]
  cases previewed : calculator.preview depth with
  | error e => exact absurd previewed (previews e)
  | ok preview =>
    cases failed : calculator.state.isFailed with
    | true =>
      -- Where an error is shown there is no preview.
      have none : preview = none := by
        cases state : calculator.state with
        | failed trail =>
          simp only [Calculator.preview, state] at previewed
          exact (Except.ok.inj previewed).symm
        | entering | awaiting | composing | calculated =>
          rw [state] at failed
          cases failed
      subst none
      exact ⟨_, _, rfl, rfl⟩
    | false =>
      cases preview with
      | none => exact ⟨_, _, rfl, rfl⟩
      | some text => exact ⟨_, _, rfl, rfl⟩

/-- What the panel shows between two events: the calculator at rest, with all buttons enabled and
nothing left to be done. Its log is akin to that of another machine. -/
structure Settled (panel : Panel Archive) (machine : Calculator × Archive) : Prop where
  calculator : panel.calculator = machine.1
  akin : panel.service.Akin machine.2
  rests : machine.1.calculating = false
  working : panel.working = []
  queue : panel.queue = []
  enabled : panel.view.enabled = true
  display : machine.1.shown (Panel.depth + 1) = .ok panel.view.display
  trail : panel.view.trail = shownTrail machine.1

/-- A panel stays settled as long as it keeps its face. -/
theorem Settled.of_face (settled : Settled before machine) (same : SameFace before after) :
    Settled after machine where
  calculator := same.calculator.trans settled.calculator
  akin := same.service.trans settled.akin
  rests := settled.rests
  working := same.working.trans settled.working
  queue := same.queue.trans settled.queue
  enabled := same.enabled.trans settled.enabled
  display := same.display ▸ settled.display
  trail := same.trail.trans settled.trail

/-- A calculator at rest can be drawn. -/
theorem drawDisplay_passes (rests : panel.calculator.calculating = false)
    (previews : ∀ e, panel.calculator.preview depth ≠ .error e) (drawn : Nat) :
    (drawDisplay drawn panel).2 = none := by
  obtain ⟨text, colour, -, shown⟩ :=
    shownDisplay_rests rests (Calculator.previews_depth previews drawn)
  simp only [drawDisplay, shown]

/-- A panel without anything left to be done is settled once it is drawn. -/
theorem settled_drawDisplay {service : Archive} (akin : panel.service.Akin service)
    (rests : panel.calculator.calculating = false) (working : panel.working = [])
    (queue : panel.queue = []) (enabled : panel.view.enabled = true)
    (previews : ∀ e, panel.calculator.preview Panel.depth ≠ .error e)
    (same : panel.calculator.preview depth = panel.calculator.preview Panel.depth) :
    Settled (drawDisplay depth panel).1 (panel.calculator, service) := by
  obtain ⟨text, colour, shown, drawn⟩ :=
    shownDisplay_rests rests (Calculator.previews_depth previews depth)
  have there : panel.calculator.shown (Panel.depth + 1) = .ok text := by
    rw [← shown, Calculator.shown, Calculator.shown, Nat.add_sub_cancel, Nat.add_sub_cancel, same]
  simp only [drawDisplay, drawn]
  exact ⟨rfl, akin, rests, working, queue, enabled, there, rfl⟩

/-- A panel without anything left to be done is settled once it is drawn and its log is listed. -/
theorem settled_drawn (steady : backend.Steady) (now : Calendar.Moment) {service : Archive}
    (akin : panel.service.Akin service) (rests : panel.calculator.calculating = false)
    (working : panel.working = []) (queue : panel.queue = []) (enabled : panel.view.enabled = true)
    (previews : ∀ e, panel.calculator.preview Panel.depth ≠ .error e)
    (same : panel.calculator.preview depth = panel.calculator.preview Panel.depth) :
    Settled ((drawDisplay depth panel).andThen (drawHistory backend now)).1
      (panel.calculator, service) := by
  have drawn := settled_drawDisplay akin rests working queue enabled previews same
  have passes := drawDisplay_passes rests previews depth
  rcases drawing : drawDisplay depth panel with ⟨after, fault⟩
  rw [drawing] at drawn passes
  obtain rfl : fault = none := passes
  exact drawn.of_face (drawHistory_face steady now after)

/-! ## Events -/

/-- The button that an event presses. -/
def Event.button? : Event → Option Text
  | .click label =>
    match Keypad.clicks.lookup label with
    | some (.press button) => some button
    | _ => none
  | .key name char => Keypad.buttonOfKey? name char
  | .refresh => none

/-- As long as the buttons are enabled, an event that presses a button does so. -/
theorem handle_button {event : Event} {button : Text} (pressed : event.button? = some button)
    (enabled : panel.view.enabled = true) (now : Calendar.Moment) :
    handle backend now event panel = press backend now button panel := by
  cases event with
  | refresh => cases pressed
  | key name char =>
    have known : Keypad.buttonOfKey? name char = some button := pressed
    simp only [handle, known]
  | click label =>
    unfold Event.button? at pressed
    simp only at pressed
    split at pressed
    · rename_i found
      cases pressed
      simp only [handle, enabled, ↓reduceIte, found]
    · cases pressed

/-- Any other event keeps the face. -/
theorem handle_face (steady : backend.Steady) {event : Event} (unpressed : event.button? = none)
    (now : Calendar.Moment) (panel : Panel Archive) :
    SameFace panel (handle backend now event panel).1 := by
  have nothing : SameFace panel panel := .listing panel _ _ _
  cases event with
  | refresh => exact drawHistory_face steady now panel
  | key name char =>
    have unknown : Keypad.buttonOfKey? name char = none := unpressed
    simp only [handle, unknown]
    exact nothing
  | click label =>
    unfold Event.button? at unpressed
    simp only at unpressed
    simp only [handle]
    split
    · split
      · rename_i found
        rw [found] at unpressed
        cases unpressed
      · exact clearHistory_face steady now panel
      · exact nothing
    · exact nothing

/-- An event that leaves no worker and no outcome is settled when it has been handled. -/
theorem settle_at_once {event : Event} {now : Calendar.Moment}
    (working : (handle backend now event panel).1.working = [])
    (queue : (handle backend now event panel).1.queue = []) :
    (settle backend now event panel).1 = (handle backend now event panel).1 := by
  unfold settle handleAwaiting Step.andThen
  rcases handled : handle backend now event panel with ⟨⟨calculator, service, stamps, view,
    workers, outcomes⟩, fault⟩
  rw [handled] at working queue
  obtain rfl : workers = [] := working
  obtain rfl : outcomes = [] := queue
  cases fault with
  | some fault => rfl
  | none => rfl

/-- With nothing more to do, a step is what it was. -/
theorem Step.andThen_done (step : Step Archive) :
    (step.andThen fun panel => (panel, none)) = step := by
  rcases step with ⟨panel, fault⟩
  cases fault with
  | some fault => rfl
  | none => rfl

/-- An event that leaves a worker is settled when its outcome has been delivered. -/
theorem settle_working {event : Event} {now : Calendar.Moment} {busy : Panel Archive}
    {pending : PendingCalculation} (handled : handle backend now event panel = (busy, none))
    (working : busy.working = [pending]) (queue : busy.queue = []) :
    (settle backend now event panel).1 = (deliver backend now
      ⟨pending, Calculator.outcomeOf
        (Calculator.callService (backend.compute now) pending busy.service).1⟩
      { busy with
        service := (Calculator.callService (backend.compute now) pending busy.service).2
        working := []
        queue := [] }).1 := by
  obtain ⟨calculator, service, stamps, view, workers, outcomes⟩ := busy
  obtain rfl : workers = [pending] := working
  obtain rfl : outcomes = [] := queue
  unfold settle handleAwaiting
  rw [handled]
  show ((deliver backend now _ _).andThen fun panel => (panel, none)).1 = _
  rw [Step.andThen_done]
  rfl

/-! ## What an event comes to -/

variable {now : Calendar.Moment}

/-- A calculation that begins is left to a worker, whatever is shown meanwhile. -/
theorem confirm_begun {pending : PendingCalculation} {busy : Calculator}
    (begun : panel.calculator.begin Panel.depth = (.ok (some pending), busy)) :
    ∃ view, confirm panel = ({ panel with
      calculator := busy, view, working := panel.working ++ [pending] }, none) := by
  obtain ⟨-, -, rfl⟩ := Calculator.begin_pending begun
  unfold confirm
  rw [begun]
  exact ⟨_, rfl⟩

/-- A delivery that leads to a state settles the panel. -/
theorem settled_deliver (steady : backend.Steady) {delivery : Delivery} {state : State}
    {service : Archive} (current : delivery.pending.token = panel.calculator.generation)
    (concluded : Calculator.conclude delivery.pending delivery.outcome = .ok state)
    (akin : panel.service.Akin service) (working : panel.working = [])
    (queue : panel.queue = []) :
    Settled (deliver backend now delivery panel).1
      (⟨state, false, panel.calculator.generation⟩, service) := by
  have unpreviewed (depth : Nat) :=
    Calculator.preview_concluded concluded depth panel.calculator.generation
  simp only [deliver, Calculator.finish_concluded current concluded]
  exact settled_drawn steady now akin rfl working queue rfl
    (by simp [unpreviewed]) (by simp [unpreviewed])

/-- A calculation that is handed to a worker is settled as one that is answered at once. -/
theorem Settled.confirm_working (steady : backend.Steady) (settled : Settled panel machine)
    {event : Event} {pending : PendingCalculation} {busy : Calculator}
    (handled : handle backend now event panel = confirm panel)
    (begun : machine.1.begin Panel.depth = (.ok (some pending), busy)) :
    Settled (settle backend now event panel).1
      (machine.1.equals (Panel.depth + 1) (backend.compute now) machine.2).2 := by
  obtain ⟨state, concluded⟩ := steady.concludes now pending machine.2
  have begins : machine.1.begin (Panel.depth + 1 - 1) = (.ok (some pending), busy) := begun
  rw [Calculator.equals_concludes begins concluded]
  obtain ⟨-, -, rfl⟩ := Calculator.begin_pending begun
  obtain ⟨view, started⟩ := confirm_begun (settled.calculator ▸ begun)
  rw [settled.working] at started
  rw [settle_working (handled.trans started) rfl settled.queue]
  -- The worker asks the panel's service, the other machine its own.
  have outcome := steady.outcome now pending.operator pending.x pending.y settled.akin
  have computed (archive : Archive) :=
    steady.computed now pending.operator pending.x pending.y archive
  have same : Calculator.conclude pending (Calculator.outcomeOf
      (Calculator.callService (backend.compute now) pending panel.service).1) = .ok state :=
    (congrArg _ outcome).trans concluded
  exact settled_deliver steady rfl same
    ((computed _).trans (settled.akin.trans (computed _).symm)) rfl rfl

/-- Confirming leads from settled to settled. -/
theorem Settled.confirm (steady : backend.Steady) (settled : Settled panel machine)
    {event : Event} (handled : handle backend now event panel = confirm panel)
    (before : ∀ e, machine.1.preview Panel.depth ≠ .error e)
    (after : ∀ e, (machine.1.equals (Panel.depth + 1) (backend.compute now)
      machine.2).2.1.preview Panel.depth ≠ .error e) :
    Settled (settle backend now event panel).1
      (machine.1.equals (Panel.depth + 1) (backend.compute now) machine.2).2 := by
  rcases Calculator.begin_of_preview settled.rests before with ⟨state, done⟩ | ⟨pending, -, begun⟩
  · have untyped := Calculator.begin_no_expression settled.rests Panel.depth
    rw [done] at untyped
    rw [Calculator.equals, Nat.add_sub_cancel, done] at after ⊢
    have drawn : handle backend now event panel = drawDisplay (Panel.depth - 1) { panel with
        calculator := ⟨state, false, machine.1.generation⟩ } := by
      rw [handled, Panel.confirm, settled.calculator, done]
    have still : Settled (handle backend now event panel).1
        (⟨state, false, machine.1.generation⟩, machine.2) := by
      rw [drawn]
      exact settled_drawDisplay settled.akin rfl settled.working settled.queue settled.enabled after
        (Calculator.preview_depth untyped _ _)
    rwa [settle_at_once still.working still.queue]
  · exact settled.confirm_working steady handled begun

/-- The press that a panel makes of a button. The panel confirms by itself, which saves a call. -/
def pressOf (backend : Backend Archive) (now : Calendar.Moment) (button : Text) : Press Archive :=
  ⟨button, backend.compute now, if button = "=" then Panel.depth + 2 else Panel.depth + 1⟩

/-- A press leads from settled to settled. -/
theorem Settled.press (steady : backend.Steady) (settled : Settled panel machine) {event : Event}
    {button : Text} (pressed : event.button? = some button)
    (before : ∀ e, machine.1.preview Panel.depth ≠ .error e)
    (after : ∀ e,
      ((pressOf backend now button).apply machine).1.preview Panel.depth ≠ .error e) :
    Settled (settle backend now event panel).1 ((pressOf backend now button).apply machine) := by
  have handled : handle backend now event panel = Panel.press backend now button panel :=
    handle_button pressed settled.enabled now
  by_cases confirms : button = "="
  · subst confirms
    have known : Button.ofName? "=" = some .equals := by decide
    have confirmed : (pressOf backend now "=").apply machine =
        (machine.1.equals (Panel.depth + 1) (backend.compute now) machine.2).2 := by
      simp only [pressOf, Press.apply, Calculator.press, known, Calculator.pressButton,
        ↓reduceIte, Nat.add_one_sub_one]
    rw [confirmed] at after ⊢
    refine settled.confirm steady (handled.trans ?_) before after
    rw [Panel.press, if_pos rfl]
  · have applied : (pressOf backend now button).apply machine =
        (machine.1.press (Panel.depth + 1) (backend.compute now) button machine.2).2 := by
      rw [Press.apply, pressOf, if_neg confirms]
    rw [applied] at after ⊢
    obtain ⟨-, calculator, akin⟩ :=
      steady.press_akin now settled.akin (Panel.depth + 1) button machine.1
    have passes :=
      steady.press_passes now button settled.rests before panel.service (Panel.depth + 1)
    have rests : (machine.1.press (Panel.depth + 1) (backend.compute now) button
        machine.2).2.1.calculating = false := by
      obtain ⟨state, generation, -, ended⟩ := Calculator.press_idle settled.rests
        (Panel.depth + 1) (backend.compute now) button machine.2
      rw [ended]
    rcases pressing : machine.1.press (Panel.depth + 1) (backend.compute now) button
      panel.service with ⟨result, shown, service⟩
    rw [pressing] at passes calculator akin
    obtain rfl : result = .ok () := passes
    obtain rfl : shown = _ := calculator
    have drawn : handle backend now event panel = drawDisplay Panel.depth { panel with
        calculator :=
          (machine.1.press (Panel.depth + 1) (backend.compute now) button machine.2).2.1,
        service } := by
      rw [handled, Panel.press, if_neg confirms, settled.calculator, pressing]
    have still : Settled (handle backend now event panel).1
        (machine.1.press (Panel.depth + 1) (backend.compute now) button machine.2).2 := by
      rw [drawn]
      exact settled_drawDisplay akin rests settled.working settled.queue settled.enabled after rfl
    rwa [settle_at_once still.working still.queue]

/-- An event that presses nothing leads from settled to settled. -/
theorem Settled.pass (steady : backend.Steady) (settled : Settled panel machine) {event : Event}
    (unpressed : event.button? = none) : Settled (settle backend now event panel).1 machine := by
  have still := settled.of_face (handle_face steady unpressed now panel)
  rwa [settle_at_once still.working still.queue]

end Panel

/-! ## Sessions -/

/-- Where a service is: beside the panel, or behind a client that knows its address. -/
inductive Site where
  | near
  | far (base : Text)

/-- A turn of a session: an event, the time, and the calls that get lost on the way meanwhile. -/
structure Turn where
  event : Panel.Event
  now : Calendar.Moment
  lost : Web.Call → Option Text

/-- The service at a site, with the calls that get lost on the way. -/
def Site.backend : Site → (Web.Call → Option Text) → Backend Archive
  | .near, _ => .onLog
  | .far base, lost => .overNetwork base lost

/-- A service is steady at either site. -/
theorem Site.steady (site : Site) (lost : Web.Call → Option Text) : (site.backend lost).Steady := by
  cases site with
  | near => exact Backend.onLog_steady
  | far base => exact Backend.overNetwork_steady base lost

namespace Turn

/-- The press of a turn, if its event presses a button. -/
def press? (site : Site) (turn : Turn) : Option (Press Archive) :=
  turn.event.button?.map (Panel.pressOf (site.backend turn.lost) turn.now)

/-- The panel after a turn that is settled. -/
def settle (site : Site) (panel : Panel Archive) (turn : Turn) : Panel Archive :=
  (Panel.settle (site.backend turn.lost) turn.now turn.event panel).1

/-- The panel after turns, each settled before the next one, from a panel that has just been opened
at a time when some calls get lost. -/
def panel (site : Site) (now : Calendar.Moment) (lost : Web.Call → Option Text)
    (stamps : Stamps.Store) (archive : Archive) (turns : List Turn) : Panel Archive :=
  turns.foldl (settle site) (Panel.opened (site.backend lost) now stamps archive).1

/-- The calculator and its service after the presses of turns, one after another. -/
def machine (site : Site) (archive : Archive) (turns : List Turn) : Calculator × Archive :=
  Press.run (turns.filterMap (press? site)) archive

variable {site : Site} {archive : Archive}

/-- A panel that has just been opened is settled. -/
theorem settled_opened (now : Calendar.Moment) (lost : Web.Call → Option Text)
    (stamps : Stamps.Store) (archive : Archive) :
    Panel.Settled (Panel.opened (site.backend lost) now stamps archive).1 (.new, archive) :=
  Panel.settled_drawn (site.steady lost) now (.refl archive) rfl rfl rfl rfl nofun rfl

/-- Turns lead to a settled panel, as long as there is a preview after each or none is due. -/
theorem settled_panel (now : Calendar.Moment) (lost : Web.Call → Option Text)
    (stamps : Stamps.Store) {turns : List Turn}
    (previews : ∀ before, before <+: turns →
      ∀ e, (machine site archive before).1.preview Panel.depth ≠ .error e) :
    Panel.Settled (panel site now lost stamps archive turns) (machine site archive turns) := by
  induction turns using List.reverseRecOn with
  | nil => exact settled_opened now lost stamps archive
  | append_singleton turns turn ih =>
    have settled := ih fun before part => previews before (part.trans (List.prefix_append _ _))
    have earlier := previews turns (List.prefix_append _ _)
    have later := previews _ (List.prefix_refl _)
    have step : panel site now lost stamps archive (turns ++ [turn]) =
        settle site (panel site now lost stamps archive turns) turn := by
      rw [panel, List.foldl_append]
      rfl
    rw [step]
    cases pressed : turn.event.button? with
    | none =>
      have same : machine site archive (turns ++ [turn]) = machine site archive turns := by
        rw [machine, List.filterMap_append]
        simp [press?, pressed, machine]
      rw [same]
      exact settled.pass (site.steady turn.lost) pressed
    | some button =>
      have same : machine site archive (turns ++ [turn]) =
          (Panel.pressOf (site.backend turn.lost) turn.now button).apply
            (machine site archive turns) := by
        have last : [turn].filterMap (press? site) =
            [Panel.pressOf (site.backend turn.lost) turn.now button] := by
          simp [press?, pressed]
        rw [machine, List.filterMap_append, last]
        exact Press.run_concat _ _ _
      rw [same] at later ⊢
      exact settled.press (site.steady turn.lost) pressed earlier later

/-- As long as no preview breaks off, a panel goes through the states of the calculator on which
the buttons of its events are pressed one after another, in front of a service that answers at
once. After every event that is settled it shows what that calculator shows, and its trail or a
space; no calculation is in flight, and all of the 27 buttons are enabled. This holds wherever the
service is, whatever the state of its log, whatever calls get lost and whenever anything happens. -/
theorem panel_follows_presses (site : Site) (now : Calendar.Moment)
    (lost : Web.Call → Option Text) (stamps : Stamps.Store) (archive : Archive)
    {turns : List Turn}
    (previews : ∀ before, before <+: turns →
      ∀ e, (machine site archive before).1.preview Panel.depth ≠ .error e)
    {done : List Turn} (part : done <+: turns) :
    let panel := panel site now lost stamps archive done
    let calculator := (machine site archive done).1
    panel.calculator = calculator ∧
    calculator.shown (Panel.depth + 1) = .ok panel.view.display ∧
    panel.view.trail =
      (if calculator.state.trail = [] then (" " : Text) else calculator.state.trail) ∧
    panel.calculator.calculating = false ∧
    panel.view.enabledCount = 27 := by
  intro panel calculator
  have settled : Panel.Settled panel (machine site archive done) :=
    settled_panel now lost stamps fun before earlier => previews before (earlier.trans part)
  refine ⟨settled.calculator, settled.display, ?_, ?_, ?_⟩
  · rw [settled.trail, Panel.shownTrail]
    simp only [List.isEmpty_iff]
    rfl
  · rw [settled.calculator]
    exact settled.rests
  · rw [Panel.View.enabledCount, if_pos settled.enabled]
    decide

/-- Turns of these events, with no call lost. -/
def inPeace (events : List Panel.Event) : List Turn :=
  events.map fun event => ⟨event, ⟨0, Calendar.limit_pos⟩, fun _ => none⟩

/-- A click and keys, the last of which confirms, and a click that empties the log. -/
def sevenPlusFive : List Turn :=
  inPeace [.click "7", .key "plus" "+", .key "5" "5", .key "Return" "
", .click "Clear"]

/-- In front of a server, seven and five are shown as twelve. -/
theorem panel_follows_sevenPlusFive :
    let panel := panel (.far "http://localhost") ⟨0, by decide⟩ (fun _ => none) .new .new
      sevenPlusFive
    panel.calculator.state = .calculated "12" "7 + 5 = 12" ∧ panel.view.display = "12" ∧
      panel.view.trail = "7 + 5 = 12" ∧ panel.calculator.calculating = false ∧
        panel.view.enabledCount = 27 := by
  have previewed : ∀ before ∈ sevenPlusFive.inits,
      ((machine (.far "http://localhost") .new before).1.preview Panel.depth).isOk = true := by
    decide +kernel
  have previews : ∀ before, before <+: sevenPlusFive →
      ∀ e, (machine (.far "http://localhost") .new before).1.preview Panel.depth ≠ .error e := by
    intro before part e failed
    have passed := previewed before ((List.mem_inits _ _).2 part)
    rw [failed] at passed
    cases passed
  have reached : (machine (.far "http://localhost") .new sevenPlusFive).1.state =
      .calculated "12" "7 + 5 = 12" := by decide +kernel
  have shown : (machine (.far "http://localhost") .new sevenPlusFive).1.shown (Panel.depth + 1) =
      .ok "12" := by
    simp only [Calculator.shown, Calculator.preview, reached]
    rfl
  obtain ⟨same, display, trail, rests, enabled⟩ := panel_follows_presses
    (.far "http://localhost") ⟨0, by decide⟩ (fun _ => none) .new .new previews
    (List.prefix_refl sevenPlusFive)
  rw [shown] at display
  rw [reached] at trail
  exact ⟨by rw [same, reached], (Except.ok.inj display).symm, trail, rests, enabled⟩

end Turn

end Reckoner
