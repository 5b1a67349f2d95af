import Mathlib.Data.List.Induction
import Mathlib.Data.List.Infix
import Reckoner.Panel.Basic
import Reckoner.Proofs.Calculator.Steps

/-!
# Buttons while a calculation is in flight

The buttons are disabled when a worker starts and enabled when the panel has turned to an outcome,
and nothing else changes that. So they are disabled while a calculation is in flight, with one
exception. A key can clear the calculator although its button is disabled, and then start another
calculation while the outcome of the first one is still to come. When the panel turns to that
outcome, the calculator ignores it, but the buttons are enabled all the same. The statements hold of
any service, and in whatever order users, workers and the queue take their turns.
-/

namespace Reckoner

namespace Calculator

/-- Whatever is pressed, a calculation that is in flight afterwards was in flight before, and
nothing has changed. -/
theorem press_in_flight {σ : Type} {depth : Nat} (calculator : Calculator) (provider : Provider σ)
    (name : Text) (service : σ)
    (busy : (calculator.press depth provider name service).2.1.calculating = true) :
    (calculator.press depth provider name service).2.1 = calculator := by
  cases before : calculator.calculating with
  | false =>
    obtain ⟨state, generation, -, ended⟩ := press_idle before depth provider name service
    rw [ended] at busy
    cases busy
  | true =>
    by_cases clears : Button.ofName? name = some .clear
    · rw [press_clear calculator provider service clears] at busy
      cases busy
    · rw [press_busy before provider service clears]

end Calculator

namespace Panel

variable {σ : Type} {backend : Backend σ} {now : Calendar.Moment} {panel before after : Panel σ}

/-! ## What drawing leaves alone -/

/-- Two panels with the same calculator, whose buttons are enabled in the same way. -/
structure SameControls (before after : Panel σ) : Prop where
  calculator : after.calculator = before.calculator
  enabled : after.view.enabled = before.view.enabled

/-- Drawing the display leaves the controls. -/
theorem drawDisplay_controls (depth : Nat) (panel : Panel σ) :
    SameControls panel (drawDisplay depth panel).1 := by
  unfold drawDisplay
  split
  · exact ⟨rfl, rfl⟩
  · exact ⟨rfl, rfl⟩

/-- Showing that there is no log to list leaves the controls. -/
theorem drawNoHistory_controls (e : ServiceError) (panel : Panel σ) :
    SameControls panel (drawNoHistory e panel).1 := by
  unfold drawNoHistory
  split
  · exact ⟨rfl, rfl⟩
  · exact ⟨rfl, rfl⟩

/-- Showing entries leaves the controls. -/
theorem drawEntries_controls (now : Calendar.Moment) (entries : List (Text × Text))
    (panel : Panel σ) : SameControls panel (drawEntries now entries panel).1 := by
  unfold drawEntries
  split
  · exact ⟨rfl, rfl⟩
  · exact ⟨rfl, rfl⟩

/-- Listing the log leaves the controls. -/
theorem drawHistory_controls (backend : Backend σ) (now : Calendar.Moment) (panel : Panel σ) :
    SameControls panel (drawHistory backend now panel).1 := by
  unfold drawHistory
  split
  · rename_i e service _
    have drawn := drawNoHistory_controls e { panel with service }
    exact ⟨drawn.calculator, drawn.enabled⟩
  · rename_i entries service _
    have drawn := drawEntries_controls now entries { panel with service }
    exact ⟨drawn.calculator, drawn.enabled⟩

/-- Emptying the log leaves the controls. -/
theorem clearHistory_controls (backend : Backend σ) (now : Calendar.Moment) (panel : Panel σ) :
    SameControls panel (clearHistory backend now panel).1 := by
  unfold clearHistory
  split
  · rename_i service _
    have drawn := drawHistory_controls backend now
      { panel with service, stamps := panel.stamps.clear }
    exact ⟨drawn.calculator, drawn.enabled⟩
  · rename_i e service _
    split
    · have drawn := drawHistory_controls backend now { panel with service }
      exact ⟨drawn.calculator, drawn.enabled⟩
    · exact ⟨rfl, rfl⟩

/-- Drawing the display and then listing the log leaves the controls. -/
theorem drawAll_controls (depth : Nat) (backend : Backend σ) (now : Calendar.Moment)
    (panel : Panel σ) :
    SameControls panel ((drawDisplay depth panel).andThen (drawHistory backend now)).1 := by
  have drawn := drawDisplay_controls depth panel
  rcases drawing : drawDisplay depth panel with ⟨shown, fault⟩
  rw [drawing] at drawn
  cases fault with
  | some fault => exact drawn
  | none =>
    have listed := drawHistory_controls backend now shown
    exact ⟨listed.calculator.trans drawn.calculator, listed.enabled.trans drawn.enabled⟩

/-! ## One step -/

/-- The buttons are disabled if a calculation is in flight. -/
def Guarded (panel : Panel σ) : Prop :=
  panel.calculator.calculating = true → panel.view.enabled = false

/-- The panel turns to the outcome of an abandoned calculation while another one is in flight. -/
def TurnsToAbandoned : Occurrence → Panel σ → Prop
  | .turnToQueue, panel => panel.calculator.calculating = true ∧
      ∃ delivery ∈ panel.queue.head?, delivery.pending.token ≠ panel.calculator.generation
  | _, _ => False

/-- A panel without a calculation in flight is guarded. -/
theorem guarded_of_rest (rests : panel.calculator.calculating = false) : Guarded panel := by
  intro busy
  rw [rests] at busy
  cases busy

/-- A panel with the same controls is guarded as well. -/
theorem Guarded.of_controls (guarded : Guarded before) (same : SameControls before after) :
    Guarded after := by
  intro busy
  rw [same.calculator] at busy
  rw [same.enabled]
  exact guarded busy

/-- Confirming keeps a panel guarded: the buttons are disabled when a worker starts. -/
theorem Guarded.confirm (guarded : Guarded panel) : Guarded (confirm panel).1 := by
  unfold Panel.confirm
  cases busy : panel.calculator.calculating with
  | true =>
    rw [Calculator.begin_busy busy]
    exact guarded.of_controls (drawDisplay_controls _ panel)
  | false =>
    rcases Calculator.begin_cases busy depth with
      ⟨e, failed⟩ | ⟨state, settled⟩ | ⟨pending, -, begun⟩
    · rw [failed]
      exact guarded_of_rest busy
    · rw [settled]
      have rested : Guarded { panel with calculator := { panel.calculator with state } } :=
        guarded_of_rest busy
      exact rested.of_controls (drawDisplay_controls _ _)
    · rw [begun]
      have disabled : Guarded { panel with
          calculator := ⟨panel.calculator.state, true, pending.token⟩
          view := { panel.view with enabled := false }
          working := panel.working ++ [pending] } := fun _ => rfl
      exact disabled.of_controls (drawDisplay_controls _ _)

/-- Pressing a button keeps a panel guarded. -/
theorem Guarded.press (guarded : Guarded panel) (backend : Backend σ) (now : Calendar.Moment)
    (button : Text) : Guarded (press backend now button panel).1 := by
  unfold Panel.press
  split
  · exact guarded.confirm
  · rcases pressed : panel.calculator.press (depth + 1) (backend.compute now) button
      panel.service with ⟨result, calculator, service⟩
    have kept : Guarded { panel with calculator, service } := by
      intro busy
      have same := panel.calculator.press_in_flight (backend.compute now) button panel.service
        (by rw [pressed]; exact busy)
      rw [pressed] at same
      obtain rfl : calculator = panel.calculator := same
      exact guarded busy
    cases result with
    | ok done => exact kept.of_controls (drawDisplay_controls _ _)
    | error e => exact kept

/-- What a user does keeps a panel guarded. -/
theorem Guarded.handle (guarded : Guarded panel) (backend : Backend σ) (now : Calendar.Moment)
    (event : Event) : Guarded (handle backend now event panel).1 := by
  cases event with
  | refresh => exact guarded.of_controls (drawHistory_controls backend now panel)
  | key name char =>
    unfold Panel.handle
    simp only
    split
    · exact guarded.press backend now _
    · exact guarded
  | click label =>
    unfold Panel.handle
    simp only
    split
    · split
      · exact guarded.press backend now _
      · exact guarded.of_controls (clearHistory_controls backend now panel)
      · exact guarded
    · exact guarded

/-- A worker that gets done keeps a panel guarded. -/
theorem Guarded.work (guarded : Guarded panel) (backend : Backend σ) (now : Calendar.Moment)
    (place : Nat) : Guarded (work backend now place panel) := by
  unfold Panel.work
  split
  · exact guarded
  · exact guarded

/-- A delivery leaves no calculation in flight unless it is of an abandoned one. Such a delivery
leaves the calculator and enables the buttons. -/
theorem deliver_cases (backend : Backend σ) (now : Calendar.Moment) (delivery : Delivery)
    (panel : Panel σ) :
    delivery.pending.token = panel.calculator.generation ∧
        (deliver backend now delivery panel).1.calculator.calculating = false ∨
      delivery.pending.token ≠ panel.calculator.generation ∧
        (deliver backend now delivery panel).1.calculator = panel.calculator ∧
        (deliver backend now delivery panel).1.view.enabled = true := by
  unfold deliver
  by_cases current : delivery.pending.token = panel.calculator.generation
  · obtain ⟨state, ended⟩ := Calculator.finish_current current delivery.outcome
    rcases finished : panel.calculator.finish delivery.pending delivery.outcome with
      ⟨result, calculator⟩
    rw [finished] at ended
    obtain rfl : calculator = ⟨state, false, panel.calculator.generation⟩ := ended
    refine .inl ⟨current, ?_⟩
    cases result with
    | error e => rfl
    | ok done => exact congrArg Calculator.calculating (drawAll_controls _ backend now _).calculator
  · rw [Calculator.finish_stale current]
    have drawn := drawAll_controls (depth - 1) backend now
      { panel with view := { panel.view with enabled := true } }
    exact .inr ⟨current, drawn.calculator, drawn.enabled⟩

/-- Whatever happens, a guarded panel stays guarded, unless it turns to the outcome of an abandoned
calculation while another one is in flight. -/
theorem Guarded.occur_iff (guarded : Guarded panel) (backend : Backend σ) (now : Calendar.Moment)
    (occurrence : Occurrence) :
    Guarded (occur backend now occurrence panel).1 ↔ ¬TurnsToAbandoned occurrence panel := by
  cases occurrence with
  | user event => exact iff_of_true (guarded.handle backend now event) not_false
  | workerDone place => exact iff_of_true (guarded.work backend now place) not_false
  | turnToQueue =>
    unfold occur deliverNext TurnsToAbandoned
    simp only
    cases queued : panel.queue with
    | nil => exact iff_of_true guarded (by simp)
    | cons delivery queue =>
      simp only [List.head?_cons, Option.mem_some_iff, exists_eq_left']
      rcases deliver_cases backend now delivery { panel with queue } with
        ⟨current, rests⟩ | ⟨abandoned, kept, enabled⟩
      · exact iff_of_true (guarded_of_rest rests) fun turns => turns.2 current
      · unfold Guarded
        rw [kept, enabled]
        constructor
        · intro disabled turns
          cases disabled turns.1
        · intro fine busy
          exact absurd ⟨busy, abandoned⟩ fine

end Panel

/-! ## Runs -/

/-- Something that happens to a panel at a moment, with the service behind it by then. -/
structure Happening (σ : Type) where
  occurrence : Panel.Occurrence
  backend : Backend σ
  now : Calendar.Moment

namespace Happening

variable {σ : Type}

/-- The panel after something has happened. -/
def apply (panel : Panel σ) (happening : Happening σ) : Panel σ :=
  (Panel.occur happening.backend happening.now happening.occurrence panel).1

/-- The panel after everything that happens to it, from its opening on. -/
def run (opened : Panel.Step σ) (happenings : List (Happening σ)) : Panel σ :=
  happenings.foldl apply opened.1

/-- What happens last happens to the panel after everything else. -/
theorem run_concat (opened : Panel.Step σ) (happenings : List (Happening σ))
    (happening : Happening σ) :
    run opened (happenings ++ [happening]) = apply (run opened happenings) happening := by
  rw [run, List.foldl_append]
  rfl

/-- In every state that a panel reaches, all of the 27 buttons, that which empties the log included,
are disabled while a calculation is in flight, exactly if the panel never turns to the outcome of an
abandoned calculation while another one is in flight. This holds whatever the service does, whatever
file of first sightings there is, and in whatever order users act, workers get done and the panel
turns to single outcomes. -/
theorem disabled_iff_none_abandoned (backend : Backend σ) (now : Calendar.Moment)
    (stamps : Stamps.Store) (service : σ) (happenings : List (Happening σ)) :
    let reached := run (Panel.opened backend now stamps service)
    (Panel.buttonCount = 27 ∧ List.lookup ("Clear" : Text) Keypad.clicks = some .clearHistory) ∧
    ((∀ before, before <+: happenings → (reached before).calculator.calculating = true →
        (reached before).view.enabledCount = 0) ↔
      ∀ before happening, before ++ [happening] <+: happenings →
        ¬Panel.TurnsToAbandoned happening.occurrence (reached before)) := by
  intro reached
  have disabled (panel : Panel σ) : (panel.calculator.calculating = true →
      panel.view.enabledCount = 0) ↔ Panel.Guarded panel := by
    have none : panel.view.enabledCount = 0 ↔ panel.view.enabled = false := by
      unfold Panel.View.enabledCount
      cases panel.view.enabled <;> decide
    rw [none, Panel.Guarded]
  simp only [disabled]
  refine ⟨by decide, ?_, ?_⟩
  · intro guarded before happening part turns
    have earlier := guarded before ((List.prefix_append _ _).trans part)
    have later := guarded _ part
    simp only [reached, run_concat] at later
    exact (earlier.occur_iff happening.backend happening.now happening.occurrence).1 later turns
  · intro fine before part
    induction before using List.reverseRecOn with
    | nil =>
      have drawn := Panel.drawAll_controls Panel.depth backend now
        ⟨.new, service, stamps, .blank, [], []⟩
      exact Panel.guarded_of_rest (congrArg Calculator.calculating drawn.calculator)
    | append_singleton before happening ih =>
      have earlier := ih ((List.prefix_append _ _).trans part)
      simp only [reached, run_concat]
      exact (earlier.occur_iff happening.backend happening.now happening.occurrence).2
        (fine before happening part)

/-- Keys in front of the local service, all at the same moment. -/
def keys (now : Calendar.Moment) (names : List (Text × Text)) : List (Happening Archive) :=
  names.map fun name => ⟨.user (.key name.1 name.2), .onLog, now⟩

/-- A moment in January of the year 2024. -/
def january : Calendar.Moment := ⟨63839761445000000, by decide⟩

/-- One and two are added and abandoned; three and four are added in a year in which the log of the
last days cannot be listed. Both workers get done, and the panel turns to the first outcome. -/
def abandonedSum : List (Happening Archive) :=
  keys january [("1", "1"), ("plus", "+"), ("2", "2"), ("Return", "\r")] ++
    [⟨.workerDone 0, .onLog, january⟩] ++
    keys january [("Escape", "\x1b"), ("3", "3"), ("plus", "+"), ("4", "4")] ++
    keys ⟨0, by decide⟩ [("Return", "\r")] ++
    [⟨.workerDone 0, .onLog, ⟨0, by decide⟩⟩, ⟨.turnToQueue, .onLog, ⟨0, by decide⟩⟩]

/-- The outcome of an abandoned sum enables all buttons, though another sum is in flight. -/
theorem abandonedSum_enables :
    (run (Panel.opened .onLog january .new .new) abandonedSum).calculator.calculating = true ∧
      (run (Panel.opened .onLog january .new .new) abandonedSum).view.enabledCount = 27 := by
  decide +kernel

end Happening

end Reckoner
