import Mathlib.Data.List.Induction
import Reckoner.Proofs.Calculator.Steps

/-!
# Runs of presses

A calculator is used by pressing buttons one after another, each press being settled before the
next one. A service stands behind it whose behaviour may change from press to press, and so may the
depth that is left for nesting, since it depends on where a press comes from. What holds of
a calculator that has just been switched on and is kept by every press holds in every state that
presses reach; that no calculation is in flight between presses is the first such fact.
-/

namespace Reckoner

/-- A press of a button by name, with what stands behind the calculator at that moment and the depth
that is left for nesting. -/
structure Press (σ : Type) where
  name : Text
  provider : Provider σ
  depth : Nat

namespace Press

variable {σ : Type}

/-- The calculator and the service after a press. -/
def apply (press : Press σ) (machine : Calculator × σ) : Calculator × σ :=
  (machine.1.press press.depth press.provider press.name machine.2).2

/-- The calculator and the service after presses, from a calculator that has just been switched on
in front of a service. -/
def run (presses : List (Press σ)) (service : σ) : Calculator × σ :=
  presses.foldl (fun machine press => press.apply machine) (.new, service)

/-- The last press of a run comes after all others. -/
theorem run_concat (presses : List (Press σ)) (press : Press σ) (service : σ) :
    run (presses ++ [press]) service = press.apply (run presses service) := by
  rw [run, List.foldl_append]
  rfl

/-- What a new calculator has and every press keeps, every reachable calculator has. -/
theorem run_invariant (invariant : Calculator → Prop) (start : invariant .new)
    (keeps : ∀ (press : Press σ) machine, invariant machine.1 → invariant (press.apply machine).1)
    (presses : List (Press σ)) (service : σ) : invariant (run presses service).1 := by
  induction presses using List.reverseRecOn with
  | nil => exact start
  | append_singleton presses press holds =>
    rw [run_concat]
    exact keeps press _ holds

/-- No calculation is in flight between presses. -/
theorem run_rests (presses : List (Press σ)) (service : σ) :
    (run presses service).1.calculating = false := by
  have keeps : ∀ (press : Press σ) machine, machine.1.calculating = false →
      (press.apply machine).1.calculating = false := by
    intro press machine rests
    obtain ⟨state, generation, -, ended⟩ :=
      Calculator.press_idle rests press.depth press.provider press.name machine.2
    rw [apply, ended]
  exact run_invariant (fun calculator => calculator.calculating = false) rfl keeps presses service

/-- Presses of the buttons of these names by a script, without a service. -/
def unserved (names : List Text) : List (Press Unit) :=
  names.map fun name => ⟨name, .missing, Calculator.scriptDepth⟩

/-! ## Slips

Some presses break what every other press keeps. The first of them in a run can be told by what is
seen after it. -/

section Slips

variable {α : Type} (sound visible : List α → Prop) (slip : List α → α → Prop) {presses : List α}

/-- Either no press of a run is a slip, and what was sound at the start is sound at the end, or the
first slip can be seen. -/
theorem sound_or_first_slip (start : sound [])
    (keeps : ∀ before press, before ++ [press] <+: presses → sound before →
      ¬slip before press → sound (before ++ [press]))
    (breaks : ∀ before press, before ++ [press] <+: presses → sound before →
      slip before press → ¬visible (before ++ [press])) :
    sound presses ∨ ∃ before press, before ++ [press] <+: presses ∧ slip before press ∧
      ¬visible (before ++ [press]) := by
  induction presses using List.reverseRecOn with
  | nil => exact .inl start
  | append_singleton presses press ih =>
    have whole : presses <+: presses ++ [press] := List.prefix_append ..
    rcases ih (fun before other part => keeps before other (part.trans whole))
      (fun before other part => breaks before other (part.trans whole)) with
      holds | ⟨before, first, part, slips, seen⟩
    · by_cases slips : slip presses press
      · exact .inr ⟨presses, press, List.prefix_rfl, slips,
          breaks presses press List.prefix_rfl holds slips⟩
      · exact .inl (keeps presses press List.prefix_rfl holds slips)
    · exact .inr ⟨before, first, part.trans whole, slips, seen⟩

/-- What is seen is right all along a run exactly if none of its presses is a slip. -/
theorem always_visible_iff (start : sound []) (shows : ∀ before, sound before → visible before)
    (keeps : ∀ before press, before ++ [press] <+: presses → sound before →
      ¬slip before press → sound (before ++ [press]))
    (breaks : ∀ before press, before ++ [press] <+: presses → sound before →
      slip before press → ¬visible (before ++ [press])) :
    (∀ before, before <+: presses → visible before) ↔
      ∀ before press, before ++ [press] <+: presses → ¬slip before press := by
  have outcome : ∀ before, before <+: presses → sound before ∨ ∃ earlier press,
      earlier ++ [press] <+: before ∧ slip earlier press ∧ ¬visible (earlier ++ [press]) :=
    fun before part => sound_or_first_slip sound visible slip start
      (fun earlier press within => keeps earlier press (within.trans part))
      (fun earlier press within => breaks earlier press (within.trans part))
  constructor
  · intro always before press part slips
    have earlier : before <+: presses := (List.prefix_append ..).trans part
    rcases outcome before earlier with holds | ⟨first, other, within, -, unseen⟩
    · exact breaks before press part holds slips (always _ part)
    · exact unseen (always _ (within.trans earlier))
  · intro fine before part
    rcases outcome before part with holds | ⟨first, other, within, slips, -⟩
    · exact shows before holds
    · exact absurd slips (fine first other (within.trans part))

end Slips

end Press

end Reckoner
