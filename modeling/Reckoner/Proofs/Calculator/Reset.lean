import Reckoner.Proofs.Calculator.Generation
import Reckoner.Proofs.Calculator.Run

/-!
# Clearing forgets everything

A calculator may be used by something that keeps every calculation it has begun and delivers
outcomes of them in any order, each as often as it likes. Clearing cuts such a use in two. Outcomes
of calculations from before may still come afterwards, but nothing that is seen from then on tells
the calculator from one that has just been switched on (`clear_resets`).

Numbers of generations are only compared and never seen, so the use after a clearing is that of a
new calculator whose generations are numbered from further on. All calculations from before have
smaller numbers than any that is ever current again, and their outcomes are ignored.
-/

namespace Reckoner

/-- A calculator in use. -/
structure Usage (σ : Type) where
  calculator : Calculator
  /-- What stands behind the calculator. -/
  service : σ
  /-- All calculations that were begun, oldest first, whether they have been delivered or not. -/
  begun : List PendingCalculation
  /-- Why steps broke off, oldest first. -/
  faults : List StepError

/-- The reason for which a step broke off, if it did. -/
def StepError.ofStep : Except StepError Unit → List StepError
  | .ok () => []
  | .error e => [e]

/-- A calculation without its number, which is never seen. -/
def PendingCalculation.unnumbered (pending : PendingCalculation) : PendingCalculation :=
  { pending with token := 0 }

/-- A shift is not seen. -/
@[simp] theorem PendingCalculation.unnumbered_shift (pending : PendingCalculation) (count : Nat) :
    (pending.shift count).unnumbered = pending.unnumbered := rfl

namespace Usage

/-- What is done with a calculator in use. -/
inductive Step (σ : Type) where
  | press (press : Press σ)
  /-- Begins a confirmed calculation, which is kept. -/
  | confirm (depth : Nat)
  | clear
  /-- Delivers an outcome of the calculation that was begun at a place, for the first time or once
  more. -/
  | deliver (place : Nat) (outcome : Outcome)

/-- What is done after a clearing: a step of the use that goes on, or the delivery of an outcome
of a calculation from before. -/
inductive StepAmid (σ : Type) where
  | own (step : Step σ)
  | late (place : Nat) (outcome : Outcome)

/-- The step of the use that goes on, if it is one. -/
def StepAmid.own? {σ : Type} : StepAmid σ → Option (Step σ)
  | .own step => some step
  | .late _ _ => none

/-- Everything that can be seen of a calculator in use. -/
structure Sight (σ : Type) where
  state : State
  calculating : Bool
  /-- The preview with each depth that may be left for nesting. -/
  preview : Nat → Except CalculationError (Option Text)
  /-- What the service has come to through the calls that it got. -/
  service : σ
  /-- The operands, operation, trail and quotient of every calculation that was begun. -/
  begun : List PendingCalculation
  faults : List StepError

variable {σ : Type}

/-- A calculator that has just been switched on in front of a service. -/
def new (service : σ) : Usage σ := ⟨.new, service, [], []⟩

/-- Delivers an outcome of a calculation. -/
def receive (pending : PendingCalculation) (outcome : Outcome) (usage : Usage σ) : Usage σ :=
  let (result, calculator) := usage.calculator.finish pending outcome
  { usage with calculator, faults := usage.faults ++ StepError.ofStep result }

/-- What a step does. A place at which nothing was begun is ignored. -/
def step (usage : Usage σ) : Step σ → Usage σ
  | .press press =>
    let (result, calculator, service) :=
      usage.calculator.press press.depth press.provider press.name usage.service
    { usage with calculator, service, faults := usage.faults ++ StepError.ofStep result }
  | .confirm depth =>
    match usage.calculator.begin depth with
    | (.error e, calculator) =>
      { usage with calculator, faults := usage.faults ++ [.calculation e] }
    | (.ok begun, calculator) => { usage with calculator, begun := usage.begun ++ begun.toList }
  | .clear => { usage with calculator := usage.calculator.clear }
  | .deliver place outcome =>
    match usage.begun[place]? with
    | some pending => usage.receive pending outcome
    | none => usage

/-- What a step does after a clearing, before which the calculations of the past were begun. -/
def stepAmid (past : List PendingCalculation) (usage : Usage σ) : StepAmid σ → Usage σ
  | .own step => usage.step step
  | .late place outcome =>
    match past[place]? with
    | some pending => usage.receive pending outcome
    | none => usage

/-- What steps do. -/
def run (usage : Usage σ) (steps : List (Step σ)) : Usage σ := steps.foldl step usage

/-- What steps do after a clearing. -/
def runAmid (past : List PendingCalculation) (usage : Usage σ) (steps : List (StepAmid σ)) :
    Usage σ :=
  steps.foldl (stepAmid past) usage

/-- What is seen of a calculator in use. -/
def seen (usage : Usage σ) : Sight σ where
  state := usage.calculator.state
  calculating := usage.calculator.calculating
  preview depth := usage.calculator.preview depth
  service := usage.service
  begun := usage.begun.map (·.unnumbered)
  faults := usage.faults

/-! ## Generations only grow -/

/-- No calculation that was begun is of a later generation than the current one. -/
def Bounded (usage : Usage σ) : Prop :=
  ∀ pending ∈ usage.begun, pending.token ≤ usage.calculator.generation

end Usage

namespace Calculator

variable {σ : Type}

/-- Whether confirming would put a calculation in flight. -/
def begins (depth : Nat) (calculator : Calculator) : Bool :=
  match (calculator.begin depth).1 with
  | .ok (some _) => true
  | _ => false

/-- Whether pressing the button of a name would start a new generation. -/
def renewedBy (depth : Nat) (name : Text) (calculator : Calculator) : Bool :=
  match Button.ofName? name with
  | some .clear => true
  | some .equals => calculator.begins (depth - 2)
  | _ => false

/-- Beginning starts a new generation exactly if it puts a calculation in flight. -/
theorem generation_begin (depth : Nat) (calculator : Calculator) :
    (calculator.begin depth).2.generation =
      calculator.generation + (calculator.begins depth).toNat := by
  cases busy : calculator.calculating with
  | true => simp only [begins, begin_busy busy, Bool.toNat_false, Nat.add_zero]
  | false =>
    rcases begin_cases busy depth with ⟨e, failed⟩ | ⟨state, settled⟩ | ⟨pending, token, begun⟩
    · simp only [begins, failed, Bool.toNat_false, Nat.add_zero]
    · simp only [begins, settled, Bool.toNat_false, Nat.add_zero]
    · simp only [begins, begun, token, Bool.toNat_true]

/-- A calculation that has just begun is of the current generation. -/
theorem token_begun {depth : Nat} {calculator : Calculator} {pending : PendingCalculation}
    (begun : (calculator.begin depth).1 = .ok (some pending)) :
    pending.token = (calculator.begin depth).2.generation := by
  obtain ⟨-, -, after⟩ := begin_pending (Prod.ext begun rfl)
  exact (congrArg generation after).symm

/-- Delivering stays in the same generation. -/
theorem generation_finish (calculator : Calculator) (pending : PendingCalculation)
    (outcome : Outcome) :
    (calculator.finish pending outcome).2.generation = calculator.generation := by
  by_cases current : pending.token = calculator.generation
  · obtain ⟨state, ended⟩ := finish_current current outcome
    rw [ended]
  · rw [finish_stale current]

/-- Editing stays in the same generation. -/
theorem generation_edit (change : State → State) (calculator : Calculator) :
    (calculator.edit change).generation = calculator.generation := by
  unfold edit
  split
  · rfl
  · rfl

/-- Confirming starts a new generation exactly if it begins a calculation. -/
theorem generation_equals (depth : Nat) (calculator : Calculator) (provider : Provider σ)
    (service : σ) :
    (calculator.equals depth provider service).2.1.generation =
      calculator.generation + (calculator.begins (depth - 1)).toNat := by
  rw [← generation_begin]
  unfold equals
  split
  · rename_i failed
    rw [failed]
  · rename_i settled
    rw [settled]
  · rename_i begun
    rw [begun]
    exact generation_finish ..

/-- Pressing starts a new generation exactly if it clears or begins a calculation. -/
theorem generation_press (depth : Nat) (calculator : Calculator) (provider : Provider σ)
    (name : Text) (service : σ) :
    (calculator.press depth provider name service).2.1.generation =
      calculator.generation + (calculator.renewedBy depth name).toNat := by
  unfold press renewedBy
  cases Button.ofName? name with
  | none => rfl
  | some button =>
    cases button with
    | clear => rfl
    | equals => exact generation_equals (depth - 1) calculator provider service
    | _ => exact generation_edit _ calculator

end Calculator

namespace Usage

variable {σ : Type} {usage : Usage σ}

/-- Calculations stay behind when the generation grows. -/
theorem Bounded.later (bounded : usage.Bounded) {calculator : Calculator}
    (later : usage.calculator.generation ≤ calculator.generation) (service : σ)
    (faults : List StepError) : Bounded ⟨calculator, service, usage.begun, faults⟩ :=
  fun pending member => Nat.le_trans (bounded pending member) later

/-- Every step keeps the calculations behind. -/
theorem Bounded.step (bounded : usage.Bounded) (step : Step σ) : (usage.step step).Bounded := by
  cases step with
  | press press =>
    exact bounded.later (Nat.le.intro (Calculator.generation_press ..).symm) _ _
  | clear => exact bounded.later (Nat.le_succ _) _ _
  | deliver place outcome =>
    simp only [Usage.step]
    cases usage.begun[place]? with
    | none => exact bounded
    | some pending =>
      exact bounded.later (Nat.le_of_eq (Calculator.generation_finish ..).symm) _ _
  | confirm depth =>
    have later : usage.calculator.generation ≤ (usage.calculator.begin depth).2.generation :=
      Nat.le.intro (usage.calculator.generation_begin depth).symm
    have fresh : ∀ pending, (usage.calculator.begin depth).1 = .ok (some pending) →
        pending.token = (usage.calculator.begin depth).2.generation :=
      fun _ begun => Calculator.token_begun begun
    simp only [Usage.step]
    split
    · rename_i e calculator failed
      rw [failed] at later
      exact bounded.later later _ _
    · rename_i begun calculator started
      rw [started] at later fresh
      intro pending member
      rcases List.mem_append.1 member with earlier | last
      · exact Nat.le_trans (bounded pending earlier) later
      · exact Nat.le_of_eq (fresh pending (congrArg Except.ok (Option.mem_toList.1 last)))

/-- Steps keep the calculations behind. -/
theorem Bounded.run (bounded : usage.Bounded) (steps : List (Step σ)) :
    (usage.run steps).Bounded := by
  induction steps generalizing usage with
  | nil => exact bounded
  | cons step steps ih => exact ih (bounded.step step)

/-! ## A use in later generations -/

/-- The same use in later generations. -/
def shift (count : Nat) (usage : Usage σ) : Usage σ where
  calculator := usage.calculator.shift count
  service := usage.service
  begun := usage.begun.map (·.shift count)
  faults := usage.faults

/-- A shift is not seen. -/
theorem seen_shift (count : Nat) (usage : Usage σ) : (usage.shift count).seen = usage.seen := by
  have begun : (usage.begun.map (·.shift count)).map (·.unnumbered) =
      usage.begun.map (·.unnumbered) := by
    rw [List.map_map]
    rfl
  simp only [seen, shift, begun, Calculator.shift_state, Calculator.shift_calculating,
    Calculator.preview]

/-- Delivering commutes with a shift of the use and of what is delivered. -/
theorem receive_shift (count : Nat) (usage : Usage σ) (pending : PendingCalculation)
    (outcome : Outcome) :
    (usage.shift count).receive (pending.shift count) outcome =
      (usage.receive pending outcome).shift count := by
  simp only [receive, shift, Calculator.finish_shift]

/-- An outcome from before the shift is ignored. -/
theorem receive_late {count : Nat} {pending : PendingCalculation} (old : pending.token < count)
    (usage : Usage σ) (outcome : Outcome) :
    (usage.shift count).receive pending outcome = usage.shift count := by
  have stale : pending.token ≠ (usage.calculator.shift count).generation := by
    show pending.token ≠ usage.calculator.generation + count
    omega
  have ignored := Calculator.finish_stale stale outcome
  simp only [receive, shift, ignored, StepError.ofStep, List.append_nil]

/-- Every step commutes with a shift. -/
theorem step_shift (count : Nat) (usage : Usage σ) (step : Step σ) :
    (usage.shift count).step step = (usage.step step).shift count := by
  cases step with
  | press press => simp only [Usage.step, shift, Calculator.press_shift]
  | clear => simp only [Usage.step, shift, Calculator.clear_shift]
  | confirm depth =>
    have begins := Calculator.begin_shift depth usage.calculator count
    simp only [Usage.step, shift, begins]
    obtain ⟨begun, after⟩ := usage.calculator.begin depth
    cases begun with
    | error e => rfl
    | ok begun =>
      cases begun with
      | none => simp only [Except.map, Option.map, Option.toList, List.append_nil]
      | some pending =>
        simp only [Except.map, Option.map, Option.toList, List.map_append, List.map_singleton]
  | deliver place outcome =>
    have waits : (usage.shift count).begun[place]? = usage.begun[place]?.map (·.shift count) :=
      List.getElem?_map
    simp only [Usage.step, waits]
    cases usage.begun[place]? with
    | none => rfl
    | some pending => exact receive_shift count usage pending outcome

/-- After a shift beyond all calculations of the past, steps go as they would in a use without
that past, from which the late outcomes are left out. -/
theorem runAmid_shift {past : List PendingCalculation} {count : Nat}
    (old : ∀ pending ∈ past, pending.token < count) (usage : Usage σ)
    (steps : List (StepAmid σ)) :
    (usage.shift count).runAmid past steps =
      (usage.run (steps.filterMap StepAmid.own?)).shift count := by
  induction steps generalizing usage with
  | nil => rfl
  | cons step steps ih =>
    cases step with
    | own step =>
      have first : (usage.shift count).stepAmid past (.own step) =
          (usage.step step).shift count := step_shift count usage step
      rw [runAmid, List.foldl_cons, first]
      exact ih (usage.step step)
    | late place outcome =>
      have first : (usage.shift count).stepAmid past (.late place outcome) =
          usage.shift count := by
        simp only [stepAmid]
        cases waits : past[place]? with
        | none => rfl
        | some pending =>
          exact receive_late (old pending (List.mem_of_getElem? waits)) usage outcome
      rw [runAmid, List.foldl_cons, first]
      exact ih usage

/-! ## Clearing -/

/-- A use that is cleared and goes on with the service in some state. -/
def cleared (usage : Usage σ) (service : σ) : Usage σ :=
  ⟨usage.calculator.clear, service, [], []⟩

/-- A cleared use is a new one in later generations. -/
theorem cleared_eq_shift (usage : Usage σ) (service : σ) :
    usage.cleared service = (new service).shift (usage.calculator.generation + 1) := by
  simp only [cleared, shift, new, Calculator.clear, Calculator.shift, Calculator.new, List.map_nil,
    Nat.zero_add]

/-- Clearing is a complete reset. Whatever was done before it, and wherever among the steps after it
outcomes of calculations from before are delivered, each any number of times: after every step
there is seen what is seen of a new calculator in front of the same service, with which the same is
done without those deliveries. -/
theorem clear_resets (history : List (Step σ)) (earlier service : σ)
    (continuation : List (StepAmid σ)) (count : Nat) :
    let before := (new earlier).run history
    ((before.cleared service).runAmid before.begun (continuation.take count)).seen =
      ((new service).run ((continuation.take count).filterMap StepAmid.own?)).seen := by
  intro before
  have nothing : (new earlier).Bounded := fun _ none => absurd none List.not_mem_nil
  have old : ∀ pending ∈ before.begun, pending.token < before.calculator.generation + 1 :=
    fun pending member => Nat.lt_succ_of_le (nothing.run history pending member)
  rw [cleared_eq_shift, runAmid_shift old, seen_shift]

/-- A digit, a sign or an equals sign is pressed without a service. -/
private def plain (name : Text) : Step Unit := .press ⟨name, .missing, Calculator.scriptDepth⟩

/-- The outcome of two plus three comes while three plus four is in flight, and changes nothing. -/
example :
    let before := (new ()).run [plain ['2'], plain ['+'], plain ['3'],
      .confirm Calculator.scriptDepth]
    let after := (before.cleared ()).runAmid before.begun [
      .own (plain ['3']), .own (plain ['+']), .own (plain ['4']),
      .own (.confirm Calculator.scriptDepth), .late 0 (.answered (.make (.int 5) .null)), .late 0 .failed]
    (before.begun.map fun pending => (pending.x, pending.y)) = [(2, 3)] ∧
      after.seen.state = .entering ['4'] (some ⟨['3'], .add⟩) ∧ after.seen.calculating = true := by
  decide +kernel

end Usage

end Reckoner
