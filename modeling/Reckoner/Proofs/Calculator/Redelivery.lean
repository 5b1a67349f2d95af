import Reckoner.Proofs.Calculator.Reset

/-!
# Delivering an outcome once more

An outcome counts as long as its calculation is the latest one, and being delivered does not retire
a calculation: whoever holds one has to deliver it once. What a second delivery can still do is
little. It finds nothing in flight, and it is ignored as soon as a later generation has started,
which exactly the clearings and the beginnings of calculations do (`generation_run`). Until then it
shows its outcome again, in place of all that was typed since (`redelivered`).
-/

namespace Reckoner.Usage

variable {σ : Type} {usage : Usage σ}

/-! ## Generations are counted -/

/-- Whether a step starts a new generation: it clears, or it puts a calculation in flight. -/
def renews (usage : Usage σ) : Step σ → Bool
  | .press press => usage.calculator.renewedBy press.depth press.name
  | .confirm depth => usage.calculator.begins depth
  | .clear => true
  | .deliver _ _ => false

/-- How many of some steps start a new generation. -/
def renewals (usage : Usage σ) : List (Step σ) → Nat
  | [] => 0
  | step :: steps => (usage.renews step).toNat + (usage.step step).renewals steps

/-- A step starts a new generation or stays in the same one. -/
theorem generation_step (usage : Usage σ) (step : Step σ) :
    (usage.step step).calculator.generation =
      usage.calculator.generation + (usage.renews step).toNat := by
  cases step with
  | press press => exact Calculator.generation_press ..
  | clear => rfl
  | confirm depth =>
    have begun := usage.calculator.generation_begin depth
    simp only [Usage.step, renews]
    split
    · rename_i failed
      rw [failed] at begun
      exact begun
    · rename_i started
      rw [started] at begun
      exact begun
  | deliver place outcome =>
    simp only [Usage.step]
    cases usage.begun[place]? with
    | none => rfl
    | some pending => exact Calculator.generation_finish ..

/-- The generation after some steps counts those that start one. -/
theorem generation_run (usage : Usage σ) (steps : List (Step σ)) :
    (usage.run steps).calculator.generation =
      usage.calculator.generation + usage.renewals steps := by
  induction steps generalizing usage with
  | nil => rfl
  | cons step steps ih =>
    calc
      ((usage.step step).run steps).calculator.generation =
          (usage.step step).calculator.generation + (usage.step step).renewals steps := ih _
      _ = usage.calculator.generation + usage.renewals (step :: steps) := by
        rw [generation_step, renewals, Nat.add_assoc]

/-! ## Calculations stay where they are -/

/-- A step keeps all calculations that were begun in their places. -/
theorem begun_step (usage : Usage σ) (step : Step σ) : usage.begun <+: (usage.step step).begun := by
  cases step with
  | press press => exact List.prefix_rfl
  | clear => exact List.prefix_rfl
  | confirm depth =>
    simp only [Usage.step]
    split
    · exact List.prefix_rfl
    · exact List.prefix_append ..
  | deliver place outcome =>
    simp only [Usage.step]
    cases usage.begun[place]? with
    | none => exact List.prefix_rfl
    | some pending => exact List.prefix_rfl

/-- Steps keep all calculations that were begun in their places. -/
theorem begun_run (usage : Usage σ) (steps : List (Step σ)) :
    usage.begun <+: (usage.run steps).begun := by
  induction steps generalizing usage with
  | nil => exact List.prefix_rfl
  | cons step steps ih => exact (begun_step usage step).trans (ih _)

/-- A calculation that was begun is found at its place ever after. -/
theorem waits_run {place : Nat} {pending : PendingCalculation}
    (waits : usage.begun[place]? = some pending) (steps : List (Step σ)) :
    (usage.run steps).begun[place]? = some pending := by
  obtain ⟨later, begun⟩ := begun_run usage steps
  obtain ⟨bound, -⟩ := List.getElem?_eq_some_iff.1 waits
  rw [← begun, List.getElem?_append_left bound, waits]

/-- A calculation that begins is in flight and is found at the next place. -/
theorem step_confirm {depth : Nat} {pending : PendingCalculation}
    (begins : (usage.calculator.begin depth).1 = .ok (some pending)) :
    usage.step (.confirm depth) = ⟨⟨usage.calculator.state, true, pending.token⟩, usage.service,
      usage.begun ++ [pending], usage.faults⟩ := by
  have begun : usage.calculator.begin depth =
      (.ok (some pending), (usage.calculator.begin depth).2) := Prod.ext begins rfl
  obtain ⟨-, -, after⟩ := Calculator.begin_pending begun
  rw [after] at begun
  simp only [step, begun, Option.toList]

/-- Delivering what is found at a place. -/
theorem step_deliver {place : Nat} {pending : PendingCalculation}
    (waits : usage.begun[place]? = some pending) (outcome : Outcome) :
    usage.step (.deliver place outcome) = usage.receive pending outcome := by
  simp only [step, waits]

/-! ## Calculations that are over -/

/-- The calculation with a number is over: it is not the latest one, or nothing is in flight. -/
structure Finished (token : Nat) (usage : Usage σ) : Prop where
  old : token ≤ usage.calculator.generation
  rests : token = usage.calculator.generation → usage.calculator.calculating = false

/-- A step that does not start a generation puts nothing in flight. -/
theorem rests_step {step : Step σ} (rests : usage.calculator.calculating = false)
    (same : usage.renews step = false) : (usage.step step).calculator.calculating = false := by
  cases step with
  | press press =>
    obtain ⟨state, generation, -, after⟩ :=
      Calculator.press_idle rests press.depth press.provider press.name usage.service
    simp only [Usage.step, after]
  | clear => rfl
  | confirm depth =>
    rcases Calculator.begin_cases rests depth with
      ⟨e, failed⟩ | ⟨state, settled⟩ | ⟨pending, -, begun⟩
    · simp only [Usage.step, failed, rests]
    · simp only [Usage.step, settled, rests]
    · simp [renews, Calculator.begins, begun] at same
  | deliver place outcome =>
    simp only [Usage.step]
    cases usage.begun[place]? with
    | none => exact rests
    | some pending =>
      by_cases current : pending.token = usage.calculator.generation
      · obtain ⟨state, ended⟩ := Calculator.finish_current current outcome
        simp only [receive, ended]
      · simp only [receive, Calculator.finish_stale current, rests]

/-- What is over stays over. -/
theorem Finished.step {token : Nat} (finished : Finished token usage) (step : Step σ) :
    Finished token (usage.step step) := by
  have after := generation_step usage step
  have old := finished.old
  cases renewed : usage.renews step with
  | true =>
    rw [renewed, Bool.toNat_true] at after
    exact ⟨by omega, fun same => absurd same (by omega)⟩
  | false =>
    rw [renewed, Bool.toNat_false, Nat.add_zero] at after
    rw [← after] at old
    exact ⟨old, fun same => rests_step (finished.rests (same.trans after)) renewed⟩

/-- What is over stays over, whatever is done. -/
theorem Finished.run {token : Nat} (finished : Finished token usage) (steps : List (Step σ)) :
    Finished token (usage.run steps) := by
  induction steps generalizing usage with
  | nil => exact finished
  | cons step steps ih => exact ih (finished.step step)

/-- A calculation that has been delivered is over. -/
theorem finished_receive {pending : PendingCalculation}
    (old : pending.token ≤ usage.calculator.generation) (outcome : Outcome) :
    Finished pending.token (usage.receive pending outcome) := by
  by_cases current : pending.token = usage.calculator.generation
  · obtain ⟨state, ended⟩ := Calculator.finish_current current outcome
    simp only [receive, ended]
    exact ⟨old, fun _ => rfl⟩
  · simp only [receive, Calculator.finish_stale current]
    exact ⟨old, fun same => absurd same current⟩

/-! ## Delivering again -/

/-- An outcome of the latest calculation leads to its state, if it leads to one. -/
theorem receive_latest {pending : PendingCalculation}
    (latest : pending.token = usage.calculator.generation) {outcome : Outcome} {state : State}
    (concluded : Calculator.conclude pending outcome = .ok state) :
    (usage.receive pending outcome).calculator.state = state := by
  simp only [receive, Calculator.finish_concluded latest concluded]

/-- An outcome leaves the state exactly if its calculation is not the latest one or it leads to no
other state. -/
theorem receive_keeps_iff (pending : PendingCalculation) (outcome : Outcome) :
    (usage.receive pending outcome).calculator.state = usage.calculator.state ↔
      pending.token ≠ usage.calculator.generation ∨
        ∀ state, Calculator.conclude pending outcome = .ok state →
          state = usage.calculator.state := by
  by_cases latest : pending.token = usage.calculator.generation
  · cases concluded : Calculator.conclude pending outcome with
    | ok state =>
      rw [receive_latest latest concluded]
      exact ⟨fun same => .inr fun other led => Except.ok.inj led ▸ same,
        fun stays => stays.elim (absurd latest) (fun leads => leads state rfl)⟩
    | error e =>
      have kept : (usage.receive pending outcome).calculator.state = usage.calculator.state := by
        simp only [receive, Calculator.finish_unconcluded latest concluded]
      exact iff_of_true kept (.inr fun state led => by cases led)
  · simp only [receive, Calculator.finish_stale latest, ne_eq, latest, not_false_eq_true, true_or]

/-- What is in flight stays in flight when the calculation of an outcome is over. -/
theorem Finished.receive_calculating {pending : PendingCalculation}
    (finished : Finished pending.token usage) (outcome : Outcome) :
    (usage.receive pending outcome).calculator.calculating = usage.calculator.calculating := by
  by_cases latest : pending.token = usage.calculator.generation
  · obtain ⟨state, ended⟩ := Calculator.finish_current latest outcome
    simp only [receive, ended, finished.rests latest]
  · simp only [receive, Calculator.finish_stale latest]

/-- A calculation that was begun at some point of a use and has been delivered is delivered again,
at any later point and with any outcome. What is in flight, if anything is, stays in flight, and
the generation is the same. The state stays too, exactly if the calculator was cleared or another
calculation was begun since, or the outcome leads to no other state. Otherwise it becomes the state
that the outcome leads to. -/
theorem redelivered (service : σ) (before between after : List (Step σ)) (first again : Outcome)
    {depth : Nat} {pending : PendingCalculation}
    (begins : (((new service).run before).calculator.begin depth).1 = .ok (some pending)) :
    let begun := ((new service).run before).step (.confirm depth)
    let place := ((new service).run before).begun.length
    let since := between ++ .deliver place first :: after
    let present := begun.run since
    let repeated := present.step (.deliver place again)
    repeated.calculator.calculating = present.calculator.calculating ∧
      repeated.calculator.generation = present.calculator.generation ∧
      (repeated.calculator.state = present.calculator.state ↔
        0 < begun.renewals since ∨
          ∀ state, Calculator.conclude pending again = .ok state →
            state = present.calculator.state) ∧
      (begun.renewals since = 0 →
        ∀ state, Calculator.conclude pending again = .ok state →
          repeated.calculator.state = state) := by
  intro begun place since present repeated
  have started : begun = _ := step_confirm begins
  have waits : begun.begun[place]? = some pending := by rw [started, List.getElem?_concat_length]
  have number : begun.calculator.generation = pending.token := by rw [started]
  have finished : Finished pending.token present := by
    have early : pending.token ≤ (begun.run between).calculator.generation := by
      rw [generation_run, number]
      exact Nat.le_add_right ..
    have delivered := (finished_receive early first).run after
    rw [← step_deliver (waits_run waits between)] at delivered
    have split : present =
        ((begun.run between).step (.deliver place first)).run after := List.foldl_append
    rw [split]
    exact delivered
  have latest : pending.token = present.calculator.generation ↔ begun.renewals since = 0 := by
    rw [generation_run begun since, number]
    omega
  have delivers : repeated = present.receive pending again :=
    step_deliver (waits_run waits since) again
  rw [delivers]
  refine ⟨finished.receive_calculating again, Calculator.generation_finish .., ?_,
    fun none state concluded => receive_latest (latest.2 none) concluded⟩
  rw [receive_keeps_iff, ne_eq, latest, Nat.pos_iff_ne_zero]

/-- A button is pressed without a service. -/
def pressed (name : Text) : Step Unit := .press ⟨name, .missing, Calculator.scriptDepth⟩

/-- One plus two is typed. -/
def onePlusTwo : List (Step Unit) := [pressed ['1'], pressed ['+'], pressed ['2']]

/-- A service answers with three. -/
def three : Outcome := .answered (.make (.int 3) .null)

/-- The sum of one and two is shown once more in place of a nine that was typed after it. -/
theorem redelivered_onePlusTwo :
    let begun := ((new ()).run onePlusTwo).step (.confirm Calculator.scriptDepth)
    let since : List (Step Unit) := [.deliver 0 three, pressed ['9']]
    begun.begun = [⟨1, .add, 1, 2, "1 + 2", none⟩] ∧ begun.renewals since = 0 ∧
      ((begun.run since).step (.deliver 0 three)).calculator.calculating = false ∧
      ((begun.run since).step (.deliver 0 three)).calculator.state =
        .calculated "3" "1 + 2 = 3" := by
  have begins : (((new ()).run onePlusTwo).calculator.begin Calculator.scriptDepth).1 =
      .ok (some ⟨1, .add, 1, 2, "1 + 2", none⟩) := by decide +kernel
  have place : ((new ()).run onePlusTwo).begun.length = 0 := by decide +kernel
  have stated := redelivered () onePlusTwo [] [pressed ['9']] three three begins
  simp only [place, List.nil_append] at stated
  obtain ⟨calculating, -, -, state⟩ := stated
  have concluded : Calculator.conclude ⟨1, .add, 1, 2, "1 + 2", none⟩ three =
      .ok (.calculated "3" "1 + 2 = 3") := by decide +kernel
  refine ⟨by decide +kernel, by decide +kernel, ?_, state (by decide +kernel) _ concluded⟩
  rw [calculating]
  decide +kernel

/-- A nine is shown after the sum of one and two has been delivered, and does not survive a second
delivery of the same outcome. -/
theorem nine_not_kept :
    let typed := ((new ()).run onePlusTwo).run
      [.confirm Calculator.scriptDepth, .deliver 0 three, pressed ['9']]
    let repeated := typed.step (.deliver 0 three)
    typed.calculator.state = .entering "9" none ∧
      repeated.calculator.state ≠ typed.calculator.state := by
  decide +kernel

end Reckoner.Usage
