import Reckoner.Proofs.Calculator.Generation

/-!
# Sessions with late outcomes

A calculator in use by something that begins calculations, has them computed elsewhere, and
delivers each outcome when it comes, in any order and at most once. Between these steps buttons
are pressed and the calculator is cleared. The history of a session tells which calculation is in
flight: the last one begun, unless its outcome was delivered or a clearing came after it.

The main result (`session_serializes`) compares a session with a serial run, in which nothing is
ever in flight: refused inputs and abandoned calculations are dropped from it, what is settled at
once is begun in it likewise, and every other calculation is confirmed in one step at the time of
its delivery. The invariant behind it (`Coherent`) ties the flag, the generation and the undelivered
calculations to the history.
-/

namespace Reckoner

/-- What the history of a session records. -/
inductive Event where
  | began (pending : PendingCalculation)
  | delivered (pending : PendingCalculation)
  | cleared
  deriving DecidableEq

/-- A calculator with the calculations that were begun for it and not delivered yet, oldest first,
and with its history, newest first. -/
structure Session where
  calculator : Calculator
  undelivered : List PendingCalculation
  history : List Event

/-- What is done with a calculator in a session. Every press finds the service in some state of
its own, and what evaluates an expression has some depth left for nesting. -/
inductive Input (σ : Type) where
  | press (depth : Nat) (name : Text) (service : σ)
  /-- Begins a confirmed calculation, which waits for its outcome. -/
  | confirm (depth : Nat)
  | clear
  /-- Delivers an outcome of the undelivered calculation at a place. -/
  | deliver (place : Nat) (outcome : Outcome)

/-- A step of a serial run. -/
inductive SerialStep (σ : Type) where
  | press (depth : Nat) (name : Text) (service : σ)
  | clear
  /-- Begins what is settled at once. -/
  | settle (depth : Nat)
  /-- Confirms and gets an outcome, all in one step. -/
  | equals (outcome : Outcome)

/-- Whether an input is refused while a calculation is in flight: any button but the one that
clears, and confirming. -/
def Input.isRefusable {σ : Type} : Input σ → Bool
  | .press _ name _ => Button.ofName? name != some .clear
  | .confirm _ => true
  | _ => false

namespace Event

/-- The last calculation begun, unless it has been delivered or a clearing came after it. -/
def inFlight? : List Event → Option PendingCalculation
  | [] => none
  | .began pending :: _ => some pending
  | .cleared :: _ => none
  | .delivered pending :: earlier => (inFlight? earlier).filter (· ≠ pending)

/-- A calculation is in flight when it is the last one begun and neither its delivery nor a
clearing came later. -/
def InFlight (history : List Event) (pending : PendingCalculation) : Prop :=
  ∃ later earlier, history = later ++ .began pending :: earlier ∧
    ∀ event ∈ later, event ≠ .delivered pending ∧ event ≠ .cleared ∧
      ∀ other, event ≠ .began other

/-- The events of pressing a button, newest first. The button for equals begins a calculation and
delivers its outcome at once. -/
def ofPress (depth : Nat) (name : Text) (calculator : Calculator) : List Event :=
  match Button.ofName? name with
  | some .clear => [.cleared]
  | some .equals =>
    match calculator.begin (depth - 2) with
    | (.ok (some pending), _) => [.delivered pending, .began pending]
    | _ => []
  | _ => []

end Event

namespace Session

variable {σ : Type}

/-- A session with a calculator that has just been switched on. -/
def new : Session := ⟨.new, [], []⟩

/-- What an input does. A place at which nothing waits is ignored. -/
def step (provider : Provider σ) (session : Session) : Input σ → Session
  | .press depth name service =>
    { session with
      calculator := (session.calculator.press depth provider name service).2.1
      history := Event.ofPress depth name session.calculator ++ session.history }
  | .confirm depth =>
    match session.calculator.begin depth with
    | (.ok (some pending), calculator) =>
      ⟨calculator, session.undelivered ++ [pending], .began pending :: session.history⟩
    | (_, calculator) => { session with calculator }
  | .clear =>
    { session with
      calculator := session.calculator.clear
      history := .cleared :: session.history }
  | .deliver place outcome =>
    match session.undelivered[place]? with
    | none => session
    | some pending =>
      ⟨(session.calculator.finish pending outcome).2, session.undelivered.eraseIdx place,
        .delivered pending :: session.history⟩

/-- A session after inputs. -/
def run (provider : Provider σ) (session : Session) (inputs : List (Input σ)) : Session :=
  inputs.foldl (step provider) session

/-- The step that an input becomes in the serial run, if it is not dropped. Dropped are inputs
that are refused, the beginnings of calculations that need an outcome, and outcomes of abandoned
calculations. -/
def serialStep? (session : Session) : Input σ → Option (SerialStep σ)
  | .press depth name service =>
    if (Event.inFlight? session.history).isSome ∧ Button.ofName? name ≠ some .clear then none
    else some (.press depth name service)
  | .confirm depth =>
    if (Event.inFlight? session.history).isSome then none
    else
      match session.calculator.begin depth with
      | (.ok (some _), _) => none
      | _ => some (.settle depth)
  | .clear => some .clear
  | .deliver place outcome =>
    match session.undelivered[place]? with
    | none => none
    | some pending =>
      if Event.inFlight? session.history = some pending then some (.equals outcome) else none

/-- The steps of the serial run, at the places of the inputs that they come from. -/
def serial (provider : Provider σ) (session : Session) :
    List (Input σ) → List (Option (SerialStep σ))
  | [] => []
  | input :: inputs =>
    session.serialStep? input :: serial provider (session.step provider input) inputs

end Session

/-- A service whose calls all have the same outcome. -/
def Provider.giving (outcome : Outcome) : Provider Unit := fun _ _ _ service =>
  match outcome with
  | .answered answer => (.ok answer, service)
  | .failed => (.error (.unavailable []), service)

namespace SerialStep

variable {σ : Type}

/-- What a step of a serial run does, where calculations are confirmed with some depth left. -/
def apply (confirming : Nat) (provider : Provider σ) (calculator : Calculator) :
    SerialStep σ → Calculator
  | .press depth name service => (calculator.press depth provider name service).2.1
  | .clear => calculator.clear
  | .settle depth => (calculator.begin depth).2
  | .equals outcome => (calculator.equals confirming (.giving outcome) ()).2.1

end SerialStep

/-- A calculator after a serial run. -/
def Calculator.runSerial {σ : Type} (confirming : Nat) (provider : Provider σ)
    (calculator : Calculator) (steps : List (SerialStep σ)) : Calculator :=
  steps.foldl (SerialStep.apply confirming provider) calculator

/-! ## The calculation in flight -/

namespace Event

/-- The history names the calculation in flight. -/
theorem inFlight?_eq_some_iff {history : List Event} {pending : PendingCalculation} :
    inFlight? history = some pending ↔ InFlight history pending := by
  induction history with
  | nil =>
    constructor
    · intro found
      cases found
    · rintro ⟨later, earlier, split, -⟩
      cases later <;> cases split
  | cons event history ih =>
    constructor
    · intro found
      cases event with
      | began last =>
        obtain rfl : last = pending := Option.some.inj found
        exact ⟨[], history, rfl, fun _ none => absurd none List.not_mem_nil⟩
      | cleared => cases found
      | delivered done =>
        obtain ⟨earlierFound, different⟩ := Option.filter_eq_some_iff.mp found
        obtain ⟨later, earlier, rfl, quiet⟩ := ih.mp earlierFound
        refine ⟨.delivered done :: later, earlier, rfl, ?_⟩
        intro event member
        rcases List.mem_cons.mp member with rfl | member
        · have : done ≠ pending := fun same => by simp [same] at different
          simpa using this
        · exact quiet event member
    · rintro ⟨later, earlier, split, quiet⟩
      cases later with
      | nil =>
        obtain ⟨rfl, rfl⟩ := List.cons.inj split
        rfl
      | cons first later =>
        obtain ⟨rfl, rfl⟩ := List.cons.inj split
        have head := quiet event List.mem_cons_self
        have rest := ih.mpr ⟨later, earlier, rfl, fun other member =>
          quiet other (List.mem_cons_of_mem _ member)⟩
        cases event with
        | began last => exact absurd rfl (head.2.2 last)
        | cleared => exact absurd rfl head.2.1
        | delivered done =>
          have different : pending ≠ done := fun same => head.1 (same ▸ rfl)
          have kept := rest
          rw [List.append_eq] at kept ⊢
          simp [inFlight?, kept, different]

/-- While a calculation is in flight, no button but the one that clears makes an event. -/
theorem ofPress_busy {calculator : Calculator} (busy : calculator.calculating = true)
    {depth : Nat} {name : Text} (other : Button.ofName? name ≠ some .clear) :
    ofPress depth name calculator = [] := by
  unfold ofPress
  split
  · exact absurd ‹_› other
  · rw [Calculator.begin_busy busy]
  · rfl

/-- A press leaves no calculation in flight in the history if none was. -/
theorem inFlight?_ofPress (depth : Nat) (name : Text) (calculator : Calculator)
    {history : List Event} (quiet : inFlight? history = none) :
    inFlight? (ofPress depth name calculator ++ history) = none := by
  unfold ofPress
  split
  · rfl
  · split
    · simp [inFlight?]
    · exact quiet
  · exact quiet

end Event

/-! ## The invariant -/

namespace Session

variable {σ : Type}

/-- What holds of a session at all times. -/
structure Coherent (session : Session) : Prop where
  /-- The flag says whether a calculation is in flight. -/
  flag : session.calculator.calculating = (Event.inFlight? session.history).isSome
  /-- Beginning the calculation in flight has put the calculator where it is now. -/
  begun : ∀ pending, Event.inFlight? session.history = some pending →
    ∃ (before : Calculator) (depth : Nat),
      before.begin depth = (.ok (some pending), session.calculator)
  /-- No undelivered calculation comes from a later generation. -/
  bounded : ∀ pending ∈ session.undelivered, pending.token ≤ session.calculator.generation
  /-- Of the undelivered calculations only the one in flight is of the current generation. -/
  current : ∀ pending ∈ session.undelivered, pending.token = session.calculator.generation →
    Event.inFlight? session.history = some pending
  /-- No two undelivered calculations share a generation. -/
  distinct : (session.undelivered.map (·.token)).Nodup

/-- At rest a session is coherent when every undelivered calculation is of an older generation. -/
theorem coherent_of_rest {session : Session} (rest : session.calculator.calculating = false)
    (quiet : Event.inFlight? session.history = none)
    (old : ∀ pending ∈ session.undelivered, pending.token < session.calculator.generation)
    (distinct : (session.undelivered.map (·.token)).Nodup) : session.Coherent where
  flag := by rw [rest, quiet]; rfl
  begun pending found := by rw [quiet] at found; cases found
  bounded pending member := Nat.le_of_lt (old pending member)
  current pending member same := absurd same (Nat.ne_of_lt (old pending member))
  distinct := distinct

namespace Coherent

variable {session : Session}

/-- At rest the history has no calculation in flight. -/
theorem quiet (coherent : session.Coherent) (rest : session.calculator.calculating = false) :
    Event.inFlight? session.history = none := by
  have flag := coherent.flag
  rw [rest] at flag
  exact Option.isSome_eq_false_iff.mp flag.symm |> Option.isNone_iff_eq_none.mp

/-- At rest every undelivered calculation is of an older generation. -/
theorem old (coherent : session.Coherent) (rest : session.calculator.calculating = false) :
    ∀ pending ∈ session.undelivered, pending.token < session.calculator.generation := by
  intro pending member
  refine Nat.lt_of_le_of_ne (coherent.bounded pending member) ?_
  intro same
  have found := coherent.current pending member same
  rw [coherent.quiet rest] at found
  cases found

/-- The calculation in flight is of the current generation. -/
theorem token (coherent : session.Coherent) {pending : PendingCalculation}
    (found : Event.inFlight? session.history = some pending) :
    pending.token = session.calculator.generation := by
  obtain ⟨before, depth, begun⟩ := coherent.begun pending found
  obtain ⟨-, -, after⟩ := Calculator.begin_pending begun
  rw [after]

/-- An undelivered calculation that is not in flight is of another generation. -/
theorem stale (coherent : session.Coherent) {pending : PendingCalculation}
    (member : pending ∈ session.undelivered)
    (abandoned : Event.inFlight? session.history ≠ some pending) :
    pending.token ≠ session.calculator.generation :=
  fun same => abandoned (coherent.current pending member same)

/-- Clearing keeps a session coherent, whatever is in flight. -/
theorem clear (coherent : session.Coherent) :
    Coherent ⟨session.calculator.clear, session.undelivered, .cleared :: session.history⟩ :=
  coherent_of_rest rfl rfl
    (fun pending member => Nat.lt_succ_of_le (coherent.bounded pending member)) coherent.distinct

/-- Pressing a button keeps a session coherent. -/
theorem press (coherent : session.Coherent) (provider : Provider σ) (depth : Nat) (name : Text)
    (service : σ) : (session.step provider (.press depth name service)).Coherent := by
  by_cases clears : Button.ofName? name = some .clear
  · have events : Event.ofPress depth name session.calculator = [.cleared] := by
      simp only [Event.ofPress, clears]
    simp only [step, Calculator.press_clear _ provider service clears, events]
    exact coherent.clear
  · cases rest : session.calculator.calculating with
    | true =>
      simp only [step, Calculator.press_busy rest provider service clears,
        Event.ofPress_busy rest clears, List.nil_append]
      exact coherent
    | false =>
      obtain ⟨state, generation, later, after⟩ :=
        Calculator.press_idle rest depth provider name service
      have events := Event.inFlight?_ofPress depth name session.calculator (coherent.quiet rest)
      simp only [step, after]
      exact coherent_of_rest rfl events
        (fun pending member => Nat.lt_of_lt_of_le (coherent.old rest pending member) later)
        coherent.distinct

/-- Beginning a calculation keeps a session coherent. -/
theorem confirm (coherent : session.Coherent) (provider : Provider σ) (depth : Nat) :
    (session.step provider (.confirm depth)).Coherent := by
  cases rest : session.calculator.calculating with
  | true =>
    simp only [step, Calculator.begin_busy rest]
    exact coherent
  | false =>
    rcases Calculator.begin_cases rest depth with
      ⟨e, failed⟩ | ⟨state, settled⟩ | ⟨pending, token, begun⟩
    · simp only [step, failed]
      exact coherent
    · simp only [step, settled]
      exact coherent_of_rest rest (coherent.quiet rest) (coherent.old rest) coherent.distinct
    · simp only [step, begun]
      have older := coherent.old rest
      refine ⟨rfl, ?_, ?_, ?_, ?_⟩
      · intro found same
        obtain rfl : pending = found := Option.some.inj same
        exact ⟨session.calculator, depth, begun⟩
      · intro other member
        show other.token ≤ pending.token
        rcases List.mem_append.mp member with earlier | last
        · have := older other earlier
          omega
        · exact Nat.le_of_eq (congrArg (·.token) (List.mem_singleton.mp last))
      · intro other member same
        rcases List.mem_append.mp member with earlier | last
        · have := older other earlier
          have : other.token = pending.token := same
          omega
        · rw [List.mem_singleton.mp last]
          rfl
      · rw [List.map_append, List.nodup_append]
        refine ⟨coherent.distinct, by simp, ?_⟩
        intro left leftMember right rightMember same
        obtain ⟨other, member, rfl⟩ := List.mem_map.mp leftMember
        obtain rfl := List.mem_singleton.mp rightMember
        have := older other member
        have : other.token = pending.token := same
        omega

/-- Delivering an outcome keeps a session coherent, whether it counts or not. -/
theorem deliver (coherent : session.Coherent) (provider : Provider σ) (place : Nat)
    (outcome : Outcome) : (session.step provider (.deliver place outcome)).Coherent := by
  cases waits : session.undelivered[place]? with
  | none =>
    simp only [step, waits]
    exact coherent
  | some pending =>
    obtain ⟨inside, same⟩ := List.getElem?_eq_some_iff.mp waits
    have member : pending ∈ session.undelivered := same ▸ List.getElem_mem inside
    have kept : session.undelivered.eraseIdx place ⊆ session.undelivered :=
      (List.eraseIdx_sublist _ _).subset
    have distinct : ((session.undelivered.eraseIdx place).map (·.token)).Nodup :=
      ((List.eraseIdx_sublist _ _).map _).nodup coherent.distinct
    -- tokens tell undelivered calculations apart, so nothing else is erased with this one
    have others : ∀ other ∈ session.undelivered.eraseIdx place,
        other.token ≠ pending.token := by
      intro other otherMember
      obtain ⟨index, apart, found⟩ := List.mem_eraseIdx_iff_getElem?.mp otherMember
      intro tokens
      have bound : index < (session.undelivered.map (·.token)).length := by
        rw [List.length_map]
        exact (List.getElem?_eq_some_iff.mp found).1
      refine apart ((List.getElem?_inj bound coherent.distinct).mp ?_)
      rw [List.getElem?_map, List.getElem?_map, found, waits]
      exact congrArg some tokens
    simp only [step, waits]
    by_cases counts : Event.inFlight? session.history = some pending
    · obtain ⟨state, ended⟩ := Calculator.finish_current (coherent.token counts) outcome
      refine coherent_of_rest (by rw [ended]) (by simp [Event.inFlight?, counts]) ?_ distinct
      intro other otherMember
      rw [ended]
      refine Nat.lt_of_le_of_ne (coherent.bounded other (kept otherMember)) ?_
      rw [← coherent.token counts]
      exact others other otherMember
    · have ignored := Calculator.finish_stale (coherent.stale member counts) outcome
      have history : Event.inFlight? (.delivered pending :: session.history) =
          Event.inFlight? session.history := by
        cases inFlight : Event.inFlight? session.history with
        | none => simp only [Event.inFlight?, inFlight, Option.filter_none]
        | some found =>
          have different : found ≠ pending := fun same => counts (same ▸ inFlight)
          simp [Event.inFlight?, inFlight, different]
      simp only [ignored]
      exact {
        flag := history ▸ coherent.flag
        begun := history ▸ coherent.begun
        bounded := fun other otherMember => coherent.bounded other (kept otherMember)
        current := fun other otherMember tokens =>
          history ▸ coherent.current other (kept otherMember) tokens
        distinct }

/-- Every input keeps a session coherent. -/
theorem step (coherent : session.Coherent) (provider : Provider σ) (input : Input σ) :
    (session.step provider input).Coherent := by
  cases input with
  | press depth name service => exact coherent.press provider depth name service
  | confirm depth => exact coherent.confirm provider depth
  | clear => exact coherent.clear
  | deliver place outcome => exact coherent.deliver provider place outcome

/-- Inputs keep a session coherent. -/
theorem run (coherent : session.Coherent) (provider : Provider σ) (inputs : List (Input σ)) :
    (session.run provider inputs).Coherent := by
  induction inputs generalizing session with
  | nil => exact coherent
  | cons input inputs ih => exact ih (coherent.step provider input)

end Coherent

/-- A session with a new calculator is coherent. -/
theorem new_coherent : new.Coherent :=
  coherent_of_rest rfl rfl (fun _ member => absurd member List.not_mem_nil) List.nodup_nil

/-! ## The serial run -/

/-- Refused inputs leave the calculator as it is while a calculation is in flight. -/
theorem step_refused {session : Session} (busy : session.calculator.calculating = true)
    (provider : Provider σ) {input : Input σ} (refusable : input.isRefusable = true) :
    (session.step provider input).calculator = session.calculator := by
  cases input with
  | press depth name service =>
    have other : Button.ofName? name ≠ some .clear := by
      simpa [Input.isRefusable] using refusable
    simp only [step, Calculator.press_busy busy provider service other]
  | confirm depth => simp only [step, Calculator.begin_busy busy]
  | clear => simp [Input.isRefusable] at refusable
  | deliver place outcome => simp [Input.isRefusable] at refusable

/-- A session and a calculator of a serial run show the same state, and in the serial run nothing
is in flight. -/
structure Follows (session : Session) (serial : Calculator) : Prop where
  state : serial.state = session.calculator.state
  rest : serial.calculating = false

/-- Confirming in one step gives the outcome to the calculation that it begins. -/
theorem equals_giving {before after : Calculator} {pending : PendingCalculation} {depth : Nat}
    (begun : before.begin depth = (.ok (some pending), after)) (confirming : Nat)
    (outcome : Outcome) :
    (before.equals confirming (.giving outcome) ()).2.1 = (after.finish pending outcome).2 := by
  unfold Calculator.equals
  rw [Calculator.begin_pending_depth begun]
  cases outcome <;> rfl

/-- An input and the step that it becomes in the serial run lead to the same state. A dropped
input leaves the state as it is. -/
theorem Follows.step {session : Session} {serial : Calculator} (follows : session.Follows serial)
    (coherent : session.Coherent) (confirming : Nat) (provider : Provider σ) (input : Input σ) :
    (session.step provider input).Follows
      (((session.serialStep? input).map (SerialStep.apply confirming provider serial)).getD
        serial) := by
  obtain ⟨states, rest⟩ := follows
  cases input with
  | press depth name service =>
    by_cases refused : (Event.inFlight? session.history).isSome ∧
        Button.ofName? name ≠ some .clear
    · have busy : session.calculator.calculating = true := coherent.flag.trans refused.1
      simp only [serialStep?, if_pos refused, Session.step,
        Calculator.press_busy busy provider service refused.2]
      exact ⟨states, rest⟩
    · simp only [serialStep?, if_neg refused, Option.map_some, Option.getD_some,
        SerialStep.apply, Session.step]
      by_cases clears : Button.ofName? name = some .clear
      · simp only [Calculator.press_clear _ provider service clears]
        exact ⟨rfl, rfl⟩
      · have idle : session.calculator.calculating = false := by
          rw [coherent.flag]
          exact Bool.eq_false_iff.mpr fun inFlight => refused ⟨inFlight, clears⟩
        obtain ⟨state, generation, -, after⟩ :=
          Calculator.press_idle rest depth provider name service
        exact ⟨Calculator.press_state states (rest.trans idle.symm) depth provider name service,
          by rw [after]⟩
  | confirm depth =>
    cases busy : session.calculator.calculating with
    | true =>
      have inFlight : (Event.inFlight? session.history).isSome = true := coherent.flag ▸ busy
      simp only [serialStep?, if_pos inFlight, Session.step, Calculator.begin_busy busy]
      exact ⟨states, rest⟩
    | false =>
      have quiet : ¬(Event.inFlight? session.history).isSome = true := by
        rw [coherent.quiet busy]
        exact Bool.false_ne_true
      obtain ⟨same, flags⟩ := Calculator.begin_state states (rest.trans busy.symm) depth
      rcases Calculator.begin_cases busy depth with
        ⟨e, failed⟩ | ⟨settled, done⟩ | ⟨pending, -, begun⟩
      · rw [failed] at same flags
        simp only [serialStep?, if_neg quiet, Session.step, failed]
        exact ⟨same, flags.trans busy⟩
      · rw [done] at same flags
        simp only [serialStep?, if_neg quiet, Session.step, done]
        exact ⟨same, flags.trans busy⟩
      · simp only [serialStep?, if_neg quiet, Session.step, begun]
        exact ⟨states, rest⟩
  | clear => exact ⟨rfl, rfl⟩
  | deliver place outcome =>
    cases waits : session.undelivered[place]? with
    | none =>
      simp only [serialStep?, Session.step, waits]
      exact ⟨states, rest⟩
    | some pending =>
      by_cases counts : Event.inFlight? session.history = some pending
      · obtain ⟨before, depth, begun⟩ := coherent.begun pending counts
        obtain ⟨idle, -, after⟩ := Calculator.begin_pending begun
        have unchanged : before.state = session.calculator.state := by rw [after]
        have same := Calculator.equals_state (states.trans unchanged.symm)
          (rest.trans idle.symm) confirming (Provider.giving outcome) ()
        rw [equals_giving begun] at same
        obtain ⟨state, generation, -, ended⟩ :=
          Calculator.equals_idle rest confirming (Provider.giving outcome) ()
        simp only [serialStep?, Session.step, waits, if_pos counts]
        exact ⟨same, by simp only [Option.map_some, Option.getD_some, SerialStep.apply, ended]⟩
      · have member : pending ∈ session.undelivered := List.mem_of_getElem? waits
        simp only [serialStep?, Session.step, waits, if_neg counts,
          Calculator.finish_stale (coherent.stale member counts)]
        exact ⟨states, rest⟩

/-- A session shows the states of its serial run. -/
theorem Follows.run {session : Session} {serial : Calculator} (follows : session.Follows serial)
    (coherent : session.Coherent) (confirming : Nat) (provider : Provider σ)
    (inputs : List (Input σ)) :
    (session.run provider inputs).Follows
      (serial.runSerial confirming provider ((session.serial provider inputs).filterMap id)) := by
  induction inputs generalizing session serial with
  | nil => exact follows
  | cons input inputs ih =>
    have next := ih (follows.step coherent confirming provider input)
      (coherent.step provider input)
    cases step : session.serialStep? input with
    | none =>
      rw [step] at next
      rw [Session.serial, step]
      exact next
    | some serialStep =>
      rw [step] at next
      rw [Session.serial, step]
      exact next

/-- The serial run of the first inputs is the beginning of the serial run of all. -/
theorem serial_take (provider : Provider σ) (session : Session) (inputs : List (Input σ))
    (count : Nat) :
    session.serial provider (inputs.take count) = (session.serial provider inputs).take count := by
  induction inputs generalizing session count with
  | nil => simp only [List.take_nil, serial]
  | cons input inputs ih =>
    cases count with
    | zero => rfl
    | succ count => simp only [List.take_succ_cons, serial, ih]

/-- Late outcomes do no harm. In every session with a new calculator, whatever is pressed, begun,
cleared and delivered in whatever order: a calculation is in flight exactly if the last one begun
has been neither delivered nor followed by a clearing; delivering any other one changes nothing;
while one is in flight every input but clearing is refused; and the states shown are those of the
serial run of as many inputs, with whatever depth its calculations are confirmed. -/
theorem session_serializes (provider : Provider σ) (inputs : List (Input σ)) :
    ((new.run provider inputs).calculator.calculating = true ↔
      ∃ pending, Event.InFlight (new.run provider inputs).history pending) ∧
    (∀ place pending outcome, (new.run provider inputs).undelivered[place]? = some pending →
      ¬Event.InFlight (new.run provider inputs).history pending →
      ((new.run provider inputs).step provider (.deliver place outcome)).calculator =
        (new.run provider inputs).calculator) ∧
    ((new.run provider inputs).calculator.calculating = true →
      ∀ input : Input σ, input.isRefusable = true →
        ((new.run provider inputs).step provider input).calculator =
          (new.run provider inputs).calculator) ∧
    ∀ confirming count, (new.run provider (inputs.take count)).calculator.state =
      (Calculator.new.runSerial confirming provider
        (((new.serial provider inputs).take count).filterMap id)).state := by
  have coherent := new_coherent.run provider inputs
  refine ⟨?_, ?_, ?_, ?_⟩
  · rw [coherent.flag, Option.isSome_iff_exists]
    exact exists_congr fun _ => Event.inFlight?_eq_some_iff
  · intro place pending outcome waits abandoned
    have member := List.mem_of_getElem? waits
    have stale := coherent.stale member fun found =>
      abandoned (Event.inFlight?_eq_some_iff.mp found)
    simp only [step, waits, Calculator.finish_stale stale]
  · intro busy input refusable
    exact step_refused busy provider refusable
  · intro confirming count
    have start : new.Follows .new := ⟨rfl, rfl⟩
    have follows := start.run new_coherent confirming provider (inputs.take count)
    rw [serial_take] at follows
    exact follows.state.symm

end Session

end Reckoner
