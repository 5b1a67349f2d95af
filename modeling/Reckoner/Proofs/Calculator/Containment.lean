import Reckoner.Proofs.Calculator.Confirm
import Reckoner.Proofs.Calculator.Reset
import Reckoner.Proofs.Decimal.Whole
import Reckoner.Proofs.Service.Local

/-!
# What a service can do to a calculator

A calculation in flight is refused every confirmation, and any other confirmation ends with nothing
in flight, whatever the service does: it is asked at most once, for the integers in the operands,
and all that can come of it is a result or a failure. On a quotient it has no influence at all,
since that is known before the service is asked.
-/

namespace Reckoner

/-! ## Calls -/

/-- A call of a service: an operation on two integers. -/
structure ServiceCall where
  operator : Operator
  x : Int
  y : Int
  deriving DecidableEq, Repr

/-- The call that a pending calculation makes. -/
def PendingCalculation.call (pending : PendingCalculation) : ServiceCall :=
  ⟨pending.operator, pending.x, pending.y⟩

/-- A provider that also writes down the calls that it gets, oldest first. -/
def Provider.recorded {σ : Type} (provider : Provider σ) : Provider (σ × List ServiceCall) :=
  fun operator x y state =>
    let (answer, service) := provider operator x y state.1
    (answer, service, state.2 ++ [⟨operator, x, y⟩])

namespace Calculator

variable {σ : Type} {calculator : Calculator} {chosen : Chosen} {display : Text} {x y : Decimal}

/-- The calls that confirming makes: that of the calculation that begins, if one does. -/
def calls (depth : Nat) (calculator : Calculator) : List ServiceCall :=
  match (calculator.begin (depth - 1)).1 with
  | .ok (some pending) => [pending.call]
  | _ => []

/-- Only an operation on two decimals makes a call, with the integers in them. -/
theorem calls_cases (depth : Nat) (calculator : Calculator) : calculator.calls depth = [] ∨
    ∃ chosen display x y, calculator.Ready chosen display x y ∧
      calculator.calls depth = [⟨chosen.operator, x.truncate, y.truncate⟩] := by
  unfold calls
  split
  · rename_i pending begun
    right
    obtain ⟨rests, -, -⟩ := begin_pending (Prod.ext begun rfl)
    unfold begin at begun
    simp only [rests, Bool.false_eq_true, ↓reduceIte] at begun
    split at begun
    · cases begun
    · rename_i display chosen state
      split at begun
      · rename_i x y first second
        split at begun
        · cases begun
        · split at begun
          · cases begun
          · rename_i made
            obtain rfl := Option.some.inj (Except.ok.inj begun)
            refine ⟨chosen, display, x, y, ⟨rests, state, first, second⟩, ?_⟩
            rw [(pendingOf_parts made).1]
            rfl
      · cases begun
    · cases begun
  · exact .inl rfl

/-- Writing down the calls changes nothing else. -/
theorem equals_recorded (depth : Nat) (calculator : Calculator) (provider : Provider σ)
    (service : σ) (earlier : List ServiceCall) :
    calculator.equals depth provider.recorded (service, earlier) =
      ((calculator.equals depth provider service).1,
        (calculator.equals depth provider service).2.1,
        (calculator.equals depth provider service).2.2, earlier ++ calculator.calls depth) := by
  unfold equals calls
  obtain ⟨begun, after⟩ := calculator.begin (depth - 1)
  cases begun with
  | error e => simp
  | ok begun =>
    cases begun with
    | none => simp
    | some pending => rfl

/-! ## Outcomes -/

/-- Confirming at rest ends at rest. -/
theorem equals_rests (rests : calculator.calculating = false) (depth : Nat)
    (provider : Provider σ) (service : σ) :
    (calculator.equals depth provider service).2.1.calculating = false := by
  obtain ⟨state, generation, -, after⟩ := equals_idle rests depth provider service
  rw [after]

/-- Confirming makes at most one call, with the integers in the operands. -/
theorem calls_recorded (depth : Nat) (calculator : Calculator) (provider : Provider σ)
    (service : σ) :
    let confirmed := calculator.equals depth provider service
    let recorded := calculator.equals depth provider.recorded (service, [])
    (recorded.1, recorded.2.1, recorded.2.2.1) = confirmed ∧
      (recorded.2.2.2 = [] ∨ ∃ chosen display x y, calculator.Ready chosen display x y ∧
        recorded.2.2.2 = [⟨chosen.operator, x.truncate, y.truncate⟩]) := by
  intro confirmed recorded
  have same : recorded = _ := calculator.equals_recorded depth provider service []
  rw [same]
  exact ⟨rfl, calculator.calls_cases depth⟩

/-- The result of an operation other than a division is exactly what the service answers. -/
theorem Ready.equals_integer (ready : calculator.Ready chosen display x y)
    (other : chosen.operator ≠ .divide) {provider : Provider σ} {service after : σ}
    {answer : Answer} {result : Int}
    (answered : provider chosen.operator x.truncate y.truncate service = (.ok answer, after))
    (named : answer.result? = some (.int result))
    (short : Text.exceedsDigitLimit result = false) (depth : Nat) :
    calculator.equals depth provider service =
      (.ok (), ⟨.calculated (Text.ofInt result)
        (chosen.trailWith display ++ " = " ++ Text.ofInt result), false,
        calculator.generation + 1⟩, after) :=
  ready.equals_answered other answered named (writeInt_eq_ok_iff.2 ⟨short, rfl⟩) depth

end Calculator

namespace Usage

/-- What a service does is contained. Take a calculator after any use - presses in front of any
services, beginnings, clearings and deliveries in whatever order - and confirm with any service.
While a calculation is in flight nothing happens. Otherwise nothing is in flight afterwards,
whatever comes of it, and at most one call is made, with the integers in the operands. If an
operation on two decimals is typed:

- a quotient by a divisor that is not zero as a double is shown, of the doubles next to the whole
  operands, and the calculator is the same as with any other service;
- any other operation fails, with the operation in the trail, if the service fails, and shows
  exactly the integer that the service answers, if that is not too long to be written. -/
theorem service_contained {σ τ : Type} (history : List (Step σ)) (earlier : σ)
    (depth : Nat) (provider : Provider τ) (service : τ) :
    let calculator := ((new earlier).run history).calculator
    let confirmed := calculator.equals depth provider service
    let recorded := calculator.equals depth provider.recorded (service, [])
    (calculator.calculating = true → confirmed = (.ok (), calculator, service)) ∧
    (calculator.calculating = false →
      confirmed.2.1.calculating = false ∧
      ((recorded.1, recorded.2.1, recorded.2.2.1) = confirmed ∧
        (recorded.2.2.2 = [] ∨ ∃ chosen display x y, calculator.Ready chosen display x y ∧
          recorded.2.2.2 = [⟨chosen.operator, x.truncate, y.truncate⟩])) ∧
      ∀ chosen display x y, calculator.Ready chosen display x y →
        let quotient := Display.quotient (x.toDouble / y.toDouble)
        let trail := chosen.trailWith display
        (chosen.operator = .divide → y.toDouble.isZero = false →
          confirmed.1 = .ok () ∧
          confirmed.2.1.state = .calculated quotient (trail ++ " = " ++ quotient) ∧
          ∀ {ρ : Type} (other : Provider ρ) (its : ρ),
            (calculator.equals depth other its).2.1 = confirmed.2.1) ∧
        (chosen.operator ≠ .divide →
          (∀ e after, provider chosen.operator x.truncate y.truncate service = (.error e, after) →
            confirmed.1 = .ok () ∧ confirmed.2.1.state = .failed trail) ∧
          ∀ answer after result,
            provider chosen.operator x.truncate y.truncate service = (.ok answer, after) →
            answer.result? = some (.int result) → Text.exceedsDigitLimit result = false →
            confirmed.1 = .ok () ∧ confirmed.2.1.state =
              .calculated (Text.ofInt result) (trail ++ " = " ++ Text.ofInt result))) := by
  intro calculator confirmed recorded
  refine ⟨fun busy => Calculator.equals_busy busy provider service, fun rests => ?_⟩
  refine ⟨Calculator.equals_rests rests depth provider service,
    calculator.calls_recorded depth provider service, ?_⟩
  intro chosen display x y ready quotient trail
  refine ⟨fun divides nonzero => ?_, fun other => ⟨?_, ?_⟩⟩
  · have shown := ready.equals_quotient divides nonzero depth provider service
    refine ⟨congrArg Prod.fst shown, ?_, fun others its => ?_⟩
    · simp only [confirmed, shown, quotient, trail]
    · rw [ready.equals_quotient divides nonzero depth others its]
      simp only [confirmed, shown]
  · intro e after refused
    have failed := ready.equals_refused other refused depth
    simp only [confirmed, failed, trail, and_self]
  · intro answer after result answered named short
    have shown := ready.equals_integer other answered named short depth
    simp only [confirmed, shown, trail, and_self]

/-- Buttons pressed by a script, without a service. -/
def pressing (names : List Text) : List (Step Unit) :=
  (Press.unserved names).map .press

/-- Two plus three, not confirmed yet. -/
def twoPlusThree : List (Step Unit) := pressing [['2'], ['+'], ['3']]

/-- Without a service the sum fails, and its trail says what failed. -/
theorem twoPlusThree_unanswered :
    (((new ()).run twoPlusThree).calculator.equals Calculator.scriptDepth .missing ()).2.1.state =
      .failed "2 + 3" := by
  have rests : ((new ()).run twoPlusThree).calculator.calculating = false := by decide +kernel
  have ready : ((new ()).run twoPlusThree).calculator.Ready ⟨['2'], .add⟩ ['3'] (.ofInt 2)
      (.ofInt 3) := ⟨rests, by decide +kernel, by decide +kernel, by decide +kernel⟩
  have contained := (service_contained twoPlusThree () Calculator.scriptDepth .missing ()).2 rests
  exact (((contained.2.2 _ _ _ _ ready).2 (by decide)).1 _ _ rfl).2

/-- A small number with a point behind its power of ten, divided by two. -/
def unreadableHalf : List (Step Unit) :=
  pressing [['1'], ['%'], ['%'], ['%'], ['%'], ['.'], ['÷'], ['2']]

/-- Confirming ends nothing while a sum is in flight, and shows no quotient of what is not a
decimal, though its divisor is two. -/
theorem sumInFlight_stays :
    (((new ()).run (twoPlusThree ++ [.confirm Calculator.scriptDepth])).calculator.equals
        Calculator.scriptDepth .missing ()).2.1.calculating = true ∧
      ((new ()).run unreadableHalf).calculator.state = .entering "2" (some ⟨"1e-8.", .divide⟩) ∧
      (Decimal.ofText? "2").map (·.toDouble.isZero) = some false ∧
      (((new ()).run unreadableHalf).calculator.equals Calculator.scriptDepth .missing
          ()).2.1.state =
        .entering "2" (some ⟨"1e-8.", .divide⟩) := by
  decide +kernel

end Usage

end Reckoner
