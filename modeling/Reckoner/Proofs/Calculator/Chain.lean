import Mathlib.Data.List.Infix
import Reckoner.Proofs.Calculator.Confirm
import Reckoner.Proofs.Calculator.Typing
import Reckoner.Proofs.Service.Local

/-!
# Chains of calculations

Someone types a whole number, and then again and again an operation, a further number and equals,
so that every result is the first operand of the next calculation. Nothing is lost on the way: the
numbers that are typed are shown and read back exactly, the results are exact integers, and their
numerals are read back exactly too. So what is shown in the end is the fold of the operations over
the numbers, however many there are, as long as the numerals may be written.
-/

namespace Reckoner

/-- A round of a chain: an operation, by one of its names, and the number that it goes on with. -/
structure Round where
  name : Text
  operator : Operator
  operand : TypedNumber
  named : Operator.ofButton? name = some operator
  /-- Quotients are not integers. -/
  whole : operator ≠ .divide

namespace Round

/-- The names of the buttons that are pressed in a round. -/
def names (round : Round) : List Text := round.name :: (round.operand.names ++ [("=" : Text)])

/-- The result of a round on the number it begins with. -/
def result (round : Round) (left : Int) : Int := round.operator.exact left round.operand.value

/-- The calculation of a round on the number it begins with, in writing. -/
def expression (round : Round) (left : Int) : Text :=
  LocalService.loggedExpression round.operator left round.operand.value

/-- What is seen at the end of a round on the number it begins with. -/
def shown (round : Round) (left : Int) : State :=
  .calculated (Text.ofInt (round.result left))
    (round.expression left ++ " = " ++ Text.ofInt (round.result left))

end Round

namespace Chain

/-- The names of the buttons that are pressed in a chain of rounds behind a first number. -/
def names (first : TypedNumber) (rounds : List Round) : List Text :=
  first.names ++ rounds.flatMap Round.names

/-- The result of all rounds. -/
def total (first : Int) (rounds : List Round) : Int :=
  rounds.foldl (fun left round => round.result left) first

/-- The calculations of the rounds with their results, in writing and in their order. -/
def entries : Int → List Round → List (Text × Text)
  | _, [] => []
  | left, round :: rounds =>
    (round.expression left, Text.ofInt (round.result left)) :: entries (round.result left) rounds

/-- Further rounds are pressed after the others. -/
theorem names_append (first : TypedNumber) (rounds others : List Round) :
    names first (rounds ++ others) = names first rounds ++ others.flatMap Round.names := by
  rw [names, names, List.flatMap_append, List.append_assoc]

/-- The last round goes on with the result of the others. -/
theorem total_concat (first : Int) (rounds : List Round) (round : Round) :
    total first (rounds ++ [round]) = round.result (total first rounds) := by
  rw [total, List.foldl_append]
  rfl

/-- The last round is the last entry. -/
theorem entries_concat (first : Int) (rounds : List Round) (round : Round) :
    entries first (rounds ++ [round]) = entries first rounds ++
      [(round.expression (total first rounds), Text.ofInt (round.result (total first rounds)))] := by
  induction rounds generalizing first with
  | nil => rfl
  | cons earlier rounds ih =>
    rw [List.cons_append, entries, ih, entries, List.cons_append]
    rfl

end Chain

/-! ## Pressing one button after another -/

namespace Press

/-- A calculator and its service after presses at their moments. -/
def goOn (machine : Calculator × Archive) (presses : List LocalPress) : Calculator × Archive :=
  presses.foldl (fun machine press => (atMoment press).apply machine) machine

/-- Presses go on where those before them end. -/
theorem goOn_append (machine : Calculator × Archive) (before after : List LocalPress) :
    goOn machine (before ++ after) = goOn (goOn machine before) after :=
  List.foldl_append

/-- Presses from the start are presses of a new calculator. -/
theorem run_eq_goOn (presses : List LocalPress) (archive : Archive) :
    run (presses.map atMoment) archive = goOn (.new, archive) presses :=
  List.foldl_map

variable {state : State} {generation : Nat} {archive : Archive} {press : LocalPress}

/-- The button of the name that is pressed. -/
theorem goOn_button {machine : Calculator × Archive} {button : Button}
    (named : Button.ofName? press.name = some button) :
    goOn machine [press] =
      (machine.1.pressButton (press.depth - 1) (LocalService.provider press.now) button
        machine.2).2 := by
  simp only [goOn, List.foldl_cons, List.foldl_nil, apply, atMoment, Calculator.press, named]

/-- A digit is typed. -/
theorem goOn_digit {digit : Fin 10} (named : press.name = [Text.digitPoint digit]) :
    goOn (⟨state, false, generation⟩, archive) [press] =
      (⟨state.typeDigit [Text.digitPoint digit], false, generation⟩, archive) := by
  have known : ∀ digit : Fin 10, Button.ofName? [Text.digitPoint digit] =
      some (.digit (Text.digitPoint digit)) := by decide
  rw [goOn_button ((congrArg Button.ofName? named).trans (known digit))]
  rfl

/-- The sign is changed. -/
theorem goOn_negate (named : press.name = "±") :
    goOn (⟨state, false, generation⟩, archive) [press] =
      (⟨state.negate, false, generation⟩, archive) := by
  have known : Button.ofName? "±" = some .negate := by decide
  rw [goOn_button ((congrArg Button.ofName? named).trans known)]
  rfl

/-- The names of operations name their buttons. -/
theorem ofName?_operator {name : Text} {operator : Operator}
    (named : Operator.ofButton? name = some operator) :
    Button.ofName? name = some (.operator operator) := by
  unfold Operator.ofButton? at named
  split at named
  all_goals first | cases named; decide | cases named

/-- An operation is chosen. -/
theorem goOn_operator {operator : Operator}
    (named : Operator.ofButton? press.name = some operator) :
    goOn (⟨state, false, generation⟩, archive) [press] =
      (⟨state.choose operator, false, generation⟩, archive) := by
  rw [goOn_button (ofName?_operator named)]
  rfl

/-- What is typed is confirmed. -/
theorem goOn_equals {machine : Calculator × Archive} (named : press.name = "=") :
    goOn machine [press] =
      (machine.1.equals (press.depth - 1) (LocalService.provider press.now) machine.2).2 := by
  have known : Button.ofName? "=" = some .equals := by decide
  rw [goOn_button ((congrArg Button.ofName? named).trans known)]
  rfl

/-! ## Typing an operand -/

/-- Digits are typed where a digit begins an operand. -/
theorem goOn_digits {chosen : Option Chosen}
    (opens : ∀ digit : Fin 10, state.typeDigit [Text.digitPoint digit] =
      .entering [Text.digitPoint digit] chosen)
    {digits : List (Fin 10)} (nonempty : digits ≠ []) {presses : List LocalPress}
    (named : presses.map LocalPress.name = digits.map fun digit => [Text.digitPoint digit]) :
    goOn (⟨state, false, generation⟩, archive) presses =
      (⟨.entering (Text.ofNat (TypedNumber.magnitude digits)) chosen, false, generation⟩,
        archive) := by
  induction digits using List.reverseRecOn generalizing presses with
  | nil => exact absurd rfl nonempty
  | append_singleton digits digit ih =>
    rw [List.map_append, List.map_singleton] at named
    obtain ⟨before, last, rfl, earlier, later⟩ := List.map_eq_append_iff.1 named
    obtain ⟨press, rfl, name⟩ := List.map_eq_singleton_iff.1 later
    rw [goOn_append]
    by_cases single : digits = []
    · subst single
      obtain rfl := List.map_eq_nil_iff.1 earlier
      rw [show goOn (⟨state, false, generation⟩, archive) [] =
          (⟨state, false, generation⟩, archive) from rfl,
        goOn_digit name, opens, List.nil_append, State.magnitude_single]
    · rw [ih single earlier, goOn_digit name, State.typeDigit_magnitude]

/-- A number is typed where a digit begins an operand. -/
theorem goOn_number {chosen : Option Chosen}
    (opens : ∀ digit : Fin 10, state.typeDigit [Text.digitPoint digit] =
      .entering [Text.digitPoint digit] chosen)
    {typed : TypedNumber} {presses : List LocalPress}
    (named : presses.map LocalPress.name = typed.names) :
    goOn (⟨state, false, generation⟩, archive) presses =
      (⟨.entering (Text.ofInt typed.value) chosen, false, generation⟩, archive) := by
  obtain ⟨before, last, rfl, earlier, later⟩ := List.map_eq_append_iff.1 named
  rw [goOn_append, goOn_digits opens typed.digits_ne earlier]
  unfold TypedNumber.value
  cases negated : typed.negated with
  | false =>
    rw [negated] at later
    obtain rfl := List.map_eq_nil_iff.1 later
    rfl
  | true =>
    rw [negated] at later
    obtain ⟨press, rfl, name⟩ := List.map_eq_singleton_iff.1 later
    rw [goOn_negate name, State.negate, State.negateOperand_ofNat]
    rfl

end Press

/-! ## Rounds -/

/-- The rows of a log as they are listed: expressions with their results, newest first. -/
def Archive.listed (archive : Archive) : List (Text × Text) :=
  archive.log.newestFirst.map fun row => (row.expression, row.result)

/-- Behind a new row, a log that keeps ten rows lists what it listed before, up to ten. -/
theorem Archive.listed_added {before after : Archive} {row : Row}
    (added : after.log.newestFirst = limited Log.defaultCapacity (row :: before.log.newestFirst)) :
    after.listed = ((row.expression, row.result) :: before.listed).take 10 := by
  rw [listed, added]
  show ((row :: before.log.newestFirst).take 10).map _ = _
  rw [List.map_take, List.map_cons]
  rfl

/-- A round shows its result and logs it, if all its numerals may be written. -/
theorem Press.goOn_round {round : Round} {left : Int} {state : State} {generation : Nat}
    {archive : Archive} (carries : ∀ operator, state.choose operator =
      .awaiting ⟨Text.ofInt left, operator⟩) (working : archive.Working)
    (short : Text.exceedsDigitLimit left = false)
    (fits : Text.exceedsDigitLimit (round.result left) = false)
    {presses : List LocalPress} (named : presses.map LocalPress.name = round.names) :
    ∃ after, goOn (⟨state, false, generation⟩, archive) presses =
        (⟨round.shown left, false, generation + 1⟩, after) ∧ after.Working ∧
      after.listed = ((round.expression left, Text.ofInt (round.result left)) ::
        archive.listed).take 10 := by
  obtain ⟨choice, later, rfl, choice_name, later_names⟩ := List.map_eq_cons_iff.1 named
  obtain ⟨typed, last, rfl, typed_names, last_names⟩ := List.map_eq_append_iff.1 later_names
  obtain ⟨confirming, rfl, confirming_name⟩ := List.map_eq_singleton_iff.1 last_names
  have chosen : Operator.ofButton? choice.name = some round.operator := choice_name ▸ round.named
  -- The two operands are shown as numerals, and these are read back.
  have ready : Calculator.Ready
      ⟨.entering (Text.ofInt round.operand.value) (some ⟨Text.ofInt left, round.operator⟩), false,
        generation⟩ ⟨Text.ofInt left, round.operator⟩ (Text.ofInt round.operand.value)
      (.ofInt left) (.ofInt round.operand.value) :=
    ⟨rfl, rfl, Decimal.ofText?_ofInt short, Decimal.ofText?_ofInt round.operand.value_short⟩
  have possible : round.operator.Computable left round.operand.value :=
    ⟨fun divides => absurd divides round.whole, short, round.operand.value_short, fits⟩
  obtain ⟨after, answered, still, added⟩ :=
    LocalService.run_computed possible working confirming.now
  have asked : LocalService.provider confirming.now round.operator (Decimal.ofInt left).truncate
      (Decimal.ofInt round.operand.value).truncate archive =
        (.ok (.make (.int (round.result left)) (.string (round.expression left))), after) := by
    rw [Decimal.truncate_ofInt, Decimal.truncate_ofInt]
    exact answered
  have written : writeInt (round.result left) = .ok (Text.ofInt (round.result left)) :=
    writeInt_eq_ok_iff.2 ⟨fits, rfl⟩
  have confirmed := ready.equals_answered round.whole asked rfl written (confirming.depth - 1)
  refine ⟨after, ?_, still, Archive.listed_added added⟩
  rw [← List.singleton_append, goOn_append, goOn_operator chosen, carries, goOn_append,
    goOn_number (fun _ => rfl) typed_names, goOn_equals confirming_name, confirmed]
  rfl

namespace Chain

/-- What is between the rounds of a chain: a calculator at rest that takes the result so far as
the first operand of any operation, and a log that works and lists the calculations of the rounds,
newest first, before what it listed at the start, up to ten. -/
structure Between (start : Archive) (first : Int) (rounds : List Round)
    (machine : Calculator × Archive) : Prop where
  rests : machine.1.calculating = false
  carries : ∀ operator, machine.1.state.choose operator =
    .awaiting ⟨Text.ofInt (total first rounds), operator⟩
  working : machine.2.Working
  listed : machine.2.listed = ((entries first rounds).reverse ++ start.listed).take 10

variable {start : Archive} {first : Int} {rounds : List Round} {machine : Calculator × Archive}

/-- A round leads from between two rounds to between the next ones. -/
theorem Between.round (between : Between start first rounds machine) {round : Round}
    (short : Text.exceedsDigitLimit (total first rounds) = false)
    (fits : Text.exceedsDigitLimit (total first (rounds ++ [round])) = false)
    {presses : List LocalPress} (named : presses.map LocalPress.name = round.names) :
    (Press.goOn machine presses).1.state = round.shown (total first rounds) ∧
      Between start first (rounds ++ [round]) (Press.goOn machine presses) := by
  obtain ⟨⟨state, calculating, generation⟩, archive⟩ := machine
  obtain ⟨rests, carries, working, listed⟩ := between
  obtain rfl : calculating = false := rests
  rw [total_concat] at fits
  obtain ⟨after, ended, still, added⟩ :=
    Press.goOn_round carries working short fits named
  rw [ended]
  refine ⟨rfl, rfl, ?_, still, ?_⟩
  · intro operator
    rw [total_concat]
    rfl
  · rw [added, show archive.listed = _ from listed, entries_concat, List.reverse_append,
      List.reverse_singleton, List.singleton_append, List.cons_append, List.take_succ_cons,
      List.take_succ_cons, List.take_take]
    rfl

/-- A first number that has been typed is what a chain begins with. -/
theorem between_first (working : start.Working) {first : TypedNumber}
    {presses : List LocalPress} (named : presses.map LocalPress.name = first.names) :
    Between start first.value [] (Press.goOn (.new, start) presses) := by
  have opens : ∀ digit : Fin 10, State.initial.typeDigit [Text.digitPoint digit] =
      .entering [Text.digitPoint digit] none := by decide
  rw [Calculator.new, Press.goOn_number opens named]
  refine ⟨rfl, fun _ => rfl, working, ?_⟩
  have few : start.listed.length ≤ 10 := by
    rw [Archive.listed, List.length_map]
    exact working.few
  exact (List.take_of_length_le few).symm

/-- After the first number and rounds, a chain is between two rounds. -/
theorem between_rounds (working : start.Working) {first : TypedNumber} {rounds : List Round}
    (fits : ∀ done, done <+: rounds → Text.exceedsDigitLimit (total first.value done) = false)
    {presses : List LocalPress}
    (named : presses.map LocalPress.name = names first rounds) :
    Between start first.value rounds (Press.goOn (.new, start) presses) := by
  induction rounds using List.reverseRecOn generalizing presses with
  | nil =>
    rw [names, List.flatMap_nil, List.append_nil] at named
    exact between_first working named
  | append_singleton rounds round ih =>
    rw [names_append, List.flatMap_singleton] at named
    obtain ⟨before, last, rfl, before_names, last_names⟩ := List.map_eq_append_iff.1 named
    have between := ih (fun done part => fits done (part.trans (List.prefix_append _ _)))
      before_names
    rw [Press.goOn_append]
    exact (between.round (fits _ (List.prefix_append _ _)) (fits _ (List.prefix_refl _))
      last_names).2

/-- In front of the local service, whatever the log listed at the start, each equals of a chain
shows the fold of the operations over the numbers so far, behind the calculation that led to it,
and the log lists the last ten calculations with their results, newest first. The results so far
must be short enough to be written. -/
theorem shows_fold (working : start.Working) (first : TypedNumber) (rounds : List Round)
    {presses : List LocalPress}
    (named : presses.map LocalPress.name = names first rounds) {done : List Round} {round : Round}
    (part : done ++ [round] <+: rounds)
    (fits : ∀ before, before <+: done ++ [round] →
      Text.exceedsDigitLimit (total first.value before) = false) :
    let pressed := presses.take (names first (done ++ [round])).length
    let machine := Press.run (pressed.map Press.atMoment) start
    let left := total first.value done
    let result := total first.value (done ++ [round])
    result = round.operator.exact left round.operand.value ∧
    machine.1.state = .calculated (Text.ofInt result) (Text.ofInt left ++ " " ++
      [round.operator.sign] ++ " " ++ Text.ofInt round.operand.value ++ " = " ++
        Text.ofInt result) ∧
    machine.1.calculating = false ∧
    machine.2.listed = ((entries first.value (done ++ [round])).reverse ++ start.listed).take 10 := by
  intro pressed machine left result
  have same : result = round.operator.exact left round.operand.value :=
    total_concat first.value done round
  have pressed_names : pressed.map LocalPress.name = names first (done ++ [round]) := by
    obtain ⟨others, rfl⟩ := part
    rw [List.map_take, named, names_append first (done ++ [round]), List.take_left]
  have earlier : names first (done ++ [round]) = names first done ++ round.names := by
    rw [names_append, List.flatMap_singleton]
  obtain ⟨before, last, split, before_names, last_names⟩ :=
    List.map_eq_append_iff.1 (pressed_names.trans earlier)
  have between := between_rounds working
    (fun before part => fits before (part.trans (List.prefix_append _ _))) before_names
  obtain ⟨shown, after⟩ := between.round (fits _ (List.prefix_append _ _))
    (fits _ (List.prefix_refl _)) last_names
  rw [← Press.goOn_append, ← split, ← Press.run_eq_goOn] at shown after
  refine ⟨same, ?_, after.rests, after.listed⟩
  rw [same]
  exact shown

/-- The presses of a product and a sum: with zeros in front, with another name of an operation and
with a sign. -/
def productAndSum : List LocalPress :=
  Press.atOnce ["0", "0", "7", "x", "8", "±", "=", "+", "5", "0", "="]

/-- Seven times minus eight and fifty are minus six. -/
theorem shows_fold_productAndSum :
    let machine := Press.run (productAndSum.map Press.atMoment) .new
    machine.1.state = .calculated "-6" "-56 + 50 = -6" ∧
      machine.2.listed =
        [(("-56 + 50" : Text), ("-6" : Text)), (("7 × -8" : Text), ("-56" : Text))] := by
  let seven : TypedNumber := ⟨[0, 0, 7], false, by decide⟩
  let product : Round := ⟨"x", .multiply, ⟨[8], true, by decide⟩, rfl, by decide⟩
  let sum : Round := ⟨"+", .add, ⟨[5, 0], false, by decide⟩, rfl, by decide⟩
  have named : productAndSum.map LocalPress.name = names seven [product, sum] := by decide
  have short : ∀ before ∈ ([product] ++ [sum]).inits,
      Text.exceedsDigitLimit (total seven.value before) = false := by decide +kernel
  obtain ⟨-, state, -, listed⟩ := shows_fold Archive.working_new seven [product, sum] named
    (List.prefix_refl ([product] ++ [sum]))
    (fun before part => short before ((List.mem_inits _ _).2 part))
  have whole : productAndSum.take (names seven ([product] ++ [sum])).length = productAndSum :=
    List.take_of_length_le (by decide)
  rw [whole] at state listed
  exact ⟨state.trans (by decide), listed.trans (by decide)⟩

end Chain

end Reckoner
