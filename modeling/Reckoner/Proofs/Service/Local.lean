import Mathlib.Data.List.TakeWhile
import Reckoner.Service.Local
import Reckoner.Proofs.History.Ledger
import Reckoner.Proofs.Text.Digits

/-!
# What the local service computes

The service answers exactly if both operands are integers, a divisor is not zero, and the three
numerals of the calculation are short enough to be written. Then the answer is the exact result,
and a log that works gains one row in front with what was computed. Every refusal leaves the log
as it was.
-/

namespace Reckoner

/-! ## Steps that may fail -/

/-- Two steps succeed if the first one does, and the second one with what it gave. -/
theorem bind_eq_ok_iff {ε α β : Type} {first : Except ε α} {next : α → Except ε β} {result : β} :
    (first >>= next) = .ok result ↔ ∃ value, first = .ok value ∧ next value = .ok result := by
  cases first with
  | error e =>
    constructor
    · nofun
    · rintro ⟨value, failed, -⟩
      cases failed
  | ok value =>
    constructor
    · exact fun done => ⟨value, rfl, done⟩
    · rintro ⟨other, same, done⟩
      cases same
      exact done

/-- To fail in other words is to fail. -/
theorem mapError_eq_ok_iff {ε δ α : Type} {wording : ε → δ} {outcome : Except ε α} {result : α} :
    outcome.mapError wording = .ok result ↔ outcome = .ok result := by
  cases outcome with
  | error e => simp [Except.mapError]
  | ok value => simp [Except.mapError]

/-- What is made of an outcome succeeds if that does. -/
theorem map_eq_ok_iff {ε α β : Type} {make : α → β} {outcome : Except ε α} {result : β} :
    make <$> outcome = .ok result ↔ ∃ value, outcome = .ok value ∧ make value = result := by
  cases outcome with
  | error e => simp [Functor.map, Except.map]
  | ok value => simp [Functor.map, Except.map]

/-! ## Exact results -/

namespace Operator

/-- The exact result on two integers; the quotient is cut toward zero. -/
def exact : Operator → Int → Int → Int
  | .add, x, y => x + y
  | .subtract, x, y => x - y
  | .multiply, x, y => x * y
  | .divide, x, y => x.tdiv y

/-- What a calculation on two integers needs: a divisor other than zero, and numerals that may be
written. -/
structure Computable (operator : Operator) (x y : Int) : Prop where
  divisible : operator = .divide → y ≠ 0
  first : Text.exceedsDigitLimit x = false
  second : Text.exceedsDigitLimit y = false
  result : Text.exceedsDigitLimit (operator.exact x y) = false

end Operator

/-- The quotient by a divisor other than zero is cut toward zero. -/
theorem truncatingQuotient_eq {y : Int} (nonzero : y ≠ 0) (x : Int) :
    truncatingQuotient x y = .ok (x.tdiv y) := by
  have magnitude : ((x.natAbs / y.natAbs : Nat) : Int) = (x.tdiv y).natAbs := by
    rw [Int.natAbs_tdiv]
    rfl
  rw [truncatingQuotient, if_neg nonzero]
  simp only [magnitude]
  by_cases sign : decide (x < 0) = decide (y < 0)
  · have positive : 0 ≤ x.tdiv y := by
      by_cases negative : x < 0
      · have divisor : y < 0 := by simpa [negative] using sign
        exact Int.tdiv_nonneg_of_nonpos_of_nonpos (by omega) (by omega)
      · have divisor : ¬y < 0 := by simpa [negative] using sign
        exact Int.tdiv_nonneg (by omega) (by omega)
    rw [if_pos sign]
    congr 1
    omega
  · have negative : x.tdiv y ≤ 0 := by
      by_cases below : x < 0
      · have divisor : ¬y < 0 := by simpa [below] using sign
        have opposite := Int.tdiv_nonneg (a := -x) (b := y) (by omega) (by omega)
        rw [Int.neg_tdiv] at opposite
        omega
      · have divisor : y < 0 := by simpa [below] using sign
        have opposite := Int.tdiv_nonneg (a := x) (b := -y) (by omega) (by omega)
        rw [Int.tdiv_neg] at opposite
        omega
    rw [if_neg sign]
    congr 1
    omega

namespace Operator

/-- An operation other than the division by zero has its exact result. -/
theorem apply_eq_exact {operator : Operator} {y : Int} (divisible : operator = .divide → y ≠ 0)
    (x : Int) : operator.apply x y = .ok (operator.exact x y) := by
  cases operator with
  | divide => exact truncatingQuotient_eq (divisible rfl) x
  | add | subtract | multiply => rfl

/-- A result is the exact one, and there is none of a division by zero. -/
theorem apply_eq_ok_iff {operator : Operator} {x y result : Int} :
    operator.apply x y = .ok result ↔
      (operator = .divide → y ≠ 0) ∧ result = operator.exact x y := by
  by_cases divisible : operator = .divide → y ≠ 0
  · rw [apply_eq_exact divisible, Except.ok.injEq, eq_comm]
    exact (and_iff_right divisible).symm
  · obtain ⟨rfl, zero⟩ := Classical.not_imp.1 divisible
    have undefined : ∀ value, truncatingQuotient x y ≠ .ok value := by
      intro value
      rw [truncatingQuotient, if_pos (Classical.not_not.1 zero)]
      split
      · nofun
      · nofun
    exact ⟨fun computed => absurd computed (undefined result), fun both => absurd both.1 divisible⟩

end Operator

/-! ## Numerals -/

/-- A numeral that may be written is that of its integer. -/
theorem writeInt_eq_ok_iff {n : Int} {text : Text} :
    writeInt n = .ok text ↔ Text.exceedsDigitLimit n = false ∧ text = Text.ofInt n := by
  unfold writeInt
  cases Text.exceedsDigitLimit n with
  | true => simp
  | false => simp [eq_comm]

namespace Text

/-- Numerals are made of characters. -/
theorem ofInt_no_half (n : Int) : ∀ c ∈ ofInt n, c.isHalf = false := by
  have digits (n : Nat) : ∀ c ∈ ofNat n, c.isHalf = false := by
    intro c member
    obtain ⟨char, -, rfl⟩ := List.mem_map.1 member
    rfl
  cases n with
  | ofNat n => exact digits n
  | negSucc n =>
    intro c member
    rcases List.mem_cons.1 member with rfl | behind
    · rfl
    · exact digits _ c behind

end Text

/-- A text of characters can be written. -/
theorem Utf8.check_of_no_half {text : Text} (characters : ∀ c ∈ text, c.isHalf = false) :
    Utf8.check text = .ok () := by
  have whole : text.dropWhile (!·.isHalf) = [] := by
    rw [List.dropWhile_eq_nil_iff]
    intro c member
    rw [characters c member]
    rfl
  rw [check, firstFault?, whole]

namespace LocalService

/-! ## Computing -/

/-- What is logged of a calculation on two integers. -/
def loggedExpression (operator : Operator) (x y : Int) : Text :=
  Text.ofInt x ++ " " ++ [operator.sign] ++ " " ++ Text.ofInt y

/-- What a calculation that is possible computes. -/
def computed (operator : Operator) (x y : Int) : Computed :=
  ⟨loggedExpression operator x y, operator.exact x y, Text.ofInt (operator.exact x y)⟩

/-- Operands are integers, and nothing else is. -/
theorem requireInt_eq_ok_iff {name : Text} {value : Json} {n : Int} :
    requireInt name value = .ok n ↔ value = .int n := by
  cases value with
  | int m => simp [requireInt]
  | null | bool | double | string | array | object => simp [requireInt]

/-- The calculation on two values succeeds exactly if they are integers with which it is
possible. -/
theorem compute_eq_ok_iff {operator : Operator} {first second : Json} {outcome : Computed} :
    compute operator first second = .ok outcome ↔ ∃ x y, first = .int x ∧ second = .int y ∧
      operator.Computable x y ∧ outcome = computed operator x y := by
  simp only [compute, bind_eq_ok_iff, mapError_eq_ok_iff, requireInt_eq_ok_iff,
    Operator.apply_eq_ok_iff, writeInt_eq_ok_iff, pure, Except.pure, Except.ok.injEq]
  constructor
  · rintro ⟨x, rfl, y, rfl, _, ⟨divisible, rfl⟩, _, ⟨short, rfl⟩, _, ⟨other, rfl⟩, _,
      ⟨small, rfl⟩, rfl⟩
    exact ⟨x, y, rfl, rfl, ⟨divisible, short, other, small⟩, rfl⟩
  · rintro ⟨x, y, rfl, rfl, possible, rfl⟩
    exact ⟨x, rfl, y, rfl, _, ⟨possible.divisible, rfl⟩, _, ⟨possible.first, rfl⟩, _,
      ⟨possible.second, rfl⟩, _, ⟨possible.result, rfl⟩, rfl⟩

end LocalService

/-! ## Logging -/

/-- A log that works: it can be used, its rows are in order, and it keeps and holds as many of them
as is usual. -/
structure Archive.Working (archive : Archive) : Prop where
  usable : archive.locked = false
  capacity : archive.capacity = .ok Log.defaultCapacity
  ordered : archive.log.Ordered
  few : archive.log.newestFirst.length ≤ Log.defaultCapacity.toNat

namespace Archive

variable {archive : Archive}

/-- A new log works. -/
theorem working_new : Archive.new.Working := ⟨rfl, rfl, Log.ordered_empty, Nat.zero_le _⟩

/-- A log that works takes texts of characters, and goes on working with the new row in front. -/
theorem Working.add (working : archive.Working) {expression result : Text}
    (first : ∀ c ∈ expression, c.isHalf = false) (second : ∀ c ∈ result, c.isHalf = false)
    (moment : Calendar.Moment) :
    ∃ id after, archive.add (.string expression) (.string result) moment = (.ok id, after) ∧
      after.Working ∧ after.log.newestFirst = limited Log.defaultCapacity
        (⟨archive.log.lastId + 1, expression, result, moment.stamp⟩ :: archive.log.newestFirst) := by
  have stored := texts_string (Utf8.check_of_no_half first) (Utf8.check_of_no_half second)
  have added : archive.add (.string expression) (.string result) moment =
      (.ok (archive.log.lastId + 1), { archive with
        log := archive.log.append Log.defaultCapacity expression result moment.stamp }) := by
    simp only [Archive.add, working.usable, Bool.false_eq_true, ↓reduceIte, stored,
      working.capacity]
  have listed :=
    working.ordered.newestFirst_append Log.defaultCapacity expression result moment.stamp
  refine ⟨_, _, added, ⟨working.usable, working.capacity, working.ordered.append .., ?_⟩, listed⟩
  rw [listed]
  exact length_limited_le (by decide) _

/-- A log that works can be emptied. -/
theorem Working.clear (working : archive.Working) :
    ∃ after, LocalService.clear archive = (.ok (), after) ∧ after.Working ∧
      after.log.newestFirst = [] := by
  refine ⟨{ archive with log := archive.log.clear }, ?_, ⟨working.usable, working.capacity,
    Log.ordered_clear _, Nat.zero_le _⟩, rfl⟩
  simp only [LocalService.clear, Archive.clear, working.usable, Bool.false_eq_true, ↓reduceIte]

/-- Without a number of days, as many of the newest rows are listed as is usual. -/
theorem history_newest (usable : archive.locked = false) (now : Calendar.Moment) :
    LocalService.history now .null archive =
      .ok ((limited Log.defaultCapacity archive.log.newestFirst).map fun row =>
        (row.expression, row.result)) := by
  have everything : archive.log.newestFirst.filter (fun _ => true) = archive.log.newestFirst :=
    List.filter_eq_self.2 fun _ _ => rfl
  have listed : archive.recent Log.defaultCapacity none =
      .ok (limited Log.defaultCapacity archive.log.newestFirst) := by
    simp only [recent, usable, Bool.false_eq_true, ↓reduceIte, Log.recent, Option.map_none,
      everything]
  simp only [LocalService.history, LocalService.rows, usable, Bool.false_eq_true, ↓reduceIte,
    pure, Except.pure, bind, Except.bind, listed, Except.mapError, Functor.map, Except.map]

/-- Without a number of days, a log that works is listed as a whole. -/
theorem Working.history (working : archive.Working) (now : Calendar.Moment) :
    LocalService.history now .null archive =
      .ok (archive.log.newestFirst.map fun row => (row.expression, row.result)) := by
  rw [history_newest working.usable, limited_eq_self working.few]

end Archive

namespace LocalService

variable {archive : Archive} {operator : Operator} {x y : Int}

/-- What is logged of a calculation consists of characters. -/
theorem loggedExpression_no_half (operator : Operator) (x y : Int) :
    ∀ c ∈ loggedExpression operator x y, c.isHalf = false := by
  have sign : operator.sign.isHalf = false := by cases operator <;> rfl
  intro c member
  simp only [loggedExpression, List.mem_append, List.mem_singleton] at member
  rcases member with (((first | blank) | same) | blank) | second
  · exact Text.ofInt_no_half x c first
  · revert c
    decide
  · rw [same]
    exact sign
  · revert c
    decide
  · exact Text.ofInt_no_half y c second

/-- A calculation that cannot be computed is refused, and the log stays. -/
theorem run_refused {first second : Json}
    (impossible : ∀ outcome, compute operator first second ≠ .ok outcome) (now : Calendar.Moment)
    (archive : Archive) : ∃ e, run now operator first second archive = (.error e, archive) := by
  unfold run
  cases computation : compute operator first second with
  | ok outcome => exact absurd computation (impossible outcome)
  | error e => exact ⟨e, rfl⟩

/-- A calculation that is possible is answered with its exact result, and a log that works gains
its row in front. -/
theorem run_computed (possible : operator.Computable x y) (working : archive.Working)
    (now : Calendar.Moment) :
    ∃ after, run now operator (.int x) (.int y) archive =
        (.ok (.make (.int (operator.exact x y)) (.string (loggedExpression operator x y))), after) ∧
      after.Working ∧ after.log.newestFirst = limited Log.defaultCapacity
        (⟨archive.log.lastId + 1, loggedExpression operator x y,
          Text.ofInt (operator.exact x y), now.stamp⟩ :: archive.log.newestFirst) := by
  have computation : compute operator (.int x) (.int y) = .ok (computed operator x y) :=
    compute_eq_ok_iff.2 ⟨x, y, rfl, rfl, possible, rfl⟩
  obtain ⟨id, after, added, still, listed⟩ :=
    working.add (loggedExpression_no_half operator x y) (Text.ofInt_no_half _) now
  refine ⟨after, ?_, still, listed⟩
  simp only [run, computation, computed, added]

/-- What is answered is the exact result of a possible calculation on two integers. -/
theorem run_answer {now : Calendar.Moment} {first second : Json} {answer : Answer}
    {after : Archive} (answered : run now operator first second archive = (.ok answer, after)) :
    ∃ x y, first = .int x ∧ second = .int y ∧ operator.Computable x y ∧
      answer = .make (.int (operator.exact x y)) (.string (loggedExpression operator x y)) := by
  unfold run at answered
  split at answered
  · cases answered
  · rename_i outcome computation
    obtain ⟨x, y, left, right, possible, rfl⟩ := compute_eq_ok_iff.1 computation
    split at answered
    · cases answered
    · cases answered
      exact ⟨x, y, left, right, possible, rfl⟩

end LocalService

end Reckoner
