import Reckoner.Expression.Parser

/-!
# How rules compose

What a rule computes at a cursor, for a rule made of other rules, and how far it can move: never
back, and never beyond the tokens that are left. Because the operand of a chain moves on, the
number that bounds the marks of a chain never cuts it short, and any number that is as large as
the tokens left gives the same chain (`chain_bound`).
-/

namespace Reckoner

namespace Rule

/-! ## Computing -/

/-- A rule computes an outcome at a cursor. With a value it also moves to a place; an error may
leave it anywhere. -/
def Computes (rule : Rule) (cursor : Cursor) (outcome : Except EvaluationError Double)
    (after : Cursor) : Prop :=
  match outcome with
  | .ok value => rule cursor = (.ok value, after)
  | .error error => (rule cursor).1 = .error error

/-- A rule computes the value that it gives. -/
theorem computes_ok {rule : Rule} {cursor after : Cursor} {value : Double} :
    rule.Computes cursor (.ok value) after ↔ rule cursor = (.ok value, after) := Iff.rfl

/-- The outcome that a rule computes is what it returns. -/
theorem Computes.outcome {rule : Rule} {cursor after : Cursor}
    {outcome : Except EvaluationError Double} (computes : rule.Computes cursor outcome after) :
    (rule cursor).1 = outcome := by
  cases outcome with
  | error e => exact computes
  | ok value => rw [computes_ok.mp computes]

/-- What fails fails with anything behind it. -/
theorem andThen_error {rule : Rule} {next : Double → Rule} {cursor : Cursor}
    {error : EvaluationError} (failed : (rule cursor).1 = .error error) :
    ((rule.andThen next) cursor).1 = .error error := by
  unfold Rule.andThen
  split
  · rename_i value reached run
    rw [run] at failed
    cases failed
  · rename_i other reached run
    rw [run] at failed
    exact failed

/-- One rule after another computes one outcome after the other. -/
theorem Computes.andThen {rule : Rule} {next : Double → Rule} {cursor middle after : Cursor}
    {first : Except EvaluationError Double} {second : Double → Except EvaluationError Double}
    (head : rule.Computes cursor first middle)
    (rest : ∀ value, first = .ok value → (next value).Computes middle (second value) after) :
    (rule.andThen next).Computes cursor (first >>= second) after := by
  cases first with
  | error e => exact andThen_error head
  | ok value =>
    have run : rule cursor = (.ok value, middle) := head
    have continued := rest value rfl
    show (rule.andThen next).Computes cursor (second value) after
    have same : rule.andThen next cursor = next value middle := by simp only [Rule.andThen, run]
    unfold Computes at continued ⊢
    rw [same]
    exact continued

/-- A rule after which the value stays computes the same outcome. -/
theorem Computes.andThen_keep {rule : Rule} {next : Double → Rule} {cursor middle after : Cursor}
    {outcome : Except EvaluationError Double} (head : rule.Computes cursor outcome middle)
    (rest : ∀ value, (next value).Computes middle (.ok value) after) :
    (rule.andThen next).Computes cursor outcome after := by
  have computes := head.andThen fun value _ => rest value
  have same : outcome >>= Except.ok = outcome := bind_pure outcome
  rw [same] at computes
  exact computes

/-- What a rule computes it computes wherever it behaves the same. -/
theorem Computes.of_eq {left right : Rule} {cursor cursor' after : Cursor}
    {outcome : Except EvaluationError Double} (computes : right.Computes cursor' outcome after)
    (same : left cursor = right cursor') : left.Computes cursor outcome after := by
  unfold Computes at computes ⊢
  rw [same]
  exact computes

/-- A rule that gives a value computes nothing else, and moves nowhere else. -/
theorem Computes.of_ok {rule : Rule} {cursor after reached : Cursor} {value : Double}
    {outcome : Except EvaluationError Double} (computes : rule.Computes cursor outcome after)
    (run : rule cursor = (.ok value, reached)) : outcome = .ok value ∧ reached = after := by
  cases outcome with
  | error e =>
    have failed : (rule cursor).1 = .error e := computes
    rw [run] at failed
    cases failed
  | ok given =>
    rw [computes_ok.mp computes] at run
    cases run
    exact ⟨rfl, rfl⟩

/-- One rule after another gives a value only if both give one. -/
theorem andThen_ok {rule : Rule} {next : Double → Rule} {cursor after : Cursor} {value : Double}
    (run : (rule.andThen next) cursor = (.ok value, after)) :
    ∃ first middle, rule cursor = (.ok first, middle) ∧ next first middle = (.ok value, after) := by
  unfold Rule.andThen at run
  split at run
  · rename_i first middle head
    exact ⟨first, middle, head, run⟩
  · cases run

/-! ## Moving on -/

/-- A rule moves on when the tokens that it leaves are the last ones of those that it found. -/
def Advances (rule : Rule) : Prop :=
  ∀ cursor, (rule cursor).2.rest <:+ cursor.rest

/-- Reading nothing moves on. -/
theorem advances_give (value : Double) : (give value).Advances :=
  fun _ => List.suffix_rfl

/-- Failing at once moves on. -/
theorem advances_fail (error : EvaluationError) : (fail error).Advances :=
  fun _ => List.suffix_rfl

/-- Two rules that move on do so one after the other. -/
theorem Advances.andThen {rule : Rule} {next : Double → Rule} (head : rule.Advances)
    (rest : ∀ value, (next value).Advances) : (rule.andThen next).Advances := by
  intro cursor
  have moved := head cursor
  unfold Rule.andThen
  split
  · rename_i value middle run
    rw [run] at moved
    exact (rest value middle).trans moved
  · rename_i error middle run
    rw [run] at moved
    exact moved

/-- Behind the first token a rule that moves on still does. -/
theorem Advances.behind {rule : Rule} (advances : rule.Advances) {cursor : Cursor} {token : Token}
    {rest : List Token} (split : cursor.rest = token :: rest) :
    (rule { cursor with rest }).2.rest <:+ cursor.rest := by
  rw [split]
  exact (advances { cursor with rest }).trans (List.suffix_cons token rest)

/-- Reading a percent sign moves on. -/
theorem advances_percentage (value : Double) : (percentage value).Advances := by
  intro cursor
  unfold percentage
  split
  · rename_i rest split
    rw [split]
    exact List.suffix_cons _ _
  · exact List.suffix_rfl

/-- Taking a square root reads nothing. -/
theorem advances_squareRoot (value : Double) : (squareRoot value).Advances := by
  unfold squareRoot
  split
  · exact advances_fail _
  · exact advances_give _

/-- Raising to a power reads nothing. -/
theorem advances_raise (base exponent : Double) : (raise base exponent).Advances := by
  unfold raise
  split
  · exact advances_give _
  · exact advances_fail _

/-- Dividing reads nothing. -/
theorem advances_quotient (dividend divisor : Double) : (quotient dividend divisor).Advances := by
  intro cursor
  unfold quotient
  split <;> exact List.suffix_rfl

/-- An operation of a chain moves on when all that it combines does. -/
def Operation.Advances (operation : Operation) : Prop :=
  ∀ token combine, operation token = some combine →
    ∀ left right, (combine left right).Advances

/-- Raising is an operation that moves on. -/
theorem powerOperation_advances : powerOperation.Advances := by
  intro token combine known left right
  cases token <;> cases known
  exact advances_raise left right

/-- Multiplying and dividing are operations that move on. -/
theorem productOperation_advances : productOperation.Advances := by
  intro token combine known left right
  cases token <;> cases known
  · exact advances_give _
  · exact advances_quotient left right

/-- Adding and subtracting are operations that move on. -/
theorem sumOperation_advances : sumOperation.Advances := by
  intro token combine known left right
  cases token <;> cases known <;> exact advances_give _

/-- A chain moves on when its operation and its operand do. -/
theorem advances_chain {operation : Operation} {operand : Rule}
    (operations : operation.Advances) (operands : operand.Advances) (bound : Nat)
    (value : Double) : (chain operation operand bound value).Advances := by
  induction bound generalizing value with
  | zero => exact advances_give value
  | succ bound ih =>
    intro cursor
    unfold chain
    split
    · exact List.suffix_rfl
    · rename_i token rest split
      cases known : operation token with
      | none => exact List.suffix_rfl
      | some combine =>
        have step : ((operand.andThen (combine value)).andThen
            (chain operation operand bound)).Advances :=
          (operands.andThen (operations token combine known value)).andThen ih
        exact step.behind split

/-- The same with the first operand. -/
theorem advances_chained {operation : Operation} {operand : Rule}
    (operations : operation.Advances) (operands : operand.Advances) :
    (chained operation operand).Advances :=
  operands.andThen fun value cursor =>
    advances_chain operations operands cursor.rest.length value cursor

/-- A closing parenthesis that is missing is not read. -/
theorem advances_close (value : Double) : (close value).Advances := by
  intro cursor
  unfold close
  split
  · rename_i rest split
    rw [split]
    exact List.suffix_cons _ _
  · exact List.suffix_rfl

/-- The value of a number reads nothing more. -/
theorem advances_number (text : Text) : (number text).Advances := by
  unfold number
  split
  · exact advances_give _
  · exact advances_fail _

/-- An atom moves on when what stands in parentheses does. -/
theorem advances_atom {inner : Rule} (inners : inner.Advances) : (atom inner).Advances := by
  intro cursor
  unfold atom
  split
  · exact List.suffix_rfl
  · rename_i rest split
    exact (inners.andThen advances_close).behind split
  · rename_i text rest split
    exact (advances_number text).behind split
  · rename_i token rest _ _ split
    rw [split]
    exact List.suffix_cons _ _

/-- A power of operands that move on moves on. -/
theorem advances_power {operand : Rule} (operands : operand.Advances) :
    (power operand).Advances := advances_chained powerOperation_advances operands

/-- A part of a product, perhaps a percentage, moves on. -/
theorem advances_part {operand : Rule} (operands : operand.Advances) :
    ((power operand).andThen percentage).Advances :=
  (advances_power operands).andThen advances_percentage

/-- A product of operands that move on moves on. -/
theorem advances_product {operand : Rule} (operands : operand.Advances) :
    (product operand).Advances :=
  advances_chained productOperation_advances (advances_part operands)

/-- A sum of operands that move on moves on. -/
theorem advances_sum {operand : Rule} (operands : operand.Advances) : (sum operand).Advances :=
  advances_chained sumOperation_advances (advances_product operands)

/-! ## Operands -/

/-- With some depth, an operand has one call less behind a sign, and five less in a parenthesis. -/
theorem signed_succ (depth : Nat) :
    signed (depth + 1) = unary (signed depth) (signed (depth - 4)) := by
  match depth with
  | 0 | 1 | 2 | 3 | _ + 4 => rfl

/-- Behind a root sign an operand has one call less. -/
theorem signed_root (depth : Nat) (rest : List Token) (divided : Bool) :
    signed (depth + 1) ⟨.root :: rest, divided⟩ =
      (signed depth).andThen squareRoot ⟨rest, divided⟩ := by
  rw [signed_succ]
  rfl

/-- Behind a minus sign an operand has one call less. -/
theorem signed_minus (depth : Nat) (rest : List Token) (divided : Bool) :
    signed (depth + 1) ⟨.minus :: rest, divided⟩ =
      (signed depth).andThen (fun value => give (-value)) ⟨rest, divided⟩ := by
  rw [signed_succ]
  rfl

/-- What holds without depth, and with some if it does behind a sign and in a parenthesis, holds
with any depth. -/
@[elab_as_elim]
theorem depth_induction {motive : Nat → Prop} (depth : Nat) (none : motive 0)
    (some : ∀ depth, motive depth → motive (depth - 4) → motive (depth + 1)) : motive depth := by
  induction depth using Nat.strongRecOn with
  | ind depth ih =>
    cases depth with
    | zero => exact none
    | succ depth => exact some depth (ih _ (by omega)) (ih _ (by omega))

/-- An operand moves on if those in it do. -/
theorem advances_unary {behind inside : Rule} (behinds : behind.Advances)
    (insides : inside.Advances) : (unary behind inside).Advances := by
  intro cursor
  unfold unary
  split
  · rename_i rest split
    exact (behinds.andThen advances_squareRoot).behind split
  · rename_i rest split
    exact (behinds.andThen fun value => advances_give (-value)).behind split
  · exact advances_atom (advances_sum insides) cursor

/-- An operand with its signs moves on, however deep signs may be nested. -/
theorem advances_signed (depth : Nat) : (signed depth).Advances := by
  induction depth using depth_induction with
  | none => exact advances_fail _
  | some depth behind inside =>
    rw [signed_succ]
    exact advances_unary behind inside

/-! ## The bound of a chain -/

/-- Two rules that agree wherever the first of them leads do so one after the other. -/
theorem andThen_congr {rule : Rule} {left right : Double → Rule} {cursor : Cursor}
    (agree : ∀ value, left value (rule cursor).2 = right value (rule cursor).2) :
    (rule.andThen left) cursor = (rule.andThen right) cursor := by
  unfold Rule.andThen
  split
  · rename_i value middle run
    rw [run] at agree
    exact agree value
  · rfl

/-- Bounds that are no smaller than the tokens left give the same chain. -/
theorem chain_bound {operation : Operation} {operand : Rule} (operations : operation.Advances)
    (operands : operand.Advances) (left right : Nat) (value : Double) (cursor : Cursor)
    (leftBound : cursor.rest.length ≤ left) (rightBound : cursor.rest.length ≤ right) :
    chain operation operand left value cursor = chain operation operand right value cursor := by
  induction left generalizing right value cursor with
  | zero =>
    have empty : cursor.rest = [] := List.length_eq_zero_iff.mp (Nat.le_zero.mp leftBound)
    cases right with
    | zero => rfl
    | succ right => simp only [chain, give, empty]
  | succ left ih =>
    cases right with
    | zero =>
      have empty : cursor.rest = [] := List.length_eq_zero_iff.mp (Nat.le_zero.mp rightBound)
      simp only [chain, give, empty]
    | succ right =>
      unfold chain
      split
      · rfl
      · rename_i token rest split
        cases known : operation token with
        | none => rfl
        | some combine =>
          have shorter := ((operands.andThen (operations token combine known value))
            { cursor with rest }).length_le
          have length : cursor.rest.length = rest.length + 1 := by rw [split, List.length_cons]
          refine andThen_congr fun next => ih right next _ ?_ ?_
          · exact Nat.le_trans shorter (by show rest.length ≤ left; omega)
          · exact Nat.le_trans shorter (by show rest.length ≤ right; omega)

end Rule

end Reckoner
