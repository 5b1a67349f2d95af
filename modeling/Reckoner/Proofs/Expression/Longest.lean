import Mathlib.Algebra.GroupWithZero.Nat
import Reckoner.Proofs.Expression.Lookahead
import Reckoner.Proofs.Expression.Opposite
import Reckoner.Proofs.Expression.Reading

/-!
# The longest derivation ahead

A rule stays within the tokens ahead of it, and where it gives a value it has read a derivation of
its level. No longer derivation stands there: the rule would have read that one too, since it looks
at nothing behind the next token and would find the same one.

The depth to which signs and parentheses may be nested takes no part in this. It can only be
exceeded where the tokens ahead open as many calls, and wherever it is not exceeded any larger
depth gives the same.
-/

namespace Reckoner

open Rule

/-! ## How deep rules get -/

/-- How many calls a token may open. -/
def Token.calls : Token → Nat
  | .leftParen => 5
  | .root => 1
  | .minus => 1
  | _ => 0

/-- How many calls the tokens ahead of a cursor may open. -/
def Cursor.calls (cursor : Cursor) : Nat := (cursor.rest.map Token.calls).sum

/-- Further on there are no more calls ahead. -/
theorem Cursor.calls_le {cursor after : Cursor} (moved : after.rest <:+ cursor.rest) :
    after.calls ≤ cursor.calls := by
  obtain ⟨read, split⟩ := moved
  rw [calls, calls, ← split, List.map_append, List.sum_append]
  exact Nat.le_add_left _ _

/-- Behind a token its calls are no longer ahead. -/
theorem Cursor.calls_cons (cursor : Cursor) {token : Token} {rest : List Token}
    (split : cursor.rest = token :: rest) :
    cursor.calls = token.calls + Cursor.calls { cursor with rest } := by
  rw [calls, split, List.map_cons, List.sum_cons]
  rfl

namespace Rule

/-- A rule fits into a depth if it never gets too deep where the tokens ahead open fewer calls. -/
def Fits (rule : Rule) (depth : Nat) : Prop :=
  ∀ cursor : Cursor, cursor.calls < depth → (rule cursor).1 ≠ .error .tooDeep

variable {depth : Nat}

/-- Giving a value fits. -/
theorem fits_give (value : Double) : (give value).Fits depth := fun _ _ => nofun

/-- Failing fits, unless it is for the depth. -/
theorem fits_fail {error : EvaluationError} (other : error ≠ .tooDeep) :
    (fail error).Fits depth := fun _ _ same => other (Except.error.inj same)

/-- Rules that fit do so one after the other, as the first one moves on. -/
theorem Fits.andThen {rule : Rule} {next : Double → Rule} (head : rule.Fits depth)
    (advances : rule.Advances) (rest : ∀ value, (next value).Fits depth) :
    (rule.andThen next).Fits depth := by
  intro cursor few
  have first := head cursor few
  have moved := advances cursor
  unfold Rule.andThen
  split
  · rename_i value middle run
    rw [run] at moved
    exact rest value middle (Nat.lt_of_le_of_lt (Cursor.calls_le moved) few)
  · rename_i error middle run
    rw [run] at first
    exact first

/-- A rule that fits does so behind a token, too. -/
theorem Fits.behind {rule : Rule} (fits : rule.Fits depth) {cursor : Cursor} {token : Token}
    {rest : List Token} (split : cursor.rest = token :: rest) (few : cursor.calls < depth) :
    (rule { cursor with rest }).1 ≠ .error .tooDeep := by
  have ahead := cursor.calls_cons split
  exact fits _ (by omega)

/-- Behind a token that opens calls a rule has to fit into a depth with as many less. -/
theorem Fits.inside {rule : Rule} {less : Nat} (fits : rule.Fits less) {cursor : Cursor}
    {token : Token} {rest : List Token} (split : cursor.rest = token :: rest)
    (opened : depth ≤ less + token.calls) (few : cursor.calls < depth) :
    (rule { cursor with rest }).1 ≠ .error .tooDeep := by
  have ahead := cursor.calls_cons split
  exact fits _ (by omega)

/-- Reading a percent sign fits. -/
theorem fits_percentage (value : Double) : (percentage value).Fits depth := by
  intro cursor few
  unfold percentage
  split <;> exact nofun

/-- Taking a square root fits. -/
theorem fits_squareRoot (value : Double) : (squareRoot value).Fits depth := by
  unfold squareRoot
  split
  · exact fits_fail nofun
  · exact fits_give _

/-- A closing parenthesis fits. -/
theorem fits_close (value : Double) : (close value).Fits depth := by
  intro cursor few
  unfold close
  split <;> exact nofun

/-- The value of a number fits. -/
theorem fits_number (text : Text) : (number text).Fits depth := by
  unfold number
  split
  · exact fits_give _
  · exact fits_fail nofun

/-- An operation of a chain fits if all that it combines does. -/
def Operation.Fits (operation : Operation) (depth : Nat) : Prop :=
  ∀ token combine, operation token = some combine → ∀ left right, (combine left right).Fits depth

/-- Raising is an operation that fits. -/
theorem powerOperation_fits : powerOperation.Fits depth := by
  intro token combine known left right
  cases token <;> cases known
  unfold raise
  split
  · exact fits_give _
  · exact fits_fail nofun

/-- Multiplying and dividing are operations that fit. -/
theorem productOperation_fits : productOperation.Fits depth := by
  intro token combine known left right
  cases token <;> cases known
  · exact fits_give _
  · intro cursor few
    unfold quotient
    split <;> exact nofun

/-- Adding and subtracting are operations that fit. -/
theorem sumOperation_fits : sumOperation.Fits depth := by
  intro token combine known left right
  cases token <;> cases known <;> exact fits_give _

section Operands

variable {operation : Operation} {operand : Rule}

/-- A chain fits if its operation and its operand do. -/
theorem fits_chain (advances : operation.Advances) (combines : operation.Fits depth)
    (operands : operand.Advances) (fits : operand.Fits depth) (bound : Nat) (value : Double) :
    (chain operation operand bound value).Fits depth := by
  induction bound generalizing value with
  | zero => exact fits_give value
  | succ bound ih =>
    intro cursor few
    unfold chain
    split
    · exact nofun
    · rename_i token rest split
      cases known : operation token with
      | none => exact nofun
      | some combine =>
        have round := fits.andThen operands (combines token combine known value)
        have moves := operands.andThen (advances token combine known value)
        exact (round.andThen moves ih).behind split few

/-- The same with the first operand. -/
theorem fits_chained (advances : operation.Advances) (combines : operation.Fits depth)
    (operands : operand.Advances) (fits : operand.Fits depth) :
    (chained operation operand).Fits depth :=
  fits.andThen operands fun value cursor =>
    fits_chain advances combines operands fits cursor.rest.length value cursor

/-- A power of operands that fit does. -/
theorem fits_power (operands : operand.Advances) (fits : operand.Fits depth) :
    (power operand).Fits depth :=
  fits_chained powerOperation_advances powerOperation_fits operands fits

/-- A part of a product fits if its operands do. -/
theorem fits_part (operands : operand.Advances) (fits : operand.Fits depth) :
    ((power operand).andThen percentage).Fits depth :=
  (fits_power operands fits).andThen (advances_power operands) fits_percentage

/-- A product fits if its operands do. -/
theorem fits_product (operands : operand.Advances) (fits : operand.Fits depth) :
    (product operand).Fits depth :=
  fits_chained productOperation_advances productOperation_fits (advances_part operands)
    (fits_part operands fits)

/-- A sum fits if its operands do. -/
theorem fits_sum (operands : operand.Advances) (fits : operand.Fits depth) :
    (sum operand).Fits depth :=
  fits_chained sumOperation_advances sumOperation_fits (advances_product operands)
    (fits_product operands fits)

end Operands

/-- An atom fits if what stands in parentheses fits into five calls less. -/
theorem fits_atom {inner : Rule} (inners : inner.Advances) (fits : inner.Fits (depth - 5)) :
    (atom inner).Fits depth := by
  intro cursor few
  unfold atom
  split
  · exact nofun
  · rename_i rest split
    have opened : depth ≤ depth - 5 + Token.leftParen.calls := by
      simp only [Token.calls]
      omega
    exact (fits.andThen inners fits_close).inside split opened few
  · rename_i text rest split
    exact (fits_number text).behind split few
  · exact nofun

/-- An operand fits if those in it do with the calls less. -/
theorem fits_unary {behind inside : Rule} (behinds : behind.Advances) (insides : inside.Advances)
    (fits : behind.Fits depth) (fitsInside : inside.Fits (depth - 4)) :
    (unary behind inside).Fits (depth + 1) := by
  intro cursor few
  unfold unary
  split
  · rename_i rest split
    exact (fits.andThen behinds fits_squareRoot).inside split (Nat.le_refl _) few
  · rename_i rest split
    exact (fits.andThen behinds fun value => fits_give (-value)).inside split (Nat.le_refl _) few
  · have inner : inside.Fits (depth + 1 - 5) := by rwa [Nat.add_sub_add_right]
    exact fits_atom (advances_sum insides) (fits_sum insides inner) cursor few

/-- An operand with its signs fits into the depth to which these may be nested. -/
theorem fits_signed (depth : Nat) : (signed depth).Fits depth := by
  induction depth using depth_induction with
  | none => exact fun cursor none => absurd none (Nat.not_lt_zero _)
  | some depth behind inside =>
    rw [signed_succ]
    exact fits_unary (advances_signed depth) (advances_signed (depth - 4)) behind inside

end Rule

/-! ## The rules of the levels -/

namespace Level

variable (level : Level) (depth : Nat)

/-- The rules move on. -/
theorem rule_advances : (level.rule depth).Advances := by
  cases level with
  | sum => exact advances_sum (advances_signed depth)
  | product => exact advances_product (advances_signed depth)
  | part => exact advances_part (advances_signed depth)
  | power => exact advances_power (advances_signed depth)
  | signed => exact advances_signed depth
  | atom => exact advances_atom (advances_sum (advances_signed (depth - 5)))

/-- The rules fit into the depth that they have. -/
theorem rule_fits : (level.rule depth).Fits depth := by
  cases level with
  | sum => exact fits_sum (advances_signed depth) (fits_signed depth)
  | product => exact fits_product (advances_signed depth) (fits_signed depth)
  | part => exact fits_part (advances_signed depth) (fits_signed depth)
  | power => exact fits_power (advances_signed depth) (fits_signed depth)
  | signed => exact fits_signed depth
  | atom =>
    exact fits_atom (advances_sum (advances_signed (depth - 5)))
      (fits_sum (advances_signed (depth - 5)) (fits_signed (depth - 5)))

/-- Where the rules give a value they have read a derivation. -/
theorem rule_sound : (level.rule depth).Sound level := by
  have operands := sound_signed depth
  cases level with
  | sum => exact sound_sum operands
  | product => exact products.sound_chained (sound_part operands)
  | part => exact sound_part operands
  | power => exact powers.sound_chained operands
  | signed => exact operands
  | atom => exact sound_atom (sound_sum (sound_signed (depth - 5)))

variable {depth} in
/-- The rules are matched by those of any larger depth. -/
theorem rule_matched {deeper : Nat} (within : depth ≤ deeper) :
    (level.rule depth).Matched (level.rule deeper) := by
  have operands := matched_signed within
  have moves := advances_signed depth
  have others := advances_signed deeper
  cases level with
  | sum => exact matched_sum moves others operands
  | product => exact matched_product moves others operands
  | part => exact matched_part moves others operands
  | power => exact matched_power moves others operands
  | signed => exact operands
  | atom =>
    exact matched_atom (matched_sum (advances_signed (depth - 5)) (advances_signed (deeper - 5))
      (matched_signed (Nat.sub_le_sub_right within 5)))

end Level

/-! ## The longest derivation -/

namespace Tree

variable {level : Level}

/-- A derivation takes at least one token. -/
theorem tokens_ne_nil (tree : Tree level) : tree.tokens ≠ [] := by
  obtain ⟨front, last, same, -⟩ := tree.closes
  rw [same]
  exact List.append_ne_nil_of_right_ne_nil front (List.cons_ne_nil last [])

/-- A derivation is the longest one ahead if every other one of its level stands within it. -/
def IsLongest (tree : Tree level) (ahead : List Token) : Prop :=
  tree.tokens <+: ahead ∧
    ∀ other : Tree level, other.tokens <+: ahead → other.tokens <+: tree.tokens

/-- A derivation that a rule reads whatever follows the next token is the longest one there. -/
theorem isLongest {depth : Nat} {tree : Tree level} {rest : List Token} {value : Double}
    (reads : ∀ later divided, later.head? = rest.head? →
      level.rule depth ⟨tree.tokens ++ later, divided⟩ =
        (.ok value, ⟨later, divided || tree.divides⟩)) :
    tree.IsLongest (tree.tokens ++ rest) := by
  refine ⟨List.prefix_append _ _, fun other ahead => ?_⟩
  rcases List.prefix_or_prefix_of_prefix ahead (List.prefix_append tree.tokens rest) with
    within | ⟨later, longer⟩
  · exact within
  cases later with
  | nil =>
    rw [List.append_nil] at longer
    exact longer ▸ List.prefix_rfl
  | cons next later =>
    -- With enough depth the rule reads the longer derivation to its end, but it stops at `next`.
    exfalso
    have sees : (next :: later).head? = rest.head? := by
      rw [← longer, List.prefix_append_right_inj] at ahead
      obtain ⟨behind, rfl⟩ := ahead
      rfl
    have stops := reads _ false sees
    have shallow : (level.rule depth ⟨tree.tokens ++ next :: later, false⟩).1 ≠
        .error .tooDeep := by
      rw [stops]
      exact nofun
    have same := (level.rule_matched (Nat.le_max_left depth (other.nesting + 1)) _).same shallow
    have ends : level.Stops [] := nofun
    have through := (other.reads (Nat.le_max_right depth (other.nesting + 1))).reads [] ends false
    rw [List.append_nil, ← longer] at through
    obtain ⟨-, reached⟩ := through.of_ok (same.trans stops)
    cases congrArg Cursor.rest reached

end Tree

/-- A rule reads the longest derivation ahead of it, and nothing else decides what it gives. From
any position of any tokens it ends at that position or behind it, and not beyond the end. It gets
too deep only if the tokens ahead open as many calls as it has depth, and if it does not, then it
ends likewise with any larger depth. Every derivation that is not nested too deep is read where
nothing goes on with it. And wherever the rule gives a value, it has read one token or more, which
are the longest derivation of its level there and have that value; with any tokens behind the next
one, and whether or not a division has been recorded before, it would read the same ones to the same
value, and record a division if one occurs in them. -/
theorem Level.rule_takes_longest (level : Level) (depth : Nat) (cursor : Cursor) :
    (level.rule depth cursor).2.rest <:+ cursor.rest ∧
    (cursor.calls < depth → (level.rule depth cursor).1 ≠ .error .tooDeep) ∧
    ((level.rule depth cursor).1 ≠ .error .tooDeep →
      ∀ deeper, depth ≤ deeper → level.rule deeper cursor = level.rule depth cursor) ∧
    (∀ tree : Tree level, tree.nesting < depth → (level.rule depth).Reads tree) ∧
    ∀ value after, level.rule depth cursor = (.ok value, after) →
      ∃ tree : Tree level, tree.tokens ≠ [] ∧ cursor.rest = tree.tokens ++ after.rest ∧
        tree.IsLongest cursor.rest ∧ tree.outcome = .ok value ∧
        ∀ rest divided, rest.head? = after.rest.head? →
          level.rule depth ⟨tree.tokens ++ rest, divided⟩ =
            (.ok value, ⟨rest, divided || tree.divides⟩) := by
  refine ⟨level.rule_advances depth cursor, level.rule_fits depth cursor, ?_, ?_, ?_⟩
  · intro shallow deeper within
    exact (level.rule_matched within cursor).same shallow
  · exact fun tree fits => (tree.reads fits).reads
  · intro value after run
    obtain ⟨read, recorded, tokens, -, again⟩ :=
      level.rule_matched (Nat.le_refl depth) cursor _ _ run nofun
    have unmarked : level.rule depth ⟨read ++ after.rest, false⟩ =
        (.ok value, ⟨after.rest, recorded⟩) := again after.rest false rfl
    obtain ⟨tree, derived, outcome, divides⟩ := level.rule_sound depth _ _ _ unmarked
    obtain rfl : read = tree.tokens := List.append_cancel_right derived
    obtain rfl : recorded = tree.divides := divides.trans (Bool.false_or _)
    refine ⟨tree, tree.tokens_ne_nil, tokens, ?_, outcome, again⟩
    rw [tokens]
    exact Tree.isLongest again

/-- The tokens of `1+6/(5-2)%%`. -/
def doublePercentage : List Token :=
  [.number ['1'], .plus, .number ['6'], .divide, .leftParen, .number ['5'], .minus, .number ['2'],
    .rightParen, .percent, .percent]

/-- From the third token on, the rule of products takes all tokens but the last, although a percent
sign may belong to a product: no product has two of them in a row. -/
theorem doublePercentage_taken :
    RuleName.product.rule 6 ⟨doublePercentage.drop 2, false⟩ =
      (.ok (.ofInt 200), ⟨[.percent], true⟩) ∧
    ∃ tree : Tree .product, tree.tokens = (doublePercentage.drop 2).take 8 ∧
      tree.IsLongest (doublePercentage.drop 2) := by
  have run : RuleName.product.rule 6 ⟨doublePercentage.drop 2, false⟩ =
      (.ok (.ofInt 200), ⟨[.percent], true⟩) := by decide +kernel
  obtain ⟨-, -, -, -, taken⟩ :=
    Level.product.rule_takes_longest 6 ⟨doublePercentage.drop 2, false⟩
  obtain ⟨tree, -, tokens, longest, -⟩ := taken _ _ run
  exact ⟨run, tree, List.append_cancel_right (tokens.symm.trans rfl), longest⟩

/-- The rules that can be run on their own are those of their levels. -/
example (depth : Nat) : RuleName.sum.rule depth = Level.sum.rule depth ∧
    RuleName.product.rule depth = Level.product.rule depth ∧
    RuleName.power.rule depth = Level.power.rule depth ∧
    RuleName.signed.rule depth = Level.signed.rule depth ∧
    RuleName.atom.rule depth = Level.atom.rule depth := ⟨rfl, rfl, rfl, rfl, rfl⟩

end Reckoner
