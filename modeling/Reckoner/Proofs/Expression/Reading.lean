import Mathlib.Control.Monad.Basic
import Reckoner.Proofs.Expression.Grammar
import Reckoner.Proofs.Expression.Rule

/-!
# Reading what the grammar derives

The rules against the grammar. A rule reads the tokens of every derivation of its level, whatever
follows them, as long as that cannot be read on; it computes the outcome of the derivation, and a
division is recorded if one occurs (`reads`). Conversely, where a rule gives a value it has read
the tokens of a derivation with that value (`sound`).

A level that repeats needs more than this to be proved by induction: its derivations end on the
right, and the rule goes on from there. `ReadsOn` says that the rule behaves as if it stood behind
the derivation with its value.
-/

namespace Reckoner

open Rule

/-- The rule of a level, where a depth is left for signs and parentheses. -/
def Level.rule (depth : Nat) : Level → Rule
  | .sum => Rule.sum (Rule.signed depth)
  | .product => Rule.product (Rule.signed depth)
  | .part => (Rule.power (Rule.signed depth)).andThen percentage
  | .power => Rule.power (Rule.signed depth)
  | .signed => Rule.signed depth
  | .atom => Rule.atom (Rule.sum (Rule.signed (depth - 5)))

/-- The marks with which the rule of a level reads on behind a derivation. -/
def Level.marks : Level → List Token
  | .sum => [.plus, .minus, .times, .divide, .percent, .power]
  | .product => [.times, .divide, .percent, .power]
  | .part => [.percent, .power]
  | .power => [.power]
  | .signed => []
  | .atom => []

/-- Nothing that follows goes on with a derivation of the level. -/
def Level.Stops (level : Level) (rest : List Token) : Prop :=
  ∀ token ∈ rest.head?, token ∉ level.marks

/-- How a level repeats the level below it: the derivations of an operand and of an operation, and
what the operation computes. -/
structure ChainForm (operation : Operation) (upper lower : Level) where
  single : Tree lower → Tree upper
  grow : Token → Tree upper → Tree lower → Tree upper
  combine : Token → Double → Double → Except EvaluationError Double
  divides : Token → Bool
  single_tokens : ∀ tree, (single tree).tokens = tree.tokens
  single_outcome : ∀ tree, (single tree).outcome = tree.outcome
  single_divides : ∀ tree, (single tree).divides = tree.divides
  grow_tokens : ∀ {mark rule}, operation mark = some rule → ∀ left right,
    (grow mark left right).tokens = left.tokens ++ mark :: right.tokens
  grow_outcome : ∀ {mark rule}, operation mark = some rule → ∀ left right,
    (grow mark left right).outcome = do combine mark (← left.outcome) (← right.outcome)
  grow_divides : ∀ {mark rule}, operation mark = some rule → ∀ left right,
    (grow mark left right).divides = (left.divides || right.divides || divides mark)
  computes : ∀ {mark rule}, operation mark = some rule → ∀ left right cursor,
    (rule left right).Computes cursor (combine mark left right)
      ⟨cursor.rest, cursor.divided || divides mark⟩
  mark_mem : ∀ {mark rule}, operation mark = some rule → mark ∈ upper.marks
  mark_notMem : ∀ {mark rule}, operation mark = some rule → mark ∉ lower.marks
  marks_subset : lower.marks ⊆ upper.marks

/-- Raising computes a power. -/
theorem computes_raise (base exponent : Double) (cursor : Cursor) :
    (raise base exponent).Computes cursor (powerOf base exponent)
      ⟨cursor.rest, cursor.divided || false⟩ := by
  rw [Bool.or_false]
  unfold raise powerOf
  cases base.pow? exponent <;> rfl

/-- Dividing computes a quotient and records the division. -/
theorem computes_quotient (dividend divisor : Double) (cursor : Cursor) :
    (quotient dividend divisor).Computes cursor (quotientOf dividend divisor)
      ⟨cursor.rest, cursor.divided || true⟩ := by
  rw [Bool.or_true]
  unfold quotientOf
  by_cases zero : divisor.isZero = true
  · rw [if_pos zero]
    show (quotient dividend divisor cursor).1 = _
    simp only [quotient, zero, ↓reduceIte]
  · rw [if_neg zero]
    show quotient dividend divisor cursor = _
    simp only [quotient, zero, Bool.false_eq_true, ↓reduceIte]

/-- Giving a value computes it. -/
theorem computes_give (value : Double) (cursor : Cursor) :
    (give value).Computes cursor (.ok value) ⟨cursor.rest, cursor.divided || false⟩ := by
  rw [Bool.or_false]
  rfl

/-- Powers repeat signed operands. -/
def powers : ChainForm powerOperation .power .signed where
  single := .base
  grow _ := .raised
  combine _ := powerOf
  divides _ := false
  single_tokens _ := rfl
  single_outcome _ := rfl
  single_divides _ := rfl
  grow_tokens {mark rule} known left right := by cases mark <;> cases known; rfl
  grow_outcome {mark rule} known left right := by cases mark <;> cases known; rfl
  grow_divides {mark rule} known left right := by simp only [Tree.divides, Bool.or_false]
  computes {mark rule} known left right cursor := by
    cases mark <;> cases known
    exact computes_raise left right cursor
  mark_mem {mark rule} known := by
    cases mark <;> cases known
    decide
  mark_notMem {mark rule} known := by
    cases mark <;> cases known
    decide
  marks_subset := by decide

/-- Products repeat parts. -/
def products : ChainForm productOperation .product .part where
  single := .factor
  grow mark := if mark = .divide then .quotient else .times
  combine mark left right :=
    if mark = .divide then quotientOf left right else .ok (left * right)
  divides mark := mark = .divide
  single_tokens _ := rfl
  single_outcome _ := rfl
  single_divides _ := rfl
  grow_tokens {mark rule} known left right := by cases mark <;> cases known <;> rfl
  grow_outcome {mark rule} known left right := by cases mark <;> cases known <;> rfl
  grow_divides {mark rule} known left right := by
    cases mark <;> cases known <;> simp [Tree.divides]
  computes {mark rule} known left right cursor := by
    cases mark <;> cases known
    · exact computes_give _ cursor
    · exact computes_quotient left right cursor
  mark_mem {mark rule} known := by cases mark <;> cases known <;> decide
  mark_notMem {mark rule} known := by cases mark <;> cases known <;> decide
  marks_subset := by decide

/-- Sums repeat products. -/
def sums : ChainForm sumOperation .sum .product where
  single := .term
  grow mark := if mark = .minus then .minus else .plus
  combine mark left right := .ok (if mark = .minus then left - right else left + right)
  divides _ := false
  single_tokens _ := rfl
  single_outcome _ := rfl
  single_divides _ := rfl
  grow_tokens {mark rule} known left right := by cases mark <;> cases known <;> rfl
  grow_outcome {mark rule} known left right := by cases mark <;> cases known <;> rfl
  grow_divides {mark rule} known left right := by
    cases mark <;> cases known <;> simp [Tree.divides]
  computes {mark rule} known left right cursor := by
    cases mark <;> cases known <;> exact computes_give _ cursor
  mark_mem {mark rule} known := by cases mark <;> cases known <;> decide
  mark_notMem {mark rule} known := by cases mark <;> cases known <;> decide
  marks_subset := by decide

/-! ## Derivations are read -/

/-- A rule reads the tokens of a derivation when nothing that goes on with it follows. -/
def Rule.Reads (rule : Rule) {level : Level} (tree : Tree level) : Prop :=
  ∀ rest, level.Stops rest → ∀ divided,
    rule.Computes ⟨tree.tokens ++ rest, divided⟩ tree.outcome ⟨rest, divided || tree.divides⟩

/-- A chain reads the tokens of a derivation and goes on behind it with its value, provided that
nothing that goes on with its last operand follows. -/
def Rule.ReadsOn (operation : Operation) (operand : Rule) {upper : Level} (lower : Level)
    (tree : Tree upper) : Prop :=
  ∀ rest, lower.Stops rest → ∀ divided outcome after,
    (∀ value, tree.outcome = .ok value →
      (chain operation operand rest.length value).Computes ⟨rest, divided || tree.divides⟩
        (outcome value) after) →
    (chained operation operand).Computes ⟨tree.tokens ++ rest, divided⟩ (tree.outcome >>= outcome)
      after

namespace ChainForm

variable {operation : Operation} {upper lower : Level} {operand : Rule}

/-- A chain that begins with an operand goes on behind it. -/
theorem readsOn_single (form : ChainForm operation upper lower) {tree : Tree lower}
    (reads : operand.Reads tree) : ReadsOn operation operand lower (form.single tree) := by
  intro rest stop divided outcome after continued
  rw [form.single_tokens, form.single_outcome]
  rw [form.single_outcome, form.single_divides] at continued
  exact (reads rest stop divided).andThen continued

/-- A chain that goes on behind a derivation reads a mark and an operand and goes on behind them. -/
theorem readsOn_grow (form : ChainForm operation upper lower) (operations : operation.Advances)
    (operands : operand.Advances) {mark : Token} {combine : Double → Double → Rule}
    (known : operation mark = some combine) {left : Tree upper} {right : Tree lower}
    (first : ReadsOn operation operand lower left) (second : operand.Reads right) :
    ReadsOn operation operand lower (form.grow mark left right) := by
  intro rest stop divided outcome after continued
  have stopMark : lower.Stops (mark :: (right.tokens ++ rest)) := by
    intro token head
    obtain rfl : mark = token := Option.some.inj head
    exact form.mark_notMem known
  have tokens : (left.tokens ++ mark :: right.tokens) ++ rest =
      left.tokens ++ mark :: (right.tokens ++ rest) := by
    rw [List.append_assoc, List.cons_append]
  rw [form.grow_tokens known, tokens, form.grow_outcome known, bind_assoc]
  rw [form.grow_outcome known, form.grow_divides known] at continued
  refine first _ stopMark divided _ after ?_
  intro leftValue leftOutcome
  have step : chain operation operand (mark :: (right.tokens ++ rest)).length leftValue
      ⟨mark :: (right.tokens ++ rest), divided || left.divides⟩ =
      ((operand.andThen (combine leftValue)).andThen
        (chain operation operand (right.tokens ++ rest).length))
        ⟨right.tokens ++ rest, divided || left.divides⟩ := by
    simp only [List.length_cons, chain, known]
  refine Computes.of_eq ?_ step
  refine Computes.andThen ((second rest stop _).andThen
    fun rightValue _ => form.computes known leftValue rightValue _) ?_
  intro value combined
  have total : (do form.combine mark (← left.outcome) (← right.outcome)) = .ok value := by
    rw [leftOutcome]
    exact combined
  have bound : rest.length ≤ (right.tokens ++ rest).length := by
    rw [List.length_append]
    exact Nat.le_add_left _ _
  have next := continued value total
  rw [← Bool.or_assoc, ← Bool.or_assoc] at next
  exact next.of_eq (chain_bound operations operands _ _ value _ bound (Nat.le_refl _))

/-- A chain ends before a token that is no mark of its level. -/
theorem ends (form : ChainForm operation upper lower) {rest : List Token}
    (stop : upper.Stops rest) (bound : Nat) (value : Double) (divided : Bool) :
    chain operation operand bound value ⟨rest, divided⟩ = (.ok value, ⟨rest, divided⟩) := by
  cases bound with
  | zero => rfl
  | succ bound =>
    cases rest with
    | nil => rfl
    | cons token rest =>
      cases known : operation token with
      | none => simp only [chain, known]
      | some combine => exact absurd (form.mark_mem known) (stop token rfl)

/-- A chain reads a derivation when no mark of its level follows either. -/
theorem reads_of_readsOn (form : ChainForm operation upper lower) {tree : Tree upper}
    (readsOn : ReadsOn operation operand lower tree) : (chained operation operand).Reads tree := by
  intro rest stop divided
  have lowerStop : lower.Stops rest :=
    fun token head member => stop token head (form.marks_subset member)
  have computes := readsOn rest lowerStop divided .ok ⟨rest, divided || tree.divides⟩
    fun value _ => form.ends stop _ value _
  have same : tree.outcome >>= Except.ok = tree.outcome := bind_pure tree.outcome
  rw [same] at computes
  exact computes

end ChainForm

/-- What is proved of a derivation by induction: a level that repeats goes on behind it. -/
def Level.ReadsTree (depth : Nat) : (level : Level) → Tree level → Prop
  | .sum, tree => ReadsOn sumOperation (Level.product.rule depth) .product tree
  | .product, tree => ReadsOn productOperation (Level.part.rule depth) .part tree
  | .power, tree => ReadsOn powerOperation (Level.signed.rule depth) .signed tree
  | .part, tree => (Level.part.rule depth).Reads tree
  | .signed, tree => (Level.signed.rule depth).Reads tree
  | .atom, tree => (Level.atom.rule depth).Reads tree

/-- A derivation that is read on behind is read. -/
theorem Level.ReadsTree.reads {depth : Nat} {level : Level} {tree : Tree level}
    (readsTree : level.ReadsTree depth tree) : (level.rule depth).Reads tree := by
  cases level with
  | sum => exact sums.reads_of_readsOn readsTree
  | product => exact products.reads_of_readsOn readsTree
  | power => exact powers.reads_of_readsOn readsTree
  | part | signed | atom => exact readsTree

/-- Nothing goes on with a signed operand. -/
theorem signed_stops (rest : List Token) : Level.signed.Stops rest :=
  fun _ _ => List.not_mem_nil

/-- A number computes its value. -/
theorem computes_number (text : Text) (cursor : Cursor) :
    (Rule.number text).Computes cursor (numberOf text) cursor := by
  unfold Rule.number numberOf
  cases Decimal.ofText? text <;> rfl

/-- A closing parenthesis computes the value before it. -/
theorem computes_close (value : Double) (rest : List Token) (divided : Bool) :
    (close value).Computes ⟨.rightParen :: rest, divided⟩ (.ok value) ⟨rest, divided⟩ := rfl

/-- A percentage computes a hundredth. -/
theorem computes_percentage (value : Double) (rest : List Token) (divided : Bool) :
    (percentage value).Computes ⟨.percent :: rest, divided⟩ (.ok value.hundredth)
      ⟨rest, divided⟩ := rfl

/-- A part without a percent sign after it keeps its value. -/
theorem computes_noPercentage (value : Double) {rest : List Token}
    (stop : Level.part.Stops rest) (divided : Bool) :
    (percentage value).Computes ⟨rest, divided⟩ (.ok value) ⟨rest, divided⟩ := by
  cases rest with
  | nil => rfl
  | cons token rest =>
    cases token with
    | percent => exact absurd (by decide) (stop .percent rfl)
    | _ => rfl

/-- A root computes the square root. -/
theorem computes_squareRoot (value : Double) (cursor : Cursor) :
    (squareRoot value).Computes cursor (rootOf value) cursor := by
  unfold squareRoot rootOf
  split <;> rfl

/-- An operand without a sign is read as an atom. -/
theorem signed_plain (depth : Nat) (tree : Tree .atom) (rest : List Token) (divided : Bool) :
    Rule.signed (depth + 1) ⟨tree.tokens ++ rest, divided⟩ =
      Level.atom.rule (depth + 1) ⟨tree.tokens ++ rest, divided⟩ := by
  rw [signed_succ, Level.rule, Nat.add_sub_add_right]
  cases tree <;> rfl

/-- Every derivation that is not nested too deep is read. -/
theorem Tree.reads {level : Level} (tree : Tree level) {depth : Nat}
    (fits : tree.nesting < depth) : level.ReadsTree depth tree := by
  induction tree generalizing depth with
  | number text =>
    intro rest _ divided
    have computes := computes_number text ⟨rest, divided⟩
    rw [show (Tree.number text).divides = false from rfl, Bool.or_false]
    exact computes.of_eq rfl
  | parens inner ih =>
    simp only [nesting] at fits
    intro rest _ divided
    have stop : Level.sum.Stops (.rightParen :: rest) := by
      intro token head
      obtain rfl : Token.rightParen = token := Option.some.inj head
      decide
    have inside := (ih (show inner.nesting < depth - 5 by omega)).reads _ stop divided
    have computes := inside.andThen_keep fun value => computes_close value rest _
    refine computes.of_eq ?_
    simp only [tokens, List.cons_append, List.append_assoc, List.nil_append]
    rfl
  | plain operand ih =>
    obtain ⟨depth, rfl⟩ := Nat.exists_eq_add_of_lt (Nat.zero_lt_of_lt fits)
    rw [Nat.zero_add] at fits ⊢
    intro rest stop divided
    exact ((ih fits).reads rest (signed_stops rest) divided).of_eq
      (signed_plain depth operand rest divided)
  | root operand ih =>
    obtain ⟨depth, rfl⟩ := Nat.exists_eq_add_of_lt (Nat.zero_lt_of_lt fits)
    rw [Nat.zero_add] at fits ⊢
    intro rest stop divided
    have inside := (ih (Nat.lt_of_succ_lt_succ fits)).reads rest stop divided
    exact (inside.andThen fun value _ => computes_squareRoot value _).of_eq
      (signed_root depth _ divided)
  | negative operand ih =>
    obtain ⟨depth, rfl⟩ := Nat.exists_eq_add_of_lt (Nat.zero_lt_of_lt fits)
    rw [Nat.zero_add] at fits ⊢
    intro rest stop divided
    have inside := (ih (Nat.lt_of_succ_lt_succ fits)).reads rest stop divided
    have negated : ∀ value cursor, (give (-value)).Computes cursor (.ok (-value)) cursor :=
      fun value cursor => rfl
    exact (inside.andThen fun value _ => negated value _).of_eq
      (signed_minus depth _ divided)
  | base operand ih => exact powers.readsOn_single (ih fits).reads
  | raised left right ihLeft ihRight =>
    obtain ⟨leftFits, rightFits⟩ := Nat.max_lt.mp fits
    exact powers.readsOn_grow powerOperation_advances (advances_signed depth)
      (show powerOperation .power = some _ from rfl) (ihLeft leftFits) (ihRight rightFits).reads
  | bare operand ih =>
    intro rest stop divided
    have powerStop : Level.power.Stops rest :=
      fun token head member => stop token head (List.mem_cons_of_mem _ member)
    have inside := (ih fits).reads rest powerStop divided
    exact inside.andThen_keep fun value => computes_noPercentage value stop _
  | percent operand ih =>
    intro rest stop divided
    have powerStop : Level.power.Stops (.percent :: rest) := by
      intro token head
      obtain rfl : Token.percent = token := Option.some.inj head
      decide
    have inside := (ih fits).reads _ powerStop divided
    have computes := inside.andThen fun value _ => computes_percentage value rest _
    rw [show operand.percent.tokens ++ rest = operand.tokens ++ .percent :: rest by
      simp [tokens]]
    exact computes
  | factor operand ih => exact products.readsOn_single (ih fits).reads
  | times left right ihLeft ihRight =>
    obtain ⟨leftFits, rightFits⟩ := Nat.max_lt.mp fits
    exact products.readsOn_grow productOperation_advances (advances_part (advances_signed depth))
      (show productOperation .times = some _ from rfl) (ihLeft leftFits) (ihRight rightFits).reads
  | quotient left right ihLeft ihRight =>
    obtain ⟨leftFits, rightFits⟩ := Nat.max_lt.mp fits
    exact products.readsOn_grow productOperation_advances (advances_part (advances_signed depth))
      (show productOperation .divide = some _ from rfl) (ihLeft leftFits) (ihRight rightFits).reads
  | term operand ih => exact sums.readsOn_single (ih fits).reads
  | plus left right ihLeft ihRight =>
    obtain ⟨leftFits, rightFits⟩ := Nat.max_lt.mp fits
    exact sums.readsOn_grow sumOperation_advances (advances_product (advances_signed depth))
      (show sumOperation .plus = some _ from rfl) (ihLeft leftFits) (ihRight rightFits).reads
  | minus left right ihLeft ihRight =>
    obtain ⟨leftFits, rightFits⟩ := Nat.max_lt.mp fits
    exact sums.readsOn_grow sumOperation_advances (advances_product (advances_signed depth))
      (show sumOperation .minus = some _ from rfl) (ihLeft leftFits) (ihRight rightFits).reads

/-! ## What is read has a derivation -/

/-- Where a rule gives a value it has read the tokens of a derivation with that value. -/
def Rule.Sound (rule : Rule) (level : Level) : Prop :=
  ∀ cursor value after, rule cursor = (.ok value, after) →
    ∃ tree : Tree level, cursor.rest = tree.tokens ++ after.rest ∧ tree.outcome = .ok value ∧
      after.divided = (cursor.divided || tree.divides)

namespace ChainForm

variable {operation : Operation} {upper lower : Level} {operand : Rule}

/-- Behind a derivation with its value, a chain reads what makes it a longer derivation. -/
theorem sound_chain (form : ChainForm operation upper lower) (sound : operand.Sound lower)
    (bound : Nat) (value : Double) (cursor : Cursor) (result : Double) (after : Cursor)
    (run : chain operation operand bound value cursor = (.ok result, after)) (left : Tree upper)
    (leftOutcome : left.outcome = .ok value) :
    ∃ (tree : Tree upper) (read : List Token) (divided : Bool),
      cursor.rest = read ++ after.rest ∧ tree.tokens = left.tokens ++ read ∧
      tree.outcome = .ok result ∧ tree.divides = (left.divides || divided) ∧
      after.divided = (cursor.divided || divided) := by
  induction bound generalizing value cursor left with
  | zero =>
    cases run
    exact ⟨left, [], false, by simp, by simp, leftOutcome, by simp, by simp⟩
  | succ bound ih =>
    unfold chain at run
    split at run
    · cases run
      exact ⟨left, [], false, by simp, by simp, leftOutcome, by simp, by simp⟩
    · rename_i mark rest split
      cases known : operation mark with
      | none =>
        simp only [known] at run
        cases run
        exact ⟨left, [], false, by simp, by simp, leftOutcome, by simp, by simp⟩
      | some combine =>
        simp only [known] at run
        obtain ⟨combined, middle, step, continued⟩ := andThen_ok run
        obtain ⟨rightValue, behind, operandRun, combineRun⟩ := andThen_ok step
        obtain ⟨right, rightTokens, rightOutcome, rightDivided⟩ := sound _ _ _ operandRun
        obtain ⟨combineOutcome, rfl⟩ :=
          (form.computes known value rightValue behind).of_ok combineRun
        have outcome : (form.grow mark left right).outcome = .ok combined := by
          rw [form.grow_outcome known, leftOutcome, rightOutcome]
          exact combineOutcome
        obtain ⟨tree, read, divided, readTokens, tokens, treeOutcome, treeDivides, afterDivided⟩ :=
          ih combined _ continued (form.grow mark left right) outcome
        refine ⟨tree, mark :: right.tokens ++ read, right.divides || form.divides mark || divided,
          ?_, ?_, treeOutcome, ?_, ?_⟩
        · have found : rest = right.tokens ++ behind.rest := rightTokens
          have later : behind.rest = read ++ after.rest := readTokens
          rw [split, found, later, List.cons_append, List.cons_append, List.append_assoc]
        · rw [tokens, form.grow_tokens known, List.append_assoc]
        · rw [treeDivides, form.grow_divides known]
          simp only [Bool.or_assoc]
        · rw [afterDivided, rightDivided]
          simp only [Bool.or_assoc]

/-- A level that repeats sound operands is sound. -/
theorem sound_chained (form : ChainForm operation upper lower) (sound : operand.Sound lower) :
    (chained operation operand).Sound upper := by
  intro cursor value after run
  obtain ⟨first, middle, operandRun, chainRun⟩ := andThen_ok run
  obtain ⟨tree, tokens, outcome, divided⟩ := sound _ _ _ operandRun
  have singleOutcome : (form.single tree).outcome = .ok first := by
    rw [form.single_outcome, outcome]
  obtain ⟨longer, read, more, readTokens, longerTokens, longerOutcome, longerDivides, afterDivided⟩ :=
    form.sound_chain sound _ _ _ _ _ chainRun (form.single tree) singleOutcome
  refine ⟨longer, ?_, longerOutcome, ?_⟩
  · rw [tokens, readTokens, longerTokens, form.single_tokens, List.append_assoc]
  · rw [afterDivided, divided, longerDivides, form.single_divides, Bool.or_assoc]

end ChainForm

/-- A number has a derivation. -/
theorem sound_number {text : Text} {cursor after : Cursor} {value : Double}
    (run : Rule.number text cursor = (.ok value, after)) :
    (Tree.number text).outcome = .ok value ∧ after = cursor :=
  (computes_number text cursor).of_ok run

/-- Atoms are sound when what stands in parentheses is. -/
theorem sound_atom {inner : Rule} (sound : inner.Sound .sum) : (Rule.atom inner).Sound .atom := by
  intro cursor value after run
  unfold Rule.atom at run
  split at run
  · cases run
  · rename_i rest split
    obtain ⟨first, middle, innerRun, closeRun⟩ := andThen_ok run
    obtain ⟨tree, tokens, outcome, divided⟩ := sound _ _ _ innerRun
    unfold close at closeRun
    split at closeRun
    · rename_i later closing
      cases closeRun
      refine ⟨.parens tree, ?_, outcome, divided⟩
      have : rest = tree.tokens ++ middle.rest := tokens
      rw [split, this, closing]
      simp [Tree.tokens]
    · cases closeRun
  · rename_i text rest split
    obtain ⟨outcome, rfl⟩ := sound_number run
    refine ⟨.number text, split, outcome, ?_⟩
    simp [Tree.divides]
  · cases run

/-- Parts of a product are sound when the operands of powers are. -/
theorem sound_part {operand : Rule} (sound : operand.Sound .signed) :
    ((Rule.power operand).andThen percentage).Sound .part := by
  intro cursor value after run
  obtain ⟨first, middle, powerRun, percentRun⟩ := andThen_ok run
  obtain ⟨tree, tokens, outcome, divided⟩ := powers.sound_chained sound _ _ _ powerRun
  unfold percentage at percentRun
  split at percentRun
  · rename_i rest split
    cases percentRun
    refine ⟨.percent tree, ?_, ?_, divided⟩
    · rw [tokens, split]
      simp [Tree.tokens]
    · simp only [Tree.outcome, outcome]
      rfl
  · cases percentRun
    exact ⟨.bare tree, tokens, outcome, divided⟩

/-- Sums are sound when the operands of powers are. -/
theorem sound_sum {operand : Rule} (sound : operand.Sound .signed) :
    (Rule.sum operand).Sound .sum :=
  sums.sound_chained (products.sound_chained (sound_part sound))

/-- An operand is sound when those in it are. -/
theorem sound_unary {behind inside : Rule} (behinds : behind.Sound .signed)
    (insides : inside.Sound .signed) : (Rule.unary behind inside).Sound .signed := by
  intro cursor value after run
  unfold Rule.unary at run
  split at run
  · rename_i rest split
    obtain ⟨first, middle, operandRun, rootRun⟩ := andThen_ok run
    obtain ⟨tree, tokens, outcome, divided⟩ := behinds _ _ _ operandRun
    obtain ⟨rooted, rfl⟩ := (computes_squareRoot first middle).of_ok rootRun
    refine ⟨.root tree, ?_, ?_, divided⟩
    · rw [split]
      exact congrArg (Token.root :: ·) tokens
    · simp only [Tree.outcome, outcome]
      exact rooted
  · rename_i rest split
    obtain ⟨first, middle, operandRun, negateRun⟩ := andThen_ok run
    obtain ⟨tree, tokens, outcome, divided⟩ := behinds _ _ _ operandRun
    cases negateRun
    refine ⟨.negative tree, ?_, ?_, divided⟩
    · rw [split]
      exact congrArg (Token.minus :: ·) tokens
    · simp only [Tree.outcome, outcome]
      rfl
  · obtain ⟨tree, tokens, outcome, divided⟩ := sound_atom (sound_sum insides) _ _ _ run
    exact ⟨.plain tree, tokens, outcome, divided⟩

/-- Operands with their signs are sound, however deep they may be nested. -/
theorem sound_signed (depth : Nat) : (Rule.signed depth).Sound .signed := by
  induction depth using depth_induction with
  | none =>
    intro cursor value after run
    cases run
  | some depth behind inside =>
    rw [signed_succ]
    exact sound_unary behind inside

/-! ## Whole expressions -/

/-- A whole expression computes the outcome of its derivation. -/
theorem whole_outcome {depth : Nat} {tree : Tree .sum} (fits : tree.nesting < depth) :
    (Rule.whole depth (.start tree.tokens)).1 = tree.outcome := by
  have stop : Level.sum.Stops [] := fun token head => absurd head (by simp)
  have computes := (tree.reads fits).reads [] stop false
  rw [List.append_nil] at computes
  have ended : ∀ value divided, (Rule.finish value).Computes ⟨[], divided⟩ (.ok value)
      ⟨[], divided⟩ := fun value divided => rfl
  exact (computes.andThen_keep fun value => ended value _).outcome

/-- A whole expression that has a value has a derivation with that value, and a division is recorded
if one occurs in it. -/
theorem whole_sound {depth : Nat} {tokens : List Token} {value : Double}
    (run : (Rule.whole depth (.start tokens)).1 = .ok value) :
    ∃ tree : Tree .sum, tree.tokens = tokens ∧ tree.outcome = .ok value ∧
      (Rule.whole depth (.start tokens)).2.divided = tree.divides := by
  have whole :
      Rule.whole depth (.start tokens) = (.ok value, (Rule.whole depth (.start tokens)).2) :=
    Prod.ext run rfl
  obtain ⟨first, middle, sumRun, finishRun⟩ := andThen_ok whole
  obtain ⟨tree, read, outcome, divided⟩ := sound_sum (sound_signed depth) _ _ _ sumRun
  unfold finish at finishRun
  split at finishRun
  · rename_i split
    obtain ⟨same, stays⟩ := Prod.mk.inj finishRun
    refine ⟨tree, ?_, ?_, ?_⟩
    · have found : tokens = tree.tokens ++ middle.rest := read
      rw [found, split, List.append_nil]
    · rw [outcome, same]
    · rw [← stays, divided]
      exact Bool.false_or _
  · cases finishRun

/-- The rules accept exactly what the grammar derives, and compute its meaning. Of tokens whose
numbers are numerals, those of a derivation that is not nested deeper than there is room for have
its outcome, which is never an error of form; and tokens without a derivation have no value. -/
theorem whole_computes_meaning (depth : Nat) (tokens : List Token)
    (readable : ∀ token ∈ tokens, token.isReadable = true) :
    (∀ tree : Tree .sum, tree.tokens = tokens → tree.nesting < depth →
      (Rule.whole depth (.start tokens)).1 = tree.outcome ∧ OnlyDomainErrors tree.outcome) ∧
    ((¬∃ tree : Tree .sum, tree.tokens = tokens) →
      ∃ error, (Rule.whole depth (.start tokens)).1 = .error error) := by
  constructor
  · rintro tree rfl fits
    exact ⟨whole_outcome fits, tree.onlyDomainErrors readable⟩
  · intro underivable
    cases run : (Rule.whole depth (.start tokens)).1 with
    | error e => exact ⟨e, rfl⟩
    | ok value =>
      obtain ⟨tree, derived, -⟩ := whole_sound run
      exact absurd ⟨tree, derived⟩ underivable

/-- The tokens of `8/(4-4)+√-1`, in which two operations have no value. -/
def twiceUndefined : List Token :=
  [.number ['8'], .divide, .leftParen, .number ['4'], .minus, .number ['4'], .rightParen, .plus,
    .root, .minus, .number ['1']]

/-- The derivation of a number of one digit as a product. -/
def Tree.digit (c : Char) : Tree .product := .factor (.bare (.base (.plain (.number [c]))))

/-- The derivation of `8/(4-4)+√-1`. -/
def Tree.twiceUndefined : Tree .sum :=
  .plus (.term (.quotient (Tree.digit '8')
    (.bare (.base (.plain (.parens (.minus (.term (Tree.digit '4')) (Tree.digit '4'))))))))
    (.factor (.bare (.base (.root (.negative (.plain (.number ['1'])))))))

/-- Of two operations without a value, the one that is met first decides the outcome, as soon as
there is room for the parenthesis. -/
theorem twiceUndefined_outcome :
    (∀ token ∈ twiceUndefined, token.isReadable = true) ∧
      (Rule.whole 6 (.start twiceUndefined)).1 = .error .divisionByZero := by
  have readable : ∀ token ∈ twiceUndefined, token.isReadable = true := by decide +kernel
  obtain ⟨computed, -⟩ := (whole_computes_meaning 6 twiceUndefined readable).1
    Tree.twiceUndefined rfl (by decide)
  exact ⟨readable, computed.trans (by decide +kernel)⟩

end Reckoner
