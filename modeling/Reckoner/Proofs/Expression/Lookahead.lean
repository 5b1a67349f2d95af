import Reckoner.Proofs.Expression.Rule

/-!
# How far rules look ahead

A rule looks at the tokens that it reads and at the next one, and at nothing behind that. Nor does
it matter whether a division has been recorded before. So wherever the same tokens are ahead and
the same token follows them, or the end does, the rule does the same again (`MatchedAt`).

The depth to which signs and parentheses may be nested matters only where it is exceeded. The rules
of a larger depth match those of a smaller one, which is why two rules are compared here and not
one with itself.
-/

namespace Reckoner

namespace Rule

/-- A rule is matched by another one at a cursor: unless the rule gets too deep, it reads some
tokens, and the other one does the same wherever these are ahead with the same next token. -/
def MatchedAt (rule other : Rule) (cursor : Cursor) : Prop :=
  ∀ outcome after, rule cursor = (outcome, after) → outcome ≠ .error .tooDeep →
    ∃ read recorded, cursor.rest = read ++ after.rest ∧
      after.divided = (cursor.divided || recorded) ∧
      ∀ rest divided, rest.head? = after.rest.head? →
        other ⟨read ++ rest, divided⟩ = (outcome, ⟨rest, divided || recorded⟩)

/-- A rule is matched by another one wherever it stands. -/
def Matched (rule other : Rule) : Prop := ∀ cursor, rule.MatchedAt other cursor

/-- Where a rule does not get too deep, a rule that matches it does the same. -/
theorem MatchedAt.same {rule other : Rule} {cursor : Cursor} (matched : rule.MatchedAt other cursor)
    (shallow : (rule cursor).1 ≠ .error .tooDeep) : other cursor = rule cursor := by
  obtain ⟨read, recorded, tokens, divided, same⟩ := matched _ _ rfl shallow
  have again := same _ cursor.divided rfl
  rwa [← tokens, ← divided] at again

/-! ## Rules made of rules -/

/-- Two rules, one after the other, are matched by two others. -/
theorem MatchedAt.andThen {rule other : Rule} {next following : Double → Rule} {cursor : Cursor}
    (head : rule.MatchedAt other cursor)
    (tail : ∀ value middle, rule cursor = (.ok value, middle) →
      (next value).MatchedAt (following value) middle) :
    (rule.andThen next).MatchedAt (other.andThen following) cursor := by
  intro outcome after run shallow
  rcases first : rule cursor with ⟨error | value, middle⟩
  · simp only [Rule.andThen, first] at run
    obtain ⟨rfl, rfl⟩ := Prod.mk.inj run
    obtain ⟨read, recorded, tokens, divided, same⟩ := head _ _ first shallow
    refine ⟨read, recorded, tokens, divided, fun rest divided next => ?_⟩
    simp only [Rule.andThen, same rest divided next]
  · simp only [Rule.andThen, first] at run
    have returned : Except.ok value ≠ .error EvaluationError.tooDeep := by simp
    obtain ⟨read, recorded, tokens, divided, same⟩ := head _ _ first returned
    obtain ⟨further, more, behind, later, continued⟩ := tail value middle first _ _ run shallow
    refine ⟨read ++ further, recorded || more, ?_, ?_, fun rest divided next => ?_⟩
    · rw [tokens, behind, List.append_assoc]
    · rw [later, divided, Bool.or_assoc]
    · -- The first rule sees the first token that the second one reads, or sees what follows both.
      have seen : (further ++ rest).head? = middle.rest.head? := by
        rw [behind, List.head?_append, List.head?_append, next]
      simp only [Rule.andThen, List.append_assoc, same _ divided seen, continued rest _ next,
        Bool.or_assoc]

/-- Rules that do what others do, wherever the next token is the same, are matched as those. -/
theorem MatchedAt.of_next {rule other left right : Rule} {cursor : Cursor}
    (matched : left.MatchedAt right cursor) (first : rule cursor = left cursor)
    (second : ∀ rest divided, rest.head? = cursor.rest.head? →
      other ⟨rest, divided⟩ = right ⟨rest, divided⟩) : rule.MatchedAt other cursor := by
  intro outcome after run shallow
  obtain ⟨read, recorded, tokens, divided, same⟩ := matched _ _ (first.symm.trans run) shallow
  refine ⟨read, recorded, tokens, divided, fun rest divided next => ?_⟩
  have seen : (read ++ rest).head? = cursor.rest.head? := by
    rw [tokens, List.head?_append, List.head?_append, next]
  rw [second _ divided seen, same rest divided next]

/-- Rules that read a token and do what others do behind it are matched as those. -/
theorem MatchedAt.behind {rule other left right : Rule} {token : Token} {rest : List Token}
    {divided : Bool} (matched : left.MatchedAt right ⟨rest, divided⟩)
    (first : rule ⟨token :: rest, divided⟩ = left ⟨rest, divided⟩)
    (second : ∀ rest divided, other ⟨token :: rest, divided⟩ = right ⟨rest, divided⟩) :
    rule.MatchedAt other ⟨token :: rest, divided⟩ := by
  intro outcome after run shallow
  obtain ⟨read, recorded, tokens, flag, same⟩ := matched _ _ (first.symm.trans run) shallow
  refine ⟨token :: read, recorded, congrArg (token :: ·) tokens, flag, fun rest divided next => ?_⟩
  rw [List.cons_append, second, same rest divided next]

/-! ## Rules that read at most one token -/

/-- Giving a value looks at no token. -/
theorem matched_give (value : Double) : (give value).Matched (give value) := by
  rintro cursor outcome after ⟨⟩ -
  exact ⟨[], false, rfl, (Bool.or_false _).symm, fun rest divided _ => by rw [Bool.or_false]; rfl⟩

/-- Failing looks at no token. -/
theorem matched_fail (error : EvaluationError) : (fail error).Matched (fail error) := by
  rintro cursor outcome after ⟨⟩ -
  exact ⟨[], false, rfl, (Bool.or_false _).symm, fun rest divided _ => by rw [Bool.or_false]; rfl⟩

/-- Taking a square root looks at no token. -/
theorem matched_squareRoot (value : Double) :
    (squareRoot value).Matched (squareRoot value) := by
  unfold squareRoot
  split
  · exact matched_fail _
  · exact matched_give _

/-- Raising to a power looks at no token. -/
theorem matched_raise (base exponent : Double) :
    (raise base exponent).Matched (raise base exponent) := by
  unfold raise
  split
  · exact matched_give _
  · exact matched_fail _

/-- Dividing looks at no token, and records the division if it is carried out. -/
theorem matched_quotient (dividend divisor : Double) :
    (quotient dividend divisor).Matched (quotient dividend divisor) := by
  intro cursor
  by_cases zero : divisor.isZero = true
  · refine (matched_fail .divisionByZero cursor).of_next ?_ fun rest divided _ => ?_
    all_goals simp only [quotient, zero, ↓reduceIte, fail]
  · rintro outcome after run -
    simp only [quotient, zero, Bool.false_eq_true, ↓reduceIte] at run
    obtain ⟨rfl, rfl⟩ := Prod.mk.inj run
    refine ⟨[], true, rfl, (Bool.or_true _).symm, fun rest divided _ => ?_⟩
    simp only [quotient, zero, Bool.false_eq_true, ↓reduceIte, List.nil_append, Bool.or_true]

/-- The value of a number looks at no further token. -/
theorem matched_number (text : Text) : (number text).Matched (number text) := by
  unfold number
  split
  · exact matched_give _
  · exact matched_fail _

/-- Without a percent sign ahead a value stays. -/
theorem percentage_else {value : Double} {rest : List Token} (divided : Bool)
    (next : rest.head? ≠ some .percent) :
    percentage value ⟨rest, divided⟩ = give value ⟨rest, divided⟩ := by
  cases rest with
  | nil => rfl
  | cons token rest =>
    cases token with
    | percent => exact absurd rfl next
    | _ => rfl

/-- A percentage looks at the next token. -/
theorem matched_percentage (value : Double) : (percentage value).Matched (percentage value) := by
  rintro ⟨rest, divided⟩
  by_cases next : rest.head? = some .percent
  · obtain ⟨later, rfl⟩ := List.head?_eq_some_iff.mp next
    exact (matched_give value.hundredth _).behind rfl fun _ _ => rfl
  · exact (matched_give value _).of_next (percentage_else divided next)
      fun others flag same => percentage_else flag (same ▸ next)

/-- Without a closing parenthesis ahead one is missing. -/
theorem close_else {value : Double} {rest : List Token} (divided : Bool)
    (next : rest.head? ≠ some .rightParen) :
    close value ⟨rest, divided⟩ = fail .unclosed ⟨rest, divided⟩ := by
  cases rest with
  | nil => rfl
  | cons token rest =>
    cases token with
    | rightParen => exact absurd rfl next
    | _ => rfl

/-- A closing parenthesis looks at the next token. -/
theorem matched_close (value : Double) : (close value).Matched (close value) := by
  rintro ⟨rest, divided⟩
  by_cases next : rest.head? = some .rightParen
  · obtain ⟨later, rfl⟩ := List.head?_eq_some_iff.mp next
    exact (matched_give value _).behind rfl fun _ _ => rfl
  · exact (matched_fail .unclosed _).of_next (close_else divided next)
      fun others flag same => close_else flag (same ▸ next)

/-! ## Chains -/

/-- A chain from a value on, in which each mark takes one of the tokens ahead. -/
def goOn (operation : Operation) (operand : Rule) (value : Double) : Rule := fun cursor =>
  chain operation operand cursor.rest.length value cursor

/-- A chain ends before a token that is no mark of its level. -/
theorem goOn_else {operation : Operation} {operand : Rule} {value : Double} {rest : List Token}
    (divided : Bool) (next : ∀ token ∈ rest.head?, operation token = none) :
    goOn operation operand value ⟨rest, divided⟩ = give value ⟨rest, divided⟩ := by
  cases rest with
  | nil => rfl
  | cons token rest =>
    have unmarked := next token rfl
    simp only [goOn, List.length_cons, chain, unmarked, give]

/-- At a mark a chain reads an operand, combines it with the value, and goes on. No bound is left
in this equation: the chain ends because every round takes a token. -/
theorem goOn_mark {operation : Operation} {operand : Rule} (operations : operation.Advances)
    (operands : operand.Advances) {token : Token} {combine : Double → Double → Rule}
    (known : operation token = some combine) (value : Double) (rest : List Token)
    (divided : Bool) :
    goOn operation operand value ⟨token :: rest, divided⟩ =
      ((operand.andThen (combine value)).andThen (goOn operation operand)) ⟨rest, divided⟩ := by
  have round := operands.andThen (operations token combine known value)
  simp only [goOn, List.length_cons, chain, known]
  exact andThen_congr fun next => chain_bound operations operands _ _ next _
    (round ⟨rest, divided⟩).length_le (Nat.le_refl _)

/-- All that an operation of a chain combines looks at no more than its values. -/
def Operation.Matched (operation : Operation) : Prop :=
  ∀ token combine, operation token = some combine →
    ∀ left right, (combine left right).Matched (combine left right)

/-- Raising is such an operation. -/
theorem powerOperation_matched : powerOperation.Matched := by
  intro token combine known left right
  cases token <;> cases known
  exact matched_raise left right

/-- Multiplying and dividing are such operations. -/
theorem productOperation_matched : productOperation.Matched := by
  intro token combine known left right
  cases token <;> cases known
  · exact matched_give _
  · exact matched_quotient left right

/-- Adding and subtracting are such operations. -/
theorem sumOperation_matched : sumOperation.Matched := by
  intro token combine known left right
  cases token <;> cases known <;> exact matched_give _

section Operands

variable {operation : Operation} {operand other : Rule}

/-- A chain is matched by the chain of operands that match its own. -/
theorem matched_goOn (operations : operation.Advances) (combines : operation.Matched)
    (operands : operand.Advances) (others : other.Advances) (matched : operand.Matched other)
    (value : Double) : (goOn operation operand value).Matched (goOn operation other value) := by
  rintro ⟨rest, divided⟩
  -- Every round leaves fewer tokens, and so the induction is on how many there are.
  induction length : rest.length using Nat.strongRecOn generalizing value rest divided with
  | ind count ih =>
    cases rest with
    | nil =>
      refine (matched_give value _).of_next rfl fun rest flag same => goOn_else flag ?_
      rw [same]
      exact nofun
    | cons token rest =>
      cases known : operation token with
      | none =>
        have unmarked : ∀ next ∈ some token, operation next = none := by
          rintro next ⟨⟩
          exact known
        exact (matched_give value _).of_next (goOn_else divided unmarked)
          fun rest flag same => goOn_else flag (same ▸ unmarked)
      | some combine =>
        have round := operands.andThen (operations token combine known value)
        have matchedRound : (operand.andThen (combine value)).MatchedAt
            (other.andThen (combine value)) ⟨rest, divided⟩ :=
          (matched _).andThen fun right middle _ => combines token combine known value right middle
        refine (matchedRound.andThen fun next middle run => ?_).behind
          (goOn_mark operations operands known value rest divided)
          (goOn_mark operations others known value)
        have fewer : middle.rest.length ≤ rest.length := by
          have moved := (round ⟨rest, divided⟩).length_le
          rwa [run] at moved
        rw [List.length_cons] at length
        exact ih middle.rest.length (by omega) next middle.rest middle.divided rfl

/-- The same with the first operand. -/
theorem matched_chained (operations : operation.Advances) (combines : operation.Matched)
    (operands : operand.Advances) (others : other.Advances) (matched : operand.Matched other) :
    (chained operation operand).Matched (chained operation other) := fun cursor =>
  (matched cursor).andThen fun value middle _ =>
    matched_goOn operations combines operands others matched value middle

/-- A power is matched by one whose operands match. -/
theorem matched_power (operands : operand.Advances) (others : other.Advances)
    (matched : operand.Matched other) : (power operand).Matched (power other) :=
  matched_chained powerOperation_advances powerOperation_matched operands others matched

/-- A part of a product is matched by one whose operands match. -/
theorem matched_part (operands : operand.Advances) (others : other.Advances)
    (matched : operand.Matched other) :
    ((power operand).andThen percentage).Matched ((power other).andThen percentage) :=
  fun cursor => (matched_power operands others matched cursor).andThen fun value middle _ =>
    matched_percentage value middle

/-- A product is matched by one whose operands match. -/
theorem matched_product (operands : operand.Advances) (others : other.Advances)
    (matched : operand.Matched other) : (product operand).Matched (product other) :=
  matched_chained productOperation_advances productOperation_matched (advances_part operands)
    (advances_part others) (matched_part operands others matched)

/-- A sum is matched by one whose operands match. -/
theorem matched_sum (operands : operand.Advances) (others : other.Advances)
    (matched : operand.Matched other) : (sum operand).Matched (sum other) :=
  matched_chained sumOperation_advances sumOperation_matched (advances_product operands)
    (advances_product others) (matched_product operands others matched)

end Operands

/-! ## Operands -/

/-- An atom is matched by one with a matching rule for what stands in parentheses. -/
theorem matched_atom {inner other : Rule} (matched : inner.Matched other) :
    (atom inner).Matched (atom other) := by
  rintro ⟨rest, divided⟩
  cases rest with
  | nil =>
    refine (matched_fail .unexpectedEnd _).of_next rfl fun rest flag same => ?_
    obtain rfl : rest = [] := List.head?_eq_none_iff.mp same
    rfl
  | cons token rest =>
    cases token with
    | leftParen =>
      exact ((matched _).andThen fun value middle _ => matched_close value middle).behind rfl
        fun _ _ => rfl
    | number text => exact (matched_number text _).behind rfl fun _ _ => rfl
    | _ => exact (matched_fail (.unexpectedToken _) _).behind rfl fun _ _ => rfl

/-- Without a sign ahead an operand is an atom. -/
theorem unary_else (behind inside : Rule) {rest : List Token} (divided : Bool)
    (noRoot : rest.head? ≠ some .root) (noMinus : rest.head? ≠ some .minus) :
    unary behind inside ⟨rest, divided⟩ = atom (sum inside) ⟨rest, divided⟩ := by
  cases rest with
  | nil => rfl
  | cons token rest =>
    cases token with
    | root => exact absurd rfl noRoot
    | minus => exact absurd rfl noMinus
    | _ => rfl

/-- An operand is matched by one in which matching operands stand. -/
theorem matched_unary {behind others inside inner : Rule} (behinds : behind.Matched others)
    (insides : inside.Advances) (inners : inner.Advances) (matched : inside.Matched inner) :
    (unary behind inside).Matched (unary others inner) := by
  rintro ⟨rest, divided⟩
  by_cases root : rest.head? = some .root
  · obtain ⟨later, rfl⟩ := List.head?_eq_some_iff.mp root
    exact ((behinds _).andThen fun value middle _ => matched_squareRoot value middle).behind rfl
      fun _ _ => rfl
  · by_cases minus : rest.head? = some .minus
    · obtain ⟨later, rfl⟩ := List.head?_eq_some_iff.mp minus
      exact ((behinds _).andThen fun value middle _ => matched_give (-value) middle).behind rfl
        fun _ _ => rfl
    · have atoms := matched_atom (matched_sum insides inners matched)
      exact (atoms _).of_next (unary_else behind inside divided root minus)
        fun later flag same => unary_else others inner flag (same ▸ root) (same ▸ minus)

/-- An operand with its signs is matched by that of any larger depth. -/
theorem matched_signed {depth deeper : Nat} (within : depth ≤ deeper) :
    (signed depth).Matched (signed deeper) := by
  induction depth using depth_induction generalizing deeper with
  | none =>
    rintro cursor outcome after ⟨⟩ shallow
    exact absurd rfl shallow
  | some depth behind inside =>
    obtain ⟨deeper, rfl⟩ := Nat.exists_eq_add_of_lt (Nat.zero_lt_of_lt within)
    rw [Nat.zero_add] at within ⊢
    have less : depth ≤ deeper := Nat.le_of_succ_le_succ within
    rw [signed_succ, signed_succ]
    exact matched_unary (behind less) (advances_signed _) (advances_signed _)
      (inside (Nat.sub_le_sub_right less 4))

end Rule

end Reckoner
