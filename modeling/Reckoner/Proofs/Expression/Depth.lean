import Reckoner.Proofs.Expression.Division
import Reckoner.Proofs.Expression.Lookahead
import Reckoner.Proofs.Expression.Opposite

/-!
# Where the depth runs out

With more depth an evaluation comes to the same, unless it was cut off for want of depth. It never
is where the calls that signs and parentheses take are fewer than the depth, but it is where signs
alone take it all. So for every depth there is an expression that has a value there and is cut off
one call deeper: a number in a parenthesis, with so many minus signs before it.
-/

namespace Reckoner

/-! ## More depth -/

namespace Rule

/-- A whole expression that is not cut off is read the same with more depth. -/
theorem whole_deeper {depth deeper : Nat} (within : depth ≤ deeper) {cursor : Cursor}
    (through : (whole depth cursor).1 ≠ .error .tooDeep) :
    whole deeper cursor = whole depth cursor := by
  have summed : (sum (signed depth) cursor).1 ≠ .error .tooDeep :=
    fun failed => through (andThen_error failed)
  have matched := matched_sum (advances_signed depth) (advances_signed deeper)
    (matched_signed within) cursor
  simp only [whole, Rule.andThen, matched.same summed]

end Rule

/-- An evaluation is cut off exactly if reading is. -/
theorem evaluate_tooDeep_iff {depth : Nat} {expression : Text} :
    evaluate depth expression = .error .tooDeep ↔
      (Rule.whole depth (.start (Token.scan expression))).1 = .error .tooDeep := by
  unfold evaluate
  rcases Rule.whole depth (.start (Token.scan expression)) with ⟨error | value, cursor⟩
  · simp
  · simp only [reduceCtorEq, iff_false]
    split
    · nofun
    · nofun

/-- An evaluation that is not cut off comes to the same with more depth. -/
theorem evaluate_deeper {depth deeper : Nat} (within : depth ≤ deeper) {expression : Text}
    (through : evaluate depth expression ≠ .error .tooDeep) :
    evaluate deeper expression = evaluate depth expression := by
  have same := Rule.whole_deeper within (mt evaluate_tooDeep_iff.2 through)
  simp only [evaluate, same]

/-- An expression is not cut off if it has a derivation that is nested in fewer calls than there are
left. -/
theorem evaluate_through {depth : Nat} {expression : Text} {tree : Tree .sum}
    (derives : tree.tokens = Token.scan expression) (fits : tree.nesting < depth) :
    evaluate depth expression ≠ .error .tooDeep := by
  rw [Ne, evaluate_tooDeep_iff, ← derives, whole_outcome fits]
  exact tree.outcome_ne_tooDeep

/-! ## Signs that take all the depth -/

/-- Behind as many signs as there are calls left nothing is read. -/
theorem Rule.signed_cut_off (depth : Nat) (rest : List Token) (divided : Bool) :
    (signed depth ⟨List.replicate depth .minus ++ rest, divided⟩).1 = .error .tooDeep := by
  induction depth with
  | zero => rfl
  | succ depth ih =>
    rw [List.replicate_succ, List.cons_append, signed_minus]
    exact andThen_error ih

/-- A sum fails if its first operand does. -/
theorem Rule.sum_error {operand : Rule} {cursor : Cursor} {error : EvaluationError}
    (failed : (operand cursor).1 = .error error) : (sum operand cursor).1 = .error error :=
  andThen_error (andThen_error (andThen_error (andThen_error failed)))

/-- One in a parenthesis, with so many minus signs before it. -/
def signedOne (signs : Nat) : Text :=
  '(' :: (List.replicate signs ('-' : CodePoint) ++ (['1', ')'] : Text))

/-- Every sign is a token of its own. -/
theorem scan_signedOne (signs : Nat) : Token.scan (signedOne signs) =
    .leftParen :: (List.replicate signs .minus ++ [.number ['1'], .rightParen]) := by
  have minus : Token.isNumberChar '-' = false := by decide
  have paren : Token.isNumberChar '(' = false := by decide
  have behind : Token.scan (List.replicate signs ('-' : CodePoint) ++ (['1', ')'] : Text)) =
      List.replicate signs .minus ++ [.number ['1'], .rightParen] := by
    induction signs with
    | zero => decide
    | succ signs ih =>
      rw [List.replicate_succ, List.cons_append, Token.scan_other minus, ih]
      rfl
  rw [signedOne, Token.scan_other paren, behind]
  rfl

/-- It is cut off as soon as only the calls that the parenthesis and the signs take are left. -/
theorem evaluate_signedOne_cut_off (signs : Nat) :
    evaluate (signs + 5) (signedOne signs) = .error .tooDeep := by
  have inner := Rule.sum_error
    (Rule.signed_cut_off signs [.number ['1'], .rightParen] false)
  have operand : (Rule.signed (signs + 5)
      (.start (.leftParen :: (List.replicate signs .minus ++ [.number ['1'], .rightParen])))).1 =
        .error .tooDeep := by
    rw [Rule.signed_succ]
    exact Rule.andThen_error inner
  rw [evaluate_tooDeep_iff, scan_signedOne]
  exact Rule.andThen_error (Rule.sum_error operand)

/-- Its derivation. -/
def Tree.signedOne (signs : Nat) : Tree .sum :=
  .term (.factor (.bare (.base (.plain (.parens (.term (.factor (.bare (.base
    (ofSigns ['1'] (List.replicate signs .minus)))))))))))

/-- The tokens of its derivation are its own. -/
theorem tokens_signedOne (signs : Nat) :
    (Tree.signedOne signs).tokens = Token.scan (signedOne signs) := by
  rw [scan_signedOne]
  simp [Tree.signedOne, Tree.tokens, Tree.tokens_ofSigns, Sign.token]

/-- Its derivation is nested in as many calls as there are signs, and five for the parenthesis. -/
theorem nesting_signedOne (signs : Nat) : (Tree.signedOne signs).nesting = signs + 5 := by
  show (Tree.ofSigns ['1'] (List.replicate signs .minus)).nesting + 5 = signs + 5
  rw [Tree.nesting_ofSigns, List.length_replicate]

/-- The value of one with so many minus signs before it. -/
def signedOneValue (signs : Nat) : Double := if signs % 2 = 0 then .ofInt 1 else .ofInt (-1)

/-- Every sign takes the opposite. -/
theorem outcome_signedOne (signs : Nat) :
    (Tree.signedOne signs).outcome = .ok (signedOneValue signs) := by
  show (Tree.ofSigns ['1'] (List.replicate signs .minus)).outcome = _
  induction signs with
  | zero => decide +kernel
  | succ signs ih =>
    have opposite : -(Double.ofInt 1) = .ofInt (-1) := by decide +kernel
    rw [List.replicate_succ]
    show (do return -(← (Tree.ofSigns ['1'] (List.replicate signs .minus)).outcome)) = _
    rw [ih]
    show Except.ok (-(signedOneValue signs)) = _
    unfold signedOneValue
    rcases Nat.mod_two_eq_zero_or_one signs with even | odd
    · rw [if_pos even, if_neg (by omega), opposite]
    · rw [if_neg (by omega), if_pos (by omega), ← opposite, Double.neg_neg]

/-- With one call more it is shown. -/
theorem expression_signedOne {depth signs : Nat} (room : signs + 5 < depth) :
    Display.expression? depth (signedOne signs) =
      some (if signs % 2 = 0 then ("1" : Text) else "-1") := by
  have fits : (Tree.signedOne signs).nesting < depth := by rwa [nesting_signedOne]
  have read := whole_outcome fits
  rw [outcome_signedOne, tokens_signedOne] at read
  have finite : (signedOneValue signs).isFinite = true := by
    unfold signedOneValue
    split <;> decide +kernel
  have evaluated : ∃ divided,
      evaluate depth (signedOne signs) = .ok ⟨signedOneValue signs, divided⟩ := by
    refine ⟨(Rule.whole depth (.start (Token.scan (signedOne signs)))).2.divided, ?_⟩
    unfold evaluate
    rw [show Rule.whole depth (.start (Token.scan (signedOne signs))) =
      (.ok (signedOneValue signs), _) from Prod.ext read rfl]
    exact if_pos finite
  obtain ⟨divided, evaluated⟩ := evaluated
  have whole : Token.divide ∉ Token.scan (signedOne signs) := by
    rw [scan_signedOne]
    simp
  rw [(evaluate_divided_iff evaluated).2.2, if_neg whole]
  show some (Display.result (signedOneValue signs)) = _
  unfold signedOneValue
  split <;> decide +kernel

end Reckoner
