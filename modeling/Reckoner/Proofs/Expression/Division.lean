import Reckoner.Display
import Reckoner.Proofs.Expression.Reading
import Reckoner.Proofs.Expression.Scan

/-!
# Expressions with a division

Whether a result is shown as a quotient hangs on a mark that the rules set while they read. An
expression that has a value is read to its end, and nothing but a division reads its sign. So the
mark says exactly that the expression is written with a `/`, in whatever parentheses it stands.
-/

namespace Reckoner

/-- A division occurs in a derivation exactly if its sign is among the tokens. -/
theorem Tree.divides_iff {level : Level} (tree : Tree level) :
    tree.divides = true ↔ Token.divide ∈ tree.tokens := by
  induction tree with
  | number text => simp [divides, tokens]
  | quotient left right ihLeft ihRight => simp [divides, tokens]
  | plain operand ih | base operand ih | bare operand ih | factor operand ih | term operand ih =>
    exact ih
  | parens inner ih | root inner ih | negative inner ih | percent inner ih =>
    simp [divides, tokens, ih]
  | raised left right ihLeft ihRight | times left right ihLeft ihRight
  | plus left right ihLeft ihRight | minus left right ihLeft ihRight =>
    simp [divides, tokens, ihLeft, ihRight]

/-- The sign of a division is among the tokens exactly if it is written. -/
theorem Token.divide_mem_scan_iff {text : Text} :
    divide ∈ scan text ↔ ('/' : CodePoint) ∈ text := by
  rw [← List.count_pos_iff, count_scan rfl rfl, List.count_pos_iff]

/-- An expression that has a value has a derivation, and its mark says whether that divides. -/
theorem evaluate_derived {depth : Nat} {expression : Text} {evaluation : Evaluation}
    (evaluated : evaluate depth expression = .ok evaluation) :
    ∃ tree : Tree .sum, tree.tokens = Token.scan expression ∧
      evaluation.divided = tree.divides := by
  unfold evaluate at evaluated
  split at evaluated
  · rename_i value cursor read
    split at evaluated
    · obtain rfl := Except.ok.inj evaluated
      obtain ⟨tree, derived, -, divided⟩ := whole_sound (congrArg Prod.fst read)
      rw [read] at divided
      exact ⟨tree, derived, divided⟩
    · cases evaluated
  · cases evaluated

/-- An expression with a value is marked as a division exactly if a `/` is among its tokens, which
is to say in its text, wherever it stands. So it is shown as a quotient exactly if it is written
with a `/`, and as any other result otherwise; a percent sign does not matter. -/
theorem evaluate_divided_iff {depth : Nat} {expression : Text} {evaluation : Evaluation}
    (evaluated : evaluate depth expression = .ok evaluation) :
    (evaluation.divided = true ↔ Token.divide ∈ Token.scan expression) ∧
    (Token.divide ∈ Token.scan expression ↔ ('/' : CodePoint) ∈ expression) ∧
    Display.expression? depth expression =
      some (if Token.divide ∈ Token.scan expression then Display.quotient evaluation.value
        else Display.result evaluation.value) := by
  obtain ⟨tree, derived, divided⟩ := evaluate_derived evaluated
  have marked : evaluation.divided = true ↔ Token.divide ∈ Token.scan expression := by
    rw [divided, tree.divides_iff, derived]
  refine ⟨marked, Token.divide_mem_scan_iff, ?_⟩
  simp only [Display.expression?, evaluated, Display.evaluation, marked]

/-- Half of a hundred percent and a quarter, twice: the division stands in parentheses. -/
def halfAndQuarter : Text := "(50%+1/4)*2"

/-- One and a half is shown as a quotient, for the sake of the quarter in the parentheses. -/
theorem halfAndQuarter_divided :
    evaluate 6 halfAndQuarter = .ok ⟨.ofInt 3 / .ofInt 2, true⟩ ∧
      Display.expression? 6 halfAndQuarter = some (Display.quotient (.ofInt 3 / .ofInt 2)) := by
  have evaluated : evaluate 6 halfAndQuarter = .ok ⟨.ofInt 3 / .ofInt 2, true⟩ := by
    decide +kernel
  have written : Token.divide ∈ Token.scan halfAndQuarter := by decide
  obtain ⟨-, -, shown⟩ := evaluate_divided_iff evaluated
  rw [if_pos written] at shown
  exact ⟨evaluated, shown⟩

end Reckoner
