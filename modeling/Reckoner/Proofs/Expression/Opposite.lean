import Reckoner.Proofs.Expression.Grammar

/-!
# The opposite of the last number

Two derivations may differ by nothing but a minus sign right before the number that ends them. Then
the outcome of each is that of the other with the last number replaced by its opposite. Where a
derivation ends in a number, a minus sign can always be put before it; and a minus sign before it
can be taken away, unless an operand stands before the sign, which then subtracts.
-/

namespace Reckoner

/-- The opposite of the opposite is the number itself. -/
theorem Double.neg_neg (value : Double) : - -value = value := by
  cases value with
  | nan => rfl
  | infinite negative => exact congrArg infinite (Bool.not_not negative)
  | finite negative units exact =>
    cases negative with
    | true => rfl
    | false => rfl

/-! ## Derivations that differ by a minus sign -/

namespace Tree

/-- Two derivations that differ by one minus sign, which stands right before the number at the end
of one of them. -/
inductive Flips : {level : Level} → Tree level → Tree level → Prop
  | insert (text : Text) : Flips (.plain (.number text)) (.negative (.plain (.number text)))
  | remove (text : Text) : Flips (.negative (.plain (.number text))) (.plain (.number text))
  | root {tree other : Tree .signed} : Flips tree other → Flips (.root tree) (.root other)
  | negative {tree other : Tree .signed} :
    Flips tree other → Flips (.negative tree) (.negative other)
  | base {tree other : Tree .signed} : Flips tree other → Flips (.base tree) (.base other)
  | raised (left : Tree .power) {right other : Tree .signed} :
    Flips right other → Flips (.raised left right) (.raised left other)
  | bare {tree other : Tree .power} : Flips tree other → Flips (.bare tree) (.bare other)
  | factor {tree other : Tree .part} : Flips tree other → Flips (.factor tree) (.factor other)
  | times (left : Tree .product) {right other : Tree .part} :
    Flips right other → Flips (.times left right) (.times left other)
  | quotient (left : Tree .product) {right other : Tree .part} :
    Flips right other → Flips (.quotient left right) (.quotient left other)
  | term {tree other : Tree .product} : Flips tree other → Flips (.term tree) (.term other)
  | plus (left : Tree .sum) {right other : Tree .product} :
    Flips right other → Flips (.plus left right) (.plus left other)
  | minus (left : Tree .sum) {right other : Tree .product} :
    Flips right other → Flips (.minus left right) (.minus left other)

/-- The outcome of a derivation in which the number at the end has another value. -/
def outcomeWith (change : Double → Double) : {level : Level} → Tree level →
    Except EvaluationError Double
  | _, .number text => do return change (← numberOf text)
  | _, .parens inner => inner.outcome
  | _, .plain operand => operand.outcomeWith change
  | _, .root operand => do rootOf (← operand.outcomeWith change)
  | _, .negative operand => do return -(← operand.outcomeWith change)
  | _, .base operand => operand.outcomeWith change
  | _, .raised left right => do powerOf (← left.outcome) (← right.outcomeWith change)
  | _, .bare operand => operand.outcomeWith change
  | _, .percent operand => do return (← operand.outcome).hundredth
  | _, .factor operand => operand.outcomeWith change
  | _, .times left right => do return (← left.outcome) * (← right.outcomeWith change)
  | _, .quotient left right => do quotientOf (← left.outcome) (← right.outcomeWith change)
  | _, .term operand => operand.outcomeWith change
  | _, .plus left right => do return (← left.outcome) + (← right.outcomeWith change)
  | _, .minus left right => do return (← left.outcome) - (← right.outcomeWith change)

namespace Flips

variable {level : Level} {tree other : Tree level}

/-- What differs by a minus sign does so in either order. -/
theorem symm (flips : tree.Flips other) : other.Flips tree := by
  induction flips with
  | insert text => exact .remove text
  | remove text => exact .insert text
  | root _ ih => exact .root ih
  | negative _ ih => exact .negative ih
  | base _ ih => exact .base ih
  | raised left _ ih => exact .raised left ih
  | bare _ ih => exact .bare ih
  | factor _ ih => exact .factor ih
  | times left _ ih => exact .times left ih
  | quotient left _ ih => exact .quotient left ih
  | term _ ih => exact .term ih
  | plus left _ ih => exact .plus left ih
  | minus left _ ih => exact .minus left ih

/-- A minus sign more or less replaces the number at the end by its opposite. -/
theorem outcome (flips : tree.Flips other) : other.outcome = tree.outcomeWith (-·) := by
  induction flips with
  | insert text => rfl
  | remove text =>
    simp only [Tree.outcome, outcomeWith]
    cases numberOf text with
    | error e => rfl
    | ok value => exact congrArg Except.ok (Double.neg_neg value).symm
  | root _ ih | negative _ ih | base _ ih | bare _ ih | factor _ ih | term _ ih =>
    simp only [Tree.outcome, outcomeWith, ih]
  | raised left _ ih | times left _ ih | quotient left _ ih | plus left _ ih | minus left _ ih =>
    simp only [Tree.outcome, outcomeWith, ih]

end Flips

end Tree

/-! ## The token that ends a derivation -/

/-- A token that can end an operand. -/
def Token.isClosing : Token → Bool
  | .number _ => true
  | .rightParen => true
  | .percent => true
  | _ => false

namespace Tree

/-- A derivation ends in a token that can end an operand. -/
theorem closes {level : Level} (tree : Tree level) :
    ∃ front last, tree.tokens = front ++ [last] ∧ last.isClosing = true := by
  induction tree with
  | number text => exact ⟨[], _, rfl, rfl⟩
  | parens inner => exact ⟨.leftParen :: inner.tokens, .rightParen, rfl, rfl⟩
  | percent operand => exact ⟨operand.tokens, .percent, rfl, rfl⟩
  | plain operand ih | base operand ih | bare operand ih | factor operand ih | term operand ih =>
    exact ih
  | root operand ih =>
    obtain ⟨front, last, same, closing⟩ := ih
    exact ⟨.root :: front, last, by simp [tokens, same], closing⟩
  | negative operand ih =>
    obtain ⟨front, last, same, closing⟩ := ih
    exact ⟨.minus :: front, last, by simp [tokens, same], closing⟩
  | raised left right _ ih | times left right _ ih | quotient left right _ ih
  | plus left right _ ih | minus left right _ ih =>
    obtain ⟨front, last, same, closing⟩ := ih
    exact ⟨_, last, by rw [tokens, same, ← List.cons_append, ← List.append_assoc], closing⟩

/-- What stands before the last token of a derivation behind another one. -/
theorem behind_concat {level : Level} (left : List Token) (right : Tree level) {pre : List Token}
    {mark last : Token} (same : left ++ mark :: right.tokens = pre ++ [last]) :
    ∃ front, pre = left ++ mark :: front ∧ right.tokens = front ++ [last] := by
  obtain ⟨front, final, ends, -⟩ := right.closes
  rw [ends, ← List.cons_append, ← List.append_assoc] at same
  obtain ⟨rfl, one⟩ := List.append_inj' same rfl
  obtain rfl := List.head_eq_of_cons_eq one
  exact ⟨front, rfl, ends⟩

end Tree

/-! ## The signs before a number -/

/-- A sign that stands before its operand. -/
inductive Sign where
  | root
  | minus

/-- The token of a sign. -/
def Sign.token : Sign → Token
  | .root => .root
  | .minus => .minus

namespace Tree

/-- The derivation of a number with signs before it. -/
def ofSigns (text : Text) : List Sign → Tree .signed
  | [] => .plain (.number text)
  | .root :: signs => .root (ofSigns text signs)
  | .minus :: signs => .negative (ofSigns text signs)

/-- The signs are written before the number. -/
theorem tokens_ofSigns (text : Text) (signs : List Sign) :
    (ofSigns text signs).tokens = signs.map Sign.token ++ [.number text] := by
  induction signs with
  | nil => rfl
  | cons sign signs ih =>
    cases sign with
    | root => exact congrArg (Token.root :: ·) ih
    | minus => exact congrArg (Token.minus :: ·) ih

/-- Every sign nests once more. -/
theorem nesting_ofSigns (text : Text) (signs : List Sign) :
    (ofSigns text signs).nesting = signs.length := by
  induction signs with
  | nil => rfl
  | cons sign signs ih =>
    cases sign with
    | root => exact congrArg (· + 1) ih
    | minus => exact congrArg (· + 1) ih

/-- A minus sign more right before the number makes no other difference. -/
theorem flips_ofSigns (text : Text) (signs : List Sign) :
    (ofSigns text signs).Flips (ofSigns text (signs ++ [.minus])) := by
  induction signs with
  | nil => exact .insert text
  | cons sign signs ih =>
    cases sign with
    | root => exact .root ih
    | minus => exact .negative ih

/-- A signed operand that ends in a number is that number with signs before it. -/
theorem eq_ofSigns : ∀ (tree : Tree .signed) {pre : List Token} {text : Text},
    tree.tokens = pre ++ [.number text] → ∃ signs, tree = ofSigns text signs
  | .plain (.number shown), pre, text, same => by
    have alone : [] ++ [Token.number shown] = pre ++ [.number text] := same
    obtain rfl := Token.number.inj (List.head_eq_of_cons_eq (List.append_inj' alone rfl).2)
    exact ⟨[], rfl⟩
  | .plain (.parens inner), pre, text, same => by
    cases (List.append_inj' same rfl).2
  | .root operand, pre, text, same => by
    obtain ⟨front, -, ends⟩ := behind_concat [] operand same
    obtain ⟨signs, rfl⟩ := eq_ofSigns operand ends
    exact ⟨.root :: signs, rfl⟩
  | .negative operand, pre, text, same => by
    obtain ⟨front, -, ends⟩ := behind_concat [] operand same
    obtain ⟨signs, rfl⟩ := eq_ofSigns operand ends
    exact ⟨.minus :: signs, rfl⟩

/-! ## Derivations that end in a number -/

/-- A derivation that ends in a number: signs before the number, and what stands in front of them,
which is nothing or ends in an operand with an operation. For other signs that differ by a minus
sign there is a derivation that differs likewise. -/
structure EndsIn {level : Level} (tree : Tree level) (front : List Token) (signs : List Sign)
    (text : Text) : Prop where
  tokens : tree.tokens = front ++ (ofSigns text signs).tokens
  starts : front = [] ∨ ∃ left last mark, front = left ++ [last, mark] ∧ last.isClosing = true
  nested : signs.length ≤ tree.nesting
  changed : ∀ others, (ofSigns text signs).Flips (ofSigns text others) →
    ∃ other : Tree level, tree.Flips other ∧ other.tokens = front ++ (ofSigns text others).tokens ∧
      other.nesting ≤ max tree.nesting others.length

namespace EndsIn

variable {upper lower : Level} {operand : Tree lower} {front : List Token} {signs : List Sign}
  {text : Text}

/-- A signed operand has nothing in front of its signs. -/
theorem signed (text : Text) (signs : List Sign) : (ofSigns text signs).EndsIn [] signs text where
  tokens := rfl
  starts := .inl rfl
  nested := Nat.le_of_eq (nesting_ofSigns text signs).symm
  changed others flips :=
    ⟨_, flips, rfl, Nat.le_trans (Nat.le_of_eq (nesting_ofSigns text others)) (Nat.le_max_right ..)⟩

/-- An operand on its own ends a derivation as it ends itself. -/
theorem alone (ends : operand.EndsIn front signs text) (wrap : Tree lower → Tree upper)
    (tokens : ∀ operand, (wrap operand).tokens = operand.tokens)
    (nesting : ∀ operand, (wrap operand).nesting = operand.nesting)
    (flips : ∀ {operand other}, operand.Flips other → (wrap operand).Flips (wrap other)) :
    (wrap operand).EndsIn front signs text where
  tokens := (tokens operand).trans ends.tokens
  starts := ends.starts
  nested := (nesting operand).symm ▸ ends.nested
  changed others change := by
    obtain ⟨other, flipped, written, bound⟩ := ends.changed others change
    refine ⟨wrap other, flips flipped, (tokens other).trans written, ?_⟩
    rwa [nesting, nesting]

/-- The operand behind an operation ends a derivation. -/
theorem behind (ends : operand.EndsIn front signs text) {level : Level} (left : Tree level)
    (mark : Token) (wrap : Tree lower → Tree upper)
    (tokens : ∀ operand, (wrap operand).tokens = left.tokens ++ mark :: operand.tokens)
    (nesting : ∀ operand, (wrap operand).nesting = max left.nesting operand.nesting)
    (flips : ∀ {operand other}, operand.Flips other → (wrap operand).Flips (wrap other)) :
    (wrap operand).EndsIn (left.tokens ++ mark :: front) signs text where
  tokens := by rw [tokens, ends.tokens, List.append_assoc, List.cons_append]
  starts := by
    rcases ends.starts with rfl | ⟨before, last, other, rfl, closing⟩
    · obtain ⟨before, last, closed, closing⟩ := left.closes
      exact .inr ⟨before, last, mark, by rw [closed, List.append_assoc]; rfl, closing⟩
    · exact .inr ⟨left.tokens ++ mark :: before, last, other, by simp, closing⟩
  nested := (nesting operand).symm ▸ Nat.le_trans ends.nested (Nat.le_max_right ..)
  changed others change := by
    obtain ⟨other, flipped, written, bound⟩ := ends.changed others change
    refine ⟨wrap other, flips flipped, ?_, ?_⟩
    · rw [tokens, written, List.append_assoc, List.cons_append]
    · rw [nesting, nesting]
      omega

end EndsIn

/-- A derivation whose last token is a number ends in that number, with the signs before it. -/
theorem exists_endsIn {level : Level} (tree : Tree level) (operand : level ≠ .atom)
    {pre : List Token} {text : Text} (same : tree.tokens = pre ++ [.number text]) :
    ∃ front signs, tree.EndsIn front signs text := by
  -- The number lies in the right operand, down to the signs before it.
  induction tree generalizing pre with
  | number | parens => exact absurd rfl operand
  | plain | root | negative =>
    obtain ⟨signs, ends⟩ := eq_ofSigns _ same
    rw [ends]
    exact ⟨[], signs, .signed text signs⟩
  | percent operand => cases (List.append_inj' same rfl).2
  | base operand ih =>
    obtain ⟨front, signs, ends⟩ := ih nofun same
    exact ⟨front, signs, ends.alone .base (fun _ => rfl) (fun _ => rfl) .base⟩
  | bare operand ih =>
    obtain ⟨front, signs, ends⟩ := ih nofun same
    exact ⟨front, signs, ends.alone .bare (fun _ => rfl) (fun _ => rfl) .bare⟩
  | factor operand ih =>
    obtain ⟨front, signs, ends⟩ := ih nofun same
    exact ⟨front, signs, ends.alone .factor (fun _ => rfl) (fun _ => rfl) .factor⟩
  | term operand ih =>
    obtain ⟨front, signs, ends⟩ := ih nofun same
    exact ⟨front, signs, ends.alone .term (fun _ => rfl) (fun _ => rfl) .term⟩
  | raised left right _ ih =>
    obtain ⟨inner, -, last⟩ := behind_concat _ right same
    obtain ⟨front, signs, ends⟩ := ih nofun last
    exact ⟨_, signs, ends.behind left .power (.raised left) (fun _ => rfl) (fun _ => rfl)
      (.raised left)⟩
  | times left right _ ih =>
    obtain ⟨inner, -, last⟩ := behind_concat _ right same
    obtain ⟨front, signs, ends⟩ := ih nofun last
    exact ⟨_, signs, ends.behind left .times (.times left) (fun _ => rfl) (fun _ => rfl)
      (.times left)⟩
  | quotient left right _ ih =>
    obtain ⟨inner, -, last⟩ := behind_concat _ right same
    obtain ⟨front, signs, ends⟩ := ih nofun last
    exact ⟨_, signs, ends.behind left .divide (.quotient left) (fun _ => rfl) (fun _ => rfl)
      (.quotient left)⟩
  | plus left right _ ih =>
    obtain ⟨inner, -, last⟩ := behind_concat _ right same
    obtain ⟨front, signs, ends⟩ := ih nofun last
    exact ⟨_, signs, ends.behind left .plus (.plus left) (fun _ => rfl) (fun _ => rfl)
      (.plus left)⟩
  | minus left right _ ih =>
    obtain ⟨inner, -, last⟩ := behind_concat _ right same
    obtain ⟨front, signs, ends⟩ := ih nofun last
    exact ⟨_, signs, ends.behind left .minus (.minus left) (fun _ => rfl) (fun _ => rfl)
      (.minus left)⟩

variable {level : Level} {tree : Tree level} {front pre : List Token} {signs : List Sign}
  {text : Text}

/-- The signs are the last tokens before the number. -/
theorem EndsIn.before (ends : tree.EndsIn front signs text)
    (same : tree.tokens = pre ++ [.number text]) : front ++ signs.map Sign.token = pre := by
  rw [ends.tokens, tokens_ofSigns, ← List.append_assoc] at same
  exact List.append_cancel_right same

/-- A minus sign can be put before the number that ends a derivation. It nests no deeper than the
derivation, or than the signs before the number with one more. -/
theorem exists_insert (operand : level ≠ .atom) (same : tree.tokens = pre ++ [.number text]) :
    ∃ (other : Tree level) (signs : List Sign), tree.Flips other ∧
      other.tokens = pre ++ [.minus, .number text] ∧ signs.map Sign.token <:+ pre ∧
        other.nesting ≤ max tree.nesting (signs.length + 1) := by
  obtain ⟨front, signs, ends⟩ := tree.exists_endsIn operand same
  obtain ⟨other, flips, written, nesting⟩ := ends.changed _ (flips_ofSigns text signs)
  have before := ends.before same
  refine ⟨other, signs, flips, ?_, ⟨front, before⟩, ?_⟩
  · rw [written, tokens_ofSigns, ← before]
    simp [Sign.token]
  · rwa [List.length_append, List.length_singleton] at nesting

/-- A minus sign before the number that ends a derivation can be taken away, unless there is an
operand before it. -/
theorem exists_remove (operand : level ≠ .atom)
    (same : tree.tokens = pre ++ [.minus, .number text])
    (opens : ∀ last ∈ pre.getLast?, last.isClosing = false) :
    ∃ other : Tree level, tree.Flips other ∧ other.tokens = pre ++ [.number text] ∧
      other.nesting ≤ tree.nesting := by
  have split : tree.tokens = (pre ++ [.minus]) ++ [.number text] := by
    rw [same, List.append_assoc]
    rfl
  obtain ⟨front, signs, ends⟩ := tree.exists_endsIn operand split
  have before := ends.before split
  rcases List.eq_nil_or_concat signs with rfl | ⟨rest, sign, rfl⟩
  · -- Without signs the minus would be the operation behind an operand.
    rw [List.map_nil, List.append_nil] at before
    rcases ends.starts with none | ⟨left, last, mark, written, closing⟩
    · rw [none] at before
      exact absurd before.symm (by simp)
    · rw [written, ← List.singleton_append, ← List.append_assoc] at before
      obtain ⟨rfl, -⟩ := List.append_inj' before rfl
      rw [opens last (by simp)] at closing
      cases closing
  · rw [List.concat_eq_append, List.map_append, ← List.append_assoc] at before
    obtain ⟨rfl, one⟩ := List.append_inj' before rfl
    have minus : sign = .minus := by
      cases sign with
      | root => cases one
      | minus => rfl
    rw [List.concat_eq_append, minus] at ends
    obtain ⟨other, flips, written, nesting⟩ := ends.changed rest (flips_ofSigns text rest).symm
    have nested := ends.nested
    rw [List.length_append] at nested
    refine ⟨other, flips, ?_, by omega⟩
    rw [written, tokens_ofSigns, List.append_assoc]

end Tree

end Reckoner
