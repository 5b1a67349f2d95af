import Reckoner.Expression.Parser

/-!
# The grammar of expressions

Derivation trees of the expression language, apart from the rules that read it. From the loosest
to the tightest binding:

    sum      product | sum '+' product | sum '-' product
    product  part | product '*' part | product '/' part
    part     power | power '%'
    power    signed | power '^' signed
    signed   atom | '√' signed | '-' signed
    atom     number | '(' sum ')'

A repetition is a level that contains itself on the left, so its operations fold to the left. The
tokens of a tree are what is written for it, and its outcome is that of evaluating it from left to
right: a value, or the first error of a division, a root or a power.
-/

namespace Reckoner

/-- A level of the grammar. -/
inductive Level where
  | sum
  | product
  | part
  | power
  | signed
  | atom

/-- A derivation from a level. -/
inductive Tree : Level → Type where
  | number (text : Text) : Tree .atom
  | parens (inner : Tree .sum) : Tree .atom
  | plain (operand : Tree .atom) : Tree .signed
  | root (operand : Tree .signed) : Tree .signed
  | negative (operand : Tree .signed) : Tree .signed
  | base (operand : Tree .signed) : Tree .power
  | raised (left : Tree .power) (right : Tree .signed) : Tree .power
  | bare (operand : Tree .power) : Tree .part
  | percent (operand : Tree .power) : Tree .part
  | factor (operand : Tree .part) : Tree .product
  | times (left : Tree .product) (right : Tree .part) : Tree .product
  | quotient (left : Tree .product) (right : Tree .part) : Tree .product
  | term (operand : Tree .product) : Tree .sum
  | plus (left : Tree .sum) (right : Tree .product) : Tree .sum
  | minus (left : Tree .sum) (right : Tree .product) : Tree .sum

/-! ## What evaluation can refuse -/

/-- The square root of a value that is not below zero. -/
def rootOf (value : Double) : Except EvaluationError Double :=
  if value.isBelowZero then .error .negativeRoot else .ok value.sqrt

/-- The power of two values, if there is one. -/
def powerOf (base exponent : Double) : Except EvaluationError Double :=
  match base.pow? exponent with
  | some value => .ok value
  | none => .error (.powerWithoutValue base exponent)

/-- The quotient by a value that is not zero. -/
def quotientOf (dividend divisor : Double) : Except EvaluationError Double :=
  if divisor.isZero then .error .divisionByZero else .ok (dividend / divisor)

/-- The value of a number as it is written. -/
def numberOf (text : Text) : Except EvaluationError Double :=
  match Decimal.ofText? text with
  | some decimal => .ok decimal.toDouble
  | none => .error (.malformedNumber text)

/-- The errors of operations, as opposed to those of the form of an expression. -/
def EvaluationError.isDomain : EvaluationError → Bool
  | .divisionByZero => true
  | .negativeRoot => true
  | .powerWithoutValue _ _ => true
  | _ => false

/-- A token is in order unless it is a number that is no numeral. -/
def Token.isReadable : Token → Bool
  | .number text => (Decimal.ofText? text).isSome
  | _ => true

namespace Tree

/-- The tokens of a derivation, from left to right. -/
def tokens : {level : Level} → Tree level → List Token
  | _, .number text => [.number text]
  | _, .parens inner => .leftParen :: inner.tokens ++ [.rightParen]
  | _, .plain operand => operand.tokens
  | _, .root operand => .root :: operand.tokens
  | _, .negative operand => .minus :: operand.tokens
  | _, .base operand => operand.tokens
  | _, .raised left right => left.tokens ++ .power :: right.tokens
  | _, .bare operand => operand.tokens
  | _, .percent operand => operand.tokens ++ [.percent]
  | _, .factor operand => operand.tokens
  | _, .times left right => left.tokens ++ .times :: right.tokens
  | _, .quotient left right => left.tokens ++ .divide :: right.tokens
  | _, .term operand => operand.tokens
  | _, .plus left right => left.tokens ++ .plus :: right.tokens
  | _, .minus left right => left.tokens ++ .minus :: right.tokens

/-- The outcome of evaluating a derivation from left to right. -/
def outcome : {level : Level} → Tree level → Except EvaluationError Double
  | _, .number text => numberOf text
  | _, .parens inner => inner.outcome
  | _, .plain operand => operand.outcome
  | _, .root operand => do rootOf (← operand.outcome)
  | _, .negative operand => do return -(← operand.outcome)
  | _, .base operand => operand.outcome
  | _, .raised left right => do powerOf (← left.outcome) (← right.outcome)
  | _, .bare operand => operand.outcome
  | _, .percent operand => do return (← operand.outcome).hundredth
  | _, .factor operand => operand.outcome
  | _, .times left right => do return (← left.outcome) * (← right.outcome)
  | _, .quotient left right => do quotientOf (← left.outcome) (← right.outcome)
  | _, .term operand => operand.outcome
  | _, .plus left right => do return (← left.outcome) + (← right.outcome)
  | _, .minus left right => do return (← left.outcome) - (← right.outcome)

/-- Whether a division occurs in a derivation. -/
def divides : {level : Level} → Tree level → Bool
  | _, .number _ => false
  | _, .parens inner => inner.divides
  | _, .plain operand => operand.divides
  | _, .root operand => operand.divides
  | _, .negative operand => operand.divides
  | _, .base operand => operand.divides
  | _, .raised left right => left.divides || right.divides
  | _, .bare operand => operand.divides
  | _, .percent operand => operand.divides
  | _, .factor operand => operand.divides
  | _, .times left right => left.divides || right.divides
  | _, .quotient left right => left.divides || right.divides || true
  | _, .term operand => operand.divides
  | _, .plus left right => left.divides || right.divides
  | _, .minus left right => left.divides || right.divides

/-- How deep signs and parentheses are nested in a derivation, in calls: one for a sign and five for
a parenthesis. -/
def nesting : {level : Level} → Tree level → Nat
  | _, .number _ => 0
  | _, .parens inner => inner.nesting + 5
  | _, .plain operand => operand.nesting
  | _, .root operand => operand.nesting + 1
  | _, .negative operand => operand.nesting + 1
  | _, .base operand => operand.nesting
  | _, .raised left right => max left.nesting right.nesting
  | _, .bare operand => operand.nesting
  | _, .percent operand => operand.nesting
  | _, .factor operand => operand.nesting
  | _, .times left right => max left.nesting right.nesting
  | _, .quotient left right => max left.nesting right.nesting
  | _, .term operand => operand.nesting
  | _, .plus left right => max left.nesting right.nesting
  | _, .minus left right => max left.nesting right.nesting

end Tree

/-! ## Errors of evaluation -/

/-- Errors that evaluation may end with: any but those about the form of an expression. -/
def OnlyDomainErrors (outcome : Except EvaluationError Double) : Prop :=
  ∀ error, outcome = .error error → error.isDomain = true

/-- Every error that an outcome may be is of a kind. -/
def OnlyErrors (kind : EvaluationError → Prop) (outcome : Except EvaluationError Double) : Prop :=
  ∀ error, outcome = .error error → kind error

section Errors

variable {kind : EvaluationError → Prop}

/-- A value is no error. -/
theorem onlyErrors_ok (value : Double) : OnlyErrors kind (.ok value) := by
  intro error failed
  cases failed

/-- Two evaluations one after the other fail with the error of the first that fails. -/
theorem OnlyErrors.bind {first : Except EvaluationError Double}
    {next : Double → Except EvaluationError Double} (head : OnlyErrors kind first)
    (rest : ∀ value, OnlyErrors kind (next value)) : OnlyErrors kind (first >>= next) := by
  cases first with
  | error e => exact head
  | ok value => exact rest value

variable (domain : ∀ error : EvaluationError, error.isDomain = true → kind error)

include domain

/-- A root fails only below zero. -/
theorem onlyErrors_rootOf (value : Double) : OnlyErrors kind (rootOf value) := by
  intro error failed
  unfold rootOf at failed
  split at failed <;> cases failed
  exact domain _ rfl

/-- A power fails only for want of a value. -/
theorem onlyErrors_powerOf (base exponent : Double) : OnlyErrors kind (powerOf base exponent) := by
  intro error failed
  unfold powerOf at failed
  split at failed <;> cases failed
  exact domain _ rfl

/-- A quotient fails only for a divisor of zero. -/
theorem onlyErrors_quotientOf (dividend divisor : Double) :
    OnlyErrors kind (quotientOf dividend divisor) := by
  intro error failed
  unfold quotientOf at failed
  split at failed <;> cases failed
  exact domain _ rfl

/-- Evaluating a derivation fails because of its operations and its numbers only. -/
theorem Tree.onlyErrors {level : Level} (tree : Tree level)
    (numbers : ∀ text, .number text ∈ tree.tokens → OnlyErrors kind (numberOf text)) :
    OnlyErrors kind tree.outcome := by
  induction tree with
  | number text => exact numbers text (List.mem_singleton_self _)
  | parens inner ih => exact ih fun text member => numbers text (by simp [tokens, member])
  | plain operand ih | base operand ih | bare operand ih | factor operand ih | term operand ih =>
    exact ih numbers
  | root operand ih =>
    exact (ih fun text member => numbers text (by simp [tokens, member])).bind
      (onlyErrors_rootOf domain)
  | negative operand ih =>
    exact (ih fun text member => numbers text (by simp [tokens, member])).bind
      fun value => onlyErrors_ok _
  | percent operand ih =>
    exact (ih fun text member => numbers text (by simp [tokens, member])).bind
      fun value => onlyErrors_ok _
  | raised left right ihLeft ihRight =>
    have leftErrors := ihLeft fun text member => numbers text (by simp [tokens, member])
    have rightErrors := ihRight fun text member => numbers text (by simp [tokens, member])
    exact leftErrors.bind fun base => rightErrors.bind (onlyErrors_powerOf domain base)
  | quotient left right ihLeft ihRight =>
    have leftErrors := ihLeft fun text member => numbers text (by simp [tokens, member])
    have rightErrors := ihRight fun text member => numbers text (by simp [tokens, member])
    exact leftErrors.bind fun dividend =>
      rightErrors.bind (onlyErrors_quotientOf domain dividend)
  | times left right ihLeft ihRight | plus left right ihLeft ihRight
  | minus left right ihLeft ihRight =>
    have leftErrors := ihLeft fun text member => numbers text (by simp [tokens, member])
    have rightErrors := ihRight fun text member => numbers text (by simp [tokens, member])
    exact leftErrors.bind fun _ => rightErrors.bind fun _ => onlyErrors_ok _

end Errors

/-- Evaluating a derivation whose numbers are numerals never fails because of its form. -/
theorem Tree.onlyDomainErrors {level : Level} (tree : Tree level)
    (readable : ∀ token ∈ tree.tokens, token.isReadable = true) :
    OnlyDomainErrors tree.outcome := by
  refine tree.onlyErrors (fun error domain => domain) fun text member error failed => ?_
  obtain ⟨decimal, found⟩ := Option.isSome_iff_exists.mp (readable _ member)
  simp only [numberOf, found] at failed
  cases failed

/-- Evaluating a derivation is never cut off. -/
theorem Tree.outcome_ne_tooDeep {level : Level} (tree : Tree level) :
    tree.outcome ≠ .error .tooDeep := by
  have others : OnlyErrors (· ≠ .tooDeep) tree.outcome := by
    refine tree.onlyErrors (fun error domain same => ?_) fun text _ error failed => ?_
    · rw [same] at domain
      cases domain
    · unfold numberOf at failed
      split at failed <;> cases failed
      nofun
  exact fun failed => others _ failed rfl

end Reckoner
