import Reckoner.Decimal.Reader
import Reckoner.Double.Arithmetic
import Reckoner.Double.Layout
import Reckoner.Expression.Token

/-!
# Evaluating expressions

The rules of the expression language, each of which reads tokens from a cursor and computes a
value at once. From the loosest to the tightest binding:

    sum      product (('+' | '-') product)*
    product  power '%'? (('*' | '/') power '%'?)*
    power    signed ('^' signed)*
    signed   '√' signed | '-' signed | atom
    atom     number | '(' sum ')'

Chains fold to the left, powers included, and a minus sign binds tighter than a power. A rule that
fails still tells how far it read, so the cursor is returned beside the outcome.

The rules recur, and calls can be nested only so deep. A sign takes one call, since its operand is
read by the same rule again; a parenthesis takes five, since what stands in it is read through the
rules of all levels. How many calls are left for signs and parentheses, the depth, is up to where
an evaluation starts.
-/

namespace Reckoner

/-- Why an expression has no value. -/
inductive EvaluationError where
  | unexpectedEnd
  | unexpectedToken (token : Token)
  | unclosed
  | malformedNumber (text : Text)
  | tooDeep
  | divisionByZero
  | negativeRoot
  | powerWithoutValue (base exponent : Double)
  | notFinite (expression : Text) (value : Double)
  deriving DecidableEq

/-- The wording of an evaluation error. -/
def EvaluationError.message : EvaluationError → Text
  | .unexpectedEnd => "Unexpected end of expression"
  | .unexpectedToken token => "Unexpected token: " ++ token.text
  | .unclosed => "Missing closing parenthesis"
  | .malformedNumber text => "Malformed number: " ++ text
  | .tooDeep => "Expression is nested too deeply"
  | .divisionByZero => "Division by zero"
  | .negativeRoot => "Square root of a negative number"
  | .powerWithoutValue base exponent =>
    base.toText ++ " ^ " ++ exponent.toText ++ " has no finite value"
  | .notFinite expression value => expression ++ " evaluates to " ++ value.toText

/-- Where a rule stands: the tokens still to be read, and whether a division was carried out. -/
structure Cursor where
  rest : List Token
  divided : Bool
  deriving DecidableEq

/-- A rule computes a value, or fails, and moves the cursor in either case. -/
abbrev Rule := Cursor → Except EvaluationError Double × Cursor

namespace Rule

/-- One rule after another, the second knowing the value of the first. -/
def andThen (rule : Rule) (next : Double → Rule) : Rule := fun cursor =>
  match rule cursor with
  | (.ok value, after) => next value after
  | (.error error, after) => (.error error, after)

/-- Reads nothing. -/
def give (value : Double) : Rule := fun cursor => (.ok value, cursor)

/-- Reads nothing and fails. -/
def fail (error : EvaluationError) : Rule := fun cursor => (.error error, cursor)

/-- A percent sign, if there is one, divides the value before it by a hundred. -/
def percentage (value : Double) : Rule := fun cursor =>
  match cursor.rest with
  | .percent :: rest => (.ok value.hundredth, { cursor with rest })
  | _ => (.ok value, cursor)

/-- The square root of the value before the cursor, unless that is below zero. -/
def squareRoot (value : Double) : Rule :=
  if value.isBelowZero then fail .negativeRoot else give value.sqrt

/-- A power, unless it has no value. -/
def raise (base exponent : Double) : Rule :=
  match base.pow? exponent with
  | some value => give value
  | none => fail (.powerWithoutValue base exponent)

/-- A quotient, unless the divisor is zero. Only a division that is carried out is recorded. -/
def quotient (dividend divisor : Double) : Rule := fun cursor =>
  if divisor.isZero then (.error .divisionByZero, cursor)
  else (.ok (dividend / divisor), { cursor with divided := true })

/-- An operation of a chain: what its mark computes from the values on both sides. -/
abbrev Operation := Token → Option (Double → Double → Rule)

/-- Powers: the only operation of their level. -/
def powerOperation : Operation
  | .power => some raise
  | _ => none

/-- Products and quotients. -/
def productOperation : Operation
  | .times => some fun left right => give (left * right)
  | .divide => some quotient
  | _ => none

/-- Sums and differences. -/
def sumOperation : Operation
  | .plus => some fun left right => give (left + right)
  | .minus => some fun left right => give (left - right)
  | _ => none

/-- Continues a chain from a value: while the next token is a mark of the level, reads an operand
and combines it with the value so far. The first argument bounds the number of marks. -/
def chain (operation : Operation) (operand : Rule) : Nat → Double → Rule
  | 0, value => give value
  | fuel + 1, value => fun cursor =>
    match cursor.rest with
    | [] => (.ok value, cursor)
    | token :: rest =>
      match operation token with
      | none => (.ok value, cursor)
      | some combine =>
        ((operand.andThen (combine value)).andThen (chain operation operand fuel))
          { cursor with rest }

/-- A chain of operands of one level. Each mark takes a token, so the tokens bound the marks. -/
def chained (operation : Operation) (operand : Rule) : Rule :=
  operand.andThen fun value cursor =>
    chain operation operand cursor.rest.length value cursor

/-- Powers of signed operands, folded to the left. -/
def power (signed : Rule) : Rule := chained powerOperation signed

/-- Products of powers, each of which may be a percentage. -/
def product (signed : Rule) : Rule :=
  chained productOperation ((power signed).andThen percentage)

/-- Sums of products. -/
def sum (signed : Rule) : Rule := chained sumOperation (product signed)

/-- The value of a number token. -/
def number (text : Text) : Rule :=
  match Decimal.ofText? text with
  | some decimal => give decimal.toDouble
  | none => fail (.malformedNumber text)

/-- The closing parenthesis after a value. -/
def close (value : Double) : Rule := fun cursor =>
  match cursor.rest with
  | .rightParen :: rest => (.ok value, { cursor with rest })
  | _ => (.error .unclosed, cursor)

/-- A number, or an expression in parentheses. -/
def atom (inner : Rule) : Rule := fun cursor =>
  match cursor.rest with
  | [] => (.error .unexpectedEnd, cursor)
  | .leftParen :: rest => (inner.andThen close) { cursor with rest }
  | .number text :: rest => number text { cursor with rest }
  | token :: rest => (.error (.unexpectedToken token), { cursor with rest })

/-- An operand: a sign before another operand, or an atom. -/
def unary (behind inside : Rule) : Rule := fun cursor =>
  match cursor.rest with
  | .root :: rest => (behind.andThen squareRoot) { cursor with rest }
  | .minus :: rest => (behind.andThen fun value => give (-value)) { cursor with rest }
  | _ => atom (sum inside) cursor

/-- An operand with its signs. A sign leaves one call less of the depth for the operand behind it,
and a parenthesis five calls less for the operands in it. Without depth nothing is read. -/
def signed : Nat → Rule
  | 0 => fail .tooDeep
  | depth + 1 =>
    unary (signed depth) <|
      match depth with
      | depth + 4 => signed depth
      | _ => fail .tooDeep

/-- The end of the tokens after a value. -/
def finish (value : Double) : Rule := fun cursor =>
  match cursor.rest with
  | [] => (.ok value, cursor)
  | token :: _ => (.error (.unexpectedToken token), cursor)

/-- A whole expression. -/
def whole (depth : Nat) : Rule := (sum (signed depth)).andThen finish

end Rule

/-- The names of the rules that can be run on their own. -/
inductive RuleName where
  | whole
  | sum
  | product
  | power
  | signed
  | atom
  deriving DecidableEq, Repr

/-- The rule of a name. An atom that is a parenthesis has five calls less for what stands in it. -/
def RuleName.rule (depth : Nat) : RuleName → Rule
  | .whole => .whole depth
  | .sum => .sum (.signed depth)
  | .product => .product (.signed depth)
  | .power => .power (.signed depth)
  | .signed => .signed depth
  | .atom => .atom (.sum (.signed (depth - 5)))

/-- The cursor before the first token. -/
def Cursor.start (tokens : List Token) : Cursor := ⟨tokens, false⟩

/-- The value of an expression, and whether a division was carried out for it. -/
structure Evaluation where
  value : Double
  divided : Bool
  deriving DecidableEq

/-- Evaluates an expression. Its value must be finite. -/
def evaluate (depth : Nat) (expression : Text) : Except EvaluationError Evaluation :=
  match Rule.whole depth (.start (Token.scan expression)) with
  | (.ok value, cursor) =>
    if value.isFinite then .ok ⟨value, cursor.divided⟩
    else .error (.notFinite expression value)
  | (.error error, _) => .error error

end Reckoner
