import Reckoner.Calculator.State

/-!
# Typing

What digits, the point, operations, parentheses, signs and erasing do to a state. An operand is
edited as text and an expression grows at its end; each of these functions says for all five
states what comes next.
-/

namespace Reckoner

namespace State

/-- The most characters that an operand may have after its sign when a digit is typed. -/
def longestOperand : Nat := 15

/-- An operand with a digit typed after it: a lone zero is replaced. -/
def operandWith (display digit : Text) : Text :=
  if display = zero then digit else display ++ digit

/-- An operand without its minus sign. -/
def unsignedOperand : Text → Text
  | '-' :: rest => rest
  | text => text

/-- An expression that has grown, showing the number at its end. -/
def grown (expression : Text) : State := .composing expression (Text.endNumber expression)

/-- Types a digit. A digit after a result or an error starts a new operand, and a digit that makes
an operand too long is not taken. -/
def typeDigit (digit : Text) : State → State
  | .failed _ => .entering digit none
  | .calculated _ _ => .entering digit none
  | .composing expression _ => grown (expression ++ digit)
  | .awaiting chosen => .entering digit (some chosen)
  | .entering display chosen =>
    let edited := operandWith display digit
    if (unsignedOperand edited).length ≤ longestOperand then .entering edited chosen
    else .entering display chosen

/-- Types a point, unless the number already has one. -/
def typePoint : State → State
  | .failed _ => initial
  | .calculated _ _ => .entering "0." none
  | .composing expression display =>
    if ('.' : CodePoint) ∈ Text.endNumber expression then .composing expression display
    else grown (expression.concat '.')
  | .awaiting chosen => .entering "0." (some chosen)
  | .entering display chosen =>
    if ('.' : CodePoint) ∈ display then .entering display chosen
    else .entering (display.concat '.') chosen

/-- Chooses an operation for what is shown, in place of one that still awaits its second operand.
In an expression the operation is typed. -/
def choose (operator : Operator) : State → State
  | .failed _ => initial
  | .composing expression display => .composing (expression.concat operator.key) display
  | .awaiting chosen => .awaiting { chosen with operator }
  | .entering display _ => .awaiting ⟨display, operator⟩
  | .calculated display _ => .awaiting ⟨display, operator⟩

/-- Whether a parenthesis after this character multiplies. -/
def multipliesBefore (c : CodePoint) : Bool :=
  Text.isDigit c || c == '.' || c == ')' || c == '%'

/-- An expression that is ready for a parenthesis: what ends in an operand is multiplied. -/
def beforeParen (expression : Text) : Text :=
  match expression.getLast? with
  | some c => if multipliesBefore c then expression.concat '*' else expression
  | none => expression

/-- An operand that is to be multiplied by a parenthesis; a lone zero is dropped. -/
def factor (display : Text) : Text := if display = zero then [] else display.concat '*'

/-- Opens a parenthesis. What has been typed so far becomes the beginning of an expression; a
result does not. -/
def openParen : State → State
  | .failed trail => .failed trail
  | .calculated _ _ => .composing "(" "0"
  | .composing expression display => .composing ((beforeParen expression).concat '(') display
  | .awaiting chosen => .composing (chosen.expression.concat '(') chosen.operand
  | .entering display (some chosen) =>
    .composing ((chosen.expression ++ factor display).concat '(') display
  | .entering display none => .composing ((factor display).concat '(') display

/-- Closes a parenthesis in an expression. -/
def closeParen : State → State
  | .composing expression display => .composing (expression.concat ')') display
  | state => state

/-- Types a power. What has been typed so far becomes its base; the sign takes the place of an
operation that still awaits its second operand. -/
def raise : State → State
  | .failed trail => .failed trail
  | .composing expression display => .composing (expression.concat '^') display
  | .awaiting chosen => .composing (chosen.operand.concat '^') chosen.operand
  | .calculated display _ => .composing (display.concat '^') display
  | .entering display (some chosen) =>
    .composing ((chosen.expression ++ display).concat '^') display
  | .entering display none => .composing (display.concat '^') display

/-- The characters after which a minus sign in an expression belongs to the number after it. -/
def signContext : List CodePoint := ['+', '-', '*', '/', '^', '(', Token.rootSign]

/-- An expression without the minus sign that belongs to the number after it, if it ends in one. -/
def withoutSign? (expression : Text) : Option Text :=
  match expression.reverse with
  | ['-'] => some []
  | '-' :: c :: before => if signContext.contains c then some (c :: before).reverse else none
  | _ => none

/-- An expression with the sign of the number at its end changed: a minus sign of the number goes,
and otherwise one is put before the number, which then ends the expression. -/
def negateEnd (expression : Text) : Text :=
  let before := Text.beforeEndNumber expression
  let number := Text.endNumber expression
  match withoutSign? before with
  | some before => before ++ number ++ Text.afterEndNumber expression
  | none => before ++ "-" ++ number

/-- An operand with its sign changed; a lone zero keeps its sign. -/
def negateOperand (display : Text) : Text :=
  if display = zero then display
  else
    match display with
    | '-' :: rest => rest
    | display => '-' :: display

/-- Changes the sign of the number that is typed or shown. -/
def negate : State → State
  | .failed trail => .failed trail
  | .awaiting chosen => .awaiting chosen
  | .composing expression display =>
    if (Text.endNumber expression).isEmpty then .composing expression display
    else .composing (negateEnd expression) display
  | .entering display chosen => .entering (negateOperand display) chosen
  | .calculated display trail => .calculated (negateOperand display) trail

/-- An operand without its last character; nothing but a sign becomes zero. -/
def eraseLast (display : Text) : Text :=
  let remaining := display.dropLast
  if (unsignedOperand remaining).isEmpty then zero else remaining

/-- The number at the end of an expression as it is shown after erasing: zero if there is none. -/
def shownEnd (expression : Text) : Text :=
  let number := Text.endNumber expression
  if number = [] then zero else number

/-- Erases the last character typed. A result or an error is erased as a whole, and so is an
expression of one character. -/
def erase : State → State
  | .failed _ => initial
  | .calculated _ _ => initial
  | .composing expression _ =>
    let remaining := expression.dropLast
    if remaining = [] then initial else .composing remaining (shownEnd remaining)
  | .awaiting chosen => .awaiting chosen
  | .entering display chosen => .entering (eraseLast display) chosen

end State

end Reckoner
