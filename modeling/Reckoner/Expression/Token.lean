import Reckoner.Text.Basic

/-!
# Tokens of an expression

An expression is read as numbers, operation marks and parentheses. A number is a maximal run of
digits and points, kept as written; whether it is a numeral is decided later. Every character that
belongs to no token separates and is otherwise ignored, so reading tokens never fails.
-/

namespace Reckoner

/-- A token of an expression. -/
inductive Token where
  | number (text : Text)
  | plus
  | minus
  | times
  | divide
  | power
  | percent
  | root
  | leftParen
  | rightParen
  deriving DecidableEq, Repr

namespace Token

/-- The sign of the square root, which stands before its operand. -/
def rootSign : CodePoint := '√'

/-- A character of a number. -/
def isNumberChar (c : CodePoint) : Bool := ('0' ≤ c && c ≤ '9') || c == '.'

/-- The token that a single character makes. -/
def ofChar? (c : CodePoint) : Option Token :=
  match c with
  | '+' => some .plus
  | '-' => some .minus
  | '*' => some .times
  | '/' => some .divide
  | '^' => some .power
  | '%' => some .percent
  | '√' => some .root
  | '(' => some .leftParen
  | ')' => some .rightParen
  | _ => none

/-- The characters a token is made of. -/
def text : Token → Text
  | .number text => text
  | .plus => ['+']
  | .minus => ['-']
  | .times => ['*']
  | .divide => ['/']
  | .power => ['^']
  | .percent => ['%']
  | .root => [rootSign]
  | .leftParen => ['(']
  | .rightParen => [')']

/-- Puts a character in front of the number that starts a token list, or starts a number. -/
def extendNumber (c : CodePoint) : List Token → List Token
  | .number text :: tokens => .number (c :: text) :: tokens
  | tokens => .number [c] :: tokens

/-- The tokens of a text, in order. A character of a number joins the number right after it. -/
def scan : Text → List Token
  | [] => []
  | c :: rest =>
    if isNumberChar c then
      match rest with
      | next :: _ =>
        if isNumberChar next then extendNumber c (scan rest) else .number [c] :: scan rest
      | [] => [.number [c]]
    else
      match ofChar? c with
      | some token => token :: scan rest
      | none => scan rest

end Token

end Reckoner
