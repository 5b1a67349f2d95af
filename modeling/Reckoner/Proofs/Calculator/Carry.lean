import Mathlib.Algebra.GroupWithZero.Nat
import Mathlib.Algebra.Order.BigOperators.Group.List
import Mathlib.Algebra.Order.Group.Nat
import Reckoner.Proofs.Calculator.Typed
import Reckoner.Proofs.Expression.Reading

/-!
# Operands that go into an expression

A power and a parenthesis take what has been typed so far into an expression: the operands, and the
operations between them. An operand is kept there if it is read as one number of its value, perhaps
behind a minus sign. Operands without a power of ten are kept, and the expression then computes with
their values whatever it is completed with. The letter of a power of ten is skipped by an
expression, so an operand with one is read as two numbers.
-/

namespace Reckoner

/-! ## Signs of decimals -/

/-- A rounded magnitude with a minus sign is the opposite. -/
theorem Double.round_negative (n d : Nat) : round true n d = -round false n d := by
  unfold round
  split
  · rfl
  · rfl

/-- The double next to a decimal with a minus sign is the opposite of the one next to its
magnitude. -/
theorem Decimal.toDouble_negative (coefficient : Nat) (exponent : Int) :
    toDouble ⟨true, coefficient, exponent⟩ = -toDouble ⟨false, coefficient, exponent⟩ := by
  unfold toDouble
  simp only [Double.round_negative]
  split
  · rfl
  · split
    · split
      · rfl
      · rfl
    · split
      · rfl
      · rfl

/-! ## Numbers with a sign -/

/-- A number as it stands in an expression, perhaps behind a minus sign. -/
structure SignedNumber where
  negative : Bool
  text : Text

namespace SignedNumber

/-- An operand as a number with a sign. -/
def ofText (text : Text) : SignedNumber := ⟨(Text.takeSign text).1, (Text.takeSign text).2⟩

/-- The derivation of the number. -/
def tree (number : SignedNumber) : Tree .signed :=
  if number.negative then .negative (.plain (.number number.text)) else .plain (.number number.text)

/-- The number has the value of an operand. -/
def Denotes (number : SignedNumber) (operand : Text) : Prop :=
  ∃ value, Decimal.ofText? operand = some value ∧ number.tree.outcome = .ok value.toDouble

/-- A number with its sign is one number. -/
theorem numbers_tree (number : SignedNumber) : Token.numbers number.tree.tokens = 1 := by
  unfold tree
  split
  · rfl
  · rfl

end SignedNumber

namespace Mantissa

/-- A mantissa is a number with a sign. -/
theorem ofText_before (mantissa : Mantissa) : SignedNumber.ofText (mantissa.before []) =
    ⟨mantissa.negative, mantissa.unsignedBefore []⟩ := by
  rw [SignedNumber.ofText, mantissa.takeSign_before]

/-- A mantissa is read as one number. -/
theorem scan_before (mantissa : Mantissa) :
    Token.scan (mantissa.before []) =
      (SignedNumber.ofText (mantissa.before [])).tree.tokens := by
  obtain ⟨digit, rest, head⟩ := mantissa.unsignedBefore_head []
  have run : Token.scan (mantissa.unsignedBefore []) = [.number (mantissa.unsignedBefore [])] :=
    Token.scan_run (by simp [head]) mantissa.isNumberChar_unsigned
  rw [ofText_before, before, SignedNumber.tree]
  cases mantissa.negative with
  | false => exact run
  | true =>
    have minus : Token.isNumberChar '-' = false := by decide
    exact (Token.scan_other minus _).trans (congrArg (Token.minus :: ·) run)

/-- A mantissa that is a decimal has the value of the number that it is read as. -/
theorem number_denotes {mantissa : Mantissa}
    (readable : (Decimal.ofText? (mantissa.before [])).isSome = true) :
    (SignedNumber.ofText (mantissa.before [])).Denotes (mantissa.before []) := by
  rw [ofText_before]
  obtain ⟨negative, whole, fraction, whole_ne⟩ := mantissa
  let plain : Spelling := ⟨⟨false, whole, fraction, whole_ne⟩, none⟩
  obtain ⟨value, read⟩ := Option.isSome_iff_exists.1 readable
  refine ⟨value, read, ?_⟩
  -- The range of a decimal does not depend on its sign.
  have signed : Decimal.ofText? (before ⟨negative, whole, fraction, whole_ne⟩ []) =
      if plain.decimal.inRange then some { plain.decimal with negative } else none :=
    Spelling.ofText?_text ⟨⟨negative, whole, fraction, whole_ne⟩, none⟩
  rw [signed] at read
  split at read
  · rename_i fits
    obtain rfl := Option.some.inj read
    have magnitude : numberOf plain.unsigned = .ok plain.decimal.toDouble := by
      have unsigned : Decimal.ofText? plain.unsigned = some plain.decimal :=
        plain.ofText?_text.trans (if_pos fits)
      rw [numberOf, unsigned]
    cases negative with
    | false => exact magnitude
    | true =>
      rw [show ({ plain.decimal with negative := true } : Decimal).toDouble =
        -plain.decimal.toDouble from Decimal.toDouble_negative _ _]
      exact congrArg (fun outcome => outcome >>= fun value => Except.ok (-value)) magnitude
  · cases read

/-- A mantissa with a power of ten is read as more than one number. -/
theorem numbers_power (mantissa : Mantissa) {behind : Text} {digit : Fin 10}
    (member : Text.digitPoint digit ∈ behind) :
    1 < Token.numbers (Token.scan (mantissa.before (.char 'e' :: behind))) := by
  have letter : Token.isNumberChar 'e' = false := by decide
  have more := Token.numbers_scan_pos member (Token.isNumberChar_digitPoint digit)
  have split : mantissa.before (.char 'e' :: behind) = mantissa.before [] ++ .char 'e' :: behind :=
    (mantissa.before_append [] _).symm
  rw [split, Token.scan_append_other letter, Token.numbers_append, Token.numbers_append,
    mantissa.scan_before, SignedNumber.numbers_tree]
  omega

/-- A mantissa alone has no letter. -/
theorem letter_not_mem (mantissa : Mantissa) : ('e' : CodePoint) ∉ mantissa.before [] :=
  fun member => absurd rfl ((Spelling.letter_mem_text ⟨mantissa, none⟩).1 member)

end Mantissa

/-! ## Operands behind one another -/

/-- The token of an operation. -/
def Operator.token : Operator → Token
  | .add => .plus
  | .subtract => .minus
  | .multiply => .times
  | .divide => .divide

/-- What goes into an expression: operands with the operations behind them, and then one that is
raised to a power, or else a parenthesis. -/
structure Carry (α : Type) where
  joined : List (α × Operator)
  base : Option α
  deriving DecidableEq

namespace Carry

/-- The operands. -/
def operands {α : Type} (carry : Carry α) : List α :=
  carry.joined.map (·.1) ++ carry.base.toList

/-- Something else in the place of each operand. -/
def map {α β : Type} (change : α → β) (carry : Carry α) : Carry β :=
  ⟨carry.joined.map fun one => (change one.1, one.2), carry.base.map change⟩

/-- What is put in the place of the operands decides. -/
theorem map_congr {α β : Type} {carry : Carry α} {change other : α → β}
    (agree : ∀ operand ∈ carry.operands, change operand = other operand) :
    carry.map change = carry.map other := by
  have joined : carry.joined.map (fun one => (change one.1, one.2)) =
      carry.joined.map fun one => (other one.1, one.2) :=
    List.map_congr_left fun one member => by
      rw [agree one.1 (List.mem_append_left _ (List.mem_map_of_mem member))]
  have base : carry.base.map change = carry.base.map other :=
    Option.map_congr fun one same =>
      agree one (List.mem_append_right _ (Option.mem_toList.2 same))
  rw [map, map, joined, base]

/-- The expression that operands go into. -/
def expression (carry : Carry Text) : Text :=
  (carry.joined.flatMap fun one => one.1 ++ [one.2.key]) ++
    match carry.base with
    | some base => base ++ [.char '^']
    | none => [.char '(']

/-- The tokens of numbers with the operations behind them. -/
def tokens (carry : Carry (List Token)) : List Token :=
  (carry.joined.flatMap fun one => one.1 ++ [one.2.token]) ++
    match carry.base with
    | some base => base ++ [.power]
    | none => [.leftParen]

/-- An operand in front stands before its operation in the expression. -/
theorem expression_cons (operand : Text) (operator : Operator) (joined : List (Text × Operator))
    (base : Option Text) : expression ⟨(operand, operator) :: joined, base⟩ =
      operand ++ operator.key :: expression ⟨joined, base⟩ := by
  simp [expression]

/-- The same for tokens. -/
theorem tokens_cons (read : List Token) (operator : Operator)
    (joined : List (List Token × Operator)) (base : Option (List Token)) :
    tokens ⟨(read, operator) :: joined, base⟩ =
      read ++ operator.token :: tokens ⟨joined, base⟩ := by
  simp [tokens]

end Carry

/-! ## Derivations that numbers begin -/

/-- The derivations that a sum has so far: how it goes on with a product, and the product with a
part. -/
structure Opening where
  sum : Tree .product → Tree .sum
  product : Tree .part → Tree .product
  beforeProduct : List Token
  beforePart : List Token
  sum_tokens : ∀ operand, (sum operand).tokens = beforeProduct ++ operand.tokens
  product_tokens : ∀ operand, (product operand).tokens = beforePart ++ operand.tokens

namespace Opening

/-- Nothing has been derived so far. -/
def start : Opening := ⟨.term, .factor, [], [], sums.single_tokens, products.single_tokens⟩

/-- The derivation with its last part. -/
def fill (opening : Opening) (part : Tree .part) : Tree .sum := opening.sum (opening.product part)

/-- The tokens so far. -/
def tokens (opening : Opening) : List Token := opening.beforeProduct ++ opening.beforePart

/-- The last part comes after all other tokens. -/
theorem tokens_fill (opening : Opening) (part : Tree .part) :
    (opening.fill part).tokens = opening.tokens ++ part.tokens := by
  rw [fill, opening.sum_tokens, opening.product_tokens, tokens, List.append_assoc]

/-- Goes on with a part and an operation behind it. A product goes on as long as it is multiplied or
divided. -/
def push (opening : Opening) (part : Tree .part) : Operator → Opening
  | .add => ⟨.plus (opening.fill part), .factor, (opening.fill part).tokens ++ [.plus], [],
      fun _ => by simp [Tree.tokens], products.single_tokens⟩
  | .subtract => ⟨.minus (opening.fill part), .factor, (opening.fill part).tokens ++ [.minus], [],
      fun _ => by simp [Tree.tokens], products.single_tokens⟩
  | .multiply => ⟨opening.sum, .times (opening.product part), opening.beforeProduct,
      (opening.product part).tokens ++ [.times], opening.sum_tokens, fun _ => by simp [Tree.tokens]⟩
  | .divide => ⟨opening.sum, .quotient (opening.product part), opening.beforeProduct,
      (opening.product part).tokens ++ [.divide], opening.sum_tokens,
      fun _ => by simp [Tree.tokens]⟩

/-- The part and the operation come after all tokens so far. -/
theorem tokens_push (opening : Opening) (part : Tree .part) (operator : Operator) :
    (opening.push part operator).tokens = opening.tokens ++ (part.tokens ++ [operator.token]) := by
  cases operator with
  | add | subtract =>
    simp only [push, tokens, tokens_fill, Operator.token, List.append_nil, List.append_assoc]
  | multiply | divide =>
    simp only [push, tokens, opening.product_tokens, Operator.token, List.append_assoc]

end Opening

/-- A number as a part of a product. -/
def SignedNumber.part (number : SignedNumber) : Tree .part := .bare (.base number.tree)

/-- The derivations that numbers with operations behind them begin. -/
def Opening.of (joined : List (SignedNumber × Operator)) : Opening :=
  joined.foldl (fun opening one => opening.push one.1.part one.2) .start

/-- The tokens of the derivations that numbers begin are theirs. -/
theorem Opening.tokens_of (joined : List (SignedNumber × Operator)) :
    (Opening.of joined).tokens =
      joined.flatMap fun one => one.1.tree.tokens ++ [one.2.token] := by
  have grow (joined : List (SignedNumber × Operator)) (opening : Opening) :
      (joined.foldl (fun opening one => opening.push one.1.part one.2) opening).tokens =
        opening.tokens ++ joined.flatMap fun one => one.1.tree.tokens ++ [one.2.token] := by
    induction joined generalizing opening with
    | nil => simp
    | cons one joined ih =>
      rw [List.foldl_cons, ih, tokens_push, List.flatMap_cons, List.append_assoc]
      rfl
  exact grow joined .start

namespace Carry

/-! ## Reading expressions -/

/-- How the last part of an expression goes on: with an exponent, or with what stands in the
parenthesis. -/
def Completes (carry : Carry SignedNumber) (part : Tree .part) (after : List Token) : Prop :=
  match carry.base with
  | some base => ∃ exponent, part = .bare (.raised (.base base.tree) exponent) ∧
      after = exponent.tokens
  | none => ∃ inner, part = .bare (.base (.plain (.parens inner))) ∧
      after = inner.tokens ++ [.rightParen]

/-- Operands are kept if each of them is one number with its value, joined by the operations, and
whatever completes the expression is computed with these numbers, with any depth that is enough for
it. -/
def Keeps (carry : Carry Text) : Prop :=
  ∃ number : Text → SignedNumber, (∀ operand ∈ carry.operands, (number operand).Denotes operand) ∧
    Token.scan carry.expression = (carry.map fun operand => (number operand).tree.tokens).tokens ∧
    ∀ part after, (carry.map number).Completes part after → ∀ more, Token.scan more = after →
      ∀ depth, ((Opening.of (carry.map number).joined).fill part).nesting < depth →
        (Rule.whole depth (.start (Token.scan (carry.expression ++ more)))).1 =
          ((Opening.of (carry.map number).joined).fill part).outcome

/-- The character of an operation makes its token. -/
theorem scan_key (operator : Operator) :
    Token.isNumberChar operator.key = false ∧ Token.ofChar? operator.key = some operator.token := by
  cases operator <;> decide

/-- The last character of the expression, and the token that it makes. -/
theorem exists_last (carry : Carry Text) : ∃ front mark, carry.expression = front ++ [mark] ∧
    Token.isNumberChar mark = false := by
  unfold expression
  cases carry.base with
  | some base => exact ⟨_, .char '^', (List.append_assoc ..).symm, by decide⟩
  | none => exact ⟨_, .char '(', rfl, by decide⟩

/-- What completes an expression is read apart from it. -/
theorem scan_completed (carry : Carry Text) (more : Text) :
    Token.scan (carry.expression ++ more) = Token.scan carry.expression ++ Token.scan more := by
  obtain ⟨front, mark, written, separates⟩ := carry.exists_last
  rw [written, List.append_assoc, List.singleton_append, Token.scan_append_other separates,
    Token.scan_append_other separates, Token.scan, List.append_nil, List.append_assoc]

/-- Operands are read one by one. -/
theorem scan_expression (carry : Carry Text) :
    Token.scan carry.expression = (carry.map Token.scan).tokens := by
  obtain ⟨joined, base⟩ := carry
  induction joined with
  | nil =>
    cases base with
    | none => decide
    | some base =>
      have separates : Token.isNumberChar '^' = false := by decide
      exact Token.scan_append_other separates base []
  | cons one joined ih =>
    obtain ⟨operand, operator⟩ := one
    obtain ⟨separates, makes⟩ := scan_key operator
    rw [expression_cons, Token.scan_append_other separates, makes, ih]
    exact (tokens_cons (Token.scan operand) operator _ _).symm

/-- The numbers in the tokens are those of the operands. -/
theorem numbers_tokens (carry : Carry Text) (read : Text → List Token) :
    Token.numbers (carry.map read).tokens =
      (carry.operands.map fun operand => Token.numbers (read operand)).sum := by
  obtain ⟨joined, base⟩ := carry
  induction joined with
  | nil =>
    cases base with
    | none => rfl
    | some base => exact Token.numbers_append (read base) [.power]
  | cons one joined ih =>
    obtain ⟨operand, operator⟩ := one
    have mark (rest : List Token) :
        Token.numbers (operator.token :: rest) = Token.numbers rest := by
      cases operator <;> rfl
    have front : (map read ⟨(operand, operator) :: joined, base⟩).tokens =
        read operand ++ operator.token :: (map read ⟨joined, base⟩).tokens :=
      tokens_cons (read operand) operator _ _
    rw [front, Token.numbers_append, mark, ih]
    rfl

/-- The tokens of a completed derivation are those of the numbers and what completes them. -/
theorem tokens_completed {carry : Carry SignedNumber} {part : Tree .part} {after : List Token}
    (completes : carry.Completes part after) :
    ((Opening.of carry.joined).fill part).tokens =
      (carry.map fun number => number.tree.tokens).tokens ++ after := by
  obtain ⟨joined, base⟩ := carry
  rw [Opening.tokens_fill, Opening.tokens_of]
  cases base with
  | some base =>
    obtain ⟨exponent, rfl, rfl⟩ := completes
    simp [tokens, map, Tree.tokens, List.flatMap_map]
  | none =>
    obtain ⟨inner, rfl, rfl⟩ := completes
    simp [tokens, map, Tree.tokens, List.flatMap_map]

/-- An operand that is a decimal is one number with its value if it has no letter, and more than
one number otherwise. -/
theorem operand_cases {operand : Text} (typed : operand.IsTyped)
    (readable : (Decimal.ofText? operand).isSome = true) :
    ('e' : CodePoint) ∉ operand ∧ (SignedNumber.ofText operand).Denotes operand ∧
        Token.scan operand = (SignedNumber.ofText operand).tree.tokens ∨
      ('e' : CodePoint) ∈ operand ∧ 1 < Token.numbers (Token.scan operand) := by
  obtain ⟨mantissa, rfl | ⟨behind, digit, rfl, member⟩⟩ := typed.read readable
  · exact .inl ⟨mantissa.letter_not_mem, Mantissa.number_denotes readable, mantissa.scan_before⟩
  · refine .inr ⟨?_, mantissa.numbers_power member⟩
    rw [show mantissa.before (.char 'e' :: behind) = mantissa.before [] ++ .char 'e' :: behind from
      (mantissa.before_append [] _).symm]
    exact List.mem_append_right _ (List.mem_cons_self ..)

/-- Numbers that operands are read as are computed with, whatever completes the expression. -/
theorem keeps_of_numbers {carry : Carry Text} {number : Text → SignedNumber}
    (denotes : ∀ operand ∈ carry.operands, (number operand).Denotes operand)
    (read : Token.scan carry.expression =
      (carry.map fun operand => (number operand).tree.tokens).tokens) : carry.Keeps := by
  refine ⟨number, denotes, read, fun part after completes more scanned depth fits => ?_⟩
  have tokens : ((Opening.of (carry.map number).joined).fill part).tokens =
      Token.scan (carry.expression ++ more) := by
    rw [tokens_completed completes, scan_completed, read, scanned]
    simp only [map, List.map_map, Option.map_map, Function.comp_def]
  rw [← tokens]
  exact whole_outcome fits

/-- Operands that are decimals are kept exactly if none of them has a letter. -/
theorem keeps_iff {carry : Carry Text} (typed : ∀ operand ∈ carry.operands, operand.IsTyped)
    (readable : ∀ operand ∈ carry.operands, (Decimal.ofText? operand).isSome = true) :
    carry.Keeps ↔ ∀ operand ∈ carry.operands, ('e' : CodePoint) ∉ operand := by
  have cases (operand) (member : operand ∈ carry.operands) :=
    operand_cases (typed operand member) (readable operand member)
  constructor
  · rintro ⟨number, -, read, -⟩ operand member letter
    -- There is one number for each operand, but this one is read as more.
    have more : (carry.operands.map fun operand =>
        Token.numbers (number operand).tree.tokens).sum <
          (carry.operands.map fun operand => Token.numbers (Token.scan operand)).sum := by
      refine List.sum_lt_sum _ _ (fun other among => ?_) ⟨operand, member, ?_⟩
      · rw [SignedNumber.numbers_tree]
        rcases cases other among with ⟨-, -, scanned⟩ | ⟨-, several⟩
        · rw [scanned, SignedNumber.numbers_tree]
        · exact Nat.le_of_lt several
      · rw [SignedNumber.numbers_tree]
        rcases cases operand member with ⟨none, -⟩ | ⟨-, several⟩
        · exact absurd letter none
        · exact several
    rw [scan_expression] at read
    rw [← numbers_tokens, ← numbers_tokens carry Token.scan, read] at more
    exact Nat.lt_irrefl _ more
  · intro plain
    have numbers (operand) (member : operand ∈ carry.operands) :=
      (cases operand member).resolve_right fun letter => plain operand member letter.1
    refine keeps_of_numbers (fun operand member => (numbers operand member).2.1) ?_
    rw [scan_expression, map_congr fun operand member => (numbers operand member).2.2]

end Carry

/-! ## Powers and parentheses -/

namespace State

/-- An operand that a parenthesis multiplies; a lone zero is dropped. -/
def factors (display : Text) : List (Text × Operator) :=
  if display = zero then [] else [(display, .multiply)]

/-- What a power or a parenthesis takes into an expression. A power takes the place of an operation
that still awaits its second operand, and a parenthesis takes no result. -/
def takesUp : Button → State → Option (Carry Text)
  | .power, .entering display none => some ⟨[], some display⟩
  | .power, .entering display (some chosen) =>
    some ⟨[(chosen.operand, chosen.operator)], some display⟩
  | .power, .awaiting chosen => some ⟨[], some chosen.operand⟩
  | .power, .calculated display _ => some ⟨[], some display⟩
  | .openParen, .entering display none => some ⟨factors display, none⟩
  | .openParen, .entering display (some chosen) =>
    some ⟨(chosen.operand, chosen.operator) :: factors display, none⟩
  | .openParen, .awaiting chosen => some ⟨[(chosen.operand, chosen.operator)], none⟩
  | _, _ => none

variable {state : State} {button : Button} {carry : Carry Text}

/-- The factors before a parenthesis are written with the signs that multiply them. -/
theorem flatMap_factors (display : Text) :
    ((factors display).flatMap fun one => one.1 ++ [one.2.key]) = factor display := by
  unfold factors factor
  split
  · rfl
  · simp [Operator.key]

/-- Nothing but the display is a factor before a parenthesis. -/
theorem eq_of_mem_factors {display operand : Text}
    (member : operand ∈ (factors display).map (·.1)) : operand = display := by
  unfold factors at member
  split at member
  · exact absurd member List.not_mem_nil
  · exact List.mem_singleton.1 member

/-- A power makes an expression of what it takes up, which is meant to be calculated with. -/
theorem raise_takesUp (taken : state.takesUp .power = some carry) :
    state.raise = .composing carry.expression state.display ∧
      ∀ operand ∈ carry.operands, operand ∈ state.operands := by
  cases state with
  | failed trail => cases taken
  | composing expression display => cases taken
  | awaiting chosen =>
    cases taken
    exact ⟨by simp [raise, Carry.expression, display], by simp [Carry.operands, operands]⟩
  | calculated shown trail =>
    cases taken
    exact ⟨by simp [raise, Carry.expression, display], by simp [Carry.operands, operands]⟩
  | entering shown chosen =>
    cases chosen with
    | none =>
      cases taken
      exact ⟨by simp [raise, Carry.expression, display], by simp [Carry.operands, operands]⟩
    | some chosen =>
      cases taken
      exact ⟨by simp [raise, Carry.expression, Chosen.expression, display],
        by simp [Carry.operands, operands]⟩

/-- A parenthesis makes an expression of what it takes up, which is meant to be calculated with. -/
theorem openParen_takesUp (taken : state.takesUp .openParen = some carry) :
    state.openParen = .composing carry.expression state.display ∧
      ∀ operand ∈ carry.operands, operand ∈ state.operands := by
  cases state with
  | failed trail => cases taken
  | composing expression display => cases taken
  | calculated shown trail => cases taken
  | awaiting chosen =>
    cases taken
    exact ⟨by simp [openParen, Carry.expression, Chosen.expression, display],
      by simp [Carry.operands, operands]⟩
  | entering shown chosen =>
    cases chosen with
    | none =>
      cases taken
      refine ⟨by simp [openParen, Carry.expression, display, flatMap_factors], ?_⟩
      intro operand member
      rw [Carry.operands, Option.toList_none, List.append_nil] at member
      rw [eq_of_mem_factors member]
      exact List.mem_singleton_self _
    | some chosen =>
      cases taken
      refine ⟨?_, fun operand member => ?_⟩
      · simp [openParen, Carry.expression, Chosen.expression, display, flatMap_factors]
      rw [Carry.operands, Option.toList_none, List.append_nil, List.map_cons] at member
      rcases List.mem_cons.1 member with rfl | behind
      · exact List.mem_cons_of_mem _ (List.mem_singleton_self _)
      · rw [eq_of_mem_factors behind]
        exact List.mem_cons_self ..

end State

/-- A press that takes something up makes an expression of it, and it was meant to be calculated
with. -/
theorem Calculator.apply_takesUp {calculator : Calculator} (rests : calculator.calculating = false)
    {button : Button} {carry : Carry Text} (taken : calculator.state.takesUp button = some carry)
    (depth : Nat) :
    (calculator.apply depth button).state = .composing carry.expression calculator.state.display ∧
      ∀ operand ∈ carry.operands, operand ∈ calculator.state.operands := by
  cases button with
  | power =>
    rw [apply, edit_idle rests]
    exact State.raise_takesUp taken
  | openParen =>
    rw [apply, edit_idle rests]
    exact State.openParen_takesUp taken
  | _ =>
    unfold State.takesUp at taken
    cases taken

namespace Press

/-- Which operands keep their values in an expression. In every state that presses reach in front of
services that answer with integers, and in which everything that is meant to be calculated with is
a decimal, a power or a parenthesis makes an expression of what it takes up. There every operand is
one number with its value, perhaps behind a minus sign, the operations stand between them, and the
expression is computed with these numbers whatever completes it, exactly if none of the operands
has the letter of a power of ten. -/
theorem takesUp_keeps_iff {σ : Type} (presses : List (Press σ)) (service : σ)
    (integral : ∀ press ∈ presses, press.provider.Integral)
    (readable : (run presses service).1.state.Readable) {button : Button} {carry : Carry Text}
    (taken : (run presses service).1.state.takesUp button = some carry) (depth : Nat) :
    ((run presses service).1.apply depth button).state =
        .composing carry.expression (run presses service).1.state.display ∧
      (carry.Keeps ↔ ∀ operand ∈ carry.operands, ('e' : CodePoint) ∉ operand) := by
  obtain ⟨typed, among⟩ := Calculator.apply_takesUp (run_rests presses service) taken depth
  have spelled := all_run Text.closed_isTyped presses integral service
  refine ⟨typed, Carry.keeps_iff ?_ ?_⟩
  · exact fun operand member => spelled operand (among operand member)
  · exact fun operand member => readable operand (among operand member)

/-- In front of the local service integers are answered. -/
theorem integral_atMoment (presses : List LocalPress) :
    ∀ press ∈ presses.map atMoment, press.provider.Integral := by
  intro press member
  obtain ⟨given, -, rfl⟩ := List.mem_map.1 member
  exact LocalService.provider_integral _

/-- Five plus three, and the sign of the three changed. -/
def fivePlusOpposite : List LocalPress := atOnce [['5'], ['+'], ['3'], ['±']]

/-- An operand with a sign is kept as the base of a power behind another operand. -/
theorem takesUp_keeps_fivePlusOpposite :
    ((reached .new fivePlusOpposite).apply Calculator.scriptDepth .power).state =
        .composing "5+-3^" "-3" ∧
      Carry.Keeps ⟨[(['5'], .add)], some ['-', '3']⟩ := by
  have readable : (reached .new fivePlusOpposite).state.Readable := by decide +kernel
  have taken : (reached .new fivePlusOpposite).state.takesUp .power =
      some ⟨[(['5'], .add)], some ['-', '3']⟩ := by decide +kernel
  obtain ⟨typed, keeps⟩ :=
    takesUp_keeps_iff (fivePlusOpposite.map atMoment) .new (integral_atMoment _) readable taken
      Calculator.scriptDepth
  exact ⟨typed, keeps.2 (by decide)⟩

/-- A hundred thousand, squared three times. -/
def hundredThousandSquared : List LocalPress :=
  atOnce [['1'], ['0'], ['0'], ['0'], ['0'], ['0'], ['x', '²'], ['x', '²'], ['x', '²']]

/-- Ten to the power of 40 as the base of a power. -/
def tenTo40 : Carry Text := ⟨[], some ['1', 'e', '+', '4', '0']⟩

/-- Ten to the power of 40 is not kept as the base of a power: it is read as one plus forty, and
only the forty is raised. -/
theorem tenTo40_not_kept :
    (reached .new hundredThousandSquared).state.Readable ∧
      (reached .new hundredThousandSquared).state.takesUp .power = some tenTo40 ∧ ¬tenTo40.Keeps ∧
        Token.scan tenTo40.expression = [.number ['1'], .plus, .number ['4', '0'], .power] := by
  have scanned : Token.scan tenTo40.expression =
      [.number ['1'], .plus, .number ['4', '0'], .power] := by decide +kernel
  refine ⟨by decide +kernel, by decide +kernel, ?_, scanned⟩
  rintro ⟨number, -, read, -⟩
  have counts := congrArg Token.numbers (scanned.symm.trans read)
  rw [Carry.numbers_tokens] at counts
  simp only [SignedNumber.numbers_tree] at counts
  exact absurd counts (by decide)

end Press

end Reckoner
