import Mathlib.Data.List.Chain
import Mathlib.Data.List.Infix
import Reckoner.Calculator.Entry
import Reckoner.Proofs.Expression.Number

/-!
# Expressions in order

An expression is edited as text, and read as tokens. Both see the same number at its end as long as
its digits are ASCII digits and no line end is in it. An expression is in order if, besides, no
number in it has more than one point and no parenthesis opens right behind an operand. A part of an
expression in order is in order; and two expressions in order, one behind the other, are in order
unless a number would continue or a parenthesis would open where they meet.

Reading skips the characters that belong to no token, such as the letter of a power of ten, so a
minus sign before them belongs to the number behind them, which editing does not see. Therefore the
minus signs before such characters are counted as well.
-/

namespace Reckoner

/-- A character that counts as one of a number both for editing and for reading, or for neither, and
that is not a line end or the sign of a root. -/
structure CodePoint.IsSimple (c : CodePoint) : Prop where
  line : c ≠ '\n'
  root : c ≠ Token.rootSign
  same : Text.isNumeralChar c = Token.isNumberChar c

namespace CodePoint

instance (c : CodePoint) : Decidable c.IsSimple :=
  decidable_of_iff
    (c ≠ '\n' ∧ c ≠ Token.rootSign ∧ Text.isNumeralChar c = Token.isNumberChar c)
    ⟨fun all => ⟨all.1, all.2.1, all.2.2⟩, fun simple => ⟨simple.line, simple.root, simple.same⟩⟩

/-- Digits are simple. -/
theorem isSimple_digitPoint : ∀ digit, IsSimple (Text.digitPoint digit) := by
  decide

end CodePoint

/-- A character that belongs to no token. -/
def Token.isSkipped (c : CodePoint) : Bool := !isNumberChar c && (ofChar? c).isNone

/-- A character of a number is not skipped. -/
theorem Token.isSkipped_number {c : CodePoint} (number : isNumberChar c = true) :
    isSkipped c = false := by
  rw [isSkipped, number]
  rfl

/-- A simple character that is a token of its own. -/
structure CodePoint.IsMark (c : CodePoint) : Prop where
  simple : c.IsSimple
  separates : Token.isNumberChar c = false
  kept : Token.isSkipped c = false

instance (c : CodePoint) : Decidable c.IsMark :=
  decidable_of_iff (c.IsSimple ∧ Token.isNumberChar c = false ∧ Token.isSkipped c = false)
    ⟨fun all => ⟨all.1, all.2.1, all.2.2⟩, fun mark => ⟨mark.simple, mark.separates, mark.kept⟩⟩

namespace Text

/-! ## The number at the end -/

section EndNumber

variable {text : Text} (simple : ∀ c ∈ text, c.IsSimple)

include simple

/-- Without line ends there is none at the end. -/
theorem splitLineEnd_simple : splitLineEnd text = (text, []) :=
  if_neg fun last => (simple _ (List.mem_of_getLast? last)).line rfl

/-- Nothing follows the number at the end. -/
theorem afterEndNumber_simple : afterEndNumber text = [] := by
  rw [afterEndNumber, splitLineEnd_simple simple]

/-- What stands before the number at the end, and the number, are the whole text. -/
theorem before_append_end : beforeEndNumber text ++ endNumber text = text := by
  rw [beforeEndNumber, endNumber, splitLineEnd_simple simple, ← List.reverse_append,
    List.takeWhile_append_dropWhile, List.reverse_reverse]

/-- What stands before the number at the end is a part of the text. -/
theorem before_among : beforeEndNumber text <:+: text :=
  ⟨[], endNumber text, before_append_end simple⟩

/-- The number at the end is a part of the text. -/
theorem end_among : endNumber text <:+: text :=
  ⟨beforeEndNumber text, [], by rw [List.append_nil, before_append_end simple]⟩

/-- The number at the end is made of characters of a number. -/
theorem isNumberChar_end : ∀ c ∈ endNumber text, Token.isNumberChar c = true := by
  intro c member
  have whole : c ∈ text := (end_among simple).subset member
  rw [endNumber, splitLineEnd_simple simple, List.mem_reverse] at member
  rw [← (simple c whole).same]
  exact List.all_eq_true.1 List.all_takeWhile c member

/-- The number at the end is as long as possible. -/
theorem before_stops : ∀ c ∈ (beforeEndNumber text).getLast?, Token.isNumberChar c = false := by
  intro c last
  have whole : c ∈ text := (before_among simple).subset (List.mem_of_getLast? last)
  rw [beforeEndNumber, splitLineEnd_simple simple, List.getLast?_reverse] at last
  have ends := List.head?_dropWhile_not isNumeralChar text.reverse
  rw [Option.mem_def.1 last] at ends
  rw [← (simple c whole).same]
  exact ends

/-- The number at the end is the last token. -/
theorem scan_end (nonempty : endNumber text ≠ []) :
    Token.scan text = Token.scan (beforeEndNumber text) ++ [.number (endNumber text)] := by
  conv_lhs => rw [← before_append_end simple]
  exact Token.scan_behind (before_stops simple) nonempty (isNumberChar_end simple)

end EndNumber

/-- Characters of a number behind something else are the number at the end. -/
theorem endNumber_append {front run : Text} (simple : ∀ c ∈ front ++ run, c.IsSimple)
    (stops : ∀ c ∈ front.getLast?, Token.isNumberChar c = false)
    (numbers : ∀ c ∈ run, Token.isNumberChar c = true) : endNumber (front ++ run) = run := by
  have same (c) (member : c ∈ front ++ run) := (simple c member).same
  have inside : ∀ c ∈ run.reverse, isNumeralChar c = true := fun c member => by
    have among := List.mem_reverse.1 member
    rw [same c (List.mem_append_right _ among), numbers c among]
  have outside : front.reverse.takeWhile isNumeralChar = [] := by
    rcases List.eq_nil_or_concat front with rfl | ⟨rest, c, rfl⟩
    · rfl
    · rw [List.concat_eq_append] at same stops ⊢
      have other : isNumeralChar c = false := by
        rw [same c (by simp), stops c List.getLast?_concat]
      rw [List.reverse_concat]
      exact List.takeWhile_cons_of_neg (by simp [other])
  rw [endNumber, splitLineEnd_simple simple, List.reverse_append,
    List.takeWhile_append_of_pos inside, outside, List.append_nil, List.reverse_reverse]

/-! ## Texts in order -/

/-- A parenthesis after this character does not open behind an operand. -/
def Opens (c next : CodePoint) : Prop := next = '(' → State.multipliesBefore c = false

/-- A parenthesis is no character of a number. -/
theorem not_number_paren : ¬Token.isNumberChar '(' = true := by
  decide

/-- A character of a number is no parenthesis. -/
theorem opens_number {next : CodePoint} (number : Token.isNumberChar next = true) (c : CodePoint) :
    Opens c next := by
  rintro rfl
  exact absurd number not_number_paren

/-- An expression in which every number has at most one point and no parenthesis opens right behind
an operand. -/
structure Orderly (text : Text) : Prop where
  simple : ∀ c ∈ text, c.IsSimple
  points : ∀ run : Text, run <:+: text → (∀ c ∈ run, Token.isNumberChar c = true) → run.points ≤ 1
  opens : text.IsChain Opens

namespace Orderly

variable {text front back part : Text} {c : CodePoint}

/-- A part of an expression in order is in order. -/
theorem of_part (orderly : text.Orderly) (among : part <:+: text) : part.Orderly where
  simple c member := orderly.simple c (among.subset member)
  points run inside := orderly.points run (inside.trans among)
  opens := orderly.opens.infix among

/-- Every number has at most one point. -/
theorem number_points (orderly : text.Orderly) {number : Text}
    (member : .number number ∈ Token.scan text) : number.points ≤ 1 := by
  obtain ⟨among, -, numbers⟩ := Token.infix_of_mem_scan member
  exact orderly.points number among numbers

/-- A text with at most one point and no parenthesis that opens is in order. -/
theorem of_points (simple : ∀ c ∈ text, c.IsSimple) (one : text.points ≤ 1)
    (closed : ('(' : CodePoint) ∉ text) : text.Orderly where
  simple := simple
  points _ inside _ := Nat.le_trans (inside.sublist.count_le _) one
  opens := by
    refine (List.pairwise_of_forall_mem_list fun c _ next member => ?_).isChain
    rintro rfl
    exact absurd member closed

/-- Nothing is in order. -/
theorem nil : Orderly [] :=
  of_points nofun (Nat.zero_le 1) List.not_mem_nil

/-- A number with at most one point is in order. -/
theorem of_numbers (simple : ∀ c ∈ text, c.IsSimple)
    (numbers : ∀ c ∈ text, Token.isNumberChar c = true) (one : text.points ≤ 1) : text.Orderly :=
  of_points simple one fun member => not_number_paren (numbers _ member)

/-- A single character is in order. -/
theorem single (simple : c.IsSimple) : Orderly [c] where
  simple := List.forall_mem_singleton.2 simple
  points _ inside _ := Nat.le_trans (inside.sublist.count_le _) List.count_le_length
  opens := .singleton _

/-- Two texts in order are in order behind each other, unless a number continues or a parenthesis
opens where they meet. -/
theorem append (first : front.Orderly) (second : back.Orderly)
    (apart : ∀ c ∈ front.getLast?, ∀ next ∈ back.head?,
      (Token.isNumberChar c = false ∨ Token.isNumberChar next = false) ∧ Opens c next) :
    (front ++ back).Orderly where
  simple c member := (List.mem_append.1 member).elim (first.simple c) (second.simple c)
  points run inside numbers := by
    rcases List.infix_append_iff.1 inside with left | right | ⟨left, right, rfl, ends, begins⟩
    · exact first.points run left numbers
    · exact second.points run right numbers
    · -- A run that reaches across would be a number that continues.
      rcases List.eq_nil_or_concat left with rfl | ⟨rest, c, rfl⟩
      · exact second.points _ begins.isInfix numbers
      · cases right with
        | nil =>
          rw [List.append_nil] at numbers ⊢
          exact first.points _ ends.isInfix numbers
        | cons next behind =>
          rw [List.concat_eq_append] at numbers ends
          have last : c ∈ front.getLast? := by
            obtain ⟨before, rfl⟩ := ends
            rw [← List.append_assoc]
            exact List.getLast?_concat
          have head : next ∈ back.head? := by
            obtain ⟨after, rfl⟩ := begins
            rfl
          have here : Token.isNumberChar c = true := numbers c (by simp)
          have there : Token.isNumberChar next = true := numbers next (by simp)
          rcases (apart c last next head).1 with stops | stops
          · exact absurd (here.symm.trans stops) nofun
          · exact absurd (there.symm.trans stops) nofun
  opens := List.isChain_append.2
    ⟨first.opens, second.opens, fun c last next head => (apart c last next head).2⟩

/-- A mark at the end keeps an expression in order, unless a parenthesis opens behind an
operand. -/
theorem concat (orderly : text.Orderly) (mark : c.IsMark)
    (opens : ∀ last ∈ text.getLast?, Opens last c) : Orderly (text ++ [c]) := by
  refine orderly.append (single mark.simple) fun last among next head => ?_
  obtain rfl := Option.some.inj head
  exact ⟨.inr mark.separates, opens last among⟩

/-- A mark between two texts in order. -/
theorem join (first : front.Orderly) (second : back.Orderly) (mark : c.IsMark)
    (opens : ∀ last ∈ front.getLast?, Opens last c) (free : State.multipliesBefore c = false) :
    Orderly (front ++ c :: back) := by
  have joined := (first.concat mark opens).append second fun last among next _ => by
    obtain rfl : c = last := Option.some.inj (List.getLast?_concat.symm.trans among)
    exact ⟨.inl mark.separates, fun _ => free⟩
  rwa [List.append_assoc, List.singleton_append] at joined

/-- A character of a number at the end keeps an expression in order, unless it is a second point. -/
theorem push (orderly : text.Orderly) (simple : c.IsSimple)
    (number : Token.isNumberChar c = true)
    (one : c = '.' → ('.' : CodePoint) ∉ endNumber text) : Orderly (text ++ [c]) := by
  have among := end_among orderly.simple
  have numbers : ∀ d ∈ endNumber text ++ [c], Token.isNumberChar d = true := fun d member =>
    (List.mem_append.1 member).elim (isNumberChar_end orderly.simple d) fun last =>
      List.mem_singleton.1 last ▸ number
  have few : Text.points (endNumber text ++ [c]) ≤ 1 := by
    rw [Text.points, List.count_append]
    by_cases point : c = '.'
    · rw [List.count_eq_zero.2 (one point), Nat.zero_add]
      exact List.count_le_length
    · have none : List.count (.char '.') [c] = 0 := List.count_eq_zero.2 fun member =>
        point (List.mem_singleton.1 member).symm
      rw [none]
      exact orderly.points _ among (isNumberChar_end orderly.simple)
  have simples : ∀ d ∈ endNumber text ++ [c], d.IsSimple := fun d member =>
    (List.mem_append.1 member).elim (fun before => orderly.simple d (among.subset before))
      fun last => List.mem_singleton.1 last ▸ simple
  have before := orderly.of_part (before_among orderly.simple)
  have grown := before.append (of_numbers simples numbers few) fun d last next head =>
    ⟨.inl (before_stops orderly.simple d last),
      opens_number (numbers next (List.mem_of_head? head)) d⟩
  rwa [← List.append_assoc, before_append_end orderly.simple] at grown

end Orderly

/-! ## Minus signs before what is skipped -/

/-- How many minus signs can stand before a character that is skipped. -/
def signLimit : Nat := 6

/-- Few minus signs stand before each character that is skipped. -/
def FewSigns (text : Text) : Prop :=
  ∀ front c back, text = front ++ c :: back → Token.isSkipped c = true →
    front.count (.char '-') ≤ signLimit

namespace FewSigns

variable {text front back : Text}

/-- A text with few minus signs has few before each character that is skipped. -/
theorem of_count (few : text.count (.char '-') ≤ signLimit) : text.FewSigns := by
  rintro front c back rfl -
  exact Nat.le_trans ((List.sublist_append_left front _).count_le _) few

/-- The front of a text has no more minus signs than the text. -/
theorem of_front (few : text.FewSigns) (begins : front <+: text) : front.FewSigns := by
  obtain ⟨behind, rfl⟩ := begins
  rintro before c back rfl skipped
  exact few before c (back ++ behind) (by simp) skipped

/-- Behind the last character that is skipped there may be any number of minus signs. -/
theorem append (few : front.FewSigns) (kept : ∀ c ∈ back, Token.isSkipped c = false) :
    (front ++ back).FewSigns := by
  intro before c behind split skipped
  rcases List.append_eq_append_iff.1 split with ⟨rest, -, inside⟩ | ⟨rest, inside, others⟩
  · rw [kept c (by simp [inside])] at skipped
    cases skipped
  · cases rest with
    | nil =>
      have same : c :: behind = back := others
      rw [kept c (same ▸ List.mem_cons_self ..)] at skipped
      cases skipped
    | cons first rest =>
      obtain rfl := (List.cons.inj others).1
      exact few before c rest inside skipped

end FewSigns

/-! ## Changing the sign of the number at the end -/

/-- A minus sign that belongs to the number behind it stands at the front or behind a character of
the contexts in which it does. -/
theorem withoutSign?_eq_some {text shorter : Text}
    (found : State.withoutSign? text = some shorter) :
    text = shorter ++ [.char '-'] ∧ ∀ c ∈ shorter.getLast?, c ∈ State.signContext := by
  unfold State.withoutSign? at found
  split at found
  · rename_i alone
    rw [← Option.some.inj found, List.reverse_eq_iff.1 alone]
    exact ⟨rfl, nofun⟩
  · rename_i c before behind
    split at found
    · rename_i context
      rw [← Option.some.inj found, List.reverse_eq_iff.1 behind]
      refine ⟨List.reverse_cons, fun last same => ?_⟩
      rw [List.getLast?_reverse] at same
      rw [← Option.some.inj same]
      exact List.contains_iff_mem.1 context
    · cases found
  · cases found

/-- In the contexts of a sign no number is going on. -/
theorem signContext_stops : ∀ c ∈ State.signContext, Token.isNumberChar c = false := by
  decide

/-- Changing the sign of the number at the end removes the minus sign that belongs to it or puts one
before it. -/
theorem negateEnd_cases {text : Text} (simple : ∀ c ∈ text, c.IsSimple) :
    (∃ shorter, beforeEndNumber text = shorter ++ [.char '-'] ∧
        (∀ c ∈ shorter.getLast?, c ∈ State.signContext) ∧
          State.negateEnd text = shorter ++ endNumber text) ∨
      State.withoutSign? (beforeEndNumber text) = none ∧
        State.negateEnd text = beforeEndNumber text ++ .char '-' :: endNumber text := by
  unfold State.negateEnd
  simp only [afterEndNumber_simple simple, List.append_nil]
  cases found : State.withoutSign? (beforeEndNumber text) with
  | none => exact .inr ⟨rfl, List.append_assoc ..⟩
  | some shorter =>
    obtain ⟨split, context⟩ := withoutSign?_eq_some found
    exact .inl ⟨shorter, split, context, rfl⟩

/-- The number is still there. -/
theorem negateEnd_ne_nil {text : Text} (simple : ∀ c ∈ text, c.IsSimple)
    (number : endNumber text ≠ []) : State.negateEnd text ≠ [] := by
  rcases negateEnd_cases simple with ⟨shorter, -, -, removed⟩ | ⟨-, inserted⟩
  · rw [removed]
    exact List.append_ne_nil_of_right_ne_nil _ number
  · rw [inserted]
    exact List.append_ne_nil_of_right_ne_nil _ (List.cons_ne_nil _ _)

/-- Changing the sign of the number at the end keeps an expression in order. -/
theorem Orderly.negateEnd {text : Text} (orderly : text.Orderly) :
    (State.negateEnd text).Orderly := by
  have number := orderly.of_part (end_among orderly.simple)
  have before := orderly.of_part (before_among orderly.simple)
  have opens (c) : ∀ next ∈ (endNumber text).head?, Opens c next := fun next head =>
    opens_number (isNumberChar_end orderly.simple next (List.mem_of_head? head)) c
  rcases negateEnd_cases orderly.simple with ⟨shorter, split, context, removed⟩ | ⟨-, inserted⟩
  · rw [split] at before
    rw [removed]
    exact (before.of_part ⟨[], _, rfl⟩).append number fun c last next head =>
      ⟨.inl (signContext_stops c (context c last)), opens c next head⟩
  · rw [inserted]
    exact before.join number (by decide) (fun c _ => nofun) (by decide)

/-- Changing the sign of the number at the end leaves few minus signs before what is skipped. -/
theorem FewSigns.negateEnd {text : Text} (few : text.FewSigns) (simple : ∀ c ∈ text, c.IsSimple) :
    (State.negateEnd text).FewSigns := by
  have before := few.of_front ⟨_, before_append_end simple⟩
  have number : ∀ c ∈ endNumber text, Token.isSkipped c = false := fun c member =>
    Token.isSkipped_number (isNumberChar_end simple c member)
  rcases negateEnd_cases simple with ⟨shorter, split, -, removed⟩ | ⟨-, inserted⟩
  · rw [removed]
    exact (before.of_front ⟨_, split.symm⟩).append number
  · rw [inserted]
    exact before.append (List.forall_mem_cons.2 ⟨by decide, number⟩)

/-! ## Expressions that are composed -/

/-- What is composed: an expression in order that is not empty, and in which few minus signs stand
before what is skipped. -/
structure Composed (text : Text) : Prop where
  nonempty : text ≠ []
  orderly : text.Orderly
  signs : text.FewSigns

namespace Composed

variable {text : Text} {c : CodePoint}

/-- A parenthesis begins an expression. -/
theorem paren : Composed ['('] :=
  ⟨nofun, .single (by decide), .of_count (by decide)⟩

/-- A mark may be typed, unless it is a parenthesis that opens behind an operand. -/
theorem concat (composed : text.Composed) (mark : c.IsMark)
    (opens : ∀ last ∈ text.getLast?, Opens last c) : Composed (text ++ [c]) :=
  ⟨by simp, composed.orderly.concat mark opens,
    composed.signs.append (List.forall_mem_singleton.2 mark.kept)⟩

/-- A character of a number may be typed, unless it is a second point. -/
theorem push (composed : text.Composed) (simple : c.IsSimple) (number : Token.isNumberChar c = true)
    (one : c = '.' → ('.' : CodePoint) ∉ endNumber text) : Composed (text ++ [c]) :=
  ⟨by simp, composed.orderly.push simple number one,
    composed.signs.append (List.forall_mem_singleton.2 (Token.isSkipped_number number))⟩

/-- The last character may be erased, unless it is the only one. -/
theorem dropLast (composed : text.Composed) (remaining : text.dropLast ≠ []) :
    Composed text.dropLast :=
  ⟨remaining, composed.orderly.of_part (List.dropLast_prefix text).isInfix,
    composed.signs.of_front (List.dropLast_prefix text)⟩

/-- The sign of the number at the end may be changed, if there is one. -/
theorem negateEnd (composed : text.Composed) (number : endNumber text ≠ []) :
    (State.negateEnd text).Composed :=
  ⟨negateEnd_ne_nil composed.orderly.simple number, composed.orderly.negateEnd,
    composed.signs.negateEnd composed.orderly.simple⟩

/-- What is ready for a parenthesis is composed, and a parenthesis may open behind it. -/
theorem beforeParen (composed : text.Composed) : (State.beforeParen text).Composed ∧
    ∀ last ∈ (State.beforeParen text).getLast?, State.multipliesBefore last = false := by
  unfold State.beforeParen
  split
  · rename_i last found
    split
    · rw [List.concat_eq_append]
      refine ⟨composed.concat (by decide) fun _ _ => nofun, fun last among => ?_⟩
      rw [List.getLast?_concat] at among
      rw [← Option.some.inj among]
      decide
    · rename_i other
      refine ⟨composed, fun same among => ?_⟩
      obtain rfl := Option.some.inj (found.symm.trans among)
      exact Bool.eq_false_iff.2 other
  · rename_i none
    exact ⟨composed, fun last among => absurd (none.symm.trans among) nofun⟩

end Composed

end Text

end Reckoner
