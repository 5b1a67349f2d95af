import Mathlib.Data.List.Basic
import Reckoner.Proofs.Expression.Scan

/-!
# What the tokens of a text keep of it

Reading a text loses and invents nothing. The characters of the tokens are those of the text, in
order, without the ones that belong to no token. Every token stands at a place of the text, with the
tokens of what is before it and behind it on either side: a number is a run that no character of a
number extends, and any other token is a single character. Conversely tokens that are written with
blanks between them are read again as they were.
-/

namespace Reckoner

namespace Token

/-- Whether a character belongs to a token. -/
def isRecognised (c : CodePoint) : Bool := isNumberChar c || (ofChar? c).isSome

/-- A token that a text can hold: a number has a character, and only characters of a number. -/
def IsWellFormed : Token → Prop
  | .number text => text ≠ [] ∧ ∀ c ∈ text, isNumberChar c = true
  | _ => True

/-- A token is whole between two texts: neither of them goes on with a number that stands between
them. -/
def IsWhole (front back : Text) : Token → Prop
  | .number _ => (∀ c ∈ front.getLast?, isNumberChar c = false) ∧
      ∀ c ∈ back.head?, isNumberChar c = false
  | _ => True

/-- A place where a token stands in a text. -/
structure StandsIn (token : Token) (text front back : Text) : Prop where
  parts : text = front ++ (token.text ++ back)
  wellFormed : token.IsWellFormed
  whole : token.IsWhole front back

variable {token : Token} {text front back : Text} {tokens before after : List Token}

/-! ## Characters -/

/-- A token is a number, or it is made by the character that it is written with. -/
theorem number_or_single (token : Token) :
    (∃ run, token = .number run) ∨ ∃ c, ofChar? c = some token ∧ token.text = [c] := by
  cases single : token.isNumber with
  | true =>
    cases token with
    | number run => exact .inl ⟨run, rfl⟩
    | _ => cases single
  | false =>
    have written : ∃ c, token.text = [c] := by
      cases token with
      | number run => cases single
      | _ => exact ⟨_, rfl⟩
    obtain ⟨c, written⟩ := written
    exact .inr ⟨c, (ofChar?_eq_some_iff single).2 written, written⟩

/-- What a character makes is no number. -/
theorem isNumber_of_ofChar? {c : CodePoint} (makes : ofChar? c = some token) :
    token.isNumber = false := by
  cases token with
  | number run => exact absurd makes (ofChar?_ne_number c run)
  | _ => rfl

/-- The token that a character makes is written with it. -/
theorem text_of_ofChar? {c : CodePoint} (makes : ofChar? c = some token) : token.text = [c] :=
  (ofChar?_eq_some_iff (isNumber_of_ofChar? makes)).1 makes

/-- The characters that belong to a token are those of numbers and those that another token is
written with. -/
theorem isRecognised_iff (c : CodePoint) : isRecognised c = true ↔
    isNumberChar c = true ∨ ∃ token : Token, token.isNumber = false ∧ token.text = [c] := by
  rw [isRecognised, Bool.or_eq_true_iff, Option.isSome_iff_exists]
  refine or_congr_right (exists_congr fun token => ?_)
  constructor
  · intro makes
    have single : token.isNumber = false := isNumber_of_ofChar? makes
    exact ⟨single, (ofChar?_eq_some_iff single).1 makes⟩
  · rintro ⟨single, written⟩
    exact (ofChar?_eq_some_iff single).2 written

/-- The characters of the tokens are those of the text that belong to a token, in order. -/
theorem flatMap_text_scan (text : Text) :
    (scan text).flatMap Token.text = text.filter isRecognised := by
  induction text using scan_induction with
  | nil => rfl
  | other c rest other ih =>
    rw [scan_other other, List.flatMap_append, ih]
    cases makes : ofChar? c with
    | none =>
      have unknown : ¬isRecognised c = true := by simp [isRecognised, other, makes]
      rw [List.filter_cons_of_neg unknown]
      rfl
    | some token =>
      have known : isRecognised c = true := by simp [isRecognised, makes]
      rw [List.filter_cons_of_pos known, Option.toList_some, List.flatMap_singleton,
        text_of_ofChar? makes, List.singleton_append]
  | run run rest nonempty numbers stop ih =>
    have kept : run.filter isRecognised = run :=
      List.filter_eq_self.2 fun c member => (isRecognised_iff c).2 (.inl (numbers c member))
    rw [scan_front nonempty numbers stop, List.flatMap_cons, ih, List.filter_append, kept]
    rfl

/-! ## Places -/

/-- A token that stands in a text is read there, between the tokens before it and behind it. -/
theorem StandsIn.scan_eq (stands : token.StandsIn text front back) :
    scan text = scan front ++ token :: scan back := by
  rw [stands.parts]
  rcases number_or_single token with ⟨run, rfl⟩ | ⟨c, makes, written⟩
  · obtain ⟨nonempty, numbers⟩ : run ≠ [] ∧ ∀ c ∈ run, isNumberChar c = true := stands.wellFormed
    obtain ⟨begins, ends⟩ := stands.whole
    have last := scan_behind begins nonempty numbers
    rw [Token.text]
    cases back with
    | nil => rw [List.append_nil, last, scan]
    | cons mark back =>
      have separates : isNumberChar mark = false := ends mark rfl
      rw [← List.append_assoc, scan_append separates, last, List.append_assoc]
      rfl
  · rw [written, List.singleton_append, scan_append_other (separates_of_ofChar? makes), makes]
    rfl

/-- A number is read alone as itself, and so is any other token. -/
theorem scan_text (wellFormed : token.IsWellFormed) : scan token.text = [token] := by
  have whole : token.IsWhole [] [] := by
    cases token with
    | number run => exact ⟨nofun, nofun⟩
    | _ => trivial
  have stands : token.StandsIn token.text [] [] := ⟨(List.append_nil _).symm, wellFormed, whole⟩
  exact stands.scan_eq

/-- A character stands at the front as the token that it makes. -/
theorem standsIn_single {c : CodePoint} (makes : ofChar? c = some token) (rest : Text) :
    token.StandsIn (c :: rest) [] rest where
  parts := by
    rw [text_of_ofChar? makes]
    rfl
  wellFormed := by
    cases token with
    | number run => exact absurd makes (ofChar?_ne_number c run)
    | _ => trivial
  whole := by
    cases token with
    | number run => exact absurd makes (ofChar?_ne_number c run)
    | _ => trivial

/-- A character of no number in front of a text does not matter to a token in it. -/
theorem StandsIn.cons {c : CodePoint} (other : isNumberChar c = false)
    (stands : token.StandsIn text front back) : token.StandsIn (c :: text) (c :: front) back where
  parts := congrArg (List.cons c) stands.parts
  wellFormed := stands.wellFormed
  whole := by
    have whole := stands.whole
    cases token with
    | number run =>
      refine ⟨fun d last => ?_, whole.2⟩
      cases front with
      | nil =>
        obtain rfl : c = d := Option.some.inj last
        exact other
      | cons e front => exact whole.1 d last
    | _ => trivial

/-- Neither does a run in front of a text that goes on with something else. -/
theorem StandsIn.append {run : Text} (stop : ∀ c ∈ text.head?, isNumberChar c = false)
    (stands : token.StandsIn text front back) :
    token.StandsIn (run ++ text) (run ++ front) back where
  parts := by rw [stands.parts, List.append_assoc]
  wellFormed := stands.wellFormed
  whole := by
    have whole := stands.whole
    cases token with
    | number number =>
      obtain ⟨nonempty, numbers⟩ : number ≠ [] ∧ ∀ c ∈ number, isNumberChar c = true :=
        stands.wellFormed
      refine ⟨fun d last => ?_, whole.2⟩
      cases front with
      | nil =>
        -- The text would begin with the number, and so go on with the run.
        obtain ⟨first, others, rfl⟩ := List.exists_cons_of_ne_nil nonempty
        have begins := stop first (by rw [stands.parts]; rfl)
        rw [numbers first List.mem_cons_self] at begins
        cases begins
      | cons e front =>
        rw [List.getLast?_append_cons] at last
        exact whole.1 d last
    | _ => trivial

/-- A token that is read stands in the text, and those before it and behind it are read from the
text before it and behind it. -/
theorem exists_standsIn (read : scan text = before ++ token :: after) :
    ∃ front back, token.StandsIn text front back ∧ scan front = before ∧ scan back = after := by
  induction text using scan_induction generalizing before with
  | nil => simp [scan] at read
  | other c rest other ih =>
    rw [scan_other other] at read
    cases makes : ofChar? c with
    | none =>
      rw [makes] at read
      obtain ⟨front, back, stands, first, second⟩ := ih read
      refine ⟨c :: front, back, stands.cons other, ?_, second⟩
      rw [scan_other other, makes, first]
      rfl
    | some single =>
      rw [makes, Option.toList_some, List.singleton_append] at read
      cases before with
      | nil =>
        obtain ⟨rfl, others⟩ := List.cons.inj read
        exact ⟨[], rest, standsIn_single makes rest, rfl, others⟩
      | cons earlier before =>
        obtain ⟨rfl, others⟩ := List.cons.inj read
        obtain ⟨front, back, stands, first, second⟩ := ih others
        refine ⟨c :: front, back, stands.cons other, ?_, second⟩
        rw [scan_other other, makes, first]
        rfl
  | run run rest nonempty numbers stop ih =>
    rw [scan_front nonempty numbers stop] at read
    cases before with
    | nil =>
      obtain ⟨rfl, others⟩ := List.cons.inj read
      have whole : IsWhole [] rest (.number run) := by
        refine ⟨fun c last => ?_, stop⟩
        cases last
      exact ⟨[], rest, ⟨rfl, ⟨nonempty, numbers⟩, whole⟩, rfl, others⟩
    | cons earlier before =>
      obtain ⟨rfl, others⟩ := List.cons.inj read
      obtain ⟨front, back, stands, first, second⟩ := ih others
      have begins : ∀ c ∈ front.head?, isNumberChar c = false := by
        intro c head
        cases front with
        | nil => cases head
        | cons d front =>
          obtain rfl : d = c := Option.some.inj head
          exact stop d (by rw [stands.parts]; rfl)
      refine ⟨run ++ front, back, stands.append stop, ?_, second⟩
      rw [scan_front nonempty numbers begins, first]

/-- Every token that is read is one that a text can hold. -/
theorem isWellFormed_of_mem_scan (member : token ∈ scan text) : token.IsWellFormed := by
  obtain ⟨before, after, read⟩ := List.append_of_mem member
  obtain ⟨front, back, stands, -⟩ := exists_standsIn read
  exact stands.wellFormed

/-! ## Writing tokens -/

/-- The texts of tokens with blanks between them. -/
def spaced (tokens : List Token) : Text := Text.joinWith " " (tokens.map Token.text)

/-- Tokens that a text can hold are read again from their texts with blanks between them. -/
theorem scan_spaced (wellFormed : ∀ token ∈ tokens, token.IsWellFormed) :
    scan (spaced tokens) = tokens := by
  induction tokens with
  | nil => rfl
  | cons token more ih =>
    have first := scan_text (wellFormed token List.mem_cons_self)
    have others := ih fun token member => wellFormed token (List.mem_cons_of_mem _ member)
    cases more with
    | nil => exact first
    | cons next more =>
      have written : spaced (token :: next :: more) =
          token.text ++ (' ' : CodePoint) :: spaced (next :: more) := by
        rw [spaced, List.map_cons, List.map_cons, Text.joinWith, List.append_assoc]
        rfl
      have blank : isNumberChar ' ' = false ∧ ofChar? ' ' = none := by decide
      rw [written, scan_append_other blank.1, blank.2, first, others]
      rfl

/-- The tokens of a text are exactly what it holds. Their characters are the characters of the text
that belong to a token, in order. A token is read between others exactly where it stands between
the texts that they are read from: a number as a run of characters of a number that is extended on
neither side, and any other token as the one character that makes it. And tokens are read again from
their texts with blanks between them exactly if each of them is one that a text can hold. -/
theorem scan_exact (text : Text) (tokens : List Token) :
    (scan text).flatMap Token.text = text.filter isRecognised ∧
    (∀ before token after, scan text = before ++ token :: after ↔
      ∃ front back, token.StandsIn text front back ∧ scan front = before ∧ scan back = after) ∧
    (∀ c, isRecognised c = true ↔
      isNumberChar c = true ∨ ∃ token : Token, token.isNumber = false ∧ token.text = [c]) ∧
    (scan (spaced tokens) = tokens ↔ ∀ token ∈ tokens, token.IsWellFormed) := by
  refine ⟨flatMap_text_scan text, fun before token after => ⟨exists_standsIn, ?_⟩,
    isRecognised_iff, ?_, scan_spaced⟩
  · rintro ⟨front, back, stands, rfl, rfl⟩
    exact stands.scan_eq
  · intro again token member
    rw [← again] at member
    exact isWellFormed_of_mem_scan member

/-- A letter and a sign that belong to no token separate numbers. -/
example : scan "2a×3.1.4" = [.number ['2'], .number "3.1.4"] := by decide

end Token

end Reckoner
