import Mathlib.Data.List.Chain
import Reckoner.Json.Reader
import Reckoner.Json.Writer
import Reckoner.Proofs.Text.Utf8

/-!
# Text between quotation marks

What is written between quotation marks is read back, with one exception: where the first half of a
surrogate pair stands right before a second half, each is written by its number, and the two are
read as one character. No text that is read has such a place in it, unless the halves stood in the
file themselves, which they cannot.
-/

namespace Reckoner

namespace Text

/-- Text in which no first half of a surrogate pair stands right before a second half. -/
def Unsplit (text : Text) : Prop :=
  text.IsChain fun c d => ¬(Surrogate.isFirst c.toNat = true ∧ Surrogate.isSecond d.toNat = true)

/-- Text in front of other text can be taken away. -/
theorem unsplit_cons {c : CodePoint} {text : Text} : Unsplit (c :: text) ↔
    (∀ d ∈ text.head?, ¬(Surrogate.isFirst c.toNat = true ∧ Surrogate.isSecond d.toNat = true)) ∧
      Unsplit text := List.isChain_cons

/-! ## Hexadecimal digits -/

/-- A hexadecimal digit has its value. -/
theorem hexValue?_hexDigit : ∀ digit : Fin 16,
    hexValue? (hexDigit digit : CodePoint) = some digit.val := by
  decide

/-- Four hexadecimal digits write a code unit and are read as it. -/
theorem exists_hex4 {n : ℕ} (unit : n < 0x10000) :
    ∃ a b c d, hex 4 n = [a, b, c, d] ∧ Json.Reader.hex4? a b c d = some n := by
  have value (k : ℕ) : hexValue? (hexDigit (k % 16) : CodePoint) = some (k % 16) :=
    hexValue?_hexDigit ⟨k % 16, Nat.mod_lt _ (by decide)⟩
  refine ⟨_, _, _, _, rfl, ?_⟩
  simp only [Json.Reader.hex4?, value, Option.bind_eq_bind, Option.bind_some, Option.pure_def,
    Option.some.injEq]
  omega

end Text

namespace Surrogate

/-! ## Halves -/

/-- The first half that a character is written with. -/
theorem isFirst_first {n : ℕ} (beyond : 0x10000 ≤ n) (valid : n < 0x110000) :
    isFirst (first n) = true := by
  unfold isFirst first
  simp only [Bool.and_eq_true, decide_eq_true_eq]
  omega

/-- The second half that a character is written with. -/
theorem isSecond_second (n : ℕ) : isSecond (second n) = true := by
  unfold isSecond second
  simp only [Bool.and_eq_true, decide_eq_true_eq]
  omega

/-- No first half is a second half. -/
theorem isSecond_of_isFirst {unit : ℕ} (half : isFirst unit = true) : isSecond unit = false := by
  unfold isFirst at half
  unfold isSecond
  simp only [Bool.and_eq_true, decide_eq_true_eq] at half
  simp only [Bool.and_eq_false_iff, decide_eq_false_iff_not]
  omega

/-- The halves that a character is written with make that character. -/
theorem join_first_second {n : ℕ} (beyond : 0x10000 ≤ n) (valid : n < 0x110000) :
    join (first n) (second n) = Char.ofNat n := by
  have number : 0x10000 + (first n - 0xD800) * 0x400 + (second n - 0xDC00) = n := by
    unfold first second
    omega
  rw [join, number]

end Surrogate

/-- Numbers of code points are below 0x110000. -/
theorem CodePoint.toNat_lt (c : CodePoint) : c.toNat < 0x110000 := by
  cases c with
  | char c =>
    have valid := c.valid
    simp only [UInt32.isValidChar, Nat.isValidChar] at valid
    simp only [toNat, Char.toNat]
    omega
  | half place =>
    simp only [toNat]
    omega

namespace Json

open Reader (Piece pieces joinPieces)

/-! ## Writing and reading -/

/-- Whether a code point is written by itself or with a letter after a backslash. -/
def isPlain (c : CodePoint) : Bool :=
  c == '"' || c == '\\' || c == '\n' || c == '\r' || c == '\t' || c == '\x08' || c == '\x0c' ||
    decide (0x20 ≤ c.toNat ∧ c.toNat < 0x7F)

/-- The pieces that a code point is read as. -/
def piecesOf (c : CodePoint) : List Piece :=
  if isPlain c then [.point c]
  else if c.toNat < 0x10000 then [.unit c.toNat]
  else [.unit (Surrogate.first c.toNat), .unit (Surrogate.second c.toNat)]

variable {rest after : Text} {more : List Piece}

/-- A letter after a backslash is read as the character that it stands for. -/
theorem pieces_escaped {letter c : CodePoint} (stands : Reader.escaped? letter = some c)
    (read : pieces rest = .ok (more, after)) :
    pieces ('\\' :: letter :: rest) = .ok (.point c :: more, after) := by
  have no_unit : letter ≠ 'u' := by
    rintro rfl
    cases stands
  unfold pieces
  rw [if_neg (by decide), if_pos rfl]
  split
  · rename_i same
    exact absurd (List.cons.inj same).1 no_unit
  · rename_i same
    obtain ⟨rfl, rfl⟩ := List.cons.inj same
    rw [stands, read]
  · rename_i same
    cases same

/-- A code unit that is written by its number is read as that unit. -/
theorem pieces_hex {n : ℕ} (unit : n < 0x10000) (read : pieces rest = .ok (more, after)) :
    pieces (("\\u" : Text) ++ Text.hex 4 n ++ rest) = .ok (.unit n :: more, after) := by
  obtain ⟨a, b, c, d, digits, value⟩ := Text.exists_hex4 unit
  rw [digits]
  show pieces ('\\' :: 'u' :: a :: b :: c :: d :: rest) = _
  unfold pieces
  simp [value, read]

/-- The ways in which a code point is written. -/
theorem writePoint_cases (c : CodePoint) :
    (∃ letter, writePoint c = ['\\', letter] ∧ Reader.escaped? letter = some c ∧
      piecesOf c = [.point c]) ∨
    (writePoint c = [c] ∧ c ≠ '"' ∧ c ≠ '\\' ∧ 0x20 ≤ c.toNat ∧ c.toNat < 0x7F ∧
      piecesOf c = [.point c]) ∨
    (writePoint c = ("\\u" : Text) ++ Text.hex 4 c.toNat ∧ c.toNat < 0x10000 ∧
      piecesOf c = [.unit c.toNat]) ∨
    (writePoint c = ("\\u" : Text) ++ Text.hex 4 (Surrogate.first c.toNat) ++ "\\u" ++
        Text.hex 4 (Surrogate.second c.toNat) ∧ 0x10000 ≤ c.toNat ∧
      piecesOf c = [.unit (Surrogate.first c.toNat), .unit (Surrogate.second c.toNat)]) := by
  by_cases escaped : c = '"' ∨ c = '\\' ∨ c = '\n' ∨ c = '\r' ∨ c = '\t' ∨ c = '\x08' ∨ c = '\x0c'
  · left
    rcases escaped with rfl | rfl | rfl | rfl | rfl | rfl | rfl
    all_goals exact ⟨_, rfl, rfl, rfl⟩
  · right
    simp only [not_or] at escaped
    obtain ⟨quote, backslash, newline, carriage, tab, backspace, feed⟩ := escaped
    unfold writePoint piecesOf isPlain
    simp only [quote, backslash, newline, carriage, tab, backspace, feed, beq_iff_eq, ↓reduceIte,
      Bool.or_eq_true, decide_eq_true_eq, false_or]
    by_cases printable : 0x20 ≤ c.toNat ∧ c.toNat < 0x7F
    · rw [if_pos printable, if_pos printable]
      exact .inl ⟨rfl, quote, backslash, printable.1, printable.2, rfl⟩
    · rw [if_neg printable, if_neg printable]
      by_cases unit : c.toNat < 0x10000
      · rw [if_pos unit, if_pos unit]
        exact .inr (.inl ⟨rfl, unit, rfl⟩)
      · rw [if_neg unit, if_neg unit]
        exact .inr (.inr ⟨rfl, Nat.le_of_not_lt unit, rfl⟩)

/-- A code point is read as its pieces. -/
theorem pieces_writePoint (c : CodePoint) (read : pieces rest = .ok (more, after)) :
    pieces (writePoint c ++ rest) = .ok (piecesOf c ++ more, after) := by
  rcases writePoint_cases c with ⟨letter, written, stands, parts⟩ |
    ⟨written, quote, backslash, least, -, parts⟩ | ⟨written, unit, parts⟩ |
    ⟨written, beyond, parts⟩
  · rw [written, parts]
    exact pieces_escaped stands read
  · rw [written, parts, List.singleton_append, Reader.pieces.eq_def]
    simp only [if_neg quote, if_neg backslash, if_neg (Nat.not_lt.2 least), read]
    rfl
  · rw [written, parts]
    exact pieces_hex unit read
  · have valid := c.toNat_lt
    have first_unit : Surrogate.first c.toNat < 0x10000 := by
      unfold Surrogate.first
      omega
    have second_unit : Surrogate.second c.toNat < 0x10000 := by
      unfold Surrogate.second
      omega
    have both := pieces_hex first_unit (pieces_hex second_unit read)
    rw [written, parts]
    simpa only [List.append_assoc, List.cons_append, List.nil_append] using both

/-- What is written for a text is read as the pieces of its code points. -/
theorem pieces_written (text : Text) (rest : Text) :
    pieces (text.flatMap writePoint ++ ('"' : CodePoint) :: rest) =
      .ok (text.flatMap piecesOf, rest) := by
  induction text with
  | nil =>
    rw [List.flatMap_nil, List.nil_append, Reader.pieces.eq_def]
    simp only [↓reduceIte]
    rfl
  | cons c text ih =>
    rw [List.flatMap_cons, List.flatMap_cons, List.append_assoc]
    exact pieces_writePoint c ih

/-! ## ASCII -/

/-- Hexadecimal digits are ASCII characters. -/
theorem isAscii_hex (width n : ℕ) : (Text.hex width n).IsAscii := by
  have digit : ∀ k : Fin 16, (Text.hexDigit k : CodePoint).isAscii = true := by decide
  induction width generalizing n with
  | zero => exact fun c member => absurd member List.not_mem_nil
  | succ width ih =>
    refine (ih (n / 16)).append fun c member => ?_
    rw [List.mem_singleton.1 member]
    exact digit ⟨n % 16, Nat.mod_lt n (by decide)⟩

/-- A letter that stands for something behind a backslash is an ASCII character. -/
theorem isAscii_of_escaped? {letter c : CodePoint} (stands : Reader.escaped? letter = some c) :
    letter.isAscii = true := by
  unfold Reader.escaped? at stands
  split at stands
  · rename_i itself
    rcases itself with rfl | rfl | rfl
    all_goals rfl
  · repeat' split at stands
    all_goals cases stands
    all_goals
      rename_i same
      rw [same]
      rfl

/-- What is written for a code point is ASCII text. -/
theorem isAscii_writePoint (c : CodePoint) : (writePoint c).IsAscii := by
  have mark : ("\\u" : Text).IsAscii := by
    unfold Text.IsAscii
    decide
  have hex (n : ℕ) : ("\\u" ++ Text.hex 4 n).IsAscii := mark.append (isAscii_hex 4 n)
  rcases writePoint_cases c with ⟨letter, written, stands, -⟩ | ⟨written, -, -, -, small, -⟩ |
    ⟨written, -⟩ | ⟨written, -⟩
  · rw [written]
    refine Text.IsAscii.cons (by decide) (Text.IsAscii.cons (isAscii_of_escaped? stands) ?_)
    exact fun d member => absurd member List.not_mem_nil
  · rw [written]
    intro d member
    rw [List.mem_singleton.1 member, CodePoint.isAscii, decide_eq_true_eq]
    omega
  · rw [written]
    exact hex _
  · rw [written, List.append_assoc]
    exact (hex _).append (hex _)

/-- What is written for a text is ASCII text. -/
theorem isAscii_writeText (text : Text) : (writeText text).IsAscii := by
  have mark : ("\"" : Text).IsAscii := by
    unfold Text.IsAscii
    decide
  refine (mark.append fun c member => ?_).append mark
  obtain ⟨point, -, written⟩ := List.mem_flatMap.1 member
  exact isAscii_writePoint point c written

/-! ## Joining halves -/

/-- A unit is read alone unless it and the next one are the halves of a pair. -/
theorem joinPieces_unit {n : ℕ} {rest : List Piece}
    (alone : ∀ low, rest.head? = some (.unit low) →
      ¬(Surrogate.isFirst n = true ∧ Surrogate.isSecond low = true)) :
    joinPieces (.unit n :: rest) = .ofNat n :: joinPieces rest := by
  cases rest with
  | nil => rfl
  | cons piece rest =>
    cases piece with
    | point c => rfl
    | unit low =>
      have apart := alone low rfl
      rw [← Bool.and_eq_true] at apart
      rw [joinPieces, if_neg apart]

/-- The first unit that a code point is read as is the code point itself or a first half. -/
theorem head?_piecesOf {c : CodePoint} {rest : List Piece} {low : ℕ}
    (head : (piecesOf c ++ rest).head? = some (.unit low)) :
    low = c.toNat ∨ Surrogate.isSecond low = false := by
  rcases writePoint_cases c with ⟨letter, -, -, parts⟩ | ⟨-, -, -, -, -, parts⟩ | ⟨-, -, parts⟩ |
    ⟨-, beyond, parts⟩
  · rw [parts] at head
    cases head
  · rw [parts] at head
    cases head
  · rw [parts] at head
    cases head
    exact .inl rfl
  · rw [parts] at head
    cases head
    exact .inr (Surrogate.isSecond_of_isFirst (Surrogate.isFirst_first beyond c.toNat_lt))

/-- The pieces of a text are joined to that text, unless it is split. -/
theorem joinPieces_piecesOf {text : Text} (unsplit : text.Unsplit) :
    joinPieces (text.flatMap piecesOf) = text := by
  induction text with
  | nil => rfl
  | cons c text ih =>
    obtain ⟨next, others⟩ := Text.unsplit_cons.1 unsplit
    rw [List.flatMap_cons]
    rcases writePoint_cases c with ⟨letter, -, -, parts⟩ | ⟨-, -, -, -, -, parts⟩ | ⟨-, -, parts⟩ |
      ⟨-, beyond, parts⟩
    · rw [parts, List.singleton_append, joinPieces, ih others]
    · rw [parts, List.singleton_append, joinPieces, ih others]
    · rw [parts, List.singleton_append, joinPieces_unit, ih others, CodePoint.ofNat_toNat]
      rintro low head ⟨first, second⟩
      cases text with
      | nil => cases head
      | cons d text =>
        rw [List.flatMap_cons] at head
        rcases head?_piecesOf head with rfl | not_second
        · exact next d rfl ⟨first, second⟩
        · rw [second] at not_second
          cases not_second
    · have valid := c.toNat_lt
      have pair : (Surrogate.isFirst (Surrogate.first c.toNat) &&
          Surrogate.isSecond (Surrogate.second c.toNat)) = true := by
        rw [Surrogate.isFirst_first beyond valid, Surrogate.isSecond_second]
        rfl
      have same : (Surrogate.join (Surrogate.first c.toNat) (Surrogate.second c.toNat) :
          CodePoint) = c := by
        rw [Surrogate.join_first_second beyond valid]
        cases c with
        | char c => exact congrArg CodePoint.char (Char.ofNat_toNat c)
        | half place =>
          simp only [CodePoint.toNat] at beyond
          omega
      rw [parts, List.cons_append, List.singleton_append, joinPieces, if_pos pair, same, ih others]

/-- What is written for a text that is not split is read as that text. -/
theorem quotedText_written {text : Text} (unsplit : text.Unsplit) (rest : Text) :
    Reader.quotedText (text.flatMap writePoint ++ ('"' : CodePoint) :: rest) = .ok (text, rest) := by
  rw [Reader.quotedText, pieces_written]
  simp only [joinPieces_piecesOf unsplit]

/-! ## What is read -/

/-- A letter after a backslash stands for a character. -/
theorem escaped?_isHalf {letter c : CodePoint} (stands : Reader.escaped? letter = some c) :
    c.isHalf = false := by
  unfold Reader.escaped? at stands
  split at stands
  · rename_i itself
    rw [← Option.some.inj stands]
    rcases itself with rfl | rfl | rfl
    all_goals rfl
  · repeat' split at stands
    all_goals cases stands
    all_goals rfl

/-- Reading pieces leaves the end of a text; the code points that it reads stand in the text or are
characters that letters stand for. -/
theorem pieces_found {text rest : Text} {read : List Piece}
    (found : pieces text = .ok (read, rest)) :
    rest <:+ text ∧ ∀ c, .point c ∈ read → c ∈ text ∨ c.isHalf = false := by
  fun_induction Reader.pieces text generalizing read rest
  case case2 =>
    cases found
    exact ⟨List.suffix_cons _ _, fun c member => absurd member List.not_mem_nil⟩
  case case3 more_read _ _ ih =>
    cases found
    obtain ⟨ending, points⟩ := ih more_read
    refine ⟨ending.trans ?_, fun c member => ?_⟩
    · exact List.suffix_append [_, _, _, _, _, _] _
    · rcases List.mem_cons.1 member with same | member
      · cases same
      · exact (points c member).imp_left (List.mem_append_right [_, _, _, _, _, _])
  case case5 more_read stands _ ih =>
    cases found
    obtain ⟨ending, points⟩ := ih more_read
    refine ⟨ending.trans (List.suffix_append [_, _] _), fun c member => ?_⟩
    rcases List.mem_cons.1 member with same | member
    · cases same
      exact .inr (escaped?_isHalf stands)
    · exact (points c member).imp_left (List.mem_append_right [_, _])
  case case9 more_read ih =>
    cases found
    obtain ⟨ending, points⟩ := ih more_read
    refine ⟨ending.trans (List.suffix_cons _ _), fun c member => ?_⟩
    rcases List.mem_cons.1 member with same | member
    · cases same
      exact .inl List.mem_cons_self
    · exact (points c member).imp_left (List.mem_cons_of_mem _)
  all_goals cases found

/-- A character is no half of a pair. -/
theorem not_half_of_isHalf {c : CodePoint} (whole : c.isHalf = false) :
    Surrogate.isFirst c.toNat = false ∧ Surrogate.isSecond c.toNat = false := by
  cases c with
  | half place => cases whole
  | char c =>
    have valid := c.valid
    simp only [UInt32.isValidChar, Nat.isValidChar] at valid
    unfold Surrogate.isFirst Surrogate.isSecond
    rw [← Bool.decide_and, ← Bool.decide_and, decide_eq_false_iff_not, decide_eq_false_iff_not]
    simp only [CodePoint.toNat, Char.toNat]
    omega

/-- A half that comes from a number is the half of that number. -/
theorem half_ofNat {n : ℕ} :
    (Surrogate.isFirst (CodePoint.ofNat n).toNat = true → Surrogate.isFirst n = true) ∧
    (Surrogate.isSecond (CodePoint.ofNat n).toNat = true → Surrogate.isSecond n = true) := by
  unfold CodePoint.ofNat
  split
  · have number : 0xD800 + (n - 0xD800) = n := by omega
    simp only [CodePoint.toNat, number, imp_self, and_self]
  · obtain ⟨not_first, not_second⟩ := not_half_of_isHalf (c := .char (Char.ofNat n)) rfl
    rw [not_first, not_second]
    exact ⟨fun no => absurd no Bool.false_ne_true, fun no => absurd no Bool.false_ne_true⟩

/-- Where joined pieces start with a second half, so do the pieces. -/
theorem head?_joinPieces {read : List Piece} {d : CodePoint}
    (head : (joinPieces read).head? = some d) (second : Surrogate.isSecond d.toNat = true) :
    read.head? = some (.point d) ∨
      ∃ low, read.head? = some (.unit low) ∧ Surrogate.isSecond low = true := by
  cases read with
  | nil => cases head
  | cons piece rest =>
    cases piece with
    | point c =>
      cases head
      exact .inl rfl
    | unit n =>
      by_cases alone : ∀ low, rest.head? = some (.unit low) →
          ¬(Surrogate.isFirst n = true ∧ Surrogate.isSecond low = true)
      · rw [joinPieces_unit alone] at head
        cases head
        exact .inr ⟨n, rfl, half_ofNat.2 second⟩
      · -- The units are joined, and what they are joined to is a character.
        simp only [not_forall, not_not] at alone
        obtain ⟨low, next, pair⟩ := alone
        obtain ⟨others, rfl⟩ := List.head?_eq_some_iff.1 next
        rw [joinPieces, if_pos (Bool.and_eq_true_iff.2 pair)] at head
        cases head
        rw [(not_half_of_isHalf rfl).2] at second
        cases second

/-- Joined pieces are not split, unless halves stand among them as they are. -/
theorem unsplit_joinPieces {read : List Piece} (whole : ∀ c, .point c ∈ read → c.isHalf = false) :
    (joinPieces read).Unsplit := by
  fun_induction joinPieces read
  case case1 => exact List.isChain_nil
  case case2 ih =>
    refine Text.unsplit_cons.2 ⟨fun d head => ?_, ih fun c member => whole c (.tail _ member)⟩
    rw [(not_half_of_isHalf (whole _ List.mem_cons_self)).1]
    simp
  case case3 ih =>
    refine Text.unsplit_cons.2
      ⟨fun d head => ?_, ih fun c member => whole c (.tail _ (.tail _ member))⟩
    rw [(not_half_of_isHalf rfl).1]
    simp
  case case4 apart ih =>
    refine Text.unsplit_cons.2 ⟨?_, ih fun c member => whole c (.tail _ member)⟩
    rintro d head ⟨first, second⟩
    rcases head?_joinPieces head second with next | ⟨low, next, low_second⟩
    · cases next
    · cases next
      exact apart (Bool.and_eq_true_iff.2 ⟨half_ofNat.1 first, low_second⟩)
  case case5 no_unit ih =>
    refine Text.unsplit_cons.2 ⟨?_, ih fun c member => whole c (.tail _ member)⟩
    rintro d head ⟨first, second⟩
    rcases head?_joinPieces head second with next | ⟨low, next, -⟩
    · obtain ⟨others, rfl⟩ := List.head?_eq_some_iff.1 next
      rw [(not_half_of_isHalf (whole d (.tail _ List.mem_cons_self))).2] at second
      cases second
    · obtain ⟨others, rfl⟩ := List.head?_eq_some_iff.1 next
      exact no_unit low others rfl

/-- Reading text between quotation marks leaves the end of what is read. What is read is not split
if no half stands in the text as it is. -/
theorem quotedText_found {text rest read : Text}
    (found : Reader.quotedText text = .ok (read, rest)) :
    rest <:+ text ∧ ((∀ c ∈ text, c.isHalf = false) → read.Unsplit) := by
  unfold Reader.quotedText at found
  split at found
  · rename_i parts after pieces_read
    cases found
    obtain ⟨ending, points⟩ := pieces_found pieces_read
    refine ⟨ending, fun whole => unsplit_joinPieces fun c member => ?_⟩
    exact (points c member).elim (whole c) id
  · cases found

end Json

end Reckoner
