import Reckoner.Proofs.Decimal.Spelling
import Reckoner.Proofs.Expression.Grammar
import Reckoner.Proofs.Expression.Scan

/-!
# Numbers of an expression

A number of an expression is any run of digits and points. With at most one point it consists of
digits and perhaps a point with digits behind it, either of which may be missing. Such a number is
a numeral, unless it is a point on its own.
-/

namespace Reckoner

namespace Text

/-- How many points there are in a text. -/
def points (text : Text) : Nat := text.count (.char '.')

/-- A character of a number is a digit or a point. -/
theorem digit_or_point {c : CodePoint} (number : Token.isNumberChar c = true) :
    c.isAsciiDigit = true ∨ c = '.' := by
  unfold Token.isNumberChar at number
  rcases Bool.or_eq_true_iff.1 number with digit | point
  · exact .inl digit
  · exact .inr (eq_of_beq point)

/-- Characters of a number other than points are digits. -/
theorem allDigits_of_no_point {text : Text} (numbers : ∀ c ∈ text, Token.isNumberChar c = true)
    (no_point : ('.' : CodePoint) ∉ text) : text.AllDigits := fun c member =>
  (digit_or_point (numbers c member)).resolve_right fun same => no_point (same ▸ member)

/-- A number with at most one point has digits before it and behind it. -/
theorem exists_pointed {text : Text} (numbers : ∀ c ∈ text, Token.isNumberChar c = true)
    (one : text.points ≤ 1) :
    ∃ whole fraction, text = spelled whole ++ pointed fraction := by
  by_cases point : ('.' : CodePoint) ∈ text
  · obtain ⟨front, back, rfl, first⟩ := List.eq_append_cons_of_mem point
    have last : ('.' : CodePoint) ∉ back := by
      rw [points, List.count_append, List.count_cons_self] at one
      exact List.count_eq_zero.1 (by omega)
    have before : ∀ c ∈ front, Token.isNumberChar c = true := fun c member =>
      numbers c (List.mem_append_left _ member)
    have behind : ∀ c ∈ back, Token.isNumberChar c = true := fun c member =>
      numbers c (List.mem_append_right _ (List.mem_cons_of_mem _ member))
    obtain ⟨whole, rfl⟩ := exists_spelled (allDigits_of_no_point before first)
    obtain ⟨decimals, rfl⟩ := exists_spelled (allDigits_of_no_point behind last)
    exact ⟨whole, some decimals, rfl⟩
  · obtain ⟨whole, rfl⟩ := exists_spelled (allDigits_of_no_point numbers point)
    exact ⟨whole, none, (List.append_nil _).symm⟩

end Text

namespace Numeral

/-- Digits and perhaps a point with digits are a numeral, unless there is no digit. -/
theorem ofText?_pointed (whole : List (Fin 10)) (fraction : Option (List (Fin 10))) :
    ofText? (Text.spelled whole ++ Text.pointed fraction) =
      if whole = [] ∧ fraction.getD [] = [] then none
      else some ⟨false, whole.map Fin.val, (fraction.getD []).map Fin.val, 0⟩ := by
  cases whole with
  | cons digit others =>
    have read := (Mantissa.mk false (digit :: others) fraction nofun).ofText?_before
      (show Text.EndsMantissa [] from nofun)
    rw [Mantissa.before, Mantissa.unsignedBefore, List.append_nil] at read
    exact read.trans (if_neg (fun none => nomatch none.1)).symm
  | nil =>
    cases fraction with
    | none => rfl
    | some decimals =>
      have span : Text.spanDigits (Text.spelled decimals) = (decimals.map Fin.val, []) := by
        have read := Text.spanDigits_spelled decimals (show ∀ c ∈ ([] : Text).head?, _ from nofun)
        rwa [List.append_nil] at read
      have point : Text.digitValue? '.' = none := by decide
      have before : Text.spanDigits (.char '.' :: Text.spelled decimals) =
          ([], .char '.' :: Text.spelled decimals) := by
        simp only [Text.spanDigits, point]
      have sign : Text.takeSign (.char '.' :: Text.spelled decimals) =
          (false, .char '.' :: Text.spelled decimals) := rfl
      have behind : Text.takeFraction (.char '.' :: Text.spelled decimals) =
          (decimals.map Fin.val, []) := span
      have written : Text.spelled [] ++ Text.pointed (some decimals) =
          .char '.' :: Text.spelled decimals := rfl
      unfold ofText?
      simp only [written, sign, before, behind]
      cases decimals with
      | nil => rfl
      | cons digit others => rfl

end Numeral

namespace Text

/-- A point on its own. -/
def lonePoint : Text := ['.']

variable {text : Text}

/-- With at most one point, only a point on its own is no numeral. -/
theorem ofText?_eq_none_iff (nonempty : text ≠ [])
    (numbers : ∀ c ∈ text, Token.isNumberChar c = true) (one : text.points ≤ 1) :
    Numeral.ofText? text = none ↔ text = lonePoint := by
  obtain ⟨whole, fraction, rfl⟩ := exists_pointed numbers one
  constructor
  · intro unread
    rw [Numeral.ofText?_pointed] at unread
    split at unread
    · rename_i empty
      obtain ⟨rfl, none⟩ := empty
      cases fraction with
      | none => exact absurd rfl nonempty
      | some decimals =>
        obtain rfl : decimals = [] := none
        rfl
    · cases unread
  · intro point
    rw [point]
    rfl

/-- A numeral with at most one point is a decimal, unless it is absurdly long. -/
theorem isReadable_of_points (numbers : ∀ c ∈ text, Token.isNumberChar c = true)
    (one : text.points ≤ 1) (numeral : Numeral.ofText? text ≠ none)
    (few : text.length < 10 ^ 15) : (Token.number text).isReadable = true := by
  obtain ⟨whole, fraction, rfl⟩ := exists_pointed numbers one
  -- A zero in front changes nothing and makes sure that a digit stands before the point.
  let spelling : Spelling := ⟨⟨false, 0 :: whole, fraction, nofun⟩, none⟩
  have kept : ∀ c ∈ spelled whole ++ pointed fraction, c.IsKept := fun c member =>
    (List.mem_append.1 member).elim (kept_spelled whole c) (kept_pointed fraction c)
  have length : whole.length + (pointed fraction).length < 10 ^ 15 := by
    rwa [List.length_append, spelled_length] at few
  have decimals := length_le_pointed fraction
  have short : spelling.Short := by
    refine ⟨⟨?_, Nat.le_trans decimals ?_⟩, nofun⟩
    · show whole.length + 1 ≤ 10 ^ 15
      omega
    · omega
  rw [Token.isReadable, Decimal.ofText?_kept kept]
  rw [Numeral.ofText?_pointed] at numeral ⊢
  split
  · rename_i empty
    exact absurd (if_pos empty) numeral
  · exact congrArg Option.isSome (if_pos short.inRange)

end Text

end Reckoner
