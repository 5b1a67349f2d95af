import Reckoner.Proofs.Service.Local
import Reckoner.Proofs.Stamps.Keeping
import Reckoner.Proofs.Text.Order

/-!
# Names of calculations

The name under which a logged calculation is remembered is its expression and its result with marks
between the parts. A numeral has neither a blank nor an equals sign, so each mark ends the part in
front of it, and a numeral is that of one integer only. The name therefore tells the operation and
both operands, and with them the result: different calculations have different names.
-/

namespace Reckoner

namespace Text

/-- A mark that stands in neither of two texts ends them where they are followed by it. -/
theorem append_mark_inj {mark : CodePoint} {left right front back : Text} (first : mark ∉ left)
    (second : mark ∉ right) :
    left ++ mark :: front = right ++ mark :: back ↔ left = right ∧ front = back := by
  constructor
  · intro same
    induction left generalizing right with
    | nil =>
      cases right with
      | nil => exact ⟨rfl, List.tail_eq_of_cons_eq same⟩
      | cons c right =>
        have begins : mark = c := List.head_eq_of_cons_eq same
        exact absurd (begins ▸ List.mem_cons_self) second
    | cons c left ih =>
      cases right with
      | nil =>
        have begins : c = mark := List.head_eq_of_cons_eq same
        exact absurd (begins ▸ List.mem_cons_self) first
      | cons d right =>
        obtain ⟨begins, others⟩ := List.cons.inj same
        obtain ⟨rest, behind⟩ := ih (List.not_mem_of_not_mem_cons first)
          (List.not_mem_of_not_mem_cons second) others
        exact ⟨by rw [begins, rest], behind⟩
  · rintro ⟨rfl, rfl⟩
    rfl

/-- A numeral is made of digits and perhaps a minus sign. -/
theorem mem_ofInt {n : Int} {c : CodePoint} (member : c ∈ ofInt n) :
    c.isAsciiDigit = true ∨ c = '-' := by
  cases n with
  | ofNat n => exact .inl (allDigits_ofNat n c member)
  | negSucc n =>
    rcases List.mem_cons.1 member with sign | digit
    · exact .inr sign
    · exact .inl (allDigits_ofNat _ c digit)

/-- There is no blank in a numeral. -/
theorem blank_not_mem_ofInt (n : Int) : (' ' : CodePoint) ∉ ofInt n := by
  intro member
  rcases mem_ofInt member with digit | sign
  · exact absurd digit (by decide)
  · exact absurd sign (by decide)

/-- There is no equals sign in a numeral. -/
theorem equals_not_mem_ofInt (n : Int) : ('=' : CodePoint) ∉ ofInt n := by
  intro member
  rcases mem_ofInt member with digit | sign
  · exact absurd digit (by decide)
  · exact absurd sign (by decide)

/-- No numeral of a number begins with a minus sign. -/
theorem ofNat_ne_minus (n : Nat) (text : Text) : ofNat n ≠ ('-' : CodePoint) :: text := by
  intro same
  have member : ('-' : CodePoint) ∈ ofNat n := by
    rw [same]
    exact List.mem_cons_self
  exact absurd (allDigits_ofNat n _ member) (by decide)

/-- Different integers have different numerals. -/
theorem ofInt_injective : Function.Injective ofInt := by
  intro m n same
  cases m with
  | ofNat m =>
    cases n with
    | ofNat n => exact congrArg Int.ofNat (ofNat_injective same)
    | negSucc n => exact absurd same (ofNat_ne_minus m _)
  | negSucc m =>
    cases n with
    | ofNat n => exact absurd same.symm (ofNat_ne_minus n _)
    | negSucc n =>
      have magnitudes := ofNat_injective (List.tail_eq_of_cons_eq same)
      rw [Nat.succ.inj magnitudes]

end Text

namespace Operator

/-- The sign of an operation names it. -/
theorem ofButton?_sign (operator : Operator) : ofButton? [operator.sign] = some operator := by
  cases operator with
  | add | subtract | multiply | divide => rfl

/-- Different operations have different signs. -/
theorem sign_injective : Function.Injective sign := by
  intro left right same
  have named : ofButton? [left.sign] = ofButton? [right.sign] := by rw [same]
  rw [ofButton?_sign, ofButton?_sign] at named
  exact Option.some.inj named

end Operator

namespace LocalService

/-! ## Names -/

/-- The name under which a calculation and its result are remembered. -/
def nameOf (operator : Operator) (x y result : Int) : Text :=
  Stamps.entryKey (loggedExpression operator x y) (Text.ofInt result)

/-- A name is an operand, the sign between two blanks, the other operand, an equals sign and the
result. -/
theorem nameOf_eq (operator : Operator) (x y result : Int) :
    nameOf operator x y result = Text.ofInt x ++ (' ' : CodePoint) :: operator.sign ::
      (' ' : CodePoint) :: (Text.ofInt y ++ ('=' : CodePoint) :: Text.ofInt result) := by
  simp [nameOf, Stamps.entryKey, loggedExpression, Text.ofString]

/-- Calculations with the same name are the same operation on the same operands, with the same
result. -/
theorem nameOf_inj {left right : Operator} {x y m x' y' n : Int} :
    nameOf left x y m = nameOf right x' y' n ↔
      (left = right ∧ x = x' ∧ y = y') ∧ m = n := by
  rw [nameOf_eq, nameOf_eq]
  constructor
  · intro same
    obtain ⟨first, others⟩ := (Text.append_mark_inj (Text.blank_not_mem_ofInt x)
      (Text.blank_not_mem_ofInt x')).1 same
    obtain ⟨sign, operands⟩ := List.cons.inj others
    obtain ⟨second, result⟩ := (Text.append_mark_inj (Text.equals_not_mem_ofInt y)
      (Text.equals_not_mem_ofInt y')).1 (List.tail_eq_of_cons_eq operands)
    exact ⟨⟨Operator.sign_injective sign, Text.ofInt_injective first,
      Text.ofInt_injective second⟩, Text.ofInt_injective result⟩
  · rintro ⟨⟨rfl, rfl, rfl⟩, rfl⟩
    rfl

/-! ## Rows -/

variable {operator left right : Operator} {x y x' y' : Int} {row other : Row}

/-- A successful call appends the calculation and its exact result to the log. -/
theorem run_appends {now : Calendar.Moment} {archive after : Archive} {answer : Answer}
    (answered : run now operator (.int x) (.int y) archive = (.ok answer, after)) :
    ∃ capacity, after.log = archive.log.append capacity (loggedExpression operator x y)
      (Text.ofInt (operator.exact x y)) now.stamp := by
  obtain ⟨m, n, first, second, possible, -⟩ := run_answer answered
  obtain rfl := Json.int.inj first
  obtain rfl := Json.int.inj second
  have computation : compute operator (.int x) (.int y) = .ok (computed operator x y) :=
    compute_eq_ok_iff.2 ⟨x, y, rfl, rfl, possible, rfl⟩
  have stored := Archive.texts_string
    (Utf8.check_of_no_half (loggedExpression_no_half operator x y))
    (Utf8.check_of_no_half (Text.ofInt_no_half (operator.exact x y)))
  simp only [run, computation, computed, Archive.add, stored] at answered
  by_cases locked : archive.locked = true
  · simp only [locked, ↓reduceIte] at answered
    cases answered
  · simp only [locked] at answered
    cases kept : archive.capacity with
    | error e =>
      simp only [kept] at answered
      cases answered
    | ok capacity =>
      simp only [kept] at answered
      cases answered
      exact ⟨capacity, rfl⟩

/-- A row that a successful call of the service puts in front of a log. -/
def Logs (operator : Operator) (x y : Int) (row : Row) : Prop :=
  ∃ now archive answer after, archive.log.Ordered ∧
    run now operator (.int x) (.int y) archive = (.ok answer, after) ∧
    after.log.newestFirst.head? = some row

/-- The row of a successful call holds the calculation and its exact result. -/
theorem Logs.row_eq (logs : Logs operator x y row) :
    row.expression = loggedExpression operator x y ∧
      row.result = Text.ofInt (operator.exact x y) := by
  obtain ⟨now, archive, answer, after, ordered, answered, newest⟩ := logs
  obtain ⟨capacity, appended⟩ := run_appends answered
  rw [appended, ordered.newestFirst_append] at newest
  obtain ⟨cut, kept⟩ := limited_prefix capacity
    (⟨archive.log.lastId + 1, loggedExpression operator x y, Text.ofInt (operator.exact x y),
      now.stamp⟩ :: archive.log.newestFirst)
  obtain ⟨rows, front⟩ := List.head?_eq_some_iff.1 newest
  rw [front, List.cons_append] at kept
  have first := List.head_eq_of_cons_eq kept
  rw [first]
  exact ⟨rfl, rfl⟩

/-- The name of the row of a successful call. -/
theorem Logs.entryKey_eq (logs : Logs operator x y row) :
    Stamps.entryKey row.expression row.result = nameOf operator x y (operator.exact x y) := by
  obtain ⟨expression, result⟩ := logs.row_eq
  rw [expression, result, nameOf]

/-- A calculation that is possible is logged in a new log. -/
theorem logs_new (possible : operator.Computable x y) (now : Calendar.Moment) :
    Logs operator x y ⟨1, loggedExpression operator x y, Text.ofInt (operator.exact x y),
      now.stamp⟩ := by
  obtain ⟨after, answered, -, listed⟩ := run_computed possible Archive.working_new now
  refine ⟨now, .new, _, after, Log.ordered_empty, answered, ?_⟩
  rw [listed]
  rfl

/-- What successful calls log identifies the calculation. The names of two rows are equal exactly if
the rows come of the same operation on the same operands. So to remember one calculation leaves the
reading under which a different one was first seen. -/
theorem logs_identify (first : Logs left x y row) (second : Logs right x' y' other) :
    (Stamps.entryKey row.expression row.result = Stamps.entryKey other.expression other.result ↔
      left = right ∧ x = x' ∧ y = y') ∧
    (¬(left = right ∧ x = x' ∧ y = y') → ∀ (now : Number) (readings : Fields),
      Fields.get? (Stamps.remember now readings (row.expression, row.result))
          (Stamps.entryKey other.expression other.result) =
        Fields.get? readings (Stamps.entryKey other.expression other.result)) := by
  have names : Stamps.entryKey row.expression row.result =
      Stamps.entryKey other.expression other.result ↔ left = right ∧ x = x' ∧ y = y' := by
    rw [first.entryKey_eq, second.entryKey_eq, nameOf_inj]
    constructor
    · exact And.left
    · intro same
      refine ⟨same, ?_⟩
      obtain ⟨rfl, rfl, rfl⟩ := same
      rfl
  refine ⟨names, fun different now readings => ?_⟩
  have apart : Stamps.entryKey other.expression other.result ≠
      Stamps.entryKey row.expression row.result := fun same => different (names.1 same.symm)
  rw [Stamps.remember, Fields.get?_put, if_neg apart]

/-- One and minus two, subtracted, and minus one and two, added: rows with much the same characters
in them have different names. -/
theorem logs_identify_oneAndTwo :
    let row : Row := ⟨1, "1 − -2", ['3'], "1-01-01 00:00:00"⟩
    let other : Row := ⟨1, "-1 + 2", ['1'], "1-01-01 00:00:00"⟩
    Logs .subtract 1 (-2) row ∧ Logs .add (-1) 2 other ∧
      Stamps.entryKey row.expression row.result ≠
        Stamps.entryKey other.expression other.result := by
  intro row other
  have short {n : Int} (small : n.natAbs < 10 ^ 20) := Stamps.exceedsDigitLimit_of_lt small
  have first : Logs .subtract 1 (-2) _ := logs_new
    ⟨by decide, short (by decide), short (by decide), short (by decide)⟩ ⟨0, Calendar.limit_pos⟩
  have second : Logs .add (-1) 2 _ := logs_new
    ⟨by decide, short (by decide), short (by decide), short (by decide)⟩ ⟨0, Calendar.limit_pos⟩
  have sameRow : (⟨1, loggedExpression .subtract 1 (-2), Text.ofInt 3,
      (⟨0, Calendar.limit_pos⟩ : Calendar.Moment).stamp⟩ : Row) = row := by decide +kernel
  have sameOther : (⟨1, loggedExpression .add (-1) 2, Text.ofInt 1,
      (⟨0, Calendar.limit_pos⟩ : Calendar.Moment).stamp⟩ : Row) = other := by decide +kernel
  have first : Logs .subtract 1 (-2) row := sameRow ▸ first
  have second : Logs .add (-1) 2 other := sameOther ▸ second
  refine ⟨first, second, fun same => ?_⟩
  obtain ⟨operation, -⟩ := (logs_identify first second).1.1 same
  cases operation

end LocalService

end Reckoner
