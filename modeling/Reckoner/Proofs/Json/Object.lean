import Mathlib.Data.List.DropRight
import Reckoner.Proofs.Json.Fields
import Reckoner.Proofs.Json.Number
import Reckoner.Proofs.Json.Quoted

/-!
# Objects between other text

Reading any value leaves the end of the text, so what is found in a text is found in a part of it.
In an object that is read every name stands once and is not split, and an integer has few digits;
these are the conditions under which a field that is written is read back.
-/

namespace Reckoner

namespace Json

variable {text rest : Text} {value : Json}

/-! ## What is read -/

/-- What is known of a field that is read from a text. -/
structure IsField (text : Text) (field : Text × Json) : Prop where
  /-- The name is not split, unless halves of surrogate pairs stand in the text as they are. -/
  name : (∀ c ∈ text, c.isHalf = false) → field.1.Unsplit
  /-- An integer has few digits. -/
  value : ∀ n, field.2 = .int n → Text.exceedsDigitLimit n = false

/-- What is known of a value that is read from a text. -/
def IsFound (text : Text) : Json → Prop
  | .int n => Text.exceedsDigitLimit n = false
  | .object fields => Fields.Distinct fields ∧ ∀ field ∈ fields, IsField text field
  | _ => True

/-- A reader leaves the end of a text and finds nothing else in it. -/
def Finds (read : Reader Json) : Prop :=
  ∀ text value rest, read text = .ok (value, rest) → rest <:+ text ∧ value.IsFound text

/-- What is known of a field in a part of a text is known of it in the text. -/
theorem IsField.of_suffix {field : Text × Json} {part : Text} (found : IsField part field)
    (suffix : part <:+ text) : IsField text field :=
  ⟨fun whole => found.name fun c member => whole c (suffix.mem member), found.value⟩

/-- What is known of a value in a part of a text is known of it in the text. -/
theorem IsFound.of_suffix {part : Text} (found : value.IsFound part) (suffix : part <:+ text) :
    value.IsFound text := by
  cases value with
  | object fields => exact ⟨found.1, fun field member => (found.2 field member).of_suffix suffix⟩
  | int n => exact found
  | _ => trivial

/-- Scalars can be found anywhere. -/
theorem IsScalar.isFound (scalar : value.IsScalar) (text : Text) : value.IsFound text := by
  cases value with
  | int n => exact scalar
  | object fields => cases scalar
  | _ => trivial

/-- Behind blanks the end of the text is left. -/
theorem skipBlanks_suffix (text : Text) : Reader.skipBlanks text <:+ text :=
  List.dropWhile_suffix _

section Found

variable {item : Reader Json} {fuel : ℕ} (finds : Finds item)
include finds

/-- Items leave the end of the text. -/
theorem items_found {values : List Json} (found : Reader.items item fuel text = .ok (values, rest)) :
    rest <:+ text := by
  induction fuel generalizing text values rest with
  | zero => cases found
  | succ fuel ih =>
    unfold Reader.items at found
    split at found
    · cases found
    · rename_i first after read
      have left := (finds _ _ _ read).1.trans (skipBlanks_suffix text)
      have blanks := (skipBlanks_suffix after).trans left
      split at found
      · rename_i next same
        rw [same] at blanks
        split at found
        · rename_i read
          cases found
          exact (ih read).trans ((List.suffix_cons _ _).trans blanks)
        · cases found
      · rename_i next same
        cases found
        rw [same] at blanks
        exact (List.suffix_cons _ _).trans blanks
      · cases found

/-- A list leaves the end of the text. -/
theorem array_found (found : Reader.array item text = .ok (value, rest)) :
    rest <:+ text ∧ value.IsFound text := by
  have blanks := skipBlanks_suffix text
  unfold Reader.array at found
  split at found
  · rename_i same
    cases found
    rw [same] at blanks
    exact ⟨(List.suffix_cons _ _).trans blanks, trivial⟩
  · split at found
    · rename_i read
      cases found
      exact ⟨(items_found finds read).trans blanks, trivial⟩
    · cases found

/-- A field leaves the end of the text. -/
theorem field_found {field : Text × Json} (found : Reader.field item text = .ok (field, rest)) :
    rest <:+ text ∧ IsField text field := by
  unfold Reader.field at found
  split at found
  · rename_i quoted
    split at found
    · cases found
    · rename_i name after read
      obtain ⟨left, unsplit⟩ := quotedText_found read
      have blanks := (skipBlanks_suffix after).trans left
      split at found
      · rename_i next same
        rw [same] at blanks
        split at found
        · rename_i value last read_value
          cases found
          obtain ⟨end_left, found⟩ := finds _ _ _ read_value
          have in_quoted := (skipBlanks_suffix next).trans ((List.suffix_cons _ _).trans blanks)
          refine ⟨(end_left.trans in_quoted).trans (List.suffix_cons _ _), ?_, ?_⟩
          · exact fun whole => unsplit fun c member => whole c (List.mem_cons_of_mem _ member)
          · rintro n rfl
            exact found
        · cases found
      · cases found
  · cases found

/-- Fields leave the end of the text. -/
theorem fields_found {pairs : Fields} (found : Reader.fields item fuel text = .ok (pairs, rest)) :
    rest <:+ text ∧ ∀ field ∈ pairs, IsField text field := by
  induction fuel generalizing text pairs rest with
  | zero => cases found
  | succ fuel ih =>
    unfold Reader.fields at found
    split at found
    · cases found
    · rename_i first after read
      obtain ⟨left, first_found⟩ := field_found finds read
      have blanks := (skipBlanks_suffix after).trans (left.trans (skipBlanks_suffix text))
      have first_in := first_found.of_suffix (skipBlanks_suffix text)
      split at found
      · rename_i next same
        rw [same] at blanks
        have next_in := (List.suffix_cons _ _).trans blanks
        split at found
        · rename_i read
          cases found
          obtain ⟨end_left, others⟩ := ih read
          refine ⟨end_left.trans next_in, fun field member => ?_⟩
          rcases List.mem_cons.1 member with rfl | member
          · exact first_in
          · exact (others field member).of_suffix next_in
        · cases found
      · rename_i next same
        cases found
        rw [same] at blanks
        refine ⟨(List.suffix_cons _ _).trans blanks, fun field member => ?_⟩
        rw [List.mem_singleton.1 member]
        exact first_in
      · cases found

/-- An object leaves the end of the text. -/
theorem object_found (found : Reader.object item text = .ok (value, rest)) :
    rest <:+ text ∧ value.IsFound text := by
  have blanks := skipBlanks_suffix text
  unfold Reader.object at found
  split at found
  · rename_i same
    cases found
    rw [same] at blanks
    exact ⟨(List.suffix_cons _ _).trans blanks, List.nodup_nil, nofun⟩
  · split at found
    · rename_i pairs after read
      cases found
      obtain ⟨left, fields⟩ := fields_found finds read
      refine ⟨left.trans blanks, Fields.distinct_ofList pairs, fun field member => ?_⟩
      exact (fields field (Fields.mem_of_mem_ofList member)).of_suffix blanks
    · cases found

end Found

/-- A value leaves the end of the text if the values inside it do. -/
theorem valueWith_finds {inner : Option (Reader Json)} (finds : ∀ item ∈ inner, Finds item) :
    Finds (Reader.valueWith inner) := by
  intro text value rest found
  unfold Reader.valueWith at found
  split at found
  · split at found
    · rename_i read
      cases found
      exact ⟨(quotedText_found read).1.trans (List.suffix_cons _ _), trivial⟩
    · cases found
  · rename_i after
    cases inner with
    | none => cases found
    | some item =>
      obtain ⟨left, inside⟩ := array_found (finds item rfl) found
      exact ⟨left.trans (List.suffix_cons _ _), inside.of_suffix (List.suffix_cons _ _)⟩
  · rename_i after
    cases inner with
    | none => cases found
    | some item =>
      obtain ⟨left, inside⟩ := object_found (finds item rfl) found
      exact ⟨left.trans (List.suffix_cons _ _), inside.of_suffix (List.suffix_cons _ _)⟩
  · split at found
    · rename_i read
      cases found
      obtain ⟨left, scalar⟩ := named?_found read
      exact ⟨left, scalar.isFound text⟩
    · obtain ⟨left, scalar⟩ := number_found found
      exact ⟨left, scalar.isFound text⟩

/-- Reading a value of any depth leaves the end of the text. -/
theorem value_finds (depth : ℕ) : Finds (Reader.value depth) := by
  induction depth with
  | zero => exact valueWith_finds nofun
  | succ depth ih =>
    refine valueWith_finds fun item same => ?_
    rw [← Option.some.inj same]
    exact ih

/-- What is known of the value that a whole text denotes. -/
theorem ofText_found {depth : ℕ} (found : ofText depth text = .ok value) : value.IsFound text := by
  unfold ofText at found
  split at found
  · cases found
  · rename_i read
    split at found
    · cases found
      exact (value_finds depth _ _ _ read).2.of_suffix (skipBlanks_suffix text)
    · cases found

/-! ## What is written is read -/

/-- Blanks are skipped once. -/
theorem skipBlanks_skipBlanks (text : Text) :
    Reader.skipBlanks (Reader.skipBlanks text) = Reader.skipBlanks text :=
  List.dropWhile_idempotent _ text

/-- No value starts with a blank. -/
theorem valueWith_blank {c : CodePoint} (blank : Reader.isBlank c = true)
    (inner : Option (Reader Json)) (text : Text) :
    Reader.valueWith inner (c :: text) = .error .malformed := by
  simp only [Reader.isBlank, Bool.or_eq_true, beq_iff_eq, or_assoc] at blank
  rcases blank with rfl | rfl | rfl | rfl
  all_goals rfl

/-- What is read as a value has no blanks in front. -/
theorem skipBlanks_of_valueWith {inner : Option (Reader Json)} {read : Json × Text}
    (found : Reader.valueWith inner text = .ok read) : Reader.skipBlanks text = text := by
  cases text with
  | nil => rfl
  | cons c text =>
    refine List.dropWhile_cons_of_neg fun blank => ?_
    rw [valueWith_blank blank] at found
    cases found

/-- Fields are read behind blanks. -/
theorem fields_skipBlanks (item : Reader Json) (fuel : ℕ) (text : Text) :
    Reader.fields item fuel (Reader.skipBlanks text) = Reader.fields item fuel text := by
  cases fuel with
  | zero => rfl
  | succ fuel => simp only [Reader.fields, skipBlanks_skipBlanks]

/-- A field that is written with a blank before its value is read back. -/
theorem field_written {name : Text} (unsplit : name.Unsplit) (reading : value.IsReading)
    (inner : Option (Reader Json)) (ends : EndsNumber rest) :
    Reader.field (Reader.valueWith inner) (writeText name ++ (": " ++ (value.write ++ rest))) =
      .ok ((name, value), rest) := by
  have read := valueWith_write reading inner ends
  have text : writeText name ++ ((": " : Text) ++ (value.write ++ rest)) =
      ('"' : CodePoint) :: (name.flatMap writePoint ++
        ('"' : CodePoint) :: (':' : CodePoint) :: (' ' : CodePoint) :: (value.write ++ rest)) := by
    rw [writeText, List.append_assoc, List.append_assoc]
    rfl
  have colon (after : Text) :
      Reader.skipBlanks ((':' : CodePoint) :: after) = (':' : CodePoint) :: after := rfl
  have blank : Reader.skipBlanks ((' ' : CodePoint) :: (value.write ++ rest)) =
      value.write ++ rest := skipBlanks_of_valueWith read
  rw [text, Reader.field, quotedText_written unsplit]
  simp only [colon, blank, read]

/-- An object is read as its fields if it starts with a name. -/
theorem object_of_fields {item : Reader Json} {pairs : Fields} {name : Text}
    (quoted : Reader.skipBlanks text = ('"' : CodePoint) :: name)
    (read : Reader.fields item (Reader.skipBlanks text).length text = .ok (pairs, rest)) :
    Reader.object item text = .ok (.object (Fields.ofList pairs), rest) := by
  rw [← fields_skipBlanks, quoted] at read
  unfold Reader.object
  rw [quoted]
  split
  · rename_i same
    cases (List.cons.inj same).1
  · rw [read]

/-! ## What is refused -/

/-- A number of opening brackets. -/
def brackets (count : ℕ) : Text := List.replicate count '['

/-- No bracket is a blank. -/
theorem skipBlanks_brackets (count : ℕ) : Reader.skipBlanks (brackets count) = brackets count := by
  cases count
  · rfl
  · rfl

/-- Opening brackets beyond the depth are refused as nested too deep. -/
theorem value_brackets {depth count : ℕ} (deeper : depth < count) :
    Reader.value depth (brackets count) = .error (.tooDeep .array) := by
  induction depth generalizing count with
  | zero =>
    obtain ⟨count, rfl⟩ : ∃ less, count = less + 1 := ⟨count - 1, by omega⟩
    rfl
  | succ depth ih =>
    obtain ⟨count, rfl⟩ : ∃ less, count = less + 2 := ⟨count - 2, by omega⟩
    have inner : Reader.value (depth + 1) (brackets (count + 2)) =
        Reader.array (Reader.value depth) (brackets (count + 1)) := rfl
    have refused : Reader.items (Reader.value depth) (brackets (count + 1)).length
        (brackets (count + 1)) = .error (.tooDeep .array) := by
      rw [brackets, List.length_replicate, ← brackets, Reader.items]
      simp only [skipBlanks_brackets, ih (show depth < count + 1 by omega)]
    rw [inner, Reader.array, skipBlanks_brackets]
    split
    · rename_i same
      cases (List.cons.inj same).1
    · rw [refused]

end Json

end Reckoner
