import Reckoner.Proofs.Json.Object
import Reckoner.Stamps

/-!
# The file of first sightings

What is written into the file is ASCII text with one line for each reading. Read as JSON it is the
object with exactly these readings in their order, as long as every name stands once and is not
split and every reading compares as a number.
-/

namespace Reckoner

namespace Stamps

open Json (Reader)

/-- Readings that are read back from the file they are written to. -/
structure Lasting (readings : Fields) : Prop where
  distinct : readings.Distinct
  unsplit : ∀ field ∈ readings, field.1.Unsplit
  reading : ∀ field ∈ readings, field.2.IsReading

/-- The lines of a file and what follows them. -/
def linesBefore (readings : Fields) (after : Text) : Text :=
  Text.joinWith ",\n" (readings.map line) ++ after

variable {readings : Fields} {field : Text × Json} {after rest : Text}

/-! ## Lines -/

/-- Behind the first of several lines there is a comma, and the others follow. -/
theorem linesBefore_cons (field next : Text × Json) (more : Fields) (after : Text) :
    linesBefore (field :: next :: more) after =
      line field ++ (",\n" ++ linesBefore (next :: more) after) := by
  rw [linesBefore, List.map_cons, List.map_cons, Text.joinWith, ← List.map_cons, linesBefore,
    List.append_assoc, List.append_assoc]

/-- A single line. -/
theorem linesBefore_singleton (field : Text × Json) (after : Text) :
    linesBefore [field] after = line field ++ after := rfl

/-- The lines begin with the first one. -/
theorem exists_line (field : Text × Json) (more : Fields) (after : Text) :
    ∃ tail, linesBefore (field :: more) after = line field ++ tail := by
  cases more with
  | nil => exact ⟨after, linesBefore_singleton field after⟩
  | cons next more => exact ⟨_, linesBefore_cons field next more after⟩

/-- A line begins with two blanks, which are skipped. -/
theorem skipBlanks_line (field : Text × Json) (after : Text) :
    Reader.skipBlanks (line field ++ after) =
      Json.writeText field.1 ++ (": " ++ (field.2.write ++ after)) := by
  rw [line, List.append_assoc, List.append_assoc, List.append_assoc]
  rfl

/-- The lines begin with a name between quotation marks. -/
theorem exists_quoted (nonempty : readings ≠ []) (after : Text) :
    ∃ name, Reader.skipBlanks (linesBefore readings after) = ('"' : CodePoint) :: name := by
  obtain ⟨field, more, rfl⟩ := List.exists_cons_of_ne_nil nonempty
  obtain ⟨tail, lines⟩ := exists_line field more after
  rw [lines, skipBlanks_line, Json.writeText, List.append_assoc]
  exact ⟨_, rfl⟩

/-- The field of a line is read back. -/
theorem field_line (unsplit : field.1.Unsplit) (reading : field.2.IsReading)
    (inner : Option (Reader Json)) (ends : Json.EndsNumber after) :
    Reader.field (Reader.valueWith inner) (Reader.skipBlanks (line field ++ after)) =
      .ok (field, after) := by
  rw [skipBlanks_line]
  exact Json.field_written unsplit reading inner ends

/-- Fields may stand on a new line. -/
theorem fields_newline (item : Reader Json) (fuel : ℕ) (text : Text) :
    Reader.fields item fuel (('\n' : CodePoint) :: text) = Reader.fields item fuel text := by
  rw [← Json.fields_skipBlanks, ← Json.fields_skipBlanks item fuel text]
  rfl

/-- The lines of a file are read as its fields. -/
theorem fields_lines (nonempty : readings ≠ []) (unsplit : ∀ field ∈ readings, field.1.Unsplit)
    (reading : ∀ field ∈ readings, field.2.IsReading) (inner : Option (Reader Json)) {fuel : ℕ}
    (enough : readings.length ≤ fuel) (rest : Text) :
    Reader.fields (Reader.valueWith inner) fuel (linesBefore readings ("\n\x7d" ++ rest)) =
      .ok (readings, rest) := by
  induction readings generalizing fuel with
  | nil => exact absurd rfl nonempty
  | cons field more ih =>
    obtain ⟨fuel, rfl⟩ : ∃ less, fuel = less + 1 := ⟨fuel - 1, by simp at enough; omega⟩
    have first_unsplit := unsplit field List.mem_cons_self
    have first_reading := reading field List.mem_cons_self
    cases more with
    | nil =>
      have ends : Json.EndsNumber ("\n\x7d" ++ rest) := by
        intro c head
        cases head
        decide
      have brace : Reader.skipBlanks ("\n\x7d" ++ rest) = ('\x7d' : CodePoint) :: rest := rfl
      rw [linesBefore_singleton]
      simp only [Reader.fields, field_line first_unsplit first_reading inner ends, brace]
    | cons next more =>
      have ends (after : Text) : Json.EndsNumber (",\n" ++ after) := by
        intro c head
        cases head
        decide
      have comma (after : Text) : Reader.skipBlanks (",\n" ++ after) =
          (',' : CodePoint) :: ('\n' : CodePoint) :: after := rfl
      have others := ih (List.cons_ne_nil next more) (fun field member => unsplit field (.tail _ member))
        (fun field member => reading field (.tail _ member)) (Nat.le_of_succ_le_succ enough)
      rw [linesBefore_cons]
      simp only [Reader.fields, field_line first_unsplit first_reading inner (ends _), comma,
        fields_newline, others]

/-! ## The whole file -/

/-- Joined pieces are at least as long as the pieces together. -/
theorem length_joinWith (mark : Text) {pieces : List Text} {least : ℕ}
    (long : ∀ piece ∈ pieces, least ≤ piece.length) :
    least * pieces.length ≤ (Text.joinWith mark pieces).length := by
  induction pieces with
  | nil => exact Nat.le_refl _
  | cons piece more ih =>
    have first := long piece List.mem_cons_self
    cases more with
    | nil => simpa [Text.joinWith] using first
    | cons next more =>
      have others := ih fun piece member => long piece (.tail _ member)
      rw [Text.joinWith, List.length_append, List.length_append, List.length_cons, Nat.mul_succ]
      omega

/-- Behind the blanks of the first line there are more characters left than there are lines. -/
theorem length_le_lines (nonempty : readings ≠ []) (after : Text) :
    readings.length ≤ (Reader.skipBlanks (linesBefore readings after)).length := by
  have least : ∀ piece ∈ readings.map line, 6 ≤ piece.length := by
    intro piece member
    obtain ⟨field, -, rfl⟩ := List.mem_map.1 member
    simp [line, Json.writeText, Text.ofString]
    omega
  have enough := length_joinWith ",\n" least
  obtain ⟨field, more, rfl⟩ := List.exists_cons_of_ne_nil nonempty
  obtain ⟨tail, lines⟩ := exists_line field more after
  have skipped : (Reader.skipBlanks (line field ++ tail)).length + 2 =
      (line field ++ tail).length := by
    rw [skipBlanks_line, line]
    simp only [List.length_append]
    have blanks : ("  " : Text).length = 2 := rfl
    omega
  rw [← lines, linesBefore, List.length_append] at skipped
  rw [List.length_map, List.length_cons] at enough
  rw [linesBefore, List.length_cons]
  omega

/-- The text of a file with readings. -/
theorem fileText_eq (nonempty : readings ≠ []) :
    fileText readings = ('\x7b' : CodePoint) :: ('\n' : CodePoint) :: linesBefore readings "\n\x7d" := by
  rw [fileText, if_neg (by simpa using nonempty), linesBefore, List.append_assoc]
  rfl

/-- The text of a file is read as the object of its readings. -/
theorem ofText_fileText (lasting : Lasting readings) (depth : ℕ) :
    Json.ofText (depth + 2) (fileText readings) = .ok (.object readings) := by
  by_cases nonempty : readings = []
  · subst nonempty
    rfl
  · have lines := fields_lines nonempty lasting.unsplit lasting.reading (some (Reader.value depth))
      (length_le_lines nonempty "\n\x7d") []
    obtain ⟨name, quoted⟩ := exists_quoted nonempty "\n\x7d"
    rw [List.append_nil, ← fields_newline] at lines
    have read : Reader.object (Reader.value (depth + 1))
        (('\n' : CodePoint) :: linesBefore readings "\n\x7d") =
          .ok (.object (Fields.ofList readings), []) := Json.object_of_fields quoted lines
    rw [lasting.distinct.ofList_eq] at read
    have whole : Reader.value (depth + 2) (Reader.skipBlanks (fileText readings)) =
        .ok (.object readings, []) := by
      rw [fileText_eq nonempty]
      exact read
    rw [Json.ofText, whole]
    rfl

/-- The text of a file is ASCII text. -/
theorem isAscii_fileText (reading : ∀ field ∈ readings, field.2.IsReading) :
    (fileText readings).IsAscii := by
  have ascii (text : String) (all : ∀ c ∈ (text : Text), c.isAscii = true) :
      Text.IsAscii (text : Text) := all
  have lines : ∀ piece ∈ readings.map line, piece.IsAscii := by
    intro piece member
    obtain ⟨field, held, rfl⟩ := List.mem_map.1 member
    exact (((ascii "  " (by decide)).append (Json.isAscii_writeText field.1)).append
      (ascii ": " (by decide))).append (Json.isAscii_write (reading field held))
  unfold fileText
  split
  · exact ascii _ (by decide)
  · exact ((ascii "\x7b\n" (by decide)).append
      (Text.IsAscii.joinWith (ascii ",\n" (by decide)) lines)).append (ascii "\n\x7d" (by decide))

/-! ## Loading -/

/-- The readings in a file: those of the JSON object that it holds, and none if it holds none. -/
def found (content : Option (List UInt8)) : Fields :=
  match content.bind Utf8.decode? with
  | none => []
  | some text =>
    match Json.ofText Json.depthLimit text with
    | .ok (.object fields) => fields
    | _ => []

/-- A file whose containers are nested deeper than is read. -/
def IsDeep (content : Option (List UInt8)) : Prop :=
  ∃ text container, content.bind Utf8.decode? = some text ∧
    Json.ofText Json.depthLimit text = .error (.tooDeep container)

/-- A file that holds readings as a JSON object. -/
def Holds (content : Option (List UInt8)) (readings : Fields) : Prop :=
  ∃ text, content.bind Utf8.decode? = some text ∧
    Json.ofText Json.depthLimit text = .ok (.object readings)

/-- Loading fails for a file that is nested too deep. -/
theorem load_of_isDeep {content : Option (List UInt8)} (deep : IsDeep content) :
    ∃ container, load content = .error (.tooDeep container) := by
  obtain ⟨text, container, decoded, read⟩ := deep
  refine ⟨container, ?_⟩
  rw [load, decoded]
  simp only [read]

/-- Every other file is loaded as what is found in it. -/
theorem load_of_not_isDeep {content : Option (List UInt8)} (flat : ¬IsDeep content) :
    load content = .ok (found content) := by
  unfold load found
  cases decoded : content.bind Utf8.decode? with
  | none => rfl
  | some text =>
    cases read : Json.ofText Json.depthLimit text with
    | error e =>
      cases e with
      | malformed => simp only [read]
      | tooDeep container => exact absurd ⟨text, container, decoded, read⟩ flat
    | ok value =>
      cases value with
      | object fields => simp only [read]
      | _ => simp only [read]

/-- What a file holds is found in it. -/
theorem Holds.found_eq {content : Option (List UInt8)} (holds : Holds content readings) :
    found content = readings := by
  obtain ⟨text, decoded, read⟩ := holds
  rw [found, decoded]
  simp only [read]

/-- A file that holds readings is not nested too deep. -/
theorem Holds.not_isDeep {content : Option (List UInt8)} (holds : Holds content readings) :
    ¬IsDeep content := by
  rintro ⟨text, container, decoded, deep⟩
  obtain ⟨text', decoded', read⟩ := holds
  obtain rfl := Option.some.inj (decoded.symm.trans decoded')
  cases deep.symm.trans read

/-- A file that is written holds the readings. -/
theorem holds_saved (lasting : Lasting readings) :
    Holds (some (Utf8.bytes (fileText readings))) readings :=
  ⟨_, Utf8.decode?_bytes (isAscii_fileText lasting.reading), ofText_fileText lasting 948⟩

/-- What is known of the readings in a file. -/
theorem found_isField (content : Option (List UInt8)) : (found content).Distinct ∧
    (∀ field ∈ found content, field.1.Unsplit) ∧
    ∀ field ∈ found content, ∀ n, field.2 = .int n → Text.exceedsDigitLimit n = false := by
  unfold found
  split
  · exact ⟨List.nodup_nil, nofun, nofun⟩
  · rename_i text decoded
    obtain ⟨bytes, -, read⟩ := Option.bind_eq_some_iff.1 decoded
    split
    · rename_i fields read'
      obtain ⟨distinct, each⟩ := Json.ofText_found read'
      exact ⟨distinct, fun field member => (each field member).name (Utf8.decode?_no_half read),
        fun field member => (each field member).value⟩
    · exact ⟨List.nodup_nil, nofun, nofun⟩

end Stamps

end Reckoner
