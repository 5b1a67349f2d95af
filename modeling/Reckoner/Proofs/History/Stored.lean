import Reckoner.Proofs.History.Capacity
import Reckoner.Proofs.Json.Quoted
import Reckoner.Proofs.Stamps.Record

/-!
# Texts that are stored

The table takes texts that have bytes and numerals of its own, so whatever is offered to a log, what
it keeps consists of characters: no half of a surrogate pair is among them. That is why the name
under which a listed entry is remembered is read back from a file as it was written.
-/

namespace Reckoner

/-- Text in which no half of a surrogate pair stands. -/
def Text.IsPlain (text : Text) : Prop := ∀ c ∈ text, c.isHalf = false

namespace Text.IsPlain

variable {front back text : Text}

/-- Plain text behind plain text is plain. -/
theorem append (first : IsPlain front) (second : IsPlain back) : IsPlain (front ++ back) :=
  fun c member => (List.mem_append.1 member).elim (first c) (second c)

/-- A character in front of plain text makes plain text. -/
theorem cons {c : CodePoint} (first : c.isHalf = false) (others : IsPlain back) :
    IsPlain (c :: back) := by
  intro d member
  rcases List.mem_cons.1 member with rfl | later
  · exact first
  · exact others d later

/-- Part of a plain text is plain. -/
theorem of_subset (plain : IsPlain text) (part : front ⊆ text) : IsPlain front :=
  fun c member => plain c (part member)

/-- Numerals are plain. -/
theorem ofNat (n : ℕ) : IsPlain (Text.ofNat n) := ofInt_no_half n

/-- Zeros are plain. -/
theorem zeros (count : ℕ) : IsPlain (Text.zeros count) := by
  intro c member
  rw [List.eq_of_mem_replicate member]
  rfl

/-- Plain text is not split. -/
theorem unsplit (plain : IsPlain text) : text.Unsplit := by
  induction text with
  | nil => exact List.isChain_nil
  | cons c text ih =>
    have first := (Json.not_half_of_isHalf (plain c List.mem_cons_self)).1
    refine unsplit_cons.2 ⟨fun d _ pair => ?_, ih fun d member => plain d (.tail _ member)⟩
    rw [first] at pair
    cases pair.1

end Text.IsPlain

/-! ## Columns -/

namespace Layout

/-- A numeral with a point or beside one is plain. -/
theorem plain_positional (layout : Layout) {digits : Text} (plain : digits.IsPlain) (whole : ℤ) :
    (layout.positional digits whole).IsPlain := by
  have point : Text.IsPlain "." := by unfold Text.IsPlain; decide
  have zero : Text.IsPlain "0." := by unfold Text.IsPlain; decide
  have ending : Text.IsPlain (if layout.pointZero then (".0" : Text) else []) := by
    unfold Text.IsPlain
    split <;> decide
  unfold positional
  split
  · exact (zero.append (.zeros _)).append plain
  · exact zero.append plain
  · split
    · exact (plain.append (.zeros _)).append ending
    · exact ((plain.of_subset (List.take_subset _ _)).append point).append
        (plain.of_subset (List.drop_subset _ _))

/-- A numeral with a power of ten is plain. -/
theorem plain_scientific (layout : Layout) {digits : Text} (plain : digits.IsPlain)
    (exponent : ℤ) : (layout.scientific digits exponent).IsPlain := by
  have ending : Text.IsPlain (if layout.scientificPoint then (".0" : Text) else []) := by
    unfold Text.IsPlain
    split <;> decide
  have mark : Text.IsPlain (if exponent < 0 then ("e-" : Text) else "e+") := by
    unfold Text.IsPlain
    split <;> decide
  have power : (Text.padZeros layout.exponentWidth (Text.ofNat exponent.natAbs)).IsPlain :=
    (Text.IsPlain.zeros _).append (.ofNat _)
  unfold scientific
  refine (Text.IsPlain.append ?_ mark).append power
  split
  · rename_i first next rest
    exact .cons (plain _ List.mem_cons_self)
      (.cons rfl (plain.of_subset (List.subset_cons_self _ _)))
  · exact plain.append ending

/-- What is laid out is plain. -/
theorem plain_write (layout : Layout) (s : Scaled) : (layout.write s).IsPlain := by
  unfold write
  simp only
  split
  · exact layout.plain_positional (.ofNat _) _
  · exact layout.plain_scientific (.ofNat _) _

end Layout

/-- Text that has bytes is plain. -/
theorem Utf8.plain_of_check {text : Text} (checked : Utf8.check text = .ok ()) : text.IsPlain := by
  unfold check firstFault? at checked
  split at checked
  · cases checked
  · rename_i none
    split at none
    · rename_i whole
      intro c member
      have character := List.dropWhile_eq_nil_iff.1 whole c member
      rwa [Bool.not_eq_true'] at character
    · cases none

namespace Column

/-- The numeral of a double is plain. -/
theorem numeral?_plain {value : Double} {text : Text} (written : numeral? value = some text) :
    text.IsPlain := by
  unfold numeral? at written
  split at written
  · cases written
  · obtain rfl := Option.some.inj written
    unfold Text.IsPlain
    split <;> decide
  · split at written
    · obtain rfl := Option.some.inj written
      unfold Text.IsPlain
      decide
    · obtain rfl := Option.some.inj written
      split
      · exact .cons rfl (Layout.plain_write _ _)
      · exact Layout.plain_write _ _

/-- A text that is stored is plain. -/
theorem text_plain {place : ℕ} {value : Json} {text : Text}
    (stored : Column.text place value = .ok (some text)) : text.IsPlain := by
  cases value with
  | null => cases stored
  | bool value =>
    cases stored
    unfold Text.IsPlain
    cases value <;> decide
  | int n =>
    obtain ⟨m, -, same⟩ := map_eq_ok_iff.1 stored
    obtain rfl := Option.some.inj same
    exact Text.ofInt_no_half m
  | double value => exact numeral?_plain (Except.ok.inj stored)
  | string given =>
    obtain ⟨kept, encoded, same⟩ := map_eq_ok_iff.1 stored
    obtain ⟨done, checked, rfl⟩ := map_eq_ok_iff.1 encoded
    obtain rfl := Option.some.inj same
    exact Utf8.plain_of_check (mapError_eq_ok_iff.1 checked)
  | array items => cases stored
  | object fields => cases stored

end Column

/-- The texts that are stored for an expression and a result are plain. -/
theorem Archive.texts_plain {expression result : Json} {texts : Text × Text}
    (stored : Archive.texts expression result = .ok texts) :
    texts.1.IsPlain ∧ texts.2.IsPlain := by
  unfold Archive.texts at stored
  obtain ⟨first, first_stored, rest⟩ := bind_eq_ok_iff.1 stored
  obtain ⟨second, second_stored, made⟩ := bind_eq_ok_iff.1 rest
  cases first with
  | none => cases made
  | some expression =>
    cases second with
    | none => cases made
    | some result =>
      cases made
      exact ⟨Column.text_plain first_stored, Column.text_plain second_stored⟩

/-! ## Entries of a log -/

namespace Entries

/-- Every entry that is kept consists of plain texts. -/
def ArePlain (entries : Entries) : Prop :=
  ∀ entry ∈ entries.kept, entry.row.expression.IsPlain ∧ entry.row.result.IsPlain

/-- They are after a change if they were before. -/
theorem ArePlain.after {entries : Entries} (plain : entries.ArePlain) (change : Change) :
    (entries.after change).ArePlain := by
  cases change with
  | clear => exact fun entry member => absurd member List.not_mem_nil
  | add expression result moment =>
    unfold Entries.after
    simp only
    split
    · exact plain
    · rename_i expression result stored
      intro entry member
      have kept := List.IsPrefix.subset ( limited_prefix Log.defaultCapacity _) member
      rcases List.mem_cons.1 kept with rfl | older
      · exact Archive.texts_plain stored
      · exact plain entry older

/-- They are after any changes to a new log. -/
theorem arePlain_ofChanges (changes : List Change) : (ofChanges changes).ArePlain := by
  induction changes using List.reverseRecOn with
  | nil => exact fun entry member => absurd member List.not_mem_nil
  | append_singleton changes change ih =>
    rw [ofChanges, List.foldl_append]
    exact ih.after change

/-- The name under which plain texts are remembered is not split. -/
theorem unsplit_entryKey {expression result : Text} (first : expression.IsPlain)
    (second : result.IsPlain) : (Stamps.entryKey expression result).Unsplit := by
  have mark : Text.IsPlain "=" := by unfold Text.IsPlain; decide
  exact ((first.append mark).append second).unsplit

end Entries

end Reckoner
