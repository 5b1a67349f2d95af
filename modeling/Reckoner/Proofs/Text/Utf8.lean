import Reckoner.Text.Utf8

/-!
# Text and its bytes

ASCII text is its own bytes, so it is read back from them. Whatever bytes are read as text, no half
of a surrogate pair stands in it.
-/

namespace Reckoner

/-- Text of ASCII characters only. -/
def Text.IsAscii (text : Text) : Prop := ∀ c ∈ text, c.isAscii = true

namespace Text.IsAscii

variable {front back : Text}

/-- ASCII text behind ASCII text is ASCII text. -/
theorem append (first : IsAscii front) (second : IsAscii back) : IsAscii (front ++ back) :=
  fun c member => (List.mem_append.1 member).elim (first c) (second c)

/-- An ASCII character in front of ASCII text makes ASCII text. -/
theorem cons {c : CodePoint} (first : c.isAscii = true) (others : IsAscii back) :
    IsAscii (c :: back) := by
  intro d member
  rcases List.mem_cons.1 member with rfl | later
  · exact first
  · exact others d later

/-- ASCII texts joined by ASCII text are ASCII text. -/
theorem joinWith {mark : Text} (between : IsAscii mark) {pieces : List Text}
    (ascii : ∀ piece ∈ pieces, IsAscii piece) : IsAscii (Text.joinWith mark pieces) := by
  induction pieces with
  | nil => exact fun c member => absurd member List.not_mem_nil
  | cons piece more ih =>
    have first := ascii piece List.mem_cons_self
    cases more with
    | nil => exact first
    | cons next more =>
      exact (first.append between).append (ih fun piece member => ascii piece (.tail _ member))

end Text.IsAscii

namespace Utf8

/-- No half of a surrogate pair is read from bytes. -/
theorem decode?_no_half {bytes : List UInt8} {text : Text} (found : decode? bytes = some text) :
    ∀ c ∈ text, c.isHalf = false := by
  obtain ⟨characters, -, rfl⟩ := Option.map_eq_some_iff.1 found
  intro c member
  obtain ⟨char, -, rfl⟩ := List.mem_map.1 member
  rfl

/-- An ASCII character is one byte. -/
theorem decodeFrom_ascii {c : CodePoint} (ascii : c.isAscii = true) (rest : List UInt8) :
    ∃ char, c = .char char ∧
      decodeFrom 0 (bytesOf c ++ rest) = some char :: decodeFrom 0 rest := by
  have small : c.toNat < 0x80 := of_decide_eq_true ascii
  cases c with
  | half place =>
    simp only [CodePoint.toNat] at small
    omega
  | char char =>
    refine ⟨char, rfl, ?_⟩
    have number : (UInt8.ofNat char.toNat).toNat = char.toNat := by
      rw [UInt8.toNat_ofNat']
      exact Nat.mod_eq_of_lt (Nat.lt_trans small (by decide))
    have one : UInt8.ofNat char.toNat < 0x80 := by
      rw [UInt8.lt_iff_toNat_lt, number]
      exact small
    rw [bytesOf, bytesOfNat, if_pos small]
    show decodeFrom 0 (UInt8.ofNat char.toNat :: rest) = _
    rw [decodeFrom, step.eq_def, if_pos one, number, Char.ofNat_toNat]

/-- ASCII text is read back from its bytes. -/
theorem decode?_bytes {text : Text} (ascii : text.IsAscii) : decode? (bytes text) = some text := by
  induction text with
  | nil => rfl
  | cons c text ih =>
    obtain ⟨char, rfl, first⟩ := decodeFrom_ascii (ascii c List.mem_cons_self) (bytes text)
    obtain ⟨characters, read, same⟩ := Option.map_eq_some_iff.1
      (ih fun d member => ascii d (List.mem_cons_of_mem _ member))
    have split : bytes (.char char :: text) = bytesOf (.char char) ++ bytes text := rfl
    rw [decode?, split, first, List.mapM_cons, read, ← same]
    rfl

end Utf8

end Reckoner
