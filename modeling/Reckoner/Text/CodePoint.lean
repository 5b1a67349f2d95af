/-!
# Code points

What text is made of. Almost every code point is a character; the others are the halves of
surrogate pairs, which escaped text can name one at a time. A half is no character and has no
bytes, but it is held, compared and escaped like one. Character literals coerce to code points,
in patterns as well.
-/

namespace Reckoner

/-- A code point: a character, or half of a surrogate pair that stands on its own. -/
inductive CodePoint where
  | char (c : Char)
  /-- The half at a place among all halves, which begin at U+D800. -/
  | half (place : Fin 0x800)
  deriving DecidableEq, Repr

instance : Coe Char CodePoint := ⟨.char⟩

namespace CodePoint

/-- The number of a code point. -/
def toNat : CodePoint → Nat
  | .char c => c.toNat
  | .half place => 0xD800 + place

/-- The code point of a number; a number that has none gives the null character. -/
def ofNat (n : Nat) : CodePoint :=
  if h : 0xD800 ≤ n ∧ n < 0xE000 then .half ⟨n - 0xD800, by omega⟩ else .char (Char.ofNat n)

/-- Every code point is that of its number. -/
theorem ofNat_toNat (point : CodePoint) : ofNat point.toNat = point := by
  cases point with
  | char c =>
    have valid : ¬(0xD800 ≤ c.toNat ∧ c.toNat < 0xE000) := by
      have := c.valid
      simp only [UInt32.isValidChar, Nat.isValidChar] at this
      simp only [Char.toNat]
      omega
    simp only [ofNat, toNat, valid, dite_false, Char.ofNat_toNat]
  | half place =>
    have bound : 0xD800 + place.val < 0xE000 := by omega
    simp [ofNat, toNat, bound]

/-- Code points with the same number are the same. -/
theorem toNat_injective {left right : CodePoint} (same : left.toNat = right.toNat) :
    left = right := by
  rw [← ofNat_toNat left, ← ofNat_toNat right, same]

instance : LT CodePoint := ⟨fun left right => left.toNat < right.toNat⟩

instance : LE CodePoint := ⟨fun left right => left.toNat ≤ right.toNat⟩

instance : DecidableLT CodePoint := fun left right =>
  inferInstanceAs (Decidable (left.toNat < right.toNat))

instance : DecidableLE CodePoint := fun left right =>
  inferInstanceAs (Decidable (left.toNat ≤ right.toNat))

/-- Whether a code point is half of a surrogate pair. -/
def isHalf : CodePoint → Bool
  | .char _ => false
  | .half _ => true

/-- Whether a code point is an ASCII character. -/
def isAscii (point : CodePoint) : Bool := decide (point.toNat < 0x80)

/-- Whether a code point is an ASCII digit. -/
def isAsciiDigit (point : CodePoint) : Bool := '0' ≤ point && point ≤ '9'

/-- Whether a code point is an ASCII letter. -/
def isAsciiLetter (point : CodePoint) : Bool :=
  ('a' ≤ point && point ≤ 'z') || ('A' ≤ point && point ≤ 'Z')

/-- An ASCII capital made small; every other code point stays. -/
def lower : CodePoint → CodePoint
  | .char c => .char c.toLower
  | .half place => .half place

/-- An ASCII letter made a capital; every other code point stays. -/
def upper : CodePoint → CodePoint
  | .char c => .char c.toUpper
  | .half place => .half place

end CodePoint

end Reckoner
