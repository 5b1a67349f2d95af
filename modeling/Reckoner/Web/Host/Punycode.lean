import Reckoner.Text.Basic

/-!
# Labels beyond ASCII

A label of a host name is written in ASCII by listing its ASCII characters and then, as numbers of
variable length, where the others are inserted. The others come by ascending code point; each
number says how many places are passed over since the last insertion. Digits weigh more or less
depending on how great the numbers have been so far.
-/

namespace Reckoner

namespace Punycode

/-- The character of a digit below thirty-six: letters first, then figures. -/
def digit (n : Nat) : CodePoint := .ofNat (if n < 26 then 'a'.toNat + n else '0'.toNat + (n - 26))

/-- The first digit, by its place, that does not end a number. -/
def threshold (place bias : Nat) : Nat := max 1 (min 26 (36 * (place + 1) - bias))

/-- A threshold leaves room for the digits that end a number. -/
theorem one_le_threshold (place bias : Nat) : 1 ≤ threshold place bias := Nat.le_max_left ..

/-- A threshold leaves room for the digits that do not end a number. -/
theorem threshold_le (place bias : Nat) : threshold place bias ≤ 26 :=
  Nat.max_le.2 ⟨by decide, Nat.min_le_left ..⟩

/-- The digits of a number from a place on. -/
def digits (bias place n : Nat) : Text :=
  let limit := threshold place bias
  if n < limit then [digit n]
  else
    digit (limit + (n - limit) % (36 - limit))
      :: digits bias (place + 1) ((n - limit) / (36 - limit))
termination_by n
decreasing_by
  have lower := one_le_threshold place bias
  have upper := threshold_le place bias
  have : (n - threshold place bias) / (36 - threshold place bias) ≤ n - threshold place bias :=
    Nat.div_le_self _ _
  omega

/-- Divides a number by thirty-five until it is small: what is left, and how often that took. -/
def reduce (n : Nat) : Nat × Nat :=
  if 455 < n then
    let (rest, times) := reduce (n / 35)
    (rest, times + 1)
  else (n, 0)
termination_by n
decreasing_by omega

/-- The bias after a number, given how many characters are in place. The first number is expected
to be great. -/
def adapt (isFirst : Bool) (n placed : Nat) : Nat :=
  let scaled := if isFirst then n / 700 else n / 2
  let (rest, times) := reduce (scaled + scaled / placed)
  36 * times + 36 * rest / (rest + 38)

/-- How far a label has been written. -/
structure Progress where
  written : Text
  /-- The places passed over since the last insertion. -/
  passed : Nat
  bias : Nat
  /-- The characters in place. -/
  placed : Nat

/-- Passes a place of the label, or inserts the code point of a number there. -/
def visit (ascii n : Nat) (progress : Progress) (c : CodePoint) : Progress :=
  if c.toNat < n then { progress with passed := progress.passed + 1 }
  else if c.toNat = n then
    { written := progress.written ++ digits progress.bias 0 progress.passed
      passed := 0
      bias := adapt (progress.placed == ascii) progress.passed (progress.placed + 1)
      placed := progress.placed + 1 }
  else progress

/-- Inserts the code points of the given numbers, after all below `next` have been inserted. -/
def insertAll (label : Text) (ascii : Nat) : Nat → List Nat → Progress → Progress
  | _, [], progress => progress
  | next, n :: numbers, progress =>
    let skipped := progress.passed + (n - next) * (progress.placed + 1)
    let visited := label.foldl (visit ascii n) { progress with passed := skipped }
    insertAll label ascii (n + 1) numbers { visited with passed := visited.passed + 1 }

/-- Puts a number among ascending ones, once. -/
def insertNumber (n : Nat) : List Nat → List Nat
  | [] => [n]
  | next :: numbers =>
    if n < next then n :: next :: numbers
    else if n = next then next :: numbers
    else next :: insertNumber n numbers

/-- A label in ASCII. -/
def encode (label : Text) : Text :=
  let ascii := label.filter (·.isAscii)
  let others := (label.filter (!·.isAscii)).map CodePoint.toNat
  let start : Text := if ascii.isEmpty then [] else ascii.concat '-'
  (insertAll label ascii.length 0x80 (others.foldr insertNumber [])
    ⟨start, 0, 72, ascii.length⟩).written

end Punycode

end Reckoner
