import Reckoner.Decimal.Basic

/-!
# Decimals near a double

Two ways to say a positive magnitude in few digits: the nearest decimal with a given number of
significant digits, and the shortest decimal that reads back as the same magnitude. Both work on
a ratio `n / d` in exact arithmetic. A magnitude of `units` is the ratio `units / unitsPerOne`.
-/

namespace Reckoner

/-- A positive decimal magnitude: `coefficient * 10 ^ exponent`. -/
structure Scaled where
  coefficient : Nat
  exponent : Int
  deriving DecidableEq, Repr

/-- The exponent of the first digit of a positive ratio: the `k` with
`10 ^ k ≤ n / d < 10 ^ (k + 1)`. -/
def leadingExponent (n d : Nat) : Int :=
  if d ≤ n then (Text.digitCount (n / d) - 1 : Nat)
  else -(Text.digitCount ((d + n - 1) / n - 1) : Int)

/-- The ratio `n / d` measured in steps of `10 ^ exponent`, again as a ratio. -/
def inSteps (n d : Nat) : Int → Nat × Nat
  | .ofNat shift => (n, d * 10 ^ shift)
  | .negSucc shift => (n * 10 ^ (shift + 1), d)

/-- The decimal with `digits` significant digits to which a positive ratio is rounded. Rounding up
to a power of ten leaves one digit more, a zero. -/
def toSignificant (rounding : Nat → Nat → Nat) (digits n d : Nat) : Scaled :=
  let exponent := leadingExponent n d - (digits - 1 : Nat)
  let steps := inSteps n d exponent
  ⟨rounding steps.1 steps.2, exponent⟩

namespace Scaled

/-- The double next to a decimal magnitude. -/
def toDouble (s : Scaled) (negative : Bool) : Double :=
  Decimal.toDouble ⟨negative, s.coefficient, s.exponent⟩

/-- Whether a decimal magnitude reads back as a magnitude of `units`. -/
def readsAs (s : Scaled) (units : Nat) : Bool :=
  match s.toDouble false with
  | .finite _ read _ => read == units
  | _ => false

/-- The same magnitude without zeros at the end of the coefficient. The first argument bounds the
number of zeros. -/
def dropZeros : Nat → Scaled → Scaled
  | 0, s => s
  | fuel + 1, s =>
    if s.coefficient ≠ 0 ∧ s.coefficient % 10 = 0 then
      dropZeros fuel ⟨s.coefficient / 10, s.exponent + 1⟩
    else s

/-- The exponent of the first digit. -/
def leading (s : Scaled) : Int := s.exponent + (Text.digitCount s.coefficient - 1 : Nat)

end Scaled

/-- Of the two neighbours of a magnitude among the decimals with `digits` significant digits, the
nearer one that reads back; of two equally near ones, the even one. -/
def neighbourReadingBack? (digits units : Nat) : Option Scaled :=
  let exponent := leadingExponent units unitsPerOne - (digits - 1 : Nat)
  let steps := inSteps units unitsPerOne exponent
  let below : Scaled := ⟨steps.1 / steps.2, exponent⟩
  let above : Scaled := ⟨steps.1 / steps.2 + 1, exponent⟩
  let nearest : Scaled := ⟨roundHalfEven steps.1 steps.2, exponent⟩
  if nearest.readsAs units then some nearest
  else if below.readsAs units then some below
  else if above.readsAs units then some above
  else none

/-- The decimal that is exactly a magnitude. -/
def exactScaled (units : Nat) : Scaled := ⟨units * 5 ^ unitExponent, -(unitExponent : Int)⟩

/-- The shortest decimal that reads back as a positive magnitude, found by trying one digit more
at a time. Seventeen digits are enough; were they not, the exact decimal would still read back. -/
def shortest (units : Nat) : Scaled :=
  let candidates := (List.range 17).filterMap fun fewer => neighbourReadingBack? (fewer + 1) units
  (candidates.headD (exactScaled units)).dropZeros 400

end Reckoner
