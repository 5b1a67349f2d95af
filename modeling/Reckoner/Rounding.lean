/-!
# Rounding a quotient

The rounding rule of the calculator, used for doubles and for shown decimals alike: to the nearest
whole number, a half going to the even neighbour. The result is at most one above the floor of the
quotient, which is all that representability needs. Only the numerals of the log differ, where a
half goes up.
-/

namespace Reckoner

-- Powers of numbers are those of the core library, whatever else a module brings along.
attribute [instance (20000), default_instance 20000] instPowNat

/-- The whole number nearest to `n / d`; of two equally near ones, the even one. -/
def roundHalfEven (n d : Nat) : Nat :=
  let quotient := n / d
  let twice := 2 * (n % d)
  if twice < d then quotient
  else if d < twice then quotient + 1
  else quotient + quotient % 2

/-- The whole number nearest to `n / d`; of two equally near ones, the greater one. -/
def roundHalfUp (n d : Nat) : Nat := (2 * n + d) / (2 * d)

/-- Rounding goes at most one above the floor. -/
theorem roundHalfEven_le_succ (n d : Nat) : roundHalfEven n d ≤ n / d + 1 := by
  simp only [roundHalfEven]
  have parity : n / d % 2 < 2 := Nat.mod_lt _ (by decide)
  split
  · exact Nat.le_succ _
  · split
    · exact Nat.le_refl _
    · omega

end Reckoner
