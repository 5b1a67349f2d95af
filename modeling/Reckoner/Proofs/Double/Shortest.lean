import Reckoner.Double.Shortest
import Reckoner.Proofs.Double.Range
import Reckoner.Proofs.Text.Digits

/-!
# The size of decimals near a double

The exponent of the first digit places a ratio between two powers of ten, so a ratio measured in
steps that many digits below it is a number of so many digits. Doubles are neither so great nor so
small that this exponent has more than three digits, and the shortest decimal of a double is no
longer than its exact one.
-/

namespace Reckoner

/-! ## The exponent of the first digit -/

/-- A positive ratio lies between the power of ten of its first digit and the next one. Exponents
below zero are told apart, since powers of them are moved to the other side. -/
theorem leadingExponent_cases {n d : Nat} (n_pos : 0 < n) (d_pos : 0 < d) :
    (∃ k : Nat, leadingExponent n d = k ∧ d * 10 ^ k ≤ n ∧ n < d * 10 ^ (k + 1)) ∨
      ∃ k : Nat, leadingExponent n d = -(k + 1 : Nat) ∧ n * 10 ^ k < d ∧ d ≤ n * 10 ^ (k + 1) := by
  by_cases whole : d ≤ n
  · have positive : 0 < n / d := Nat.div_pos whole d_pos
    have count := Text.digitCount_pos (n / d)
    refine .inl ⟨Text.digitCount (n / d) - 1, ?_, ?_, ?_⟩
    · rw [leadingExponent, if_pos whole]
    · exact Nat.le_trans (Nat.mul_le_mul_left d (Text.pow_digitCount_le positive))
        (Nat.mul_div_le n d)
    · rw [Nat.sub_add_cancel count]
      exact Nat.lt_of_lt_of_le (Nat.lt_mul_div_succ n d_pos)
        (Nat.mul_le_mul_left d (Text.lt_pow_digitCount (n / d)))
  · -- The number of whole times that `n` goes into `d` without exhausting it.
    have times : (d + n - 1) / n - 1 = (d - 1) / n := by
      rw [show d + n - 1 = d - 1 + n by omega, Nat.add_div_right _ n_pos, Nat.add_sub_cancel]
    have positive : 0 < (d - 1) / n := Nat.div_pos (by omega) n_pos
    have count := Text.digitCount_pos ((d - 1) / n)
    refine .inr ⟨Text.digitCount ((d - 1) / n) - 1, ?_, ?_, ?_⟩
    · rw [leadingExponent, if_neg whole, times, Nat.sub_add_cancel count]
    · have below := Nat.mul_le_mul_left n (Text.pow_digitCount_le positive)
      have exhausts := Nat.mul_div_le (d - 1) n
      omega
    · rw [Nat.sub_add_cancel count]
      have above := Nat.mul_le_mul_left n (Text.lt_pow_digitCount ((d - 1) / n))
      have exceeds := Nat.lt_mul_div_succ (d - 1) n_pos
      rw [Nat.succ_eq_add_one] at above
      omega

/-- Measured in steps that leave so many digits, a ratio has no more digits. -/
theorem inSteps_lt {n d digits : Nat} (n_pos : 0 < n) (d_pos : 0 < d) (some_digit : 0 < digits) :
    (inSteps n d (leadingExponent n d - (digits - 1 : Nat))).1 <
      (inSteps n d (leadingExponent n d - (digits - 1 : Nat))).2 * 10 ^ digits := by
  rcases leadingExponent_cases n_pos d_pos with ⟨k, leading, -, below⟩ | ⟨k, leading, below, -⟩
  · rw [leading]
    by_cases whole : digits - 1 ≤ k
    · obtain ⟨shift, rfl⟩ := Nat.exists_eq_add_of_le whole
      have exponent : ((digits - 1 + shift : Nat) : Int) - (digits - 1 : Nat) = .ofNat shift := by
        simp only [Int.ofNat_eq_natCast]
        omega
      have together : shift + digits = digits - 1 + shift + 1 := by omega
      rw [exponent, inSteps, Nat.mul_assoc, ← Nat.pow_add, together]
      exact below
    · have exponent : (k : Int) - (digits - 1 : Nat) = .negSucc (digits - 2 - k) := by omega
      have together : k + 1 + (digits - 2 - k + 1) = digits := by omega
      rw [exponent, inSteps]
      calc n * 10 ^ (digits - 2 - k + 1)
          < d * 10 ^ (k + 1) * 10 ^ (digits - 2 - k + 1) :=
            Nat.mul_lt_mul_of_pos_right below (Nat.pow_pos (by decide))
        _ = d * 10 ^ digits := by rw [Nat.mul_assoc, ← Nat.pow_add, together]
  · rw [leading]
    have exponent : (-(k + 1 : Nat) : Int) - (digits - 1 : Nat) = .negSucc (k + digits - 1) := by
      omega
    have together : k + digits - 1 + 1 = k + digits := by omega
    rw [exponent, inSteps, together, Nat.pow_add, ← Nat.mul_assoc]
    exact Nat.mul_lt_mul_of_pos_right below (Nat.pow_pos (by decide))

/-! ## The decimals of a double -/

/-- A decimal magnitude of a size that writing a double can meet. -/
structure Scaled.Moderate (s : Scaled) : Prop where
  coefficient : s.coefficient < 10 ^ 1500
  least : -1500 ≤ s.exponent
  greatest : s.exponent ≤ 1000

/-- One has more than 10^323 units and fewer than 10^324. -/
theorem unitsPerOne_bounds : 10 ^ 323 < unitsPerOne ∧ unitsPerOne < 10 ^ 324 := by
  decide +kernel

/-- The first digit of a finite double is neither above 10^308 nor below 10^-324. -/
theorem leadingExponent_bounds {units : Nat} (positive : 0 < units)
    (finite : units < unitsLimit) :
    -324 ≤ leadingExponent units unitsPerOne ∧ leadingExponent units unitsPerOne ≤ 308 := by
  rcases leadingExponent_cases positive unitsPerOne_pos with
    ⟨k, leading, below, -⟩ | ⟨k, leading, below, -⟩
  · have limit : unitsLimit < unitsPerOne * 10 ^ 309 := by decide +kernel
    have less : unitsPerOne * 10 ^ k < unitsPerOne * 10 ^ 309 :=
      Nat.lt_of_le_of_lt below (Nat.lt_trans finite limit)
    have exponent : k < 309 := lt_of_mul_pow_lt less
    rw [leading]
    omega
  · have less : units * 10 ^ k < units * 10 ^ 324 :=
      Nat.lt_of_lt_of_le (Nat.lt_trans below unitsPerOne_bounds.2)
        (Nat.le_mul_of_pos_left _ positive)
    have exponent : k < 324 := lt_of_mul_pow_lt less
    rw [leading]
    omega

/-- A neighbour among the decimals with so many digits has the exponent of their last digit and is
at most one step above the magnitude. -/
theorem neighbourReadingBack?_size {digits units : Nat} {s : Scaled}
    (found : neighbourReadingBack? digits units = some s) :
    s.exponent = leadingExponent units unitsPerOne - (digits - 1 : Nat) ∧
      s.coefficient ≤ (inSteps units unitsPerOne s.exponent).1 /
        (inSteps units unitsPerOne s.exponent).2 + 1 := by
  unfold neighbourReadingBack? at found
  simp only at found
  generalize leadingExponent units unitsPerOne - ((digits - 1 : Nat) : Int) = exponent at found ⊢
  split at found
  · rw [← Option.some.inj found]
    exact ⟨rfl, roundHalfEven_le_succ _ _⟩
  · split at found
    · rw [← Option.some.inj found]
      exact ⟨rfl, Nat.le_succ _⟩
    · split at found
      · rw [← Option.some.inj found]
        exact ⟨rfl, Nat.le_refl _⟩
      · cases found

/-- A neighbour among the decimals with few digits is of moderate size. -/
theorem neighbourReadingBack?_moderate {digits units : Nat} {s : Scaled} (positive : 0 < units)
    (finite : units < unitsLimit) (some_digit : 0 < digits) (few : digits ≤ 17)
    (found : neighbourReadingBack? digits units = some s) :
    s.coefficient ≤ 10 ^ 17 ∧ -1000 ≤ s.exponent ∧ s.exponent ≤ 400 := by
  obtain ⟨exponent, coefficient⟩ := neighbourReadingBack?_size found
  obtain ⟨least, greatest⟩ := leadingExponent_bounds positive finite
  have steps := Nat.div_lt_of_lt_mul (inSteps_lt positive unitsPerOne_pos some_digit)
  rw [← exponent] at steps
  have limit : 10 ^ digits ≤ 10 ^ 17 := Nat.pow_le_pow_right (by decide) few
  refine ⟨?_, by omega, by omega⟩
  exact Nat.le_trans coefficient (Nat.le_trans steps limit)

/-- Dropping zeros leaves a smaller coefficient and raises the exponent by no more than the bound
on the number of zeros. -/
theorem Scaled.dropZeros_size (fuel : Nat) (s : Scaled) :
    (s.dropZeros fuel).coefficient ≤ s.coefficient ∧ s.exponent ≤ (s.dropZeros fuel).exponent ∧
      (s.dropZeros fuel).exponent ≤ s.exponent + fuel := by
  induction fuel generalizing s with
  | zero => exact ⟨Nat.le_refl _, Int.le_refl _, by rw [dropZeros]; omega⟩
  | succ fuel ih =>
    unfold dropZeros
    split
    · obtain ⟨coefficient, least, greatest⟩ := ih ⟨s.coefficient / 10, s.exponent + 1⟩
      have smaller := Nat.div_le_self s.coefficient 10
      simp only at coefficient least greatest
      omega
    · omega

/-- The shortest decimal of a finite double is of moderate size. -/
theorem shortest_moderate {units : Nat} (positive : 0 < units) (finite : units < unitsLimit) :
    (shortest units).Moderate := by
  have candidate : ∀ s : Scaled, s.coefficient < 10 ^ 1500 → -1500 ≤ s.exponent →
      s.exponent ≤ 400 → (s.dropZeros 400).Moderate := by
    intro s coefficient least greatest
    obtain ⟨smaller, risen, bounded⟩ := s.dropZeros_size 400
    exact ⟨Nat.lt_of_le_of_lt smaller coefficient, by omega, by omega⟩
  unfold shortest
  simp only
  cases found : (List.range 17).filterMap fun fewer => neighbourReadingBack? (fewer + 1) units with
  | nil =>
    -- The exact decimal is never needed, but it would be moderate too.
    have limit : unitsLimit * 5 ^ unitExponent ≤ 10 ^ 1500 := by decide +kernel
    have coefficient : units * 5 ^ unitExponent < unitsLimit * 5 ^ unitExponent :=
      Nat.mul_lt_mul_of_pos_right finite (Nat.pow_pos (by decide))
    have exact_moderate : (exactScaled units).coefficient < 10 ^ 1500 :=
      Nat.lt_of_lt_of_le coefficient limit
    exact candidate (exactScaled units) exact_moderate
      (show (-1500 : Int) ≤ -1074 by decide) (show (-1074 : Int) ≤ 400 by decide)
  | cons s others =>
    have member : s ∈ (List.range 17).filterMap fun fewer =>
        neighbourReadingBack? (fewer + 1) units := by
      rw [found]
      exact List.mem_cons_self ..
    obtain ⟨fewer, inRange, reads⟩ := List.mem_filterMap.1 member
    have few := List.mem_range.1 inRange
    obtain ⟨coefficient, least, greatest⟩ :=
      neighbourReadingBack?_moderate positive finite (Nat.succ_pos fewer) few reads
    have limit : 10 ^ 17 < 10 ^ 1500 := by decide +kernel
    exact candidate s (Nat.lt_of_le_of_lt coefficient limit) (by omega) greatest

end Reckoner
