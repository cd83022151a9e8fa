/-
**Rounding a quotient to the nearest whole number, a half to the even neighbour.**

* `nearestEven_near`: the result is within half a unit of the quotient;
* `nearestEven_even_of_half`: exactly half-way the result is even;
* `nearestEven_mul_right`: a common factor changes nothing.
-/

namespace CallConsole

/-- The whole number nearest to `numerator / denominator`; of two equally near ones the even one. -/
def nearestEven (numerator denominator : Nat) : Nat :=
  let quotient := numerator / denominator
  let remainder := numerator % denominator
  if 2 * remainder < denominator then quotient
  else if denominator < 2 * remainder then quotient + 1
  else quotient + quotient % 2

/-- **The rounded quotient is within half a unit of the exact one.** -/
theorem nearestEven_near (numerator : Nat) {denominator : Nat} (positive : 0 < denominator) :
    2 * (nearestEven numerator denominator * denominator) ≤ 2 * numerator + denominator ∧
      2 * numerator ≤ 2 * (nearestEven numerator denominator * denominator) + denominator := by
  have split := Nat.div_add_mod numerator denominator
  have small := Nat.mod_lt numerator positive
  have next : (numerator / denominator + 1) * denominator =
      denominator * (numerator / denominator) + denominator := by
    rw [Nat.add_mul, Nat.one_mul, Nat.mul_comm]
  have same : numerator / denominator * denominator = denominator * (numerator / denominator) :=
    Nat.mul_comm ..
  simp only [nearestEven]
  split
  · omega
  · split
    · omega
    · rcases Nat.mod_two_eq_zero_or_one (numerator / denominator) with even | odd
      · rw [even, Nat.add_zero]; omega
      · rw [odd]; omega

/-- Exactly half-way between two whole numbers the even one is taken. -/
theorem nearestEven_even_of_half {numerator denominator : Nat}
    (half : 2 * (numerator % denominator) = denominator) :
    nearestEven numerator denominator % 2 = 0 := by
  simp only [nearestEven, half, Nat.lt_irrefl, if_false]
  omega

/-- A common factor of numerator and denominator changes nothing. -/
theorem nearestEven_mul_right (numerator denominator : Nat) {factor : Nat} (positive : 0 < factor) :
    nearestEven (numerator * factor) (denominator * factor) =
      nearestEven numerator denominator := by
  have quotient := Nat.mul_div_mul_right numerator denominator positive
  have remainder := Nat.mul_mod_mul_right factor numerator denominator
  have scaled : 2 * (numerator % denominator * factor) = 2 * (numerator % denominator) * factor :=
    (Nat.mul_assoc ..).symm
  simp only [nearestEven, quotient, remainder, scaled, Nat.mul_lt_mul_right positive]

end CallConsole
