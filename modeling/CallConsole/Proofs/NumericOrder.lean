/-
**The numeric order is exact.**

Every number but NaN is a whole number of units of `2 ^ -1074`, an infinity counting as `2 ^ 1024`.
The order of two numbers is the order of these integers:

* `Number.order?_eq`: there is no order beside a NaN, and otherwise it is that of the units;
* `Number.order?_eq_some_eq_iff`: numbers rank alike exactly when they are numerically equal;
* `Double.toInteger?_eq_some_iff`: the integer found for a double is the one that it equals.
-/

import CallConsole.Number

namespace CallConsole

namespace Double

/-- One is a positive number of units. -/
theorem oneUnits_pos : 0 < oneUnits := by
  rw [oneUnits]
  exact Nat.two_pow_pos 1074

/-- A double is its sign and its code. -/
theorem eq_of_negative_of_code {x y : Double} (sign : x.negative = y.negative)
    (codes : x.code = y.code) : x = y := by
  obtain ⟨x⟩ := x
  obtain ⟨y⟩ := y
  simp only [negative, code, decide_eq_decide] at sign codes
  have first := x.toNat_lt
  have second := y.toNat_lt
  have same : x.toNat = y.toNat := by omega
  rw [UInt64.toNat_inj.mp same]

/-- Two doubles with the same units are the same, up to the sign of a zero. -/
theorem eq_of_signedUnits {x y : Double} (same : x.signedUnits = y.signedUnits)
    (nonzero : x.signedUnits ≠ 0) : x = y := by
  have sign : x.negative = y.negative ∧ x.units = y.units := by
    unfold signedUnits at same nonzero
    cases first : x.negative <;> cases second : y.negative <;> simp [first, second] at * <;> omega
  exact eq_of_negative_of_code sign.1 (unitsOfCode_injective sign.2)

/-- An infinity has `2 ^ 1024` times the units of one. -/
theorem units_of_isInfinite {x : Double} (infinite : x.code = infinityCode) :
    x.units = 2 ^ 1024 * oneUnits := by
  have regroup (a b c d : Nat) (same : a + b = c + d) : 2 ^ a * 2 ^ b = 2 ^ c * 2 ^ d := by
    rw [← Nat.pow_add, same, Nat.pow_add]
  rw [units, infinite, infinityCode, unitsOfCode_eq (by omega), Nat.mul_mod_left, Nat.add_zero,
    Nat.mul_div_cancel _ (Nat.two_pow_pos _), oneUnits, regroup 52 (2047 - 1) 1024 1074 rfl]

/-- A double that equals an integer has a whole multiple of the units of one. -/
theorem units_eq_of_signedUnits {x : Double} {n : Int} (same : x.signedUnits = n * oneUnits) :
    x.units = n.natAbs * oneUnits := by
  have absolute : x.signedUnits.natAbs = x.units := by
    unfold signedUnits
    split <;> omega
  rw [← absolute, same, Int.natAbs_mul, Int.natAbs_natCast]

/-- A double that equals a word is finite. -/
theorem code_lt_of_signedUnits {x : Double} {n : Integer} (number : x.isNan = false)
    (same : x.signedUnits = n.toInt * oneUnits) : x.code < infinityCode := by
  have notAbove : x.code ≤ infinityCode := by simpa [isNan] using number
  refine Nat.lt_of_le_of_ne notAbove fun infinite => ?_
  have size := units_eq_of_signedUnits same
  rw [units_of_isInfinite infinite] at size
  have magnitude := Nat.eq_of_mul_eq_mul_right oneUnits_pos size
  have word : n.toInt.natAbs ≤ 2 ^ 63 := by
    have := n.le_toInt
    have := n.toInt_lt
    omega
  have grows (a b : Nat) (less : a < b) : 2 ^ a < 2 ^ b := Nat.pow_lt_pow_right (by decide) less
  rw [← magnitude] at word
  exact absurd word (Nat.not_le.mpr (grows 63 1024 (by decide)))

/-- **The integer found for a double is the one that the double equals.** -/
theorem toInteger?_eq_some_iff {x : Double} {n : Integer} :
    x.toInteger? = some n ↔ x.isNan = false ∧ x.signedUnits = n.toInt * oneUnits := by
  unfold toInteger? isIntegral
  constructor
  · intro found
    split at found
    case isFalse => cases found
    case isTrue integral =>
      simp only [isFinite, Bool.and_eq_true, decide_eq_true_eq] at integral
      have value := Integer.ofInt?_eq_some_iff.mp found
      have whole : x.units = x.units / oneUnits * oneUnits := by
        have := Nat.div_add_mod x.units oneUnits
        rw [integral.2, Nat.add_zero, Nat.mul_comm] at this
        exact this.symm
      refine ⟨by simpa [isNan] using Nat.le_of_lt integral.1, ?_⟩
      rw [value, truncate, signedUnits]
      split
      · rw [Int.neg_mul, ← Int.natCast_mul, ← whole]
      · rw [← Int.natCast_mul, ← whole]
  · rintro ⟨number, same⟩
    have finite := code_lt_of_signedUnits number same
    have size := units_eq_of_signedUnits same
    have integral : (x.isFinite && decide (x.units % oneUnits = 0)) = true := by
      simp [isFinite, finite, size]
    rw [if_pos integral, Integer.ofInt?_eq_some_iff, truncate, size,
      Nat.mul_div_cancel _ oneUnits_pos]
    have positive : (0 : Int) < oneUnits := Int.natCast_pos.mpr oneUnits_pos
    unfold signedUnits at same
    split
    case isTrue sign =>
      rw [if_pos sign] at same
      have below : n.toInt ≤ 0 := by
        refine Int.not_lt.mp fun above => ?_
        have := Int.mul_pos above positive
        omega
      omega
    case isFalse sign =>
      rw [if_neg sign] at same
      have above : 0 ≤ n.toInt := by
        refine Int.not_lt.mp fun below => ?_
        have := Int.mul_neg_of_neg_of_pos below positive
        omega
      omega

end Double

namespace Number

/-- The two numbers are numerically equal. NaN equals nothing. -/
def Same (a b : Number) : Prop :=
  a.isNan = false ∧ b.isNan = false ∧ a.signedUnits = b.signedUnits

/-- Scaling by a positive factor keeps the order. -/
theorem compare_mul_right (m n : Int) {factor : Int} (positive : 0 < factor) :
    compare (m * factor) (n * factor) = compare m n := by
  rcases Int.lt_trichotomy m n with less | equal | greater
  · rw [Int.compare_eq_lt.mpr less,
      Int.compare_eq_lt.mpr (Int.mul_lt_mul_of_pos_right less positive)]
  · rw [equal, Int.compare_eq_eq.mpr rfl, Int.compare_eq_eq.mpr rfl]
  · rw [Int.compare_eq_gt.mpr greater,
      Int.compare_eq_gt.mpr (Int.mul_lt_mul_of_pos_right greater positive)]

/-- **The order of two numbers is that of their units**; there is none beside a NaN. -/
theorem order?_eq (a b : Number) :
    a.order? b =
      if a.isNan || b.isNan then none else some (compare a.signedUnits b.signedUnits) := by
  cases a with
  | float x => rfl
  | int m =>
    cases b with
    | float y => rfl
    | int n =>
      have positive : (0 : Int) < Double.oneUnits := Int.natCast_pos.mpr Double.oneUnits_pos
      show some (compare m.toInt n.toInt) =
        some (compare (m.toInt * Double.oneUnits) (n.toInt * Double.oneUnits))
      rw [compare_mul_right _ _ positive]

/-- Two numbers have an order exactly when neither is NaN. -/
theorem order?_of_not_nan {a b : Number} (first : a.isNan = false) (second : b.isNan = false) :
    a.order? b = some (compare a.signedUnits b.signedUnits) := by
  rw [order?_eq, first, second]
  rfl

/-- **Numbers rank alike exactly when they are numerically equal.** -/
theorem order?_eq_some_eq_iff {a b : Number} : a.order? b = some .eq ↔ a.Same b := by
  rw [order?_eq]
  unfold Same
  cases a.isNan <;> cases b.isNan <;> simp

/-- Turning the pair around turns the order around. -/
theorem order?_swap (a b : Number) : b.order? a = (a.order? b).map Ordering.swap := by
  rw [order?_eq, order?_eq, Bool.or_comm]
  split
  · rfl
  · rw [Option.map_some, Int.compare_swap]

theorem Same.symm {a b : Number} (same : a.Same b) : b.Same a :=
  ⟨same.2.1, same.1, same.2.2.symm⟩

theorem Same.trans {a b c : Number} (first : a.Same b) (second : b.Same c) : a.Same c :=
  ⟨first.1, second.2.1, first.2.2.trans second.2.2⟩

/-- Every number but NaN equals itself. -/
theorem Same.refl {a : Number} (number : a.isNan = false) : a.Same a := ⟨number, number, rfl⟩

end Number

end CallConsole
