/-
**The decimals that doubles are written as.**

* `copySign_ofDecimal`: the sign of a double that is read from a decimal can be given afterwards;
* `digits_shortest_ne_zero`: what a double other than zero is written as is not zero;
* `significant_ne_nil`: so it has significant digits, and they are digits;
* `exponent_significant_near`: the exponent of the first of them is a small number.
-/

import CallConsole.Double.Writing
import CallConsole.Proofs.Numerals
import CallConsole.Proofs.NumericOrder
import Mathlib.Algebra.Order.Ring.Nat

namespace CallConsole

namespace Decimal

/-- A number below a power of ten has so many digits at most. -/
theorem length_le {n count : Nat} (some : 0 < count) (below : n < 10 ^ count) :
    length n ≤ count :=
  (Nat.length_toDigits_le_iff (by decide) some).mpr below

theorem length_pos (n : Nat) : 0 < length n := Nat.length_toDigits_pos

end Decimal

namespace Double

/-! ### Signs and codes -/

/-- A double made of a code has that code. -/
theorem code_ofCode (negative : Bool) {code : Nat} (word : code < 2 ^ 63) :
    (ofCode negative code).code = code := by
  unfold ofCode Double.code
  rw [UInt64.toNat_ofNat']
  split <;> omega

/-- A double made of a code has the sign that it was given. -/
theorem negative_ofCode (negative : Bool) {code : Nat} (word : code < 2 ^ 63) :
    (ofCode negative code).negative = negative := by
  unfold ofCode Double.negative
  rw [UInt64.toNat_ofNat']
  cases negative with
  | false =>
    rw [if_neg Bool.false_ne_true]
    exact decide_eq_false (by omega)
  | true =>
    rw [if_pos rfl]
    exact decide_eq_true (by omega)

/-- The double with the sign of another one. -/
def copySign (x sign : Double) : Double := ofCode sign.negative x.code

theorem infinityCode_lt : infinityCode < 2 ^ 63 := by
  unfold infinityCode
  omega

/-- The nearest code is at most that of infinity. -/
theorem nearestCode_lt (numerator denominator : Nat) :
    nearestCode numerator denominator < 2 ^ 63 :=
  Nat.lt_of_le_of_lt (Nat.min_le_right _ _) infinityCode_lt

/-- A double that is read from a decimal is a code, with the sign that was read. -/
theorem ofDecimal_eq_ofCode (decimal : Decimal) : ∃ code < 2 ^ 63, ∀ negative,
    ofDecimal negative decimal = ofCode negative code := by
  unfold ofDecimal
  simp only
  split
  · exact ⟨0, by decide, fun _ => rfl⟩
  split
  · exact ⟨infinityCode, infinityCode_lt, fun _ => rfl⟩
  · exact ⟨_, nearestCode_lt _ _, fun _ => rfl⟩

/-- A decimal without digits is read as zero. -/
theorem ofDecimal_of_zero (negative : Bool) {decimal : Decimal} (none : decimal.digits = 0) :
    ofDecimal negative decimal = zero negative :=
  if_pos (.inl none)

/-- **The sign can be given afterwards.** -/
theorem copySign_ofDecimal (decimal : Decimal) (x : Double) :
    (ofDecimal false decimal).copySign x = ofDecimal x.negative decimal := by
  obtain ⟨code, word, read⟩ := ofDecimal_eq_ofCode decimal
  rw [copySign, read, read, code_ofCode false word]

/-! ### The size of finite doubles -/

/-- A finite double is less than `2 ^ 1024`. -/
theorem units_lt_of_isFinite {x : Double} (finite : x.isFinite = true) :
    x.units < 2 ^ 1024 * oneUnits := by
  have below : x.code < infinityCode := of_decide_eq_true finite
  have code : (infinite false).code = infinityCode := code_ofCode false infinityCode_lt
  rw [← units_of_isInfinite code, units, units, code]
  exact unitsOfCode_lt_unitsOfCode below

/-- A double other than zero has units. -/
theorem units_pos {x : Double} (nonzero : x.code ≠ 0) : 0 < x.units :=
  Nat.zero_lt_of_lt (unitsOfCode_lt_unitsOfCode (Nat.pos_of_ne_zero nonzero))

/-- A number below a power of two, scaled by a power of ten, has so many digits at most. -/
theorem scaled_lt {units high : Nat} (below : units < 2 ^ high * oneUnits) (power : Nat) :
    units * 10 ^ power / oneUnits + 1 < 10 ^ (high + 1 + power) := by
  have powers : 2 ^ high < 10 ^ (high + 1) :=
    calc 2 ^ high ≤ 10 ^ high := Nat.pow_le_pow_left (by decide) high
      _ < 10 ^ (high + 1) := Nat.pow_lt_pow_right (by decide) (Nat.lt_succ_self high)
  have tens := Nat.pow_pos (n := power) (show 0 < 10 by decide)
  have scaled : units * 10 ^ power / oneUnits < 2 ^ high * 10 ^ power := by
    rw [Nat.div_lt_iff_lt_mul oneUnits_pos, Nat.mul_right_comm]
    exact Nat.mul_lt_mul_of_pos_right below tens
  rw [Nat.pow_add]
  exact Nat.lt_of_le_of_lt scaled (Nat.mul_lt_mul_of_pos_right powers tens)

/-- With as many places after the point as a unit has binary ones, units are written exactly. -/
theorem scaled_exactly (units : Nat) : units * 10 ^ 1074 / oneUnits = units * 5 ^ 1074 := by
  rw [oneUnits]
  generalize 1074 = places
  rw [Nat.mul_pow 5 2 places, ← Nat.mul_assoc, Nat.mul_div_cancel _ (Nat.two_pow_pos places)]

theorem leadingExponent_near {x : Double} (finite : x.isFinite = true) :
    -324 ≤ leadingExponent x.units ∧ leadingExponent x.units ≤ 1024 := by
  have least := Decimal.length_pos (x.units * 10 ^ 324 / oneUnits)
  have most := Decimal.length_le (by decide)
    (Nat.lt_of_succ_lt (scaled_lt (units_lt_of_isFinite finite) 324))
  unfold leadingExponent
  omega

theorem length_digitsBelow_le {x : Double} (finite : x.isFinite = true) (exponent : Int)
    {digits : Nat} (near : digits ≤ digitsBelow x.units exponent + 1) :
    Decimal.length digits ≤ 1024 + 1 + (-exponent).toNat := by
  have scale : digitsBelow x.units exponent ≤ x.units * 10 ^ (-exponent).toNat / oneUnits :=
    Nat.div_le_div_left (Nat.le_mul_of_pos_right _ (Nat.pow_pos (by decide))) oneUnits_pos
  have limit := scaled_lt (units_lt_of_isFinite finite) (-exponent).toNat
  exact Decimal.length_le (by omega) (by omega)

/-! ### The decimal that is found -/

/-- What is written down to a power of ten ends there, is next to the value, and reads back. -/
theorem writtenDownTo?_cases {x : Double} {exponent : Int} {decimal : Decimal}
    (found : x.writtenDownTo? exponent = some decimal) :
    decimal.exponent = exponent ∧ decimal.digits ≤ digitsBelow x.units exponent + 1 ∧
      ofDecimal x.negative decimal = x := by
  unfold writtenDownTo? at found
  simp only [Bool.and_eq_true, decide_eq_true_eq] at found
  split at found
  case isTrue below =>
    cases found
    exact ⟨rfl, Nat.le_succ _, below.1⟩
  case isFalse =>
    split at found
    case isTrue above =>
      cases found
      exact ⟨rfl, Nat.le_refl _, above⟩
    case isFalse => cases found

/-- What a double is written as is found among its neighbours, or is its exact value. -/
theorem shortest_cases (x : Double) :
    (∃ more < 17, x.writtenDownTo? (leadingExponent x.units - (more : Nat)) = some x.shortest) ∨
      x.shortest = x.exactDecimal := by
  unfold shortest
  simp only
  cases found : (List.range 17).findSome? fun (more : Nat) =>
      x.writtenDownTo? (leadingExponent x.units - more) with
  | none => exact .inr rfl
  | some decimal =>
    obtain ⟨more, member, written⟩ := List.exists_of_findSome?_eq_some found
    exact .inl ⟨more, List.mem_range.mp member, written⟩

/-- **What a double other than zero is written as is not zero**, or it would not read back. -/
theorem digits_shortest_ne_zero {x : Double} (nonzero : x.code ≠ 0) : x.shortest.digits ≠ 0 := by
  intro none
  rcases x.shortest_cases with ⟨more, _, found⟩ | exact
  · have readsBack := (writtenDownTo?_cases found).2.2
    rw [ofDecimal_of_zero x.negative none] at readsBack
    exact nonzero (readsBack ▸ code_ofCode x.negative (by decide))
  · have powers (exponent : Nat) : 0 < 5 ^ exponent := Nat.pow_pos (by decide)
    rw [exact] at none
    exact absurd none (Nat.mul_pos (units_pos nonzero) (powers 1074)).ne'

/-! ### Significant digits -/

/-- Digits that denote a number other than zero are not all zeros. -/
theorem exists_digit_ne_zero {digits : List Char} (nonzero : Decimal.ofDigits digits ≠ 0) :
    ∃ c ∈ digits, c ≠ '0' := by
  by_contra none
  have all : ∀ c ∈ digits, c = '0' := by
    intro c member
    by_contra differs
    exact none ⟨c, member, differs⟩
  have zeros : digits = List.replicate digits.length '0' := List.eq_replicate_iff.mpr ⟨rfl, all⟩
  rw [Decimal.ofDigits, zeros, Nat.ofDigitChars_replicate_zero] at nonzero
  exact nonzero (Nat.mul_zero _)

/-- **A decimal other than zero has a significant digit.** -/
theorem significant_ne_nil {decimal : Decimal} (nonzero : decimal.digits ≠ 0) :
    (significant decimal).1 ≠ [] := by
  intro none
  have value : Decimal.ofDigits (Nat.toDigits 10 decimal.digits) ≠ 0 := by
    rwa [Decimal.ofDigits, Nat.ofDigitChars_ten_toDigits]
  obtain ⟨c, member, differs⟩ := exists_digit_ne_zero value
  have stripped := List.reverse_eq_nil_iff.mp none
  have zero := List.dropWhile_eq_nil_iff.mp stripped c (List.mem_reverse.mpr member)
  exact differs (of_decide_eq_true zero)

/-- Significant digits are digits. -/
theorem allDigits_significant (decimal : Decimal) : AllDigits (significant decimal).1 := by
  intro c member
  have kept := (List.dropWhile_sublist _).subset (List.mem_reverse.mp member)
  exact Nat.isDigit_of_mem_toDigits (by decide) (by decide) (List.mem_reverse.mp kept)

/-- **The exponent of the first digit of a finite double is a small number.** -/
theorem exponent_significant_near {x : Double} (finite : x.isFinite = true) :
    -4000 ≤ (significant x.shortest).2 ∧ (significant x.shortest).2 ≤ 4000 := by
  have first : (significant x.shortest).2 =
      Decimal.length x.shortest.digits - 1 + x.shortest.exponent := rfl
  have least := Decimal.length_pos x.shortest.digits
  rcases x.shortest_cases with ⟨more, few, found⟩ | exact
  · obtain ⟨exponent, near, _⟩ := writtenDownTo?_cases found
    have most := length_digitsBelow_le finite _ near
    have leading := leadingExponent_near finite
    omega
  · have most : Decimal.length x.shortest.digits ≤ 1024 + 1 + 1074 := by
      rw [exact]
      refine Decimal.length_le (by decide) ?_
      rw [exactDecimal, ← scaled_exactly]
      exact Nat.lt_of_succ_lt (scaled_lt (units_lt_of_isFinite finite) 1074)
    have exponent : x.shortest.exponent = -1074 := by rw [exact]; rfl
    omega

end Double

end CallConsole
