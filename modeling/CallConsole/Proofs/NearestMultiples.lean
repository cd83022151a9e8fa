/-
**Nearest multiples of a unit.**

A value lies between two multiples of a unit, and the nearer one is the nearest of all; half-way
between them the even one is taken:

* `nearestMultiple_iff`: the nearest multiple is the one within half a unit, which is even at
  exactly half a unit;
* `NearestMultiple.unique`: there is only one;
* `nearestMultiple_nearestEven`: a rounded quotient counts the nearest multiple of its denominator.
-/

import CallConsole.HalfEven
import Mathlib.Algebra.Order.Field.Rat
import Mathlib.Algebra.Order.Ring.Abs
import Mathlib.Tactic.Linarith
import Mathlib.Tactic.NormNum
import Mathlib.Tactic.Ring

namespace CallConsole

/-- **Of all multiples of the unit, this one is nearest to the value**; if another one is as near,
it is an even number of units. -/
structure NearestMultiple (unit value : Rat) (m : Int) : Prop where
  near : ∀ k : Int, |value - m * unit| ≤ |value - k * unit|
  even : ∀ k : Int, k ≠ m → |value - k * unit| = |value - m * unit| → m % 2 = 0

variable {unit value factor : Rat} {m n : Int}

/-- What is this many units away from one multiple is that far from the next. -/
theorem abs_sub_succ_mul (value unit : Rat) (m : Int) :
    |value - (m + 1 : Int) * unit| = |(value - m * unit) - unit| := by
  push_cast
  congr 1
  ring

theorem abs_sub_pred_mul (value unit : Rat) (m : Int) :
    |value - (m - 1 : Int) * unit| = |(value - m * unit) + unit| := by
  push_cast
  congr 1
  ring

/-- **The nearest multiple lies within half a unit, and is even if it lies exactly that far.** -/
theorem nearestMultiple_iff (positive : 0 < unit) : NearestMultiple unit value m ↔
    |value - m * unit| ≤ unit / 2 ∧ (|value - m * unit| = unit / 2 → m % 2 = 0) := by
  constructor
  · intro nearest
    have above := nearest.near (m + 1)
    have below := nearest.near (m - 1)
    have evenAbove := nearest.even (m + 1) (by omega)
    have evenBelow := nearest.even (m - 1) (by omega)
    rw [abs_sub_succ_mul] at above evenAbove
    rw [abs_sub_pred_mul] at below evenBelow
    generalize value - m * unit = distance at *
    rcases abs_cases distance with ⟨same, sign⟩ | ⟨same, sign⟩
    · constructor
      · rcases abs_cases (distance - unit) with ⟨other, _⟩ | ⟨other, _⟩ <;> linarith
      · intro half
        refine evenAbove ?_
        rw [abs_of_nonpos (by linarith)]
        linarith
    · constructor
      · rcases abs_cases (distance + unit) with ⟨other, _⟩ | ⟨other, _⟩ <;> linarith
      · intro half
        refine evenBelow ?_
        rw [abs_of_nonneg (by linarith)]
        linarith
  · rintro ⟨half, even⟩
    -- another multiple is a unit away at least, and so half a unit away from the value
    have away (k : Int) (other : k ≠ m) : unit / 2 ≤ |value - k * unit| := by
      have apart : (1 : Rat) ≤ |((m - k : Int) : Rat)| := by
        exact_mod_cast Int.one_le_abs (sub_ne_zero.mpr other.symm)
      have units : unit ≤ |(m - k : Int) * unit| := by
        rw [abs_mul, abs_of_pos positive]
        exact le_mul_of_one_le_left positive.le apart
      have between : (m - k : Int) * unit = (value - k * unit) - (value - m * unit) := by
        push_cast
        ring
      rw [between] at units
      have triangle := abs_sub (value - k * unit) (value - m * unit)
      linarith
    constructor
    · intro k
      by_cases same : k = m
      · rw [same]
      · exact le_trans half (away k same)
    · intro k other tied
      exact even (le_antisymm half (tied ▸ away k other))

/-- **There is only one nearest multiple.** -/
theorem NearestMultiple.unique (positive : 0 < unit) (first : NearestMultiple unit value m)
    (second : NearestMultiple unit value n) : m = n := by
  by_contra differ
  have evenFirst := first.even n (Ne.symm differ)
    (le_antisymm (second.near m) (first.near n))
  have evenSecond := second.even m differ (le_antisymm (first.near n) (second.near m))
  have halfFirst := ((nearestMultiple_iff positive).mp first).1
  have halfSecond := ((nearestMultiple_iff positive).mp second).1
  -- two different even numbers are two apart, but both lie within half a unit of the value
  have apart : (2 : Rat) ≤ |((m - n : Int) : Rat)| := by
    have two : 2 ≤ |m - n| := by
      rcases abs_cases (m - n) with ⟨same, _⟩ | ⟨same, _⟩ <;> omega
    exact_mod_cast two
  have units : 2 * unit ≤ |(m - n : Int) * unit| := by
    rw [abs_mul, abs_of_pos positive]
    exact mul_le_mul_of_nonneg_right apart positive.le
  have between : (m - n : Int) * unit = (value - n * unit) - (value - m * unit) := by
    push_cast
    ring
  rw [between] at units
  have triangle := abs_sub (value - n * unit) (value - m * unit)
  linarith

/-- The nearest multiple, said as the only one that is nearest. -/
theorem NearestMultiple.eq_iff (positive : 0 < unit) (nearest : NearestMultiple unit value m) :
    NearestMultiple unit value n ↔ n = m :=
  ⟨fun other => other.unique positive nearest, fun same => same ▸ nearest⟩

/-- A value below zero has the multiple of its absolute value, below zero. -/
theorem NearestMultiple.neg (positive : 0 < unit) (nearest : NearestMultiple unit value m) :
    NearestMultiple unit (-value) (-m) := by
  have mirrored : |-value - (-m : Int) * unit| = |value - m * unit| := by
    rw [← abs_neg]
    push_cast
    congr 1
    ring
  rw [nearestMultiple_iff positive] at nearest ⊢
  rw [mirrored]
  exact ⟨nearest.1, fun half => by have := nearest.2 half; omega⟩

/-- The scale does not matter. -/
theorem nearestMultiple_mul_right (positive : 0 < factor) :
    NearestMultiple (unit * factor) (value * factor) m ↔ NearestMultiple unit value m := by
  have scaled (k : Int) :
      |value * factor - k * (unit * factor)| = |value - k * unit| * factor := by
    rw [← abs_of_pos positive, ← abs_mul, abs_of_pos positive]
    congr 1
    ring
  constructor
  · intro nearest
    refine ⟨fun k => ?_, fun k other tied => ?_⟩
    · exact le_of_mul_le_mul_right (scaled m ▸ scaled k ▸ nearest.near k) positive
    · exact nearest.even k other (by rw [scaled, scaled, tied])
  · intro nearest
    refine ⟨fun k => ?_, fun k other tied => ?_⟩
    · rw [scaled, scaled]
      exact mul_le_mul_of_nonneg_right (nearest.near k) positive.le
    · rw [scaled, scaled] at tied
      exact nearest.even k other (mul_right_cancel₀ positive.ne' tied)

/-- Exactly half a unit away from the rounded quotient, the remainder is half the denominator. -/
theorem mod_of_half {numerator denominator : Nat} (positive : 0 < denominator)
    (half : 2 * |(numerator : Int) - nearestEven numerator denominator * denominator| =
      denominator) : 2 * (numerator % denominator) = denominator := by
  have split : (numerator : Int) =
      (numerator / denominator : Nat) * denominator + (numerator % denominator : Nat) := by
    exact_mod_cast (Nat.div_add_mod' numerator denominator).symm
  have small := Nat.mod_lt numerator positive
  have near : nearestEven numerator denominator = numerator / denominator ∨
      nearestEven numerator denominator = numerator / denominator + 1 := by
    unfold nearestEven
    dsimp only
    split_ifs <;> omega
  generalize numerator / denominator = quotient at split near
  generalize numerator % denominator = rest at split small ⊢
  rcases near with below | above
  · have distance : (numerator : Int) - quotient * denominator = rest := by linarith
    rw [below, distance, Nat.abs_cast] at half
    exact_mod_cast half
  · have distance : (numerator : Int) - (quotient + 1 : Nat) * denominator =
        -(denominator - rest : Int) := by
      push_cast
      linarith
    rw [above, distance, abs_neg, abs_of_nonneg (by omega)] at half
    omega

/-- **The rounded quotient counts the nearest multiple of the denominator.** -/
theorem nearestMultiple_nearestEven (numerator : Nat) {denominator : Nat}
    (positive : 0 < denominator) :
    NearestMultiple denominator numerator (nearestEven numerator denominator) := by
  obtain ⟨above, below⟩ := nearestEven_near numerator positive
  refine (nearestMultiple_iff (Nat.cast_pos.mpr positive)).mpr ⟨?_, fun half => ?_⟩
  · have above' : (2 * (nearestEven numerator denominator * denominator) : Rat) ≤
        2 * numerator + denominator := by exact_mod_cast above
    have below' : (2 * numerator : Rat) ≤
        2 * (nearestEven numerator denominator * denominator) + denominator := by
      exact_mod_cast below
    rw [Int.cast_natCast, abs_le]
    constructor <;> linarith
  · have doubled : (2 * |(numerator : Rat) -
        (nearestEven numerator denominator : Int) * denominator| : Rat) = denominator := by
      rw [half]
      ring
    have even := nearestEven_even_of_half (mod_of_half positive (by exact_mod_cast doubled))
    omega

end CallConsole
