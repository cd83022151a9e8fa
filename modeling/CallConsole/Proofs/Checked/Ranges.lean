/-
**The arithmetic of ranges in machine words.**

The length and the elements of a range are computed in words of 128 bits and moved into words of 64
bits without a check:

* `rangeLength_eq`: the length found is that of the range, for all bounds and every step;
* `rangeElement_eq`: so is the element at every index that is a word.
-/

import CallConsole.Proofs.Checked.Words
import CallConsole.Range

namespace CallConsole

open Width

namespace Range

/-- **A range has fewer than `2 ^ 64` elements**: they are different integers, and at least one
integer is not among them. -/
theorem length_lt (r : Range) : r.length < 2 ^ 64 := by
  have start := Integer.fits_toInt r.start
  have stop := Integer.fits_toInt r.stop
  have nonzero := r.step_toInt_ne_zero
  unfold Integer.Fits at start stop
  unfold length
  by_cases up : 0 < r.step.toInt
  · rw [if_pos up]
    split
    case isTrue before =>
      have steps := Int.ediv_le_self r.step.toInt
        (show 0 ≤ r.stop.toInt - r.start.toInt - 1 by omega)
      omega
    case isFalse => omega
  · rw [if_neg up]
    split
    case isTrue before =>
      have steps := Int.ediv_le_self (-r.step.toInt)
        (show 0 ≤ r.start.toInt - r.stop.toInt - 1 by omega)
      omega
    case isFalse => omega

end Range

namespace Checked

/-- The number of steps of the given width that lead from one bound to before the other. -/
def stepCount (near far : Int) (step : Checked Int) : Checked Int := do
  let distance ← signed128.check (far - near)
  let last ← signed128.check (distance - 1)
  let width ← step
  let further ← quotient signed128 last width
  signed128.check (further + 1)

/-- The length of a range. -/
def rangeLength (r : Range) : Checked Nat := do
  let count ←
    if 0 < r.step.toInt ∧ r.start.toInt < r.stop.toInt then
      stepCount r.start.toInt r.stop.toInt (.ok r.step.toInt)
    else if r.step.toInt < 0 ∧ r.stop.toInt < r.start.toInt then
      stepCount r.stop.toInt r.start.toInt (signed128.check (-r.step.toInt))
    else .ok 0
  .ok (unsigned64.wrap count).toNat

/-- The element of a range at an index. -/
def rangeElement (r : Range) (index : Nat) : Checked Integer := do
  let distance ← signed128.check (index * r.step.toInt)
  let value ← signed128.check (r.start.toInt + distance)
  .ok (Int64.ofInt value)

/-- Between two integers there is room for the steps to be counted. -/
theorem stepCount_eq {near far width : Int} (least : -2 ^ 63 ≤ near) (most : far < 2 ^ 63)
    (order : near < far) (positive : 0 < width) :
    stepCount near far (.ok width) = .ok ((far - near - 1) / width + 1) := by
  have distance : signed128.Fits (far - near) := fits_signed128_iff.mpr (by omega)
  have last : signed128.Fits (far - near - 1) := fits_signed128_iff.mpr (by omega)
  have towardsZero : (far - near - 1).tdiv width = (far - near - 1) / width :=
    Int.tdiv_eq_ediv_of_nonneg (by omega)
  have least' : 0 ≤ (far - near - 1) / width := Int.ediv_nonneg (by omega) (by omega)
  have most' : (far - near - 1) / width ≤ far - near - 1 := Int.ediv_le_self _ (by omega)
  have further : signed128.Fits ((far - near - 1).tdiv width) := by
    rw [towardsZero]
    exact fits_signed128_iff.mpr (by omega)
  have count : signed128.Fits ((far - near - 1) / width + 1) := fits_signed128_iff.mpr (by omega)
  simp only [stepCount, check_of_fits distance, check_of_fits last, ok_bind,
    quotient_of_fits (Int.ne_of_gt positive) further, towardsZero, check_of_fits count]

/-- **The length found is that of the range.** -/
theorem rangeLength_eq (r : Range) : rangeLength r = .ok r.length := by
  have start := Integer.fits_toInt r.start
  have stop := Integer.fits_toInt r.stop
  have step := Integer.fits_toInt r.step
  unfold Integer.Fits at start stop step
  have counted {near far width : Int} (shape : r.length = ((far - near - 1) / width + 1).toNat)
      (order : near < far) (positive : 0 < width) :
      (unsigned64.wrap ((far - near - 1) / width + 1)).toNat = r.length := by
    have steps : 0 ≤ (far - near - 1) / width := Int.ediv_nonneg (by omega) (by omega)
    have bound := r.length_lt
    rw [wrap_of_fits (fits_unsigned64_iff.mpr (by omega)), ← shape]
  unfold rangeLength
  by_cases forward : 0 < r.step.toInt ∧ r.start.toInt < r.stop.toInt
  · have shape : r.length = ((r.stop.toInt - r.start.toInt - 1) / r.step.toInt + 1).toNat := by
      rw [Range.length, if_pos forward.1, if_pos forward.2]
    rw [if_pos forward, stepCount_eq start.1 stop.2 forward.2 forward.1]
    exact congrArg Except.ok (counted shape forward.2 forward.1)
  rw [if_neg forward]
  by_cases backward : r.step.toInt < 0 ∧ r.stop.toInt < r.start.toInt
  · have shape : r.length = ((r.start.toInt - r.stop.toInt - 1) / -r.step.toInt + 1).toNat := by
      rw [Range.length, if_neg (by omega), if_pos backward.2]
    have width : signed128.Fits (-r.step.toInt) := fits_signed128_iff.mpr (by omega)
    rw [if_pos backward, check_of_fits width, stepCount_eq stop.1 start.2 backward.2 (by omega)]
    exact congrArg Except.ok (counted shape backward.2 (by omega))
  · have shape : r.length = 0 := by
      have nonzero := r.step_toInt_ne_zero
      unfold Range.length
      split
      case isTrue up => exact if_neg fun order => forward ⟨up, order⟩
      case isFalse down => exact if_neg fun order => backward ⟨by omega, order⟩
    rw [if_neg backward, ok_bind, shape]
    rfl

/-- **The element found is that of the range**, whether the index lies inside or not. -/
theorem rangeElement_eq (r : Range) {index : Nat} (word : index < 2 ^ 64) :
    rangeElement r index = .ok (r.element index) := by
  have start := Integer.fits_toInt r.start
  have step := Integer.fits_toInt r.step
  unfold Integer.Fits at start step
  have least : (index : Int) * -2 ^ 63 ≤ index * r.step.toInt :=
    Int.mul_le_mul_of_nonneg_left step.1 (by omega)
  have most : (index : Int) * r.step.toInt ≤ index * (2 ^ 63 - 1) :=
    Int.mul_le_mul_of_nonneg_left (by omega) (by omega)
  have distance : signed128.Fits (index * r.step.toInt) := fits_signed128_iff.mpr (by omega)
  have value : signed128.Fits (r.start.toInt + index * r.step.toInt) :=
    fits_signed128_iff.mpr (by omega)
  simp only [rangeElement, check_of_fits distance, check_of_fits value, ok_bind]
  rfl

end Checked

end CallConsole
