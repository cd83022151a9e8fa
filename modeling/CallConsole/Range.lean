/-
**Ranges of integers.**

A range is the progression `start, start + step, …` of the integers before `stop`. Its length and
its elements are computed on mathematical integers, and the length counts the indices whose element
is before the stop (`before_stop_iff`).
-/

import CallConsole.Integer

namespace CallConsole

/-- The integers `start, start + step, …` that come before `stop`. -/
structure Range where
  start : Integer
  stop : Integer
  step : Integer
  step_ne_zero : step ≠ 0
deriving DecidableEq

namespace Range

/-- The range with the given bounds, unless the step is zero. -/
def of? (start stop step : Integer) : Option Range :=
  if nonzero : step ≠ 0 then some ⟨start, stop, step, nonzero⟩ else none

/-- The mathematical element at `index`, inside the range or not. -/
def term (r : Range) (index : Nat) : Int := r.start.toInt + index * r.step.toInt

/-- The value lies before the stop, in the direction of the step. -/
def Before (r : Range) (value : Int) : Prop :=
  if 0 < r.step.toInt then value < r.stop.toInt else r.stop.toInt < value

instance (r : Range) (value : Int) : Decidable (r.Before value) := by
  unfold Before; infer_instance

/-- **The number of elements.** -/
def length (r : Range) : Nat :=
  if 0 < r.step.toInt then
    if r.start.toInt < r.stop.toInt then
      ((r.stop.toInt - r.start.toInt - 1) / r.step.toInt + 1).toNat
    else 0
  else if r.stop.toInt < r.start.toInt then
    ((r.start.toInt - r.stop.toInt - 1) / -r.step.toInt + 1).toNat
  else 0

/-- The element at `index`, reduced to a word when the index is far outside the range. -/
def element (r : Range) (index : Nat) : Integer := Int64.ofInt (r.term index)

/-- Two ranges run through the same integers: the length decides, then the first element, then,
from two elements on, the step. -/
def sameElements (first second : Range) : Bool :=
  first.length = second.length &&
    (first.length = 0 ||
      (first.start = second.start && (first.length = 1 || first.step = second.step)))

/-- The step of a range is no zero. -/
theorem step_toInt_ne_zero (r : Range) : r.step.toInt ≠ 0 := by
  intro zero
  exact r.step_ne_zero (Int64.toInt_inj.mp (by rw [zero]; rfl))

/-- **The length counts the indices whose element comes before the stop.** -/
theorem before_stop_iff (r : Range) (index : Nat) : r.Before (r.term index) ↔ index < r.length := by
  have nonzero := r.step_toInt_ne_zero
  unfold Before term length
  by_cases up : 0 < r.step.toInt
  · simp only [up, if_true]
    by_cases order : r.start.toInt < r.stop.toInt
    · simp only [order, if_true]
      have quotient : 0 ≤ (r.stop.toInt - r.start.toInt - 1) / r.step.toInt :=
        Int.ediv_nonneg (by omega) (by omega)
      have bound := Int.le_ediv_iff_mul_le (a := (index : Int))
        (b := r.stop.toInt - r.start.toInt - 1) up
      omega
    · simp only [order, if_false]
      have grows : 0 ≤ (index : Int) * r.step.toInt := Int.mul_nonneg (by omega) (by omega)
      omega
  · simp only [up, if_false]
    by_cases order : r.stop.toInt < r.start.toInt
    · simp only [order, if_true]
      have quotient : 0 ≤ (r.start.toInt - r.stop.toInt - 1) / -r.step.toInt :=
        Int.ediv_nonneg (by omega) (by omega)
      have bound := Int.le_ediv_iff_mul_le (a := (index : Int))
        (b := r.start.toInt - r.stop.toInt - 1) (c := -r.step.toInt) (by omega)
      have flip : (index : Int) * -r.step.toInt = -((index : Int) * r.step.toInt) :=
        Int.mul_neg ..
      omega
    · simp only [order, if_false]
      have falls : 0 ≤ (index : Int) * -r.step.toInt := Int.mul_nonneg (by omega) (by omega)
      have flip : (index : Int) * -r.step.toInt = -((index : Int) * r.step.toInt) :=
        Int.mul_neg ..
      omega

end Range

end CallConsole
