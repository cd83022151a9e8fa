/-
**The integers of a range.**

The integers are listed from the start on, one step after another, as long as they come before the
stop. Neither the computed length nor the computed elements take part in this:

* `integers_eq`: the elements at the indices below the length are these integers;
* `toInt_element`, `toInt_integers`: inside a range, no element leaves the words;
* `sameElements_iff`: two ranges count as equal exactly when they run through the same integers.
-/

import CallConsole.Range

namespace CallConsole

namespace Range

/-- How far a value is from the stop, in the direction of the step. -/
def ahead (r : Range) (value : Int) : Nat :=
  (if 0 < r.step.toInt then r.stop.toInt - value else value - r.stop.toInt).toNat

/-- A step from before the stop leads nearer to it. -/
theorem ahead_step_lt {r : Range} {value : Int} (before : r.Before value) :
    r.ahead (value + r.step.toInt) < r.ahead value := by
  have nonzero := r.step_toInt_ne_zero
  unfold Before at before
  unfold ahead
  split at before <;> omega

/-- **The integers `value, value + step, …` that come before the stop.** -/
def progression (r : Range) (value : Int) : List Int :=
  if _before : r.Before value then value :: progression r (value + r.step.toInt) else []
termination_by r.ahead value
decreasing_by exact ahead_step_lt _before

/-- **The integers that a range runs through**: the start, the start plus the step and so on, as
long as they come before the stop. -/
def integers (r : Range) : List Integer := (r.progression r.start.toInt).map Int64.ofInt

/-- The terms from one of them on are those up to the length. -/
theorem progression_term (r : Range) {count : Nat} (index : Nat) (rest : index + count = r.length) :
    r.progression (r.term index) = (List.range' index count).map r.term := by
  induction count generalizing index with
  | zero =>
    have outside : ¬ r.Before (r.term index) := by
      rw [r.before_stop_iff]
      omega
    rw [progression, dif_neg outside]
    rfl
  | succ count ih =>
    have inside : r.Before (r.term index) := (r.before_stop_iff index).mpr (by omega)
    have next : r.term index + r.step.toInt = r.term (index + 1) := by
      rw [term, term, Int.natCast_add, Int.add_mul]
      omega
    rw [progression, dif_pos inside, next, ih (index + 1) (by omega)]
    rfl

/-- The progression has as many terms as the length says. -/
theorem progression_start (r : Range) :
    r.progression r.start.toInt = (List.range r.length).map r.term := by
  have first : r.term 0 = r.start.toInt := by rw [term, Int.ofNat_zero, Int.zero_mul, Int.add_zero]
  rw [← first, r.progression_term 0 (Nat.zero_add _), List.range_eq_range']

/-- **The length and the elements are those of the progression.** -/
theorem integers_eq (r : Range) : r.integers = (List.range r.length).map r.element := by
  rw [integers, progression_start, List.map_map]
  rfl

theorem length_integers (r : Range) : r.integers.length = r.length := by
  rw [integers_eq, List.length_map, List.length_range]

/-- The integer at an index inside the range. -/
theorem getElem?_integers {r : Range} {index : Nat} (inside : index < r.length) :
    r.integers[index]? = some (r.element index) := by
  rw [integers_eq, List.getElem?_map, List.getElem?_range inside, Option.map_some]

/-- **Inside a range, the element is the start and so many steps**: both lie on the same side of the
stop, so there is no overflow. -/
theorem toInt_element {r : Range} {index : Nat} (inside : index < r.length) :
    (r.element index).toInt = r.start.toInt + index * r.step.toInt := by
  have before := (r.before_stop_iff index).mpr inside
  have start := Integer.fits_toInt r.start
  have stop := Integer.fits_toInt r.stop
  unfold Integer.Fits at start stop
  unfold Before term at before
  have fits : -2 ^ 63 ≤ r.term index ∧ r.term index < 2 ^ 63 := by
    unfold term
    by_cases up : 0 < r.step.toInt
    · rw [if_pos up] at before
      have forward : 0 ≤ (index : Int) * r.step.toInt := Int.mul_nonneg (by omega) (by omega)
      omega
    · rw [if_neg up] at before
      have back : (index : Int) * r.step.toInt ≤ 0 :=
        Int.mul_nonpos_of_nonneg_of_nonpos (by omega) (by omega)
      omega
  exact Int64.toInt_ofInt_of_le fits.1 fits.2

/-- **The integers are the terms of the progression**, which are all words. -/
theorem toInt_integers (r : Range) : r.integers.map Int64.toInt = r.progression r.start.toInt := by
  rw [integers_eq, progression_start, List.map_map]
  exact List.map_congr_left fun k inside => toInt_element (List.mem_range.mp inside)

/-- A range begins with its start. -/
theorem element_zero (r : Range) : r.element 0 = r.start := by
  rw [element, term, Int.ofNat_zero, Int.zero_mul, Int.add_zero, Int64.ofInt_toInt]

/-- After the start comes the start plus the step. -/
theorem element_one (r : Range) : r.element 1 = r.start + r.step := by
  rw [element, term, Int.natCast_one, Int.one_mul, Int64.ofInt_add, Int64.ofInt_toInt,
    Int64.ofInt_toInt]

/-- Ranges with the same start and step have the same element at every index. -/
theorem element_congr {first second : Range} (start : first.start = second.start)
    (step : first.step = second.step) (index : Nat) :
    first.element index = second.element index := by
  rw [element, element, term, term, start, step]

/-- Ranges of the same integers have the same element at every index inside. -/
theorem element_of_integers {first second : Range} (same : first.integers = second.integers)
    {index : Nat} (inside : index < first.length) :
    first.element index = second.element index := by
  have lengths : first.length = second.length := by
    rw [← length_integers, same, length_integers]
  have found := getElem?_integers inside
  rw [same, getElem?_integers (lengths ▸ inside)] at found
  exact (Option.some.inj found).symm

/-- **Two ranges count as equal exactly when they run through the same integers.** -/
theorem sameElements_iff {first second : Range} :
    first.sameElements second = true ↔ first.integers = second.integers := by
  simp only [sameElements, Bool.and_eq_true, Bool.or_eq_true, decide_eq_true_eq]
  constructor
  · rintro ⟨lengths, empty | ⟨start, single | step⟩⟩
    · rw [integers_eq, integers_eq, ← lengths, empty, List.range_zero, List.map_nil, List.map_nil]
    · rw [integers_eq, integers_eq, ← lengths, single, List.range_one, List.map_singleton,
        List.map_singleton, element_zero, element_zero, start]
    · rw [integers_eq, integers_eq, lengths]
      exact List.map_congr_left fun index _ => element_congr start step index
  · intro same
    have lengths : first.length = second.length := by
      rw [← length_integers, same, length_integers]
    refine ⟨lengths, ?_⟩
    by_cases empty : first.length = 0
    · exact .inl empty
    have start : first.start = second.start := by
      rw [← element_zero, ← element_zero]
      exact element_of_integers same (by omega)
    refine .inr ⟨start, ?_⟩
    by_cases single : first.length = 1
    · exact .inl single
    have next := element_of_integers same (show 1 < first.length by omega)
    rw [element_one, element_one, start] at next
    exact .inr (Int64.add_right_inj _ |>.mp next)

end Range

end CallConsole
