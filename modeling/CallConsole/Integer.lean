/-
**Integers of the console.**

An integer value is a 64-bit word. Arithmetic is done on the mathematical integers and brought back
with `Integer.ofInt?`, so a result that does not fit is seen and never wraps:

* `ofInt?_eq_some_iff`: a word comes back exactly when it denotes the given integer;
* `exists_ofInt?_iff`: something comes back exactly inside `[-2 ^ 63, 2 ^ 63)`.
-/

namespace CallConsole

-- Powers of integers are the ones that compute, also where a library brings powers in monoids.
attribute [instance (high), default_instance 20000] instPowNat

/-- An integer value: a 64-bit word read as a number in `[-2 ^ 63, 2 ^ 63)`. -/
abbrev Integer := Int64

namespace Integer

/-- The integer lies in the range of a 64-bit word. -/
def Fits (n : Int) : Prop := -2 ^ 63 ≤ n ∧ n < 2 ^ 63

instance (n : Int) : Decidable (Fits n) := inferInstanceAs (Decidable (_ ∧ _))

/-- The word that denotes `n`, if there is one. -/
def ofInt? (n : Int) : Option Integer :=
  if Fits n then some (Int64.ofInt n) else none

/-- A boolean read as an integer. -/
def ofBool (b : Bool) : Integer := if b then 1 else 0

/-- The following integer; the largest one is its own successor. -/
def successor (n : Integer) : Integer := (ofInt? (n.toInt + 1)).getD n

/-- Every word denotes an integer in range. -/
theorem fits_toInt (n : Integer) : Fits n.toInt :=
  ⟨n.le_toInt, n.toInt_lt⟩

/-- **The word found is the one that denotes the integer.** -/
theorem ofInt?_eq_some_iff {n : Int} {word : Integer} : ofInt? n = some word ↔ word.toInt = n := by
  unfold ofInt?
  constructor
  · intro found
    split at found
    case isTrue fits =>
      cases found
      exact Int64.toInt_ofInt_of_le fits.1 fits.2
    case isFalse => cases found
  · rintro rfl
    rw [if_pos (fits_toInt word), Int64.ofInt_toInt]

/-- A word is found exactly for the integers in range. -/
theorem exists_ofInt?_iff {n : Int} : (∃ word, ofInt? n = some word) ↔ Fits n := by
  constructor
  · rintro ⟨word, found⟩
    rw [← ofInt?_eq_some_iff.mp found]
    exact fits_toInt word
  · intro fits
    exact ⟨Int64.ofInt n, if_pos fits⟩

/-- Nothing is found exactly for the integers out of range. -/
theorem ofInt?_eq_none_iff {n : Int} : ofInt? n = none ↔ ¬ Fits n := by
  unfold ofInt?
  split <;> simp_all

/-- A word is found for the integer that it denotes. -/
theorem ofInt?_toInt (n : Integer) : ofInt? n.toInt = some n :=
  ofInt?_eq_some_iff.mpr rfl

end Integer

end CallConsole
