/-
**Numbers as lists of decimal digits**, the first digit being the greatest.

* `value_append`, `value_lt`: a list that is cut gives a quotient and a remainder of its value;
* `value_map_digit`: the digits of a text denote what the text denotes;
* `nearestEven_cut`: rounding half to even looks at the first digit behind the cut, after a five at
  those behind it, and half-way at the digits kept.
-/

import CallConsole.HalfEven
import CallConsole.Proofs.Numerals
import Mathlib.Data.Nat.Digits.Defs

namespace CallConsole

namespace DigitList

/-- All entries are digits. -/
def IsDigits (digits : List Nat) : Prop := ∀ d ∈ digits, d < 10

/-- The number that digits denote. -/
def value (digits : List Nat) : Nat := Nat.ofDigits 10 digits.reverse

/-- The digit that a character is. -/
def digit (c : Char) : Nat := c.toNat - '0'.toNat

theorem value_nil : value [] = 0 := rfl

theorem value_cons (d : Nat) (digits : List Nat) :
    value (d :: digits) = d * 10 ^ digits.length + value digits := by
  rw [value, List.reverse_cons, Nat.ofDigits_append, List.length_reverse, Nat.ofDigits_singleton,
    Nat.mul_comm, Nat.add_comm]
  rfl

/-- What comes first counts as many times as the rest has places. -/
theorem value_append (first second : List Nat) :
    value (first ++ second) = value first * 10 ^ second.length + value second := by
  rw [value, List.reverse_append, Nat.ofDigits_append, List.length_reverse, Nat.mul_comm,
    Nat.add_comm]
  rfl

/-- Digits denote less than the power of ten with as many zeros. -/
theorem value_lt {digits : List Nat} (all : IsDigits digits) :
    value digits < 10 ^ digits.length := by
  have bound := Nat.ofDigits_lt_base_pow_length (by decide) (l := digits.reverse)
    fun d member => all d (List.mem_reverse.mp member)
  rwa [List.length_reverse] at bound

/-- Digits denote zero exactly if all of them are zero. -/
theorem value_eq_zero_iff {digits : List Nat} : value digits = 0 ↔ ∀ d ∈ digits, d = 0 := by
  induction digits with
  | nil => simp [value_nil]
  | cons d rest ih =>
    have tens : 10 ^ rest.length ≠ 0 := (Nat.pow_pos (by decide)).ne'
    rw [value_cons, Nat.add_eq_zero_iff, Nat.mul_eq_zero, ih, List.forall_mem_cons]
    simp only [tens, or_false]

/-- **The digits before a cut denote the quotient**, and those behind it the remainder. -/
theorem div_mod_value (kept : List Nat) {dropped : List Nat} (all : IsDigits dropped) :
    value (kept ++ dropped) / 10 ^ dropped.length = value kept ∧
      value (kept ++ dropped) % 10 ^ dropped.length = value dropped := by
  rw [value_append]
  exact Nat.div_mod_unique (Nat.pow_pos (by decide)) |>.mpr
    ⟨by rw [Nat.add_comm, Nat.mul_comm], value_lt all⟩

/-- The parity is that of the last digit. -/
theorem value_mod_two (front : List Nat) (last : Nat) :
    value (front ++ [last]) % 2 = last % 2 := by
  rw [value_append, value_cons, value_nil, List.length_singleton, List.length_nil]
  omega

/-- **The digits of a text denote what the text denotes.** -/
theorem value_map_digit (text : List Char) : value (text.map digit) = Decimal.ofDigits text := by
  induction text with
  | nil => rfl
  | cons c rest ih =>
    have first : Decimal.ofDigits (c :: rest) =
        10 ^ rest.length * (10 * 0 + digit c) + Decimal.ofDigits rest :=
      Nat.ofDigitChars_cons.trans Nat.ofDigitChars_eq_ofDigitChars_zero
    rw [List.map_cons, value_cons, ih, first, List.length_map, Nat.mul_zero, Nat.zero_add,
      Nat.mul_comm]

/-- A character that is a digit is one below ten. -/
theorem digit_lt {c : Char} (isDigit : c.isDigit = true) : digit c < 10 := by
  obtain ⟨least, most⟩ := Char.isDigit_iff_toNat.mp isDigit
  have nine : '9'.toNat = '0'.toNat + 9 := rfl
  unfold digit
  omega

/-- The character of a digit. -/
theorem isDigit_ofNat {d : Nat} (isDigit : d < 10) :
    (Char.ofNat (48 + d)).isDigit = true ∧ digit (Char.ofNat (48 + d)) = d := by
  revert d
  decide

/-! ### Rounding behind a cut -/

/-- What lies behind a cut, against the half of a unit: the first digit decides, and after a five
the others. -/
theorem compare_half (first : Nat) {rest : List Nat} (all : IsDigits rest) :
    (2 * value (first :: rest) < 10 ^ (rest.length + 1) ↔ first < 5) ∧
      (10 ^ (rest.length + 1) < 2 * value (first :: rest) ↔
        5 < first ∨ (first = 5 ∧ ∃ d ∈ rest, d ≠ 0)) := by
  have below := value_lt all
  have others : (∃ d ∈ rest, d ≠ 0) ↔ value rest ≠ 0 := by
    rw [Ne, value_eq_zero_iff]
    simp
  rw [others, value_cons, Nat.pow_succ]
  generalize 10 ^ rest.length = unit at below ⊢
  generalize value rest = tail at below ⊢
  constructor
  · constructor
    · intro less
      by_contra large
      have five : 5 * unit ≤ first * unit := Nat.mul_le_mul_right _ (by omega)
      omega
    · intro small
      have four : first * unit ≤ 4 * unit := Nat.mul_le_mul_right _ (by omega)
      omega
  · constructor
    · intro greater
      by_contra small
      rcases Nat.lt_or_ge first 5 with less | least
      · have four : first * unit ≤ 4 * unit := Nat.mul_le_mul_right _ (by omega)
        omega
      · have five : first = 5 := by omega
        subst five
        omega
    · rintro (large | ⟨rfl, nonzero⟩)
      · have six : 6 * unit ≤ first * unit := Nat.mul_le_mul_right _ (by omega)
        omega
      · omega

/-- **Rounding behind a cut**: what is kept, or one more, as the first digit dropped and those
behind it say; half-way the digits kept become even. -/
theorem nearestEven_cut (kept : List Nat) {first : Nat} {rest : List Nat}
    (all : IsDigits (first :: rest)) :
    nearestEven (value (kept ++ first :: rest)) (10 ^ (rest.length + 1)) =
      if first < 5 then value kept
      else if 5 < first ∨ (first = 5 ∧ ∃ d ∈ rest, d ≠ 0) then value kept + 1
      else value kept + value kept % 2 := by
  obtain ⟨quotient, remainder⟩ := div_mod_value kept all
  obtain ⟨less, greater⟩ := compare_half first (List.forall_mem_cons.mp all).2
  rw [List.length_cons] at quotient remainder
  simp only [nearestEven, quotient, remainder, less, greater]

end DigitList

end CallConsole
