/-
**The arithmetic of integers in machine words.**

Positions, powers and rounding of integers, computed in words of 64 and 128 bits:

* `position_eq`: the index found for a position is the right one in every sequence that a machine
  can hold;
* `power?_eq`, `roundTo?_eq`: so are powers and roundings, for all integers and all numbers of
  places; a result that does not fit is seen as such.
-/

import CallConsole.Builtin.Numeric
import CallConsole.Subscript
import CallConsole.Proofs.Checked.Words
import Mathlib.Algebra.Order.Ring.Int

namespace CallConsole

open Width

namespace Checked

/-! ### Positions -/

/-- The place that a position stands for; a negative one is counted from the end. -/
def resolve (n size : Int) : Checked Int :=
  if n < 0 then signed64.check (n + size) else .ok n

/-- The index that a position stands for in something of the given length. -/
def position (indexed : Indexed) (length : Nat) (index : Value) :
    Checked (Except Cause Nat) :=
  match index.integer? with
  | none => .ok (.error (.indexNotInteger indexed index.type))
  | some n => do
    let size := signed64.wrap length
    let resolved ← resolve n.toInt size
    if resolved < 0 ∨ size ≤ resolved then .ok (.error (.indexOutOfRange indexed))
    else .ok (.ok (unsigned64.wrap resolved).toNat)

/-- **The index found is the one that the position stands for.** -/
theorem position_eq (indexed : Indexed) {length : Nat} (held : length < 2 ^ 63) (index : Value) :
    position indexed length index = .ok (CallConsole.position indexed length index) := by
  have size : signed64.wrap length = length := wrap_of_fits (fits_signed64_iff.mpr (by omega))
  unfold position CallConsole.position
  cases index.integer? with
  | none => rfl
  | some n =>
    obtain ⟨least, most⟩ := Integer.fits_toInt n
    have resolved : resolve n.toInt length =
        .ok (if n.toInt < 0 then n.toInt + length else n.toInt) := by
      unfold resolve
      split
      case isTrue negative => exact check_of_fits (fits_signed64_iff.mpr (by omega))
      case isFalse => rfl
    simp only [size, resolved, ok_bind]
    generalize resolving : (if n.toInt < 0 then n.toInt + (length : Int) else n.toInt) = place
    have word : place < 2 ^ 63 := by split at resolving <;> omega
    by_cases inside : 0 ≤ place ∧ place < length
    · rw [if_neg (by omega), if_pos inside, wrap_of_fits (fits_unsigned64_iff.mpr (by omega))]
    · rw [if_pos (by omega), if_neg inside]

/-! ### Powers -/

/-- The power, if it fits. An exponent that is no word of 32 bits is too large for every base that
is left by then; for the others the word is formed and looked at. -/
def power? (base exponent : Integer) : Checked (Option Integer) :=
  if base.toInt = 0 ∨ base.toInt = 1 then .ok (some (if exponent.toInt = 0 then 1 else base))
  else if base.toInt = -1 then do
    let parity ← remainder signed64 exponent.toInt 2
    .ok (some (if parity = 0 then 1 else -1))
  else if unsigned32.Fits exponent.toInt then
    .ok (Integer.ofInt? (base.toInt ^ exponent.toInt.toNat))
  else .ok none

/-- No base but `0`, `1` and `-1` has a power above the sixty-third in a word. -/
theorem not_fits_pow {base : Int} (large : 2 ≤ base.natAbs) {exponent : Nat}
    (high : 63 < exponent) : ¬ Integer.Fits (base ^ exponent) := by
  intro fits
  have absolute : (base ^ exponent).natAbs = base.natAbs ^ exponent := Int.natAbs_pow base exponent
  have grows : 2 ^ 64 ≤ base.natAbs ^ exponent :=
    calc 2 ^ 64 ≤ 2 ^ exponent := Nat.pow_le_pow_right (by decide) high
      _ ≤ base.natAbs ^ exponent := Nat.pow_le_pow_left large exponent
  unfold Integer.Fits at fits
  omega

/-- **The power found is the exact one**, for all bases and all exponents from zero on. -/
theorem power?_eq (base : Integer) {exponent : Integer} (natural : 0 ≤ exponent.toInt) :
    power? base exponent = .ok (base.power? exponent) := by
  have zero : exponent = 0 ↔ exponent.toInt = 0 := by rw [← Int64.toInt_inj]; rfl
  unfold power? Integer.power?
  by_cases small : base.toInt = 0 ∨ base.toInt = 1
  · have square : base.toInt * base.toInt = base.toInt := by
      rcases small with h | h <;> rw [h] <;> rfl
    have unit : base.toInt.natAbs ≤ 1 := by rcases small with h | h <;> rw [h] <;> decide
    rw [if_pos small, if_pos unit, square, Integer.ofInt?_toInt, ite_self]
    simp only [zero]
    split <;> rfl
  rw [if_neg small]
  by_cases minusOne : base.toInt = -1
  · have same : base = -1 := Int64.toInt_inj.mp minusOne
    have unit : base.toInt.natAbs ≤ 1 := by rw [minusOne]; decide
    have fits : signed64.Fits (exponent.toInt.tdiv 2) := by
      have word := Integer.fits_toInt exponent
      unfold Integer.Fits at word
      rw [Int.tdiv_eq_ediv_of_nonneg natural]
      exact fits_signed64_iff.mpr (by omega)
    rw [if_pos minusOne, if_pos unit, remainder_of_fits (by decide) fits, ok_bind,
      Int.tmod_eq_emod_of_nonneg natural, minusOne]
    by_cases even : exponent.toInt % 2 = 0
    · rw [if_pos even, if_pos even]
      split <;> rfl
    · have nonzero : exponent ≠ 0 := fun none => even (by rw [zero.mp none]; rfl)
      rw [if_neg even, if_neg nonzero, if_neg even, same]
  rw [if_neg minusOne, if_neg (show ¬ base.toInt.natAbs ≤ 1 by omega)]
  by_cases high : 63 < exponent.toInt
  · have none : Integer.ofInt? (base.toInt ^ exponent.toInt.toNat) = none :=
      Integer.ofInt?_eq_none_iff.mpr (not_fits_pow (by omega) (by omega))
    rw [if_pos high, none, ite_self]
  · rw [if_neg high, if_pos (fits_unsigned32_iff.mpr (by omega))]

/-! ### Rounding -/

/-- The quotient, or the next one, whichever is nearer to the number that was divided. -/
def nearer (quotient rest unit : Int) : Checked Int := do
  let twice ← signed128.check (2 * rest)
  match Ord.compare twice unit with
  | .lt => .ok quotient
  | .gt => signed128.check (quotient + 1)
  | .eq => do
    let parity ← remainder signed128 quotient 2
    if parity = 0 then .ok quotient else signed128.check (quotient + 1)

/-- Rounds to so many decimal places, half-way cases to the even multiple of the unit. -/
def roundTo? (n places : Integer) : Checked (Option Integer) :=
  if 0 ≤ places.toInt then .ok (some n)
  else if places.toInt < -19 then .ok (some 0)
  else do
    let dropped ← signed64.check (-places.toInt)
    let unit ← signed128.check (10 ^ (unsigned32.wrap dropped).toNat)
    let (quotient, rest) ← divide signed128 n.toInt unit
    let multiple ← nearer quotient rest unit
    let result ← signed128.check (multiple * unit)
    .ok (Integer.ofInt? result)

/-- The multiple of a unit nearest to an integer, as so many units. -/
def nearestSigned (n : Int) (unit : Nat) : Int :=
  if n < 0 then -(nearestEven n.natAbs unit : Int) else nearestEven n.natAbs unit

/-- Which of two quotients is taken: the nearer one, and the even one if both are equally near. -/
theorem nearer_eq {quotient rest unit : Int} (word : signed64.Fits quotient) (least : 0 ≤ rest)
    (below : rest < unit) (small : unit ≤ 2 ^ 126) :
    nearer quotient rest unit =
      .ok (if 2 * rest < unit then quotient
        else if unit < 2 * rest then quotient + 1
        else if quotient % 2 = 0 then quotient else quotient + 1) := by
  have bounds := fits_signed64_iff.mp word
  have shrinks := Int.natAbs_tdiv_le_natAbs quotient 2
  have twice : signed128.Fits (2 * rest) := fits_signed128_iff.mpr (by omega)
  have next : signed128.Fits (quotient + 1) := fits_signed128_iff.mpr (by omega)
  have half : signed128.Fits (quotient.tdiv 2) := fits_signed128_iff.mpr (by omega)
  have parity : quotient.tmod 2 = 0 ↔ quotient % 2 = 0 := by
    rw [← Int.dvd_iff_tmod_eq_zero, ← Int.dvd_iff_emod_eq_zero]
  simp only [nearer, check_of_fits twice, check_of_fits next, remainder_of_fits (by decide) half,
    ok_bind, parity]
  rcases lt_trichotomy (2 * rest) unit with less | equal | greater
  · rw [compare_lt_iff_lt.mpr less, if_pos less]
  · have notLess : ¬ 2 * rest < unit := by omega
    have notGreater : ¬ unit < 2 * rest := by omega
    rw [compare_eq_iff_eq.mpr equal, if_neg notLess, if_neg notGreater]
    exact (apply_ite Except.ok _ _ _).symm
  · have notLess : ¬ 2 * rest < unit := by omega
    rw [compare_gt_iff_gt.mpr greater, if_neg notLess, if_pos greater]

/-- An integer below zero in units: the quotient is the one that leaves a remainder from zero on. -/
theorem div_mod_of_neg {n : Int} {unit : Nat} (negative : n < 0) (positive : 0 < unit) :
    if n.natAbs % unit = 0 then n / unit = -(n.natAbs / unit : Nat) ∧ n % unit = 0
    else n / unit = -(n.natAbs / unit : Nat) - 1 ∧ n % unit = unit - (n.natAbs % unit : Nat) := by
  have absolute : n = -(n.natAbs : Int) := by omega
  have parts : (n.natAbs : Int) = unit * (n.natAbs / unit : Nat) + (n.natAbs % unit : Nat) := by
    exact_mod_cast (Nat.div_add_mod n.natAbs unit).symm
  have below := Nat.mod_lt n.natAbs positive
  split
  case isTrue whole =>
    refine (Int.ediv_emod_unique (by omega)).mpr ⟨?_, by omega, by omega⟩
    rw [Int.mul_neg]
    omega
  case isFalse =>
    refine (Int.ediv_emod_unique (by omega)).mpr ⟨?_, by omega, by omega⟩
    rw [Int.mul_sub, Int.mul_neg, Int.mul_one]
    omega

/-- **The nearer of two quotients is the rounded one**, on both sides of zero. -/
theorem nearer_div {n : Int} {unit : Nat} (word : signed64.Fits n) (positive : 0 < unit)
    (small : unit ≤ 2 ^ 126) : nearer (n / unit) (n % unit) unit = .ok (nearestSigned n unit) := by
  have bounds := fits_signed64_iff.mp word
  have shrinks := Int.natAbs_ediv_le_natAbs n unit
  have least := Int.emod_nonneg n (show (unit : Int) ≠ 0 by omega)
  have below := Int.emod_lt_of_pos n (show (0 : Int) < unit by omega)
  simp only [nearestSigned, nearestEven]
  rcases lt_or_ge n 0 with negative | natural
  · have quotient : signed64.Fits (n / unit) := by
      have sign := Int.ediv_neg_of_neg_of_pos negative (show (0 : Int) < unit by omega)
      exact fits_signed64_iff.mpr (by omega)
    rw [nearer_eq quotient least below (by omega), if_pos negative]
    have parts := div_mod_of_neg negative positive
    have rest := Nat.mod_lt n.natAbs positive
    generalize n.natAbs / unit = away, n.natAbs % unit = left at parts rest ⊢
    split at parts
    all_goals
      rw [parts.1, parts.2]
      congr 1
      split_ifs <;> omega
  · have quotient : signed64.Fits (n / unit) := by
      have sign := Int.ediv_nonneg natural (show (0 : Int) ≤ unit by omega)
      exact fits_signed64_iff.mpr (by omega)
    rw [nearer_eq quotient least below (by omega), if_neg (not_lt.mpr natural)]
    have absolute : n = n.natAbs := by omega
    have first : n / unit = (n.natAbs / unit : Nat) := by
      rw [Int.natCast_ediv, ← absolute]
    have second : n % unit = (n.natAbs % unit : Nat) := by
      rw [Int.natCast_emod, ← absolute]
    rw [first, second]
    generalize n.natAbs / unit = away, n.natAbs % unit = left
    congr 1
    split_ifs <;> omega

/-- Up to nineteen places, the unit is a word. -/
theorem unit_le {dropped : Nat} (few : dropped ≤ 19) : 10 ^ dropped ≤ 2 ^ 64 :=
  le_trans (Nat.pow_le_pow_right (by decide) few) (by decide)

/-- The multiple of the unit is not much more than the integer, so it fits the wider words. -/
theorem fits_nearestSigned_mul {n : Int} {unit : Nat} (word : signed64.Fits n) (positive : 0 < unit)
    (small : unit ≤ 2 ^ 64) : signed128.Fits (nearestSigned n unit * unit) := by
  have bounds := fits_signed64_iff.mp word
  have near := (nearestEven_near n.natAbs positive).1
  have product : (nearestEven n.natAbs unit : Int) * unit =
      (nearestEven n.natAbs unit * unit : Nat) := (Int.natCast_mul _ _).symm
  unfold nearestSigned
  generalize nearestEven n.natAbs unit * unit = multiple at near product
  refine fits_signed128_iff.mpr ?_
  split
  case isTrue =>
    rw [Int.neg_mul, product]
    omega
  case isFalse =>
    rw [product]
    omega

/-- **The rounding found is the right one**, for every integer and every number of places. -/
theorem roundTo?_eq (n places : Integer) : roundTo? n places = .ok (n.roundTo? places) := by
  unfold roundTo? Integer.roundTo?
  by_cases whole : 0 ≤ places.toInt
  · rw [if_pos whole, if_pos whole]
  by_cases far : places.toInt < -19
  · rw [if_neg whole, if_neg whole, if_pos far, if_pos far]
  rw [if_neg whole, if_neg whole, if_neg far, if_neg far]
  have word := fits_signed64_toInt n
  have dropped : signed64.Fits (-places.toInt) := fits_signed64_iff.mpr (by omega)
  have count : (unsigned32.wrap (-places.toInt)).toNat = (-places.toInt).toNat := by
    rw [wrap_of_fits (fits_unsigned32_iff.mpr (by omega))]
  have small := unit_le (show (-places.toInt).toNat ≤ 19 by omega)
  have positive : 0 < 10 ^ (-places.toInt).toNat := Nat.pow_pos (by decide)
  have cast : (10 : Int) ^ (-places.toInt).toNat = (10 ^ (-places.toInt).toNat : Nat) :=
    (Int.natCast_pow 10 _).symm
  generalize 10 ^ (-places.toInt).toNat = unit at small positive cast ⊢
  have wide : signed128.Fits unit := fits_signed128_iff.mpr (by omega)
  have quotient : signed128.Fits (n.toInt / unit) := by
    have shrinks := Int.natAbs_ediv_le_natAbs n.toInt unit
    have bounds := fits_signed64_iff.mp word
    exact fits_signed128_iff.mpr (by omega)
  have near := nearer_div word positive (show unit ≤ 2 ^ 126 by omega)
  have result := fits_nearestSigned_mul word positive small
  rw [check_of_fits dropped, ok_bind, count, cast, check_of_fits wide, ok_bind,
    divide_of_fits (show (unit : Int) ≠ 0 by omega) quotient, ok_bind]
  simp only [near, ok_bind, check_of_fits result]
  unfold nearestSigned
  split
  case isTrue => rw [Int.neg_mul, Int.natCast_mul]
  case isFalse => rw [Int.natCast_mul]

end Checked

end CallConsole
