/-
**Binary floating-point numbers of 64 bits.**

A double is its bit pattern. Read without the sign, the pattern is a *code*; the codes below
`infinityCode` are the finite values, and every finite value is a whole number of *units* of
`2 ^ -1074`, the least positive double. Order, conversion and rounding are therefore exact integer
arithmetic:

* `unitsOfCode_lt_unitsOfCode`: a larger code stands for a larger number of units;
* `unitsOfCode_injective`: different codes stand for different numbers.
-/

import CallConsole.HalfEven
import CallConsole.Integer

namespace CallConsole

/-- A double, as its bit pattern: one sign bit, eleven exponent bits, fifty-two fraction bits. -/
structure Double where
  bits : UInt64
deriving DecidableEq

namespace Double

/-- The code of infinity; the codes above it are the NaNs. -/
def infinityCode : Nat := 2047 * 2 ^ 52

/-- The number of units of `2 ^ -1074` that make one. -/
def oneUnits : Nat := 2 ^ 1074

/-- The sign bit is set. -/
def negative (x : Double) : Bool := decide (2 ^ 63 ≤ x.bits.toNat)

/-- The bit pattern without the sign bit. -/
def code (x : Double) : Nat := x.bits.toNat % 2 ^ 63

/-- The double with the given sign and code. -/
def ofCode (negative : Bool) (code : Nat) : Double :=
  ⟨UInt64.ofNat (if negative then 2 ^ 63 + code else code)⟩

/-- The pattern stands for no number. -/
def isNan (x : Double) : Bool := decide (infinityCode < x.code)

/-- The pattern stands for one of the two infinities. -/
def isInfinite (x : Double) : Bool := decide (x.code = infinityCode)

/-- The pattern stands for a number. -/
def isFinite (x : Double) : Bool := decide (x.code < infinityCode)

/-- **The units that a code stands for.** Below `2 ^ 52` a code counts units; from there on the
exponent field gives the power of two by which the fraction, with its hidden bit, is scaled. -/
def unitsOfCode (code : Nat) : Nat :=
  if code / 2 ^ 52 = 0 then code else (2 ^ 52 + code % 2 ^ 52) * 2 ^ (code / 2 ^ 52 - 1)

/-- The absolute value in units of `2 ^ -1074`. Infinity counts as `2 ^ 1024`, which is more than
every finite double and every integer. -/
def units (x : Double) : Nat := unitsOfCode x.code

/-- The value in units of `2 ^ -1074`, with its sign. -/
def signedUnits (x : Double) : Int := if x.negative then -(x.units : Int) else x.units

/-- The NaN that reading the text `nan` gives. -/
def nan : Double := ⟨0x7ff8000000000000⟩

/-- The NaN of an operation on numbers that has no value. -/
def invalid : Double := ⟨0xfff8000000000000⟩

/-- One of the two infinities. -/
def infinite (negative : Bool) : Double := ofCode negative infinityCode

/-- One of the two zeros. -/
def zero (negative : Bool) : Double := ofCode negative 0

/-- **The code nearest to a quotient of units**, of two equally near ones the even one, and
infinity from half a step above the largest finite value on. The step between neighbours is
`2 ^ scale` units where the quotient has `scale + 53` binary digits. -/
def nearestCode (numerator denominator : Nat) : Nat :=
  let scale := (numerator / denominator).log2 - 52
  min (scale * 2 ^ 52 + nearestEven numerator (denominator * 2 ^ scale)) infinityCode

/-- The double nearest to `± numerator / denominator`. -/
def ofRatio (negative : Bool) (numerator denominator : Nat) : Double :=
  ofCode negative (nearestCode (numerator * oneUnits) denominator)

/-- The double nearest to an integer. -/
def ofInt (n : Int) : Double := ofRatio (decide (n < 0)) n.natAbs 1

/-- The same number with the other sign. -/
def negate (x : Double) : Double := ofCode (!x.negative) x.code

/-- The same number without its sign. -/
def abs (x : Double) : Double := ofCode false x.code

/-- The value is a whole number. -/
def isIntegral (x : Double) : Bool := x.isFinite && decide (x.units % oneUnits = 0)

/-- The whole number next to the value on the side of zero. -/
def truncate (x : Double) : Int :=
  if x.negative then -((x.units / oneUnits : Nat) : Int) else (x.units / oneUnits : Nat)

/-- The whole number nearest to the value, a half to the even neighbour. -/
def nearestInt (x : Double) : Int :=
  if x.negative then -(nearestEven x.units oneUnits : Int) else nearestEven x.units oneUnits

/-- The integer that the value is exactly, if it is one and fits a word. -/
def toInteger? (x : Double) : Option Integer :=
  if x.isIntegral then Integer.ofInt? x.truncate else none

/-! ### Codes and units -/

/-- A code below `2 ^ 52` counts units. -/
theorem unitsOfCode_of_lt {code : Nat} (small : code < 2 ^ 52) : unitsOfCode code = code := by
  rw [unitsOfCode, if_pos (Nat.div_eq_of_lt small)]

/-- A code is an exponent field and a fraction. -/
theorem unitsOfCode_eq {code : Nat} (large : 2 ^ 52 ≤ code) :
    unitsOfCode code = (2 ^ 52 + code % 2 ^ 52) * 2 ^ (code / 2 ^ 52 - 1) := by
  have field : code / 2 ^ 52 ≠ 0 := by omega
  rw [unitsOfCode, if_neg field]

/-- Consecutive codes stand for growing values. -/
theorem unitsOfCode_lt_succ (code : Nat) : unitsOfCode code < unitsOfCode (code + 1) := by
  by_cases small : code + 1 < 2 ^ 52
  · rw [unitsOfCode_of_lt small, unitsOfCode_of_lt (by omega)]
    omega
  by_cases edge : code + 1 = 2 ^ 52
  · rw [edge, unitsOfCode_of_lt (by omega), unitsOfCode_eq (Nat.le_refl _)]
    omega
  rw [unitsOfCode_eq (by omega), unitsOfCode_eq (by omega)]
  by_cases last : code % 2 ^ 52 = 2 ^ 52 - 1
  · have field : (code + 1) / 2 ^ 52 = code / 2 ^ 52 + 1 := by omega
    have fraction : (code + 1) % 2 ^ 52 = 0 := by omega
    have step : code / 2 ^ 52 + 1 - 1 = (code / 2 ^ 52 - 1) + 1 := by omega
    have double : 2 ^ (code / 2 ^ 52 - 1 + 1) = 2 * 2 ^ (code / 2 ^ 52 - 1) := by
      rw [Nat.pow_add_one, Nat.mul_comm]
    rw [field, fraction, step, last, double, ← Nat.mul_assoc]
    exact Nat.mul_lt_mul_of_pos_right (by decide) (Nat.two_pow_pos _)
  · have field : (code + 1) / 2 ^ 52 = code / 2 ^ 52 := by omega
    have fraction : (code + 1) % 2 ^ 52 = code % 2 ^ 52 + 1 := by omega
    rw [field, fraction]
    exact Nat.mul_lt_mul_of_pos_right (by omega) (Nat.two_pow_pos _)

/-- **A larger code stands for a larger number of units.** -/
theorem unitsOfCode_lt_unitsOfCode {first second : Nat} (less : first < second) :
    unitsOfCode first < unitsOfCode second := by
  induction second with
  | zero => omega
  | succ second ih =>
    rcases Nat.lt_succ_iff_lt_or_eq.mp less with before | rfl
    · exact Nat.lt_trans (ih before) (unitsOfCode_lt_succ second)
    · exact unitsOfCode_lt_succ first

/-- Different codes stand for different values. -/
theorem unitsOfCode_injective {first second : Nat} (same : unitsOfCode first = unitsOfCode second) :
    first = second := by
  rcases Nat.lt_trichotomy first second with less | equal | greater
  · have := unitsOfCode_lt_unitsOfCode less; omega
  · exact equal
  · have := unitsOfCode_lt_unitsOfCode greater; omega

end Double

end CallConsole
