/-
**Powers and roundings of integers are exact.**

A call that computes an integer yields the integer that it means, if this fits a word, and fails
otherwise. The power is formed by squaring, with a check of every product; the checks refuse exactly
the powers that do not fit. A rounding to decimal places is the nearest multiple of the unit:

* `Builtin.YieldsInteger`: what such a call comes to;
* `Checked.powerLoop_eq`: the checked products give the power, if it fits;
* `Builtin.pow_integer_exact`: `pow` of integers is exact;
* `Builtin.round_integer_exact`: so is `round` of an integer to any number of places.
-/

import CallConsole.Proofs.Checked.Integers
import CallConsole.Proofs.NearestMultiples
import CallConsole.Proofs.Runs
import Mathlib.Algebra.Ring.Parity
import Mathlib.Tactic.Ring

namespace CallConsole

/-! ### Calls that yield an integer -/

namespace Builtin

/-- **The call yields the integer if it fits a word**, as a new object, and otherwise fails with a
wrong value and changes nothing. -/
structure YieldsInteger (name : String) (arguments : List Value) (n : Int) : Prop where
  fits : ∀ word : Integer, word.toInt = n → ∀ w : World,
    (invoke name arguments).outcome w =
      (.ok (.int w.store.next word), { w with store := (w.store.create (.int · word)).2 })
  exceeds : ¬ Integer.Fits n → ∃ cause, cause.kind = .value ∧ ∀ w : World,
    (invoke name arguments).outcome w = (.error (.ofCause cause), w)

variable {name : String} {function : Builtin} {arguments : List Value} {n : Int}

/-- A function that makes the integer if it fits yields it. -/
theorem yieldsInteger_of_body (found : find? name = some function) (silent : function ≠ .print)
    (accepts : function.arity.Accepts arguments.length)
    (makes : function.body arguments = Action.orTooLarge name (Integer.ofInt? n)) :
    YieldsInteger name arguments n where
  fits word denotes w := by
    rw [outcome_invoke found silent accepts, makes, Integer.ofInt?_eq_some_iff.mpr denotes]
    rfl
  exceeds outside := by
    refine ⟨.resultTooLarge name, rfl, fun w => ?_⟩
    rw [outcome_invoke found silent accepts, makes, Integer.ofInt?_eq_none_iff.mpr outside]
    rfl

end Builtin

/-! ### Powers -/

namespace Integer

/-- Zero, one and minus one have two powers besides the first: the square and themselves. -/
theorem pow_of_small {b : Int} (small : b.natAbs ≤ 1) {e : Nat} (some : e ≠ 0) :
    b ^ e = if e % 2 = 0 then b * b else b := by
  have cases : b = 0 ∨ b = 1 ∨ b = -1 := by omega
  rcases cases with rfl | rfl | rfl
  · rw [zero_pow some]
    split <;> rfl
  · rw [one_pow]
    split <;> rfl
  · split
    case isTrue even => rw [(Nat.even_iff.mpr even).neg_one_pow]; rfl
    case isFalse odd => rw [(Nat.odd_iff.mpr (by omega)).neg_one_pow]

/-- **The power is the exact one, if it fits.** -/
theorem power?_eq_ofInt? (base : Integer) {exponent : Integer} (natural : 0 ≤ exponent.toInt) :
    base.power? exponent = ofInt? (base.toInt ^ exponent.toInt.toNat) := by
  have zero : exponent = 0 ↔ exponent.toInt.toNat = 0 := by
    rw [← Int64.toInt_inj]
    show exponent.toInt = 0 ↔ _
    omega
  have parity : exponent.toInt % 2 = 0 ↔ exponent.toInt.toNat % 2 = 0 := by omega
  unfold power?
  by_cases small : base.toInt.natAbs ≤ 1
  · rw [if_pos small]
    simp only [zero, parity]
    by_cases none : exponent.toInt.toNat = 0
    · rw [if_pos none, none, pow_zero]
      rfl
    · rw [if_neg none, pow_of_small small none]
      split
      · rfl
      · rw [ofInt?_toInt]
  · rw [if_neg small]
    split
    case isTrue high =>
      exact (ofInt?_eq_none_iff.mpr (Checked.not_fits_pow (by omega) (by omega))).symm
    case isFalse => rfl

end Integer

namespace Checked

open Width

/-- The product of two words, if it fits. -/
def product? (m n : Integer) : Option Integer := Integer.ofInt? (m.toInt * n.toInt)

/-- **A power by squaring.** What is left to multiply with is the power of `base`; an odd exponent
takes one factor off, and the square of the base has half of the rest as its exponent. -/
def powerLoop (taken base : Integer) (exponent : Nat) : Option Integer :=
  if exponent = 0 then some taken
  else if exponent % 2 = 1 then
    match product? taken base with
    | none => none
    | some taken =>
      if exponent = 1 then some taken
      else match product? base base with
        | none => none
        | some square => powerLoop taken square (exponent / 2)
  else match product? base base with
    | none => none
    | some square => powerLoop taken square (exponent / 2)

/-- **The power, computed in words.** The bases of which no power leaves the words are told apart
first; for the others, an exponent that is no word of 32 bits is too large. -/
def powerBySquaring? (base exponent : Integer) : Checked (Option Integer) :=
  if base.toInt = 0 ∨ base.toInt = 1 then .ok (some (if exponent.toInt = 0 then 1 else base))
  else if base.toInt = -1 then do
    let parity ← remainder signed64 exponent.toInt 2
    .ok (some (if parity = 0 then 1 else -1))
  else if unsigned32.Fits exponent.toInt then .ok (powerLoop 1 base exponent.toInt.toNat)
  else .ok none

/-- Only what is `2 ^ 63` at least, with or without a sign, does not fit. -/
theorem le_natAbs_of_not_fits {n : Int} (outside : ¬ Integer.Fits n) : 2 ^ 63 ≤ n.natAbs := by
  unfold Integer.Fits at outside
  omega

/-- What is greater than `2 ^ 63`, with or without a sign, does not fit. -/
theorem not_fits_of_lt_natAbs {n : Int} (greater : 2 ^ 63 < n.natAbs) : ¬ Integer.Fits n := by
  unfold Integer.Fits
  omega

/-- **A square that does not fit is greater than `2 ^ 63`**, which is no square. -/
theorem lt_square_of_not_fits {b : Int} (outside : ¬ Integer.Fits (b * b)) :
    2 ^ 63 < (b * b).natAbs := by
  have least := le_natAbs_of_not_fits outside
  refine Nat.lt_of_le_of_ne least fun exactly => ?_
  rw [Int.natAbs_mul] at exactly
  rcases Nat.lt_or_ge b.natAbs 3037000500 with small | large
  · have within : b.natAbs ≤ 3037000499 := Nat.le_of_lt_succ small
    have below := Nat.mul_le_mul within within
    omega
  · have above := Nat.mul_le_mul large large
    omega

/-- A factor that is left makes a product that is too large no smaller. -/
theorem not_fits_mul_pow {n square : Int} (greater : 2 ^ 63 < (n * square).natAbs) {k : Nat}
    (some : k ≠ 0) : ¬ Integer.Fits (n * square ^ k) := by
  obtain ⟨k, rfl⟩ := Nat.exists_eq_succ_of_ne_zero some
  have nonzero : square ≠ 0 := by
    rintro rfl
    rw [Int.mul_zero] at greater
    omega
  have factor : 0 < (square ^ k).natAbs := Int.natAbs_pos.mpr (pow_ne_zero k nonzero)
  refine not_fits_of_lt_natAbs (Nat.lt_of_lt_of_le greater ?_)
  rw [pow_succ, mul_comm (square ^ k), ← mul_assoc, Int.natAbs_mul (n * square)]
  exact Nat.le_mul_of_pos_right _ factor

/-- An odd power is one factor and a power of the square. -/
theorem mul_pow_of_odd (n b : Int) {e : Nat} (odd : e % 2 = 1) :
    n * b ^ e = n * b * (b * b) ^ (e / 2) := by
  have parts : e = 2 * (e / 2) + 1 := by omega
  conv_lhs => rw [parts, pow_succ, pow_mul]
  ring

/-- An even power is a power of the square. -/
theorem pow_of_even (b : Int) {e : Nat} (even : ¬ e % 2 = 1) : b ^ e = (b * b) ^ (e / 2) := by
  have parts : e = 2 * (e / 2) := by omega
  conv_lhs => rw [parts, pow_mul]
  ring

/-- A factor other than zero takes nothing away from a square that is too large. -/
theorem lt_mul_square {n b : Int} (some : n ≠ 0) (outside : ¬ Integer.Fits (b * b)) :
    2 ^ 63 < (n * (b * b)).natAbs := by
  rw [Int.natAbs_mul]
  exact Nat.lt_of_lt_of_le (lt_square_of_not_fits outside)
    (Nat.le_mul_of_pos_left _ (Int.natAbs_pos.mpr some))

/-- A product that is too large is so with the square of its second factor, which is two or more. -/
theorem lt_mul_mul_square {n b : Int} (large : 2 ≤ b.natAbs) (outside : ¬ Integer.Fits (n * b)) :
    2 ^ 63 < (n * b * (b * b)).natAbs := by
  have least := le_natAbs_of_not_fits outside
  have square := Nat.mul_le_mul large large
  rw [Int.natAbs_mul (n * b), Int.natAbs_mul b]
  have grows := Nat.mul_le_mul least square
  omega

/-- **The checked products give the power, if it fits.** No check refuses a power that fits: the
square is formed only where another factor of it is left, and is then no greater than the power. -/
theorem powerLoop_eq {taken base : Integer} (nonzero : taken.toInt ≠ 0)
    (large : 2 ≤ base.toInt.natAbs) (exponent : Nat) :
    powerLoop taken base exponent = Integer.ofInt? (taken.toInt * base.toInt ^ exponent) := by
  have squared {base square : Integer} (large : 2 ≤ base.toInt.natAbs)
      (formed : product? base base = some square) :
      square.toInt = base.toInt * base.toInt ∧ 2 ≤ square.toInt.natAbs := by
    have denotes := Integer.ofInt?_eq_some_iff.mp formed
    have grows := Nat.mul_le_mul large large
    rw [denotes, Int.natAbs_mul]
    exact ⟨rfl, by omega⟩
  fun_induction powerLoop taken base exponent with
  | case1 taken base => rw [pow_zero, mul_one, Integer.ofInt?_toInt]
  | case2 taken base exponent _ odd refused =>
    have outside := Integer.ofInt?_eq_none_iff.mp refused
    refine (Integer.ofInt?_eq_none_iff.mpr ?_).symm
    by_cases last : exponent = 1
    · rwa [last, pow_one]
    · rw [mul_pow_of_odd _ _ odd]
      exact not_fits_mul_pow (lt_mul_mul_square large outside) (by omega)
  | case3 taken base taken' formed => rw [pow_one, ← formed, product?]
  | case4 taken base exponent _ odd taken' formed more refused =>
    have denotes := Integer.ofInt?_eq_some_iff.mp formed
    have outside := Integer.ofInt?_eq_none_iff.mp refused
    have nonzero' := Int.mul_ne_zero nonzero (Int.natAbs_pos.mp (Nat.lt_of_lt_of_le two_pos large))
    refine (Integer.ofInt?_eq_none_iff.mpr ?_).symm
    rw [mul_pow_of_odd _ _ odd]
    exact not_fits_mul_pow (lt_mul_square nonzero' outside) (by omega)
  | case5 taken base exponent _ odd taken' formed more square squares ih =>
    have denotes := Integer.ofInt?_eq_some_iff.mp formed
    have nonzero' := Int.mul_ne_zero nonzero (Int.natAbs_pos.mp (Nat.lt_of_lt_of_le two_pos large))
    obtain ⟨squared, large'⟩ := squared large squares
    rw [ih (denotes ▸ nonzero') large', denotes, squared, mul_pow_of_odd _ _ odd]
  | case6 taken base exponent some even refused =>
    have outside := Integer.ofInt?_eq_none_iff.mp refused
    refine (Integer.ofInt?_eq_none_iff.mpr ?_).symm
    rw [pow_of_even _ even]
    exact not_fits_mul_pow (lt_mul_square nonzero outside) (by omega)
  | case7 taken base exponent some even square squares ih =>
    obtain ⟨squared, large'⟩ := squared large squares
    rw [ih nonzero large', squared, pow_of_even _ even]

/-- **The power computed in words is the exact one, if it fits.** -/
theorem powerBySquaring?_eq (base : Integer) {exponent : Integer} (natural : 0 ≤ exponent.toInt) :
    powerBySquaring? base exponent =
      .ok (Integer.ofInt? (base.toInt ^ exponent.toInt.toNat)) := by
  rw [← Integer.power?_eq_ofInt? base natural, ← power?_eq base natural]
  unfold powerBySquaring? power?
  by_cases small : base.toInt = 0 ∨ base.toInt = 1
  · rw [if_pos small, if_pos small]
  rw [if_neg small, if_neg small]
  by_cases minusOne : base.toInt = -1
  · rw [if_pos minusOne, if_pos minusOne]
  rw [if_neg minusOne, if_neg minusOne, powerLoop_eq (by decide) (by omega)]
  have one : (1 : Integer).toInt = 1 := rfl
  rw [one, one_mul]

end Checked

namespace Builtin

/-- **Powers of integers are exact.** For every integer or boolean as base, and every one from zero
on as exponent, `pow` yields the power if it fits a word, and fails with a wrong value exactly if it
does not. The products that are checked on the way by squaring give the same: none of them is
refused where the power fits, and no power that does not fit is let through. -/
theorem pow_integer_exact {v u : Value} {base exponent : Integer}
    (first : Number.of? v = some (.int base)) (second : Number.of? u = some (.int exponent))
    (natural : 0 ≤ exponent.toInt) :
    YieldsInteger "pow" [v, u] (base.toInt ^ exponent.toInt.toNat) ∧
      Checked.powerBySquaring? base exponent =
        .ok (Integer.ofInt? (base.toInt ^ exponent.toInt.toNat)) := by
  refine ⟨?_, Checked.powerBySquaring?_eq base natural⟩
  have found : find? "pow" = some .pow := rfl
  refine yieldsInteger_of_body found nofun rfl ?_
  rw [← Integer.power?_eq_ofInt? base natural]
  funext s
  simp only [body, powOf, Action.expectNumber, first, second]
  show (if 0 ≤ exponent.toInt then _ else _ : Action Value) s = _
  rw [if_pos natural]

/-- The sixty-third power of minus two is the least integer, and that of two is none. -/
theorem pow_integer_exact_least :
    (invoke "pow" [.int 0 (-2), .int 1 63]).outcome World.empty =
      (.ok (.int 0 Int64.minValue), ⟨⟨#[], #[], 1⟩, Sink.empty⟩) ∧
    Checked.powerBySquaring? (-2) 63 = .ok (some Int64.minValue) ∧
    ∃ cause, cause.kind = .value ∧
      (invoke "pow" [.int 0 2, .int 1 63]).outcome World.empty =
        (.error (.ofCause cause), World.empty) := by
  have least : Integer.ofInt? ((-2 : Integer).toInt ^ (63 : Integer).toInt.toNat) =
      some Int64.minValue := by decide
  obtain ⟨yields, squaring⟩ := pow_integer_exact (v := .int 0 (-2)) (u := .int 1 63) rfl rfl
    (by decide)
  obtain ⟨fails, _⟩ := pow_integer_exact (v := .int 0 2) (u := .int 1 63) rfl rfl (by decide)
  obtain ⟨cause, kind, outcome⟩ := fails.exceeds (by decide)
  exact ⟨yields.fits _ (Integer.ofInt?_eq_some_iff.mp least) World.empty,
    squaring.trans (by rw [least]), cause, kind, outcome World.empty⟩

end Builtin

/-! ### Roundings -/

/-- What is less than half of the denominator rounds to zero. -/
theorem nearestEven_of_lt {numerator denominator : Nat} (small : 2 * numerator < denominator) :
    nearestEven numerator denominator = 0 := by
  have less : numerator < denominator := by omega
  rw [nearestEven, Nat.div_eq_of_lt less, Nat.mod_eq_of_lt less]
  exact if_pos small

/-- **The signed quotient counts the nearest multiple**, on both sides of zero. -/
theorem Checked.nearestMultiple_nearestSigned (n : Int) {unit : Nat} (positive : 0 < unit) :
    NearestMultiple unit n (nearestSigned n unit) := by
  have nearest := nearestMultiple_nearestEven n.natAbs positive
  have cast : (n.natAbs : Rat) = (n.natAbs : Int) := (Int.cast_natCast _).symm
  rw [cast] at nearest
  unfold nearestSigned
  split
  case isTrue negative =>
    have mirrored := nearest.neg (Nat.cast_pos.mpr positive)
    rwa [← Int.cast_neg, show -(n.natAbs : Int) = n by omega] at mirrored
  case isFalse natural => rwa [show (n.natAbs : Int) = n by omega] at nearest

namespace Integer

/-- **A rounding to places before the point is a multiple of the unit, if it fits.** With more than
nineteen places the unit is more than twice every integer, and the multiple is zero. -/
theorem roundTo?_eq_ofInt? (n : Integer) {places : Integer} (negative : places.toInt < 0) :
    n.roundTo? places = ofInt?
      (Checked.nearestSigned n.toInt (10 ^ (-places.toInt).toNat) *
        (10 ^ (-places.toInt).toNat : Nat)) := by
  unfold roundTo? Checked.nearestSigned
  rw [if_neg (by omega)]
  by_cases far : places.toInt < -19
  · have word : n.toInt.natAbs ≤ 2 ^ 63 := by
      obtain ⟨least, most⟩ := fits_toInt n
      omega
    have small : 2 * n.toInt.natAbs < 10 ^ (-places.toInt).toNat :=
      calc 2 * n.toInt.natAbs ≤ 2 * 2 ^ 63 := Nat.mul_le_mul_left 2 word
        _ < 10 ^ 20 := by decide
        _ ≤ 10 ^ (-places.toInt).toNat := Nat.pow_le_pow_right (by decide) (by omega)
    rw [if_pos far, nearestEven_of_lt small]
    simp only [Nat.cast_zero, Int.neg_zero, ite_self, Int.zero_mul]
    rfl
  · rw [if_neg far]
    dsimp only
    split
    case isTrue => rw [Int.neg_mul, Int.natCast_mul]
    case isFalse => rw [Int.natCast_mul]

end Integer

namespace Builtin

/-- Given a number of places, `round` rounds to it. -/
theorem body_round {v places : Value} {number : Number} {d : Integer}
    (first : Number.of? v = some number) (second : places.integer? = some d) :
    body .round [v, places] = rounded number (some d) := by
  funext s
  have reads : Action.expectInteger "round" places = pure d := by
    rw [Action.expectInteger, second]
  cases places with
  | int _ | bool _ => simp only [body, roundOf, Action.expectNumber, first, reads]; rfl
  | _ => cases second

/-- **Rounding an integer is exact**, half-way cases going to the even multiple. To any number of
places from zero on the integer stays as it is. To places before the point, exactly one multiple of
the unit is the nearest one, an even one if another is as near; `round` yields it if it fits a word,
and fails with a wrong value exactly if it does not. It is found in words of 64 and 128 bits without
an overflow. -/
theorem round_integer_exact {v places : Value} {n d : Integer}
    (number : Number.of? v = some (.int n)) (digits : places.integer? = some d) :
    (0 ≤ d.toInt → YieldsInteger "round" [v, places] n.toInt ∧
      Checked.roundTo? n d = .ok (some n)) ∧
    (d.toInt < 0 → ∃ m : Int,
      (∀ k, NearestMultiple (10 ^ (-d.toInt).toNat) n.toInt k ↔ k = m) ∧
      YieldsInteger "round" [v, places] (m * 10 ^ (-d.toInt).toNat) ∧
      Checked.roundTo? n d = .ok (Integer.ofInt? (m * 10 ^ (-d.toInt).toNat))) := by
  have found : find? "round" = some .round := rfl
  have accepts : (arity .round).Accepts [v, places].length := ⟨Nat.le_succ 1, Nat.le_refl 2⟩
  have calls : body .round [v, places] = Action.orTooLarge "round" (n.roundTo? d) :=
    body_round number digits
  constructor
  · intro natural
    have same : n.roundTo? d = some n := if_pos natural
    refine ⟨yieldsInteger_of_body found nofun accepts ?_, by rw [Checked.roundTo?_eq, same]⟩
    rw [calls, same, Integer.ofInt?_toInt]
  · intro negative
    have positive : 0 < 10 ^ (-d.toInt).toNat := Nat.pow_pos (by decide)
    have nearest := Checked.nearestMultiple_nearestSigned n.toInt positive
    have rounds := n.roundTo?_eq_ofInt? negative
    push_cast at nearest rounds
    refine ⟨_, fun k => nearest.eq_iff (by positivity), ?_, by rw [Checked.roundTo?_eq, rounds]⟩
    exact yieldsInteger_of_body found nofun accepts (by rw [calls, rounds])

/-- A half below zero goes to the even number of hundreds; the greatest integer is no word any more
when it is rounded to tens. -/
theorem round_integer_exact_halves :
    (invoke "round" [.int 0 (-1250), .int 1 (-2)]).outcome World.empty =
      (.ok (.int 0 (-1200)), ⟨⟨#[], #[], 1⟩, Sink.empty⟩) ∧
    ∃ cause, cause.kind = .value ∧
      (invoke "round" [.int 0 Int64.maxValue, .int 1 (-1)]).outcome World.empty =
        (.error (.ofCause cause), World.empty) := by
  obtain ⟨m, _, yields, computed⟩ :=
    (@round_integer_exact (.int 0 (-1250)) (.int 1 (-2)) _ _ rfl rfl).2 (by decide)
  obtain ⟨k, _, fails, refused⟩ :=
    (@round_integer_exact (.int 0 Int64.maxValue) (.int 1 (-1)) _ _ rfl rfl).2 (by decide)
  have hundreds : Checked.roundTo? (-1250) (-2) = .ok (some (-1200)) := by decide
  have tens : Checked.roundTo? Int64.maxValue (-1) = .ok none := by decide
  rw [hundreds] at computed
  rw [tens] at refused
  have fits := Integer.ofInt?_eq_some_iff.mp (Except.ok.inj computed).symm
  have outside := Integer.ofInt?_eq_none_iff.mp (Except.ok.inj refused).symm
  obtain ⟨cause, kind, outcome⟩ := fails.exceeds outside
  exact ⟨yields.fits _ fits World.empty, cause, kind, outcome World.empty⟩

end Builtin

end CallConsole
