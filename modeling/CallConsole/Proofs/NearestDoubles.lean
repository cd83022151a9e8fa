/-
**The nearest double.**

The finite doubles and the power of two behind the greatest of them, for which an infinity stands,
are a ladder of multiples of powers of two. A rational number is rounded to the rung that is nearest
to it, and half-way between two rungs to the one with an even fraction:

* `Double.NearestTo`: a double is nearest to a number;
* `NearestTo.unique`: no other double of the same sign is;
* `NearestTo.isInfinite_iff`: an infinity is nearest from half a step above all finite doubles on;
* `nearestAmong_scaled`: rounding to a multiple of the step in the number's own octave is right for
  all rungs, those of the octaves below it included;
* `nearestTo_ofDecimal`: every decimal is read as the double nearest to it.
-/

import CallConsole.Proofs.ExactOrder
import CallConsole.Proofs.NearestMultiples
import CallConsole.Proofs.ShortestDecimals
import Mathlib.Order.Interval.Set.Defs
import Mathlib.Tactic.Positivity

namespace CallConsole

/-! ### The nearer of two numbers -/

section Nearer

variable {value low high : Rat}

/-- The upper of two numbers is as near as the lower one from the middle between them on. -/
theorem add_le_of_upper_nearer (less : low < high) (near : |value - high| ≤ |value - low|) :
    low + high ≤ 2 * value := by
  by_contra short
  rcases abs_cases (value - high) with ⟨upper, _⟩ | ⟨upper, _⟩ <;>
    rcases abs_cases (value - low) with ⟨lower, _⟩ | ⟨lower, _⟩ <;>
    linarith

/-- The lower of two numbers is as near as the upper one up to the middle between them. -/
theorem le_add_of_lower_nearer (less : low < high) (near : |value - low| ≤ |value - high|) :
    2 * value ≤ low + high := by
  by_contra long
  rcases abs_cases (value - high) with ⟨upper, _⟩ | ⟨upper, _⟩ <;>
    rcases abs_cases (value - low) with ⟨lower, _⟩ | ⟨lower, _⟩ <;>
    linarith

/-- In the middle between two numbers both are as near. -/
theorem abs_sub_eq_of_middle (middle : low + high = 2 * value) :
    |value - high| = |value - low| := by
  have mirrored : value - high = -(value - low) := by linarith
  rw [mirrored, abs_neg]

end Nearer

namespace Double

/-- **Of all doubles, this one has the absolute value nearest to the number**, which is one from
zero on; if the absolute value of another one is as near, the last bit of the fraction is zero. An
infinity takes part with the absolute value that its fields denote, `2 ^ 1024`. -/
structure NearestTo (r : Rat) (y : Double) : Prop where
  number : y.isNan = false
  near : ∀ z : Double, z.isNan = false → |r - y.magnitude| ≤ |r - z.magnitude|
  even : ∀ z : Double, z.isNan = false → z.magnitude ≠ y.magnitude →
    |r - z.magnitude| = |r - y.magnitude| → y.fractionField % 2 = 0

/-! ### Rungs -/

/-- The rung of one of the codes is nearest to a number of units, and half-way the code is even. -/
structure NearestAmong (codes : Set Nat) (value : Rat) (code : Nat) : Prop where
  member : code ∈ codes
  near : ∀ k ∈ codes, |value - unitsOfCode code| ≤ |value - unitsOfCode k|
  even : ∀ k ∈ codes, k ≠ code → |value - unitsOfCode k| = |value - unitsOfCode code| →
    code % 2 = 0

variable {codes : Set Nat} {value r : Rat} {code limit : Nat} {y z : Double}

/-- A larger code stands for a larger rational number of units. -/
theorem unitsOfCode_lt_cast {first second : Nat} (less : first < second) :
    (unitsOfCode first : Rat) < unitsOfCode second :=
  Nat.cast_lt.mpr (unitsOfCode_lt_unitsOfCode less)

/-- The distance of a double, in units. -/
theorem abs_sub_magnitude_mul (r : Rat) (z : Double) :
    |r - z.magnitude| * oneUnits = |r * oneUnits - unitsOfCode z.code| := by
  have positive : (0 : Rat) < oneUnits := Nat.cast_pos.mpr oneUnits_pos
  rw [← units, ← magnitude_mul, ← sub_mul, abs_mul, abs_of_pos positive]

theorem magnitude_eq_iff : y.magnitude = z.magnitude ↔ y.code = z.code := by
  have some : (oneUnits : Rat) ≠ 0 := Nat.cast_ne_zero.mpr oneUnits_pos.ne'
  rw [← mul_left_inj' some, magnitude_mul, magnitude_mul, Nat.cast_inj]
  exact ⟨fun same => unitsOfCode_injective same, fun same => congrArg unitsOfCode same⟩

theorem isNan_eq_false_iff : z.isNan = false ↔ z.code ≤ infinityCode := by
  simp [isNan]

/-- **A double is nearest if its code is, among those up to infinity.** -/
theorem nearestTo_iff : y.NearestTo r ↔
    NearestAmong (Set.Iic infinityCode) (r * oneUnits) y.code := by
  have positive : (0 : Rat) < oneUnits := Nat.cast_pos.mpr oneUnits_pos
  have parity : y.fractionField % 2 = y.code % 2 := by
    unfold fractionField
    omega
  constructor
  · rintro ⟨number, near, even⟩
    have denotes (k : Nat) (word : k ≤ infinityCode) : (ofCode false k).code = k :=
      code_ofCode false (Nat.lt_of_le_of_lt word infinityCode_lt)
    refine ⟨isNan_eq_false_iff.mp number, fun k word => ?_, fun k word other tied => ?_⟩
    · have further := near (ofCode false k) (isNan_eq_false_iff.mpr (by rwa [denotes k word]))
      rw [← mul_le_mul_iff_left₀ positive, abs_sub_magnitude_mul, abs_sub_magnitude_mul,
        denotes k word] at further
      exact further
    · rw [← denotes k word, ← abs_sub_magnitude_mul, ← abs_sub_magnitude_mul] at tied
      rw [← parity]
      refine even (ofCode false k) (isNan_eq_false_iff.mpr (by rwa [denotes k word])) ?_
        (mul_right_cancel₀ positive.ne' tied)
      rwa [Ne, magnitude_eq_iff, denotes k word]
  · rintro ⟨member, near, even⟩
    refine ⟨isNan_eq_false_iff.mpr member, fun z number => ?_, fun z number other tied => ?_⟩
    · rw [← mul_le_mul_iff_left₀ positive, abs_sub_magnitude_mul, abs_sub_magnitude_mul]
      exact near z.code (isNan_eq_false_iff.mp number)
    · rw [parity]
      refine even z.code (isNan_eq_false_iff.mp number) (mt magnitude_eq_iff.mpr other) ?_
      rw [← abs_sub_magnitude_mul, ← abs_sub_magnitude_mul, tied]

namespace NearestAmong

/-- Less than half a unit away, a rung is nearest, for rungs are a unit apart at least. -/
theorem of_close (member : code ∈ codes) (close : |value - unitsOfCode code| < 1 / 2) :
    NearestAmong codes value code := by
  have away (k : Nat) (other : k ≠ code) : 1 / 2 < |value - unitsOfCode k| := by
    have apart : (1 : Rat) ≤ |((unitsOfCode code - unitsOfCode k : Int) : Rat)| := by
      have differ : (unitsOfCode code : Int) ≠ unitsOfCode k := fun same =>
        other (unitsOfCode_injective (Int.natCast_inj.mp same)).symm
      exact_mod_cast Int.one_le_abs (sub_ne_zero.mpr differ)
    have between : ((unitsOfCode code - unitsOfCode k : Int) : Rat) =
        (value - unitsOfCode k) - (value - unitsOfCode code) := by
      push_cast
      ring
    rw [between] at apart
    have triangle := abs_sub (value - unitsOfCode k) (value - unitsOfCode code)
    linarith
  refine ⟨member, fun k _ => ?_, fun k _ other tied => ?_⟩
  · by_cases same : k = code
    · rw [same]
    · exact (close.trans (away k same)).le
  · exact absurd tied (close.trans (away k other)).ne'

/-- From the last rung on, the last one is nearest. -/
theorem of_beyond (beyond : unitsOfCode limit ≤ value) :
    NearestAmong (Set.Iic limit) value limit := by
  have further (k : Nat) (below : k < limit) :
      |value - unitsOfCode limit| < |value - unitsOfCode k| := by
    have less := unitsOfCode_lt_cast below
    rw [abs_of_nonneg (by linarith), abs_of_nonneg (by linarith)]
    linarith
  refine ⟨Set.mem_Iic.mpr le_rfl, fun k member => ?_, fun k member other tied => ?_⟩
  · rcases Nat.lt_or_eq_of_le member with below | rfl
    · exact (further k below).le
    · exact le_rfl
  · exact absurd tied (further k (Nat.lt_of_le_of_ne member other)).ne'

/-- **A ladder that is cut off** has its last rung for all that is rounded beyond it. -/
theorem clamp (nearest : NearestAmong Set.univ value code) (limit : Nat) :
    NearestAmong (Set.Iic limit) value (min code limit) := by
  rcases Nat.lt_or_ge limit code with beyond | within
  · have less := unitsOfCode_lt_cast beyond
    have near := nearest.near limit trivial
    have middle := add_le_of_upper_nearer less near
    rw [Nat.min_eq_right beyond.le]
    exact of_beyond (by linarith)
  · rw [Nat.min_eq_left within]
    exact ⟨within, fun k _ => nearest.near k trivial, fun k _ => nearest.even k trivial⟩

/-- Two nearest rungs would be neighbours, and one of their codes is odd. -/
theorem not_lt {first second : Nat} (lower : NearestAmong (Set.Iic limit) value first)
    (upper : NearestAmong (Set.Iic limit) value second) : ¬ first < second := by
  intro less
  have between : ¬ first + 1 < second := by
    intro below
    have above : first < first + 1 := Nat.lt_succ_self first
    have inside : first + 1 ≤ limit := below.le.trans upper.member
    have short := le_add_of_lower_nearer (unitsOfCode_lt_cast above) (lower.near _ inside)
    have long := add_le_of_upper_nearer (unitsOfCode_lt_cast below) (upper.near _ inside)
    have apart := unitsOfCode_lt_cast less
    linarith
  have tied : |value - unitsOfCode first| = |value - unitsOfCode second| :=
    le_antisymm (lower.near second upper.member) (upper.near first lower.member)
  have evenFirst := lower.even second upper.member less.ne' tied.symm
  have evenSecond := upper.even first lower.member less.ne tied
  omega

/-- **There is only one nearest rung.** -/
theorem unique {first second : Nat} (one : NearestAmong (Set.Iic limit) value first)
    (two : NearestAmong (Set.Iic limit) value second) : first = second := by
  have := not_lt one two
  have := not_lt two one
  omega

end NearestAmong

/-- **There is only one nearest double of each sign.** -/
theorem NearestTo.unique (first : y.NearestTo r) (second : z.NearestTo r)
    (sign : y.negative = z.negative) : y = z :=
  eq_of_negative_of_code sign ((nearestTo_iff.mp first).unique (nearestTo_iff.mp second))

/-! ### Octaves -/

/-- A count of steps of one octave, up to the start of the next one, is reached in as many codes. -/
theorem unitsOfCode_scaled {scale count : Nat} (most : count ≤ 2 ^ 53)
    (least : scale = 0 ∨ 2 ^ 52 ≤ count) :
    unitsOfCode (scale * 2 ^ 52 + count) = count * 2 ^ scale := by
  rcases Nat.lt_or_ge count (2 ^ 52) with small | large
  · have none : scale = 0 := by omega
    rw [none, Nat.zero_mul, Nat.zero_add, unitsOfCode_of_lt small, Nat.pow_zero, Nat.mul_one]
  have split : 2 ^ 52 ≤ scale * 2 ^ 52 + count := by omega
  rw [unitsOfCode_eq split]
  rcases Nat.lt_or_eq_of_le most with inside | rfl
  · have field : (scale * 2 ^ 52 + count) / 2 ^ 52 = scale + 1 := by omega
    have fraction : (scale * 2 ^ 52 + count) % 2 ^ 52 = count - 2 ^ 52 := by omega
    rw [field, fraction, Nat.add_sub_cancel' large, Nat.add_sub_cancel]
  · have field : (scale * 2 ^ 52 + 2 ^ 53) / 2 ^ 52 = scale + 2 := by omega
    have fraction : (scale * 2 ^ 52 + 2 ^ 53) % 2 ^ 52 = 0 := by omega
    rw [field, fraction, Nat.add_zero, Nat.add_succ_sub_one, Nat.pow_succ 2 scale,
      Nat.pow_succ 2 52, Nat.mul_assoc, Nat.mul_comm (2 ^ scale) 2]

/-- From an octave on, all rungs are multiples of its step. -/
theorem exists_multiple {scale : Nat} (within : scale = 0 ∨ (scale + 1) * 2 ^ 52 ≤ code) :
    ∃ count, unitsOfCode code = count * 2 ^ scale := by
  by_cases none : scale = 0
  · exact ⟨unitsOfCode code, by rw [none, Nat.pow_zero, Nat.mul_one]⟩
  have least : (scale + 1) * 2 ^ 52 ≤ code := within.resolve_left none
  have field : code / 2 ^ 52 - 1 = (code / 2 ^ 52 - 1 - scale) + scale := by omega
  refine ⟨(2 ^ 52 + code % 2 ^ 52) * 2 ^ (code / 2 ^ 52 - 1 - scale), ?_⟩
  rw [unitsOfCode_eq (by omega), Nat.mul_assoc, ← Nat.pow_add, ← field]

/-- The rungs of the octaves below are farther away than the nearest multiple of the step, for the
start of the octave is a multiple itself. -/
theorem abs_sub_lt_of_below {scale : Nat} {count : Int}
    (nearest : NearestMultiple (2 ^ scale) value count)
    (start : (2 ^ 52 : Nat) * 2 ^ scale ≤ value) (below : code < scale * 2 ^ 52 + 2 ^ 52) :
    |value - count * 2 ^ scale| < |value - unitsOfCode code| := by
  have near := nearest.near (2 ^ 52 : Nat)
  have less := unitsOfCode_lt_cast below
  rw [unitsOfCode_scaled (by decide) (.inr le_rfl), Nat.cast_mul, Nat.cast_pow 2 scale] at less
  rw [Int.cast_natCast, abs_of_nonneg (sub_nonneg.mpr start)] at near
  rw [abs_of_nonneg (sub_nonneg.mpr (less.le.trans start))]
  exact near.trans_lt (sub_lt_sub_left less value)

/-- **Rounding to a multiple of the step in the number's own octave is right for all rungs.** -/
theorem nearestAmong_scaled {scale : Nat} {count : Nat}
    (nearest : NearestMultiple (2 ^ scale) value count) (most : count ≤ 2 ^ 53)
    (least : scale = 0 ∨ 2 ^ 52 ≤ count) (inside : scale = 0 ∨ (2 ^ 52 : Nat) * 2 ^ scale ≤ value) :
    NearestAmong Set.univ value (scale * 2 ^ 52 + count) := by
  have rung : (unitsOfCode (scale * 2 ^ 52 + count) : Rat) = (count : Int) * 2 ^ scale := by
    rw [unitsOfCode_scaled most least]
    push_cast
    rfl
  have multiple (k : Nat) : (∃ j : Nat, (unitsOfCode k : Rat) = (j : Int) * 2 ^ scale) ∨
      |value - (count : Int) * 2 ^ scale| < |value - unitsOfCode k| := by
    by_cases within : scale = 0 ∨ (scale + 1) * 2 ^ 52 ≤ k
    · obtain ⟨j, same⟩ := exists_multiple within
      exact .inl ⟨j, by rw [same]; push_cast; rfl⟩
    · obtain ⟨some, before⟩ := not_or.mp within
      exact .inr (abs_sub_lt_of_below nearest (inside.resolve_left some) (by omega))
  refine ⟨trivial, fun k _ => ?_, fun k _ other tied => ?_⟩
  · rw [rung]
    rcases multiple k with ⟨j, same⟩ | further
    · rw [same]
      exact nearest.near j
    · exact further.le
  · rw [rung] at tied
    rcases multiple k with ⟨j, same⟩ | further
    · rw [same] at tied
      have differ : (j : Int) ≠ count := by
        intro equal
        rw [equal, ← rung, Nat.cast_inj] at same
        exact other (unitsOfCode_injective same)
      have even := nearest.even j differ tied
      omega
    · exact absurd tied further.ne'

/-! ### Overflow -/

/-- The last rung of an octave and the first one of the next, added up. -/
theorem unitsOfCode_add_next (scale : Nat) :
    (unitsOfCode (scale * 2 ^ 52 + (2 ^ 53 - 1)) : Rat) + unitsOfCode (scale * 2 ^ 52 + 2 ^ 53) =
      (2 ^ 54 - 1) * 2 ^ scale := by
  rw [unitsOfCode_scaled (by decide) (.inr (by decide)),
    unitsOfCode_scaled le_rfl (.inr (by decide))]
  push_cast
  ring

/-- The rungs of the greatest finite double and of infinity lie around `2 ^ 1024 - 2 ^ 970`. -/
theorem last_rungs : (unitsOfCode (infinityCode - 1) : Rat) + unitsOfCode infinityCode =
    2 * ((2 ^ 1024 - 2 ^ 970) * oneUnits) := by
  have codes : infinityCode - 1 = 2045 * 2 ^ 52 + (2 ^ 53 - 1) ∧
      infinityCode = 2045 * 2 ^ 52 + 2 ^ 53 := by decide
  have step : (2 : Rat) ^ 2045 = 2 ^ 971 * (2 ^ 52 * 2 ^ 1022) := by
    rw [← pow_add, ← pow_add]
  have twice : (2 : Rat) ^ 971 = 2 * 2 ^ 970 := pow_succ' 2 970
  have power : (2 : Rat) ^ 1024 = 2 ^ 54 * 2 ^ 970 := pow_add 2 54 970
  rw [codes.1, codes.2, unitsOfCode_add_next, oneUnits_eq, step, twice, power]
  generalize (2 : Rat) ^ 970 = half, (2 : Rat) ^ 52 * 2 ^ 1022 = one
  ring

/-- **An infinity is nearest from half a step above the greatest finite double on.** -/
theorem NearestTo.isInfinite_iff (nearest : y.NearestTo r) :
    y.isInfinite = true ↔ 2 ^ 1024 - 2 ^ 970 ≤ r := by
  have positive : (0 : Rat) < oneUnits := Nat.cast_pos.mpr oneUnits_pos
  have middle := last_rungs
  have step : infinityCode - 1 < infinityCode := by decide
  obtain ⟨member, near, even⟩ := nearestTo_iff.mp nearest
  rw [isInfinite, decide_eq_true_iff, ← mul_le_mul_iff_left₀ positive]
  generalize (2 ^ 1024 - 2 ^ 970) * (oneUnits : Rat) = half at *
  generalize r * (oneUnits : Rat) = value at *
  constructor
  · intro infinite
    have below := near (infinityCode - 1) step.le
    rw [infinite] at below
    have long := add_le_of_upper_nearer (unitsOfCode_lt_cast step) below
    linarith
  · intro long
    by_contra finite
    have before : y.code < infinityCode := Nat.lt_of_le_of_ne member finite
    have short := le_add_of_lower_nearer (unitsOfCode_lt_cast before) (near _ (Nat.le_refl _))
    have last : y.code = infinityCode - 1 := by
      by_contra lower
      have less : y.code < infinityCode - 1 := by omega
      have rung := unitsOfCode_lt_cast less
      linarith
    rw [last] at short
    -- half a step below infinity the last finite code would have to be even
    have tied : |value - unitsOfCode infinityCode| = |value - unitsOfCode y.code| := by
      rw [last]
      exact abs_sub_eq_of_middle (by linarith)
    have odd := even infinityCode (Nat.le_refl _) before.ne' tied
    rw [last] at odd
    exact absurd odd (by decide)

/-! ### Quotients -/

/-- The octave of a quotient, and the first one for all quotients before it. -/
theorem octave_bounds (numerator : Nat) {denominator scale : Nat} (positive : 0 < denominator)
    (octave : (numerator / denominator).log2 - 52 = scale) :
    numerator < 2 ^ 53 * (denominator * 2 ^ scale) ∧
      (scale = 0 ∨ 2 ^ 52 * (denominator * 2 ^ scale) ≤ numerator) := by
  have regroup (places : Nat) :
      2 ^ places * (denominator * 2 ^ scale) = 2 ^ (places + scale) * denominator := by
    rw [Nat.pow_add, Nat.mul_comm denominator, Nat.mul_assoc]
  rw [regroup, regroup]
  constructor
  · rw [← Nat.div_lt_iff_lt_mul positive]
    exact Nat.lt_of_lt_of_le Nat.lt_log2_self (Nat.pow_le_pow_right (by decide) (by omega))
  · by_cases first : scale = 0
    · exact .inl first
    · have some : numerator / denominator ≠ 0 := by
        intro zero
        rw [zero, Nat.log2_zero] at octave
        omega
      have log : 52 + scale = (numerator / denominator).log2 := by omega
      rw [log]
      exact .inr ((Nat.le_div_iff_mul_le positive).mp (Nat.log2_self_le some))

/-- A count of steps is rounded to one of the same octave, or to the start of the next one. -/
theorem nearestEven_le {numerator step limit : Nat} (below : numerator < limit * step) :
    nearestEven numerator step ≤ limit := by
  have positive : 0 < step := Nat.pos_of_ne_zero fun none => by
    rw [none, Nat.mul_zero] at below
    exact Nat.not_lt_zero _ below
  have near := (nearestEven_near numerator positive).1
  by_contra beyond
  have more : (limit + 1) * step ≤ nearestEven numerator step * step :=
    Nat.mul_le_mul_right step (by omega)
  rw [Nat.succ_mul] at more
  omega

theorem le_nearestEven {numerator step limit : Nat} (positive : 0 < step)
    (above : limit * step ≤ numerator) : limit ≤ nearestEven numerator step := by
  have near := (nearestEven_near numerator positive).2
  by_contra before
  have less : (nearestEven numerator step + 1) * step ≤ limit * step :=
    Nat.mul_le_mul_right step (by omega)
  rw [Nat.succ_mul] at less
  omega

/-- **The code found for a quotient of units is the nearest one.** -/
theorem nearestAmong_nearestCode (numerator : Nat) {denominator : Nat}
    (positive : 0 < denominator) :
    NearestAmong (Set.Iic infinityCode) (numerator / denominator)
      (nearestCode numerator denominator) := by
  unfold nearestCode
  dsimp only
  generalize octave : (numerator / denominator).log2 - 52 = scale
  obtain ⟨below, above⟩ := octave_bounds numerator positive octave
  have factor : (0 : Rat) < denominator := Nat.cast_pos.mpr positive
  have step : 0 < denominator * 2 ^ scale := Nat.mul_pos positive (Nat.two_pow_pos scale)
  have value : (numerator : Rat) = numerator / denominator * denominator :=
    (div_mul_cancel₀ _ factor.ne').symm
  have nearest := nearestMultiple_nearestEven numerator step
  rw [value, Nat.cast_mul, mul_comm (denominator : Rat), nearestMultiple_mul_right factor,
    Nat.cast_pow] at nearest
  refine (nearestAmong_scaled nearest (nearestEven_le below)
    (above.imp_right (le_nearestEven step)) (above.imp_right fun start => ?_)).clamp infinityCode
  rw [le_div_iff₀ factor]
  calc ((2 ^ 52 : Nat) : Rat) * 2 ^ scale * denominator =
      (2 ^ 52 * (denominator * 2 ^ scale) : Nat) := by push_cast; ring
    _ ≤ numerator := Nat.cast_le.mpr start

/-- **The double found for a quotient is the nearest one.** -/
theorem nearestTo_ofRatio (negative : Bool) (numerator : Nat) {denominator : Nat}
    (positive : 0 < denominator) :
    (ofRatio negative numerator denominator).NearestTo (numerator / denominator) := by
  have nearest := nearestAmong_nearestCode (numerator * oneUnits) positive
  rw [nearestTo_iff, ofRatio, code_ofCode negative (nearestCode_lt _ _), div_mul_eq_mul_div,
    ← Nat.cast_mul]
  exact nearest

end Double

/-! ### Decimals -/

/-- **The rational number that a decimal is.** -/
def Decimal.rational (d : Decimal) : Rat := d.digits * 10 ^ d.exponent

theorem ten_zpow_natCast (exponent : Nat) :
    (10 : Rat) ^ (exponent : Int) = (10 ^ exponent : Nat) := by
  rw [zpow_natCast, Nat.cast_pow, Nat.cast_ofNat]

/-- A power of ten is a quotient of two, one of which is one. -/
theorem ten_zpow_mul (exponent : Int) :
    (10 : Rat) ^ exponent * (10 ^ (-exponent).toNat : Nat) = (10 ^ exponent.toNat : Nat) := by
  have balance : exponent + (-exponent).toNat = exponent.toNat := by omega
  rw [← ten_zpow_natCast, ← ten_zpow_natCast, ← zpow_add₀ (by decide), balance]

theorem Decimal.rational_eq_div (d : Decimal) : d.rational = d.numerator / d.denominator := by
  have some : (d.denominator : Rat) ≠ 0 :=
    Nat.cast_ne_zero.mpr (Nat.pow_pos (show 0 < 10 by decide)).ne'
  rw [eq_div_iff some, Decimal.rational, Decimal.denominator, mul_assoc, ten_zpow_mul,
    Decimal.numerator, Nat.cast_mul]

/-- A number other than zero lies between the powers of ten that its digits give. -/
theorem Decimal.length_bounds {n : Nat} (some : n ≠ 0) :
    10 ^ (length n - 1) ≤ n ∧ n < 10 ^ length n := by
  have fits {count : Nat} (positive : 0 < count) : length n ≤ count ↔ n < 10 ^ count :=
    Nat.length_toDigits_le_iff (by decide) positive
  refine ⟨?_, (fits (length_pos n)).mp le_rfl⟩
  by_cases single : length n - 1 = 0
  · rw [single]
    exact Nat.pos_of_ne_zero some
  · have more : ¬ length n ≤ length n - 1 := by omega
    exact Nat.not_lt.mp (mt (fits (Nat.pos_of_ne_zero single)).mpr more)

/-- **A decimal lies between the powers of ten around its first digit.** -/
theorem Decimal.rational_bounds {d : Decimal} (some : d.digits ≠ 0) :
    10 ^ (length d.digits + d.exponent - 1) ≤ d.rational ∧
      d.rational < 10 ^ (length d.digits + d.exponent) := by
  obtain ⟨least, most⟩ := length_bounds some
  have positive := length_pos d.digits
  have scale : (0 : Rat) < 10 ^ d.exponent := zpow_pos (by decide) _
  have below : (length d.digits : Int) + d.exponent - 1 =
      (length d.digits - 1 : Nat) + d.exponent := by omega
  rw [below, zpow_add₀ (by decide), zpow_add₀ (by decide), zpow_natCast, zpow_natCast]
  constructor
  · exact mul_le_mul_of_nonneg_right (by exact_mod_cast least) scale.le
  · exact mul_lt_mul_of_pos_right (by exact_mod_cast most) scale

namespace Double

/-- What is at most half of `10 ^ -324` is less than half a unit. -/
theorem mul_oneUnits_lt {r : Rat} (small : 2 * r ≤ 10 ^ (-324 : Int)) : r * oneUnits < 1 / 2 := by
  have least : oneUnits < 10 ^ 324 := by decide +kernel
  have power : (10 : Rat) ^ (324 : Int) = (10 ^ 324 : Nat) := ten_zpow_natCast 324
  have unit : (10 : Rat) ^ (-324 : Int) * oneUnits < 1 := by
    rw [zpow_neg, inv_mul_lt_iff₀ (zpow_pos (by decide) _), mul_one, power, Nat.cast_lt]
    exact least
  have scaled := mul_le_mul_of_nonneg_right small (Nat.cast_nonneg oneUnits)
  linarith

/-- An infinity counts as less than half of `10 ^ 309`, and of the powers after it. -/
theorem two_mul_infiniteUnits_le {places : Nat} (many : 309 ≤ places) :
    2 * infiniteUnits ≤ 10 ^ places * oneUnits := by
  have most : 2 * 2 ^ 1024 ≤ 10 ^ 309 := by decide +kernel
  have wider (n a b c : Nat) (units : n = a * oneUnits) (less : 2 * a ≤ b) (power : b ≤ c) :
      2 * n ≤ c * oneUnits := by
    rw [units, ← Nat.mul_assoc]
    exact Nat.mul_le_mul_right oneUnits (less.trans power)
  have scaled := wider infiniteUnits (2 ^ 1024) (10 ^ 309) (10 ^ places) infiniteUnits_eq most
  have power := Nat.pow_le_pow_right (show 0 < 10 by decide) many
  exact scaled power

/-- A number below half a unit has no nearer double than zero. -/
theorem nearestTo_zero (negative : Bool) {r : Rat} (natural : 0 ≤ r)
    (small : r * oneUnits < 1 / 2) : (zero negative).NearestTo r := by
  have code : (zero negative).code = 0 := code_ofCode negative (by decide)
  rw [nearestTo_iff, code]
  refine .of_close (Set.mem_Iic.mpr (Nat.zero_le _)) ?_
  rwa [unitsOfCode_of_lt (by decide), Nat.cast_zero, sub_zero,
    abs_of_nonneg (mul_nonneg natural (Nat.cast_nonneg _))]

/-- A number beyond all doubles has no nearer one than infinity. -/
theorem nearestTo_infinite (negative : Bool) {r : Rat} {places : Nat} (many : 309 ≤ places)
    (large : (10 ^ places : Nat) ≤ r) : (infinite negative).NearestTo r := by
  have code : (infinite negative).code = infinityCode := code_ofCode negative infinityCode_lt
  have below : infiniteUnits ≤ 10 ^ places * oneUnits :=
    calc infiniteUnits ≤ 2 * infiniteUnits := by omega
      _ ≤ 10 ^ places * oneUnits := two_mul_infiniteUnits_le many
  rw [nearestTo_iff, code]
  refine .of_beyond ?_
  calc (infiniteUnits : Rat) ≤ (10 ^ places : Nat) * oneUnits := by
        rw [← Nat.cast_mul]
        exact Nat.cast_le.mpr below
    _ ≤ r * oneUnits := mul_le_mul_of_nonneg_right large (Nat.cast_nonneg _)

/-- **Every decimal is read as the double nearest to it.** -/
theorem nearestTo_ofDecimal (negative : Bool) (d : Decimal) :
    (ofDecimal negative d).NearestTo d.rational := by
  have natural : 0 ≤ d.rational :=
    mul_nonneg (Nat.cast_nonneg _) (zpow_pos (by decide) _).le
  unfold ofDecimal
  dsimp only
  split
  case isTrue small =>
    refine nearestTo_zero negative natural (mul_oneUnits_lt ?_)
    by_cases none : d.digits = 0
    · rw [Decimal.rational, none, Nat.cast_zero, zero_mul, mul_zero]
      exact (zpow_pos (by decide) _).le
    · have tiny := small.resolve_left none
      have below := (Decimal.rational_bounds none).2
      calc 2 * d.rational ≤ 10 * 10 ^ (Decimal.length d.digits + d.exponent) := by linarith
        _ = 10 ^ (1 + (Decimal.length d.digits + d.exponent)) := (zpow_one_add₀ (by decide) _).symm
        _ ≤ 10 ^ (-324 : Int) := zpow_le_zpow_right₀ (by decide) (by omega)
  case isFalse usual =>
    obtain ⟨some, _⟩ := not_or.mp usual
    split
    case isTrue large =>
      obtain ⟨places, exponent⟩ : ∃ places : Nat,
          Decimal.length d.digits + d.exponent - 1 = places :=
        ⟨_, (Int.toNat_of_nonneg (by omega)).symm⟩
      have above := (Decimal.rational_bounds some).1
      rw [exponent, ten_zpow_natCast] at above
      exact nearestTo_infinite negative (by omega) above
    case isFalse =>
      rw [Decimal.rational_eq_div]
      exact nearestTo_ofRatio negative _ (Nat.pow_pos (by decide))

end Double

end CallConsole
