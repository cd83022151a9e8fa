/-
**Numbers compare as the exact numbers that they stand for.**

The fields of a finite double denote a rational number, an integer is one, and an infinity lies
beyond all of them. The order that is computed in units of `2 ^ -1074` is the order of these
numbers, and so is the order that a machine finds, which cuts a double down to a word first:

* `Double.rational_mul`: what the fields of a double denote, in units;
* `StandsFor.compare_eq`: units are ordered as the numbers that they stand for;
* `Checked.order?_eq`: the order that a machine finds, case by case, within its words;
* `Number.order_exact`: the comparison of numbers is exact.
-/

import CallConsole.Comparison
import CallConsole.Proofs.Equality
import CallConsole.Proofs.NumericOrder
import CallConsole.Proofs.Checked.Words
import Mathlib.Algebra.Order.Field.Rat
import Mathlib.Order.WithBot
import Mathlib.Order.Compare
import Mathlib.Tactic.FieldSimp
import Mathlib.Tactic.NormNum
import Mathlib.Tactic.Ring

namespace CallConsole

/-! ### What the fields denote -/

namespace Double

/-- The eleven bits of the exponent. -/
def exponentField (x : Double) : Nat := x.code / 2 ^ 52

/-- The fifty-two bits of the fraction. -/
def fractionField (x : Double) : Nat := x.code % 2 ^ 52

/-- The absolute value that the fields of a finite double denote. With an exponent field of zero the
fraction stands alone; otherwise a one stands in front of it. -/
def magnitude (x : Double) : Rat :=
  if x.exponentField = 0 then x.fractionField / 2 ^ 52 * 2 ^ (-1022 : Int)
  else (1 + x.fractionField / 2 ^ 52) * 2 ^ ((x.exponentField : Int) - 1023)

/-- **The rational number that the bits of a finite double denote.** -/
def rational (x : Double) : Rat := if x.negative then -x.magnitude else x.magnitude

/-- Below the least exponent, the fraction counts units. -/
theorem units_of_exponentField_zero {x : Double} (least : x.exponentField = 0) :
    x.units = x.fractionField := by
  unfold exponentField at least
  unfold fractionField
  rw [units, unitsOfCode_of_lt (by omega)]
  omega

/-- From the least exponent on, the fraction with a one in front of it is scaled by the exponent. -/
theorem units_of_exponentField_succ {x : Double} {e : Nat} (field : x.exponentField = e + 1) :
    x.units = (2 ^ 52 + x.fractionField) * 2 ^ e := by
  have large : 2 ^ 52 ≤ x.code := by unfold exponentField at field; omega
  rw [units, unitsOfCode_eq large, ← exponentField, field]
  rfl

/-- One, in units, is the scale of a fraction times that of the least exponent. -/
theorem oneUnits_eq : (oneUnits : Rat) = 2 ^ 52 * 2 ^ 1022 := by
  have regroup (a b c : Nat) (sum : a = b + c) : ((2 ^ a : Nat) : Rat) = 2 ^ b * 2 ^ c := by
    rw [sum, Nat.cast_pow, pow_add]
    rfl
  rw [oneUnits, regroup 1074 52 1022 rfl]

/-- **The absolute value is a whole number of units.** -/
theorem magnitude_mul (x : Double) : x.magnitude * oneUnits = x.units := by
  rw [oneUnits_eq]
  cases field : x.exponentField with
  | zero =>
    have least : (2 : Rat) ^ (-1022 : Int) = 1 / 2 ^ 1022 := by
      rw [zpow_neg, one_div]
      rfl
    rw [magnitude, if_pos field, least, units_of_exponentField_zero field]
    field_simp
  | succ e =>
    have scale : (2 : Rat) ^ ((x.exponentField : Int) - 1023) = 2 ^ e / 2 ^ 1022 := by
      rw [field, ← zpow_natCast, ← zpow_natCast, ← zpow_sub₀ two_ne_zero]
      congr 1
      push_cast
      ring
    rw [magnitude, if_neg (by omega), scale, units_of_exponentField_succ field]
    push_cast
    field_simp
    norm_num

/-- **A double stands for its units.** -/
theorem rational_mul (x : Double) : x.rational * oneUnits = x.signedUnits := by
  unfold rational signedUnits
  split
  · rw [neg_mul, magnitude_mul, Int.cast_neg, Int.cast_natCast]
  · rw [magnitude_mul, Int.cast_natCast]

/-! ### Infinities -/

/-- The units of an infinity. -/
def infiniteUnits : Nat := unitsOfCode infinityCode

theorem infiniteUnits_pos : 0 < infiniteUnits := by
  have larger : unitsOfCode 0 < unitsOfCode infinityCode := unitsOfCode_lt_unitsOfCode (by decide)
  exact Nat.zero_lt_of_lt larger

/-- An infinity has `2 ^ 1024` times the units of one. -/
theorem infiniteUnits_eq : infiniteUnits = 2 ^ 1024 * oneUnits := by
  have infinity : (infinite false).code = infinityCode := by decide
  rw [infiniteUnits, ← infinity]
  exact units_of_isInfinite infinity

/-- An infinity has all bits of the exponent set, and no other number has. -/
theorem exponentField_eq_iff {x : Double} (number : x.isNan = false) :
    x.exponentField = 2047 ↔ x.code = infinityCode := by
  have notAbove : x.code ≤ infinityCode := by simpa [isNan] using number
  unfold exponentField
  unfold infinityCode at *
  omega

/-- A finite double has fewer units than an infinity. -/
theorem units_lt_infiniteUnits {x : Double} (number : x.isNan = false)
    (finite : x.exponentField ≠ 2047) : x.units < infiniteUnits := by
  have notAbove : x.code ≤ infinityCode := by simpa [isNan] using number
  have below := Nat.lt_of_le_of_ne notAbove (mt (exponentField_eq_iff number).mpr finite)
  exact unitsOfCode_lt_unitsOfCode below

/-- An integer has fewer units than an infinity. -/
theorem natAbs_mul_lt_infiniteUnits (n : Integer) :
    (n.toInt * (oneUnits : Int)).natAbs < infiniteUnits := by
  have word : n.toInt.natAbs < 2 ^ 64 := by
    have least := n.le_toInt
    have most := n.toInt_lt
    omega
  have wider (a b m : Nat) (less : a < b) (small : m < 2 ^ a) : m * oneUnits < 2 ^ b * oneUnits :=
    Nat.mul_lt_mul_of_pos_right (Nat.lt_trans small (Nat.pow_lt_pow_right (by decide) less))
      oneUnits_pos
  rw [Int.natAbs_mul, Int.natAbs_natCast, infiniteUnits_eq]
  exact wider 64 1024 _ (by decide) word

end Double

/-! ### Numbers beyond all rationals -/

/-- The rational numbers, with one number below all of them and one above. -/
abbrev Extended := WithBot (WithTop Rat)

/-- A rational number as one of the extended numbers. -/
def Extended.ofRat (q : Rat) : Extended := ((q : WithTop Rat) : WithBot (WithTop Rat))

/-- **The units stand for the number**: a rational one, or one that lies beyond all of these. -/
inductive StandsFor : Int → Extended → Prop
  | finite {units : Int} {q : Rat} : q * Double.oneUnits = units →
      units.natAbs < Double.infiniteUnits → StandsFor units (.ofRat q)
  | above : StandsFor Double.infiniteUnits ⊤
  | below : StandsFor (-Double.infiniteUnits) ⊥

namespace StandsFor

variable {m n : Int} {x y : Extended}

theorem lt_iff (first : StandsFor m x) (second : StandsFor n y) : m < n ↔ x < y := by
  cases first with
  | finite scaled small =>
    cases second with
    | finite scaled' small' =>
      have positive : (0 : Rat) < Double.oneUnits := Nat.cast_pos.mpr Double.oneUnits_pos
      rw [Extended.ofRat, Extended.ofRat, WithBot.coe_lt_coe, WithTop.coe_lt_coe,
        ← mul_lt_mul_iff_left₀ positive, scaled, scaled', Int.cast_lt]
    | above => exact iff_of_true (by omega) (WithBot.coe_lt_coe.mpr (WithTop.coe_lt_top _))
    | below => exact iff_of_false (by omega) not_lt_bot
  | above =>
    refine iff_of_false ?_ not_top_lt
    cases second <;> omega
  | below =>
    cases second with
    | finite => exact iff_of_true (by omega) (WithBot.bot_lt_coe _)
    | above => exact iff_of_true (by have := Double.infiniteUnits_pos; omega) bot_lt_top
    | below => exact iff_of_false (by omega) not_lt_bot

/-- **The order of units is that of the numbers that they stand for.** -/
theorem compare_eq (first : StandsFor m x) (second : StandsFor n y) : compare m n = cmp x y := by
  rcases Int.lt_trichotomy m n with less | rfl | greater
  · rw [Int.compare_eq_lt.mpr less, (cmp_eq_lt_iff x y).mpr ((first.lt_iff second).mp less)]
  · have above : ¬ x < y := mt (first.lt_iff second).mpr (Int.lt_irrefl m)
    have below : ¬ y < x := mt (second.lt_iff first).mpr (Int.lt_irrefl m)
    have same := le_antisymm (not_lt.mp below) (not_lt.mp above)
    rw [Int.compare_eq_eq.mpr rfl, (cmp_eq_eq_iff x y).mpr same]
  · rw [Int.compare_eq_gt.mpr greater, (cmp_eq_gt_iff x y).mpr ((second.lt_iff first).mp greater)]

end StandsFor

namespace Number

/-- **The number that a number other than NaN stands for.** -/
def denoted : Number → Extended
  | int n => .ofRat n.toInt
  | float x =>
    if x.exponentField = 2047 then if x.negative then ⊥ else ⊤ else .ofRat x.rational

/-- The units of a number stand for it. -/
theorem standsFor {a : Number} (number : a.isNan = false) : StandsFor a.signedUnits a.denoted := by
  cases a with
  | int n =>
    refine .finite ?_ (Double.natAbs_mul_lt_infiniteUnits n)
    rw [signedUnits, Int.cast_mul, Int.cast_natCast]
  | float x =>
    rw [denoted, signedUnits]
    by_cases infinite : x.exponentField = 2047
    · have units : x.units = Double.infiniteUnits := by
        rw [Double.units, (Double.exponentField_eq_iff number).mp infinite, Double.infiniteUnits]
      rw [if_pos infinite, Double.signedUnits, units]
      split
      · exact .below
      · exact .above
    · rw [if_neg infinite]
      refine .finite x.rational_mul ?_
      have small := Double.units_lt_infiniteUnits number infinite
      unfold Double.signedUnits
      split <;> omega

/-- **The order of two numbers is that of what they stand for.** -/
theorem order?_eq_cmp {a b : Number} (first : a.isNan = false) (second : b.isNan = false) :
    a.order? b = some (cmp a.denoted b.denoted) := by
  rw [order?_of_not_nan first second, (standsFor first).compare_eq (standsFor second)]

end Number

/-! ### The order of a machine -/

namespace Double

/-- **Cutting the fraction off** leaves less than one, on the side of the value away from zero. -/
theorem truncate_cases (x : Double) :
    (0 ≤ x.truncate ∧ 0 ≤ x.signedUnits - x.truncate * oneUnits ∧
      x.signedUnits - x.truncate * oneUnits < oneUnits) ∨
    (x.truncate ≤ 0 ∧ x.signedUnits - x.truncate * oneUnits ≤ 0 ∧
      -(oneUnits : Int) < x.signedUnits - x.truncate * oneUnits) := by
  have parts := Nat.div_add_mod' x.units oneUnits
  have small : x.units % oneUnits < oneUnits := Nat.mod_lt _ oneUnits_pos
  unfold truncate signedUnits
  generalize x.units / oneUnits = whole at *
  generalize x.units % oneUnits = fraction at *
  rw [← parts]
  push_cast
  cases x.negative
  · rw [if_neg Bool.false_ne_true, if_neg Bool.false_ne_true]
    omega
  · rw [if_pos rfl, if_pos rfl, Int.neg_mul]
    omega

end Double

namespace Checked

open Width

/-- **The order of an integer and a double.** -/
def mixedOrder (n : Integer) (x : Double) : Checked (Option Ordering) :=
  if x.isNan then .ok none
  else if 2 ^ 63 * (Double.oneUnits : Int) ≤ x.signedUnits then .ok (some .lt)
  else if x.signedUnits < -2 ^ 63 * (Double.oneUnits : Int) then .ok (some .gt)
  else do
    let whole ← signed64.check x.truncate
    match compare n.toInt whole with
    | .eq => .ok (some (compare 0 (x.signedUnits - whole * Double.oneUnits)))
    | decided => .ok (some decided)

/-- The order of two numbers. -/
def order? : Number → Number → Checked (Option Ordering)
  | .int m, .int n => .ok (some (compare m.toInt n.toInt))
  | .int m, .float y => mixedOrder m y
  | .float x, .int n => (·.map Ordering.swap) <$> mixedOrder n x
  | .float x, .float y =>
    .ok (if x.isNan || y.isNan then none else some (compare x.signedUnits y.signedUnits))

/-- The whole part of a double inside the limits of a word is a word. -/
theorem fits_truncate {x : Double} (high : x.signedUnits < 2 ^ 63 * (Double.oneUnits : Int))
    (low : -2 ^ 63 * (Double.oneUnits : Int) ≤ x.signedUnits) : signed64.Fits x.truncate := by
  have positive : (0 : Int) < Double.oneUnits := Int.natCast_pos.mpr Double.oneUnits_pos
  refine fits_signed64_iff.mpr ⟨?_, ?_⟩
  · refine Int.not_lt.mp fun below => ?_
    have scaled := Int.mul_le_mul_of_nonneg_right (Int.add_one_le_of_lt below) positive.le
    rw [Int.add_mul] at scaled
    rcases x.truncate_cases with ⟨sign, _, _⟩ | ⟨_, fraction, _⟩ <;> omega
  · refine Int.not_le.mp fun above => ?_
    have scaled := Int.mul_le_mul_of_nonneg_right above positive.le
    rcases x.truncate_cases with ⟨_, fraction, _⟩ | ⟨sign, _, _⟩ <;> omega

/-- The sign of a difference tells the order. -/
theorem compare_zero_sub (m n : Int) : compare 0 (n - m) = compare m n := by
  rcases Int.lt_trichotomy m n with less | rfl | greater
  · rw [Int.compare_eq_lt.mpr less, Int.compare_eq_lt.mpr (Int.sub_pos_of_lt less)]
  · rw [Int.compare_eq_eq.mpr rfl, Int.sub_self]
    rfl
  · rw [Int.compare_eq_gt.mpr greater, Int.compare_eq_gt.mpr (Int.sub_neg_of_lt greater)]

/-- **An integer is compared with the whole part of a double first**, and then with the rest. -/
theorem compare_truncate (n : Int) (x : Double) :
    compare (n * Double.oneUnits) x.signedUnits =
      (compare n x.truncate).then
        (compare 0 (x.signedUnits - x.truncate * Double.oneUnits)) := by
  have positive : (0 : Int) < Double.oneUnits := Int.natCast_pos.mpr Double.oneUnits_pos
  have near := x.truncate_cases
  rcases Int.lt_trichotomy n x.truncate with less | same | greater
  · have scaled := Int.mul_le_mul_of_nonneg_right (Int.add_one_le_of_lt less) positive.le
    rw [Int.add_mul] at scaled
    rw [Int.compare_eq_lt.mpr less, Int.compare_eq_lt.mpr (by omega)]
    rfl
  · rw [Int.compare_eq_eq.mpr same, compare_zero_sub, same]
    rfl
  · have scaled := Int.mul_le_mul_of_nonneg_right (Int.add_one_le_of_lt greater) positive.le
    rw [Int.add_mul] at scaled
    rw [Int.compare_eq_gt.mpr greater, Int.compare_eq_gt.mpr (by omega)]
    rfl

/-- The machine finds the order of an integer and a double. -/
theorem mixedOrder_eq (n : Integer) (x : Double) :
    mixedOrder n x = .ok ((Number.int n).order? (.float x)) := by
  have positive : (0 : Int) < Double.oneUnits := Int.natCast_pos.mpr Double.oneUnits_pos
  obtain ⟨least, most⟩ := n.fits_toInt
  unfold mixedOrder
  cases nan : x.isNan with
  | true =>
    rw [if_pos rfl, Number.order?_eq, Number.isNan, Number.isNan, nan]
    rfl
  | false =>
    have ordered : (Number.int n).order? (.float x) =
        some (compare (n.toInt * Double.oneUnits) x.signedUnits) :=
      Number.order?_of_not_nan rfl nan
    rw [if_neg Bool.false_ne_true, ordered]
    by_cases high : 2 ^ 63 * (Double.oneUnits : Int) ≤ x.signedUnits
    · have below := Int.mul_lt_mul_of_pos_right most positive
      rw [if_pos high, Int.compare_eq_lt.mpr (Int.lt_of_lt_of_le below high)]
    rw [if_neg high]
    by_cases low : x.signedUnits < -2 ^ 63 * (Double.oneUnits : Int)
    · have above := Int.mul_le_mul_of_nonneg_right least positive.le
      rw [if_pos low, Int.compare_eq_gt.mpr (Int.lt_of_lt_of_le low above)]
    rw [if_neg low, check_of_fits (fits_truncate (Int.not_le.mp high) (Int.not_lt.mp low)), ok_bind,
      compare_truncate]
    cases compare n.toInt x.truncate <;> rfl

/-- **A machine finds the order of two numbers**, without leaving the words. -/
theorem order?_eq (a b : Number) : order? a b = .ok (a.order? b) := by
  cases a with
  | int m =>
    cases b with
    | int n => rfl
    | float y => exact mixedOrder_eq m y
  | float x =>
    cases b with
    | int n => rw [order?, mixedOrder_eq, map_ok, Number.order?_swap (.int n)]
    | float y => rfl

end Checked

/-! ### The laws of the order -/

namespace Number

/-- The number is not greater than the other one. -/
def AtMost (a b : Number) : Prop := a.order? b = some .lt ∨ a.order? b = some .eq

/-- Only NaN has no place in the order. -/
theorem order?_eq_none_iff {a b : Number} :
    a.order? b = none ↔ a.isNan = true ∨ b.isNan = true := by
  rw [order?_eq, ← Bool.or_eq_true]
  split
  case isTrue nan => exact iff_of_true rfl nan
  case isFalse number => exact iff_of_false nofun number

/-- **A number is at most another** if what it stands for is. -/
theorem atMost_iff {a b : Number} :
    a.AtMost b ↔ a.isNan = false ∧ b.isNan = false ∧ a.denoted ≤ b.denoted := by
  unfold AtMost
  cases first : a.isNan with
  | true =>
    rw [order?_eq_none_iff.mpr (.inl first)]
    simp
  | false =>
    cases second : b.isNan with
    | true =>
      rw [order?_eq_none_iff.mpr (.inr second)]
      simp
    | false =>
      rw [order?_eq_cmp first second, Option.some.injEq, Option.some.injEq, cmp_eq_lt_iff,
        cmp_eq_eq_iff, ← le_iff_lt_or_eq]
      simp

/-- NaN has all bits of the exponent set, and a fraction. -/
theorem isNan_iff_fields {x : Double} :
    (float x).isNan = true ↔ x.exponentField = 2047 ∧ x.fractionField ≠ 0 := by
  have word : x.code < 2 ^ 63 := Nat.mod_lt _ (by decide)
  rw [isNan, Double.isNan, decide_eq_true_iff, Double.exponentField, Double.fractionField,
    Double.infinityCode]
  omega

/-- **An integer and a double rank alike** if the double is finite and denotes the integer. -/
theorem order?_int_float_eq_iff {n : Integer} {x : Double} :
    (int n).order? (float x) = some .eq ↔ x.exponentField ≠ 2047 ∧ x.rational = n.toInt := by
  cases nan : x.isNan with
  | true =>
    have none : (int n).order? (float x) = none := order?_eq_none_iff.mpr (.inr nan)
    rw [none]
    exact iff_of_false nofun fun ⟨finite, _⟩ => finite (isNan_iff_fields.mp nan).1
  | false =>
    have number : (float x).isNan = false := nan
    have ordered := order?_eq_cmp (a := int n) rfl number
    rw [ordered, Option.some.injEq, cmp_eq_eq_iff, denoted, denoted]
    split
    case isTrue infinite =>
      refine iff_of_false ?_ fun ⟨finite, _⟩ => finite infinite
      split
      · exact WithBot.coe_ne_bot
      · exact fun same => WithTop.coe_ne_top (WithBot.coe_injective same)
    case isFalse finite =>
      rw [Extended.ofRat, Extended.ofRat, WithBot.coe_inj, WithTop.coe_inj]
      exact ⟨fun same => ⟨finite, same.symm⟩, fun ⟨_, same⟩ => same.symm⟩

section Values

variable {s : Store} {v w : Value} {a b : Number}

/-- Numeric values are equal if their numbers rank alike. -/
theorem equal_iff (first : of? v = some a) (second : of? w = some b) :
    s.equal v w = true ↔ a.order? b = some .eq := by
  rw [Store.equal_iff_matches, order?_eq_some_eq_iff]
  constructor
  · intro agree
    cases agree with
    | number one other same =>
      cases first.symm.trans one
      cases second.symm.trans other
      exact same
    | lazy isLazy => exact absurd isLazy (Value.not_isLazy_of_number first)
    | _ => cases first
  · exact .number first second

/-- Numeric values are ordered as their numbers are. -/
theorem compare_eq (first : of? v = some a) (second : of? w = some b) :
    s.compare v w = .ok ((a.order? b).getD .eq) := by
  rw [Store.compare, Store.depthLimit, Store.compareWithin]
  unfold Store.compareWith
  rw [first, second]

end Values

/-- **The comparison of numbers is exact.** A machine finds the order of two numbers without leaving
its words. There is none exactly if one of the numbers is NaN; otherwise it is the order of the
rational numbers that the fields of the doubles denote and that the integers are, with the two
infinities beyond all of these. It is a total preorder on the numbers other than NaN, and an integer
ranks with exactly the double that denotes it. Values that are integers, booleans or doubles are
equal, and are ordered, as these numbers are. -/
theorem order_exact :
    (∀ a b : Number, Checked.order? a b = .ok (a.order? b)) ∧
    (∀ x : Double, (float x).isNan = true ↔ x.exponentField = 2047 ∧ x.fractionField ≠ 0) ∧
    (∀ a b : Number, a.order? b = none ↔ a.isNan = true ∨ b.isNan = true) ∧
    (∀ a b : Number, a.isNan = false → b.isNan = false →
      a.order? b = some (cmp a.denoted b.denoted)) ∧
    (∀ a : Number, a.isNan = false → a.AtMost a) ∧
    (∀ a b : Number, a.isNan = false → b.isNan = false → a.AtMost b ∨ b.AtMost a) ∧
    (∀ a b c : Number, a.AtMost b → b.AtMost c → a.AtMost c) ∧
    (∀ (n : Integer) (x : Double), (int n).order? (float x) = some .eq ↔
      x.exponentField ≠ 2047 ∧ x.rational = n.toInt) ∧
    ∀ (s : Store) (v w : Value) (a b : Number), of? v = some a → of? w = some b →
      (s.equal v w = true ↔ a.order? b = some .eq) ∧
      s.compare v w = .ok ((a.order? b).getD .eq) := by
  refine ⟨Checked.order?_eq, fun _ => isNan_iff_fields, fun _ _ => order?_eq_none_iff,
    fun _ _ => order?_eq_cmp, ?reflexive, ?total, ?transitive, fun _ _ => order?_int_float_eq_iff,
    fun _ _ _ _ _ first second => ⟨equal_iff first second, compare_eq first second⟩⟩
  case reflexive =>
    intro a number
    exact atMost_iff.mpr ⟨number, number, le_refl _⟩
  case total =>
    intro a b first second
    rcases le_total a.denoted b.denoted with below | above
    · exact .inl (atMost_iff.mpr ⟨first, second, below⟩)
    · exact .inr (atMost_iff.mpr ⟨second, first, above⟩)
  case transitive =>
    intro a b c first second
    obtain ⟨least, _, below⟩ := atMost_iff.mp first
    obtain ⟨_, most, above⟩ := atMost_iff.mp second
    exact atMost_iff.mpr ⟨least, most, le_trans below above⟩

/-- The double next to `2 ^ 53 + 1` is `2 ^ 53`, which is less. -/
theorem order_exact_between_doubles :
    (int 9007199254740993).toDouble = ⟨0x4340000000000000⟩ ∧
    cmp (int 9007199254740993).denoted (float ⟨0x4340000000000000⟩).denoted = .gt ∧
    Store.empty.equal (.int 0 9007199254740993) (.float 1 ⟨0x4340000000000000⟩) = false := by
  have order : (int 9007199254740993).order? (float ⟨0x4340000000000000⟩) = some .gt := by
    decide +kernel
  obtain ⟨-, -, -, exact, -, -, -, -, values⟩ := order_exact
  refine ⟨by decide +kernel, ?_, ?_⟩
  · have denoted := exact (int 9007199254740993) (float ⟨0x4340000000000000⟩) rfl (by decide)
    exact Option.some.inj (denoted.symm.trans order)
  · obtain ⟨equal, _⟩ := values Store.empty (.int 0 9007199254740993)
      (.float 1 ⟨0x4340000000000000⟩) _ _ rfl rfl
    refine Bool.eq_false_iff.mpr fun same => ?_
    cases order.symm.trans (equal.mp same)

end Number

end CallConsole
