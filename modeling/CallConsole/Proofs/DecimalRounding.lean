/-
**Rounding a double is exact in decimals.**

A double is rounded to the nearest multiple of a power of ten, a half-way case to the even multiple,
and the result is the double nearest to that multiple. What is rounded is the exact value, of which
the digits are cut; the text that the digits left make denotes the multiple exactly:

* `nearestMultiple_scaledNearest`: the multiple is the nearest one;
* `nearestTo_roundTo`: the result is nearest to it, also where no digit is looked at because the
  places lie beyond all digits of a double;
* `Builtin.round_float_exact`: the same for a call of `round`, for every finite double and every
  number of places.
-/

import CallConsole.Proofs.Checked.FloatRounding
import CallConsole.Proofs.ExactIntegers
import CallConsole.Proofs.NearestDoubles

namespace CallConsole

namespace Double

/-! ### The multiple -/

/-- **The multiple found is the nearest one.** -/
theorem nearestMultiple_scaledNearest (x : Double) (places : Int) :
    NearestMultiple 1 (x.magnitude * 10 ^ places) (x.scaledNearest places) := by
  have positive : 0 < oneUnits * 10 ^ (-places).toNat :=
    Nat.mul_pos oneUnits_pos (Nat.pow_pos (by decide))
  have nearest := nearestMultiple_nearestEven (x.units * 10 ^ places.toNat) positive
  have value : (x.units * 10 ^ places.toNat : Nat) =
      x.magnitude * 10 ^ places * (oneUnits * 10 ^ (-places).toNat : Nat) := by
    rw [Nat.cast_mul, Nat.cast_mul, ← magnitude_mul, ← ten_zpow_mul]
    ring
  refine (nearestMultiple_mul_right (Nat.cast_pos.mpr positive)).mp ?_
  rwa [one_mul, ← value]

/-- The multiple lies within half a unit of the value. -/
theorem abs_scaledNearest_sub_le (x : Double) (places : Int) :
    2 * |x.scaledNearest places * 10 ^ (-places) - x.magnitude| ≤ 10 ^ (-places) := by
  have half := ((nearestMultiple_iff one_pos).mp (x.nearestMultiple_scaledNearest places)).1
  have scale : (0 : Rat) < 10 ^ (-places) := zpow_pos (by decide) _
  have inverse : (10 : Rat) ^ places * 10 ^ (-places) = 1 := by
    rw [← zpow_add₀ (by decide), add_neg_cancel, zpow_zero]
  have scaled : |x.scaledNearest places * 10 ^ (-places) - x.magnitude| =
      |x.magnitude * 10 ^ places - (x.scaledNearest places : Int) * 1| * 10 ^ (-places) := by
    rw [← abs_of_pos scale, ← abs_mul, abs_of_pos scale, sub_mul, mul_assoc x.magnitude, inverse,
      abs_sub_comm, Int.cast_natCast]
    ring_nf
  have bound := mul_le_mul_of_nonneg_right half scale.le
  rw [scaled]
  linarith

/-! ### The result -/

/-- A double less than half a unit away is nearest. -/
theorem nearestTo_of_close {r : Rat} {y : Double} (number : y.isNan = false)
    (close : |r - y.magnitude| * oneUnits < 1 / 2) : y.NearestTo r := by
  rw [abs_sub_magnitude_mul] at close
  exact nearestTo_iff.mpr (.of_close (isNan_eq_false_iff.mp number) close)

/-- **Nothing changes behind all digits of a double**, for its neighbours are farther away than the
multiple. -/
theorem nearestTo_self {x : Double} (finite : x.isFinite = true) {places : Int}
    (far : x.code = 0 ∨ 323 < places) :
    x.NearestTo (x.scaledNearest places * 10 ^ (-places)) := by
  have below : x.code < infinityCode := of_decide_eq_true finite
  refine nearestTo_of_close (isNan_eq_false_iff.mpr below.le) ?_
  by_cases zero : x.code = 0
  · have none : x.units = 0 := by rw [units, zero, unitsOfCode_of_lt (by decide)]
    have magnitude : x.magnitude = 0 := by
      have scaled := x.magnitude_mul
      rw [none, Nat.cast_zero] at scaled
      exact (mul_eq_zero.mp scaled).resolve_right (Nat.cast_ne_zero.mpr oneUnits_pos.ne')
    have multiple : x.scaledNearest places = 0 := by
      rw [scaledNearest, none, Nat.zero_mul]
      exact nearestEven_of_lt (Nat.mul_pos oneUnits_pos (Nat.pow_pos (by decide)))
    rw [magnitude, multiple, Nat.cast_zero, zero_mul, sub_zero, abs_zero, zero_mul]
    exact one_half_pos
  · have many := far.resolve_left zero
    exact mul_oneUnits_lt ((x.abs_scaledNearest_sub_le places).trans
      (zpow_le_zpow_right₀ (by decide) (by omega)))

/-- Every double rounds to zero when more places than it has are dropped before the point. -/
theorem scaledNearest_of_many {x : Double} (finite : x.isFinite = true) {places : Int}
    (many : places < -308) : x.scaledNearest places = 0 := by
  have below : x.units < infiniteUnits :=
    unitsOfCode_lt_unitsOfCode (of_decide_eq_true finite)
  have none : places.toNat = 0 := by omega
  rw [scaledNearest, none, Nat.pow_zero, Nat.mul_one]
  refine nearestEven_of_lt ?_
  calc 2 * x.units < 2 * infiniteUnits := by omega
    _ ≤ 10 ^ (-places).toNat * oneUnits := two_mul_infiniteUnits_le (by omega)
    _ = oneUnits * 10 ^ (-places).toNat := Nat.mul_comm ..

/-- **The rounded double is nearest to the multiple, and keeps its sign.** -/
theorem nearestTo_roundTo {x : Double} (finite : x.isFinite = true) (places : Int) :
    (x.roundTo places).NearestTo (x.scaledNearest places * 10 ^ (-places)) ∧
      (x.roundTo places).negative = x.negative := by
  unfold roundTo
  split
  case isTrue same =>
    have far : x.code = 0 ∨ 323 < places := by simpa [finite] using same
    exact ⟨nearestTo_self finite far, rfl⟩
  split
  case isTrue many =>
    rw [scaledNearest_of_many finite many, Nat.cast_zero, zero_mul]
    refine ⟨nearestTo_zero _ le_rfl ?_, negative_ofCode _ (by decide)⟩
    rw [zero_mul]
    exact one_half_pos
  case isFalse =>
    obtain ⟨code, word, read⟩ := ofDecimal_eq_ofCode ⟨x.scaledNearest places, -places⟩
    have nearest := nearestTo_ofDecimal x.negative ⟨x.scaledNearest places, -places⟩
    simp only [Decimal.rational] at nearest
    exact ⟨nearest, by rw [read, negative_ofCode _ word]⟩

end Double

/-! ### The text that is read again -/

namespace Checked

/-- **What the reader of doubles is given for a rounded double.** If the cut lies before all digits
it is given nothing, and the multiple is zero. Otherwise it is given a text that denotes the
multiple, and what it reads becomes the result, with the sign of the argument. -/
inductive HandsOver (x : Double) (places : Integer) (multiple : Rat) (result : Double) : Prop
  | nothing : roundedNumeral? x places = .ok none → multiple = 0 →
      result = Double.zero x.negative → HandsOver x places multiple result
  | numeral {text : List Char} {d : Decimal} {found : Double} :
      roundedNumeral? x places = .ok (some text) → Decimal.read? text = some d →
      d.rational = multiple → Double.read? text = some found → result = found.copySign x →
      HandsOver x places multiple result

/-- **The text that is read again denotes the multiple**, wherever digits are cut. -/
theorem handsOver {x : Double} {places : Integer} (finite : x.isFinite = true) (some : x.code ≠ 0)
    (least : -308 ≤ places.toInt) (most : places.toInt ≤ 323) :
    HandsOver x places (x.scaledNearest places.toInt * 10 ^ (-places.toInt))
      (x.roundTo places.toInt) := by
  have cut : ¬ (!x.isFinite || x.code = 0 || 323 < places.toInt) = true := by
    simp [finite, some, most]
  have result : x.roundTo places.toInt =
      Double.ofDecimal x.negative ⟨x.scaledNearest places.toInt, -places.toInt⟩ := by
    rw [Double.roundTo, if_neg cut, if_neg (by omega)]
  rcases roundedNumeral?_cases finite least most with ⟨none, zero⟩ | ⟨text, made, decimal, read⟩
  · refine .nothing none ?_ ?_
    · rw [zero, Nat.cast_zero, zero_mul]
    · rw [result, zero, Double.ofDecimal_of_zero x.negative rfl]
  · refine .numeral made decimal ?_ read ?_
    · rw [Decimal.rational]
    · rw [result, Double.copySign_ofDecimal]

end Checked

namespace Builtin

/-- **Rounding a double is exact in decimals**, half-way cases going to even. For every finite
double and every number of places, exactly one whole number is nearest to the absolute value times
that power of ten, an even one if another is as near. `round` yields the double that is nearest to
this number of units, with the sign of the argument; there is exactly one, and it is infinite from
half a step above the greatest finite double on. It is found by cutting the digits of the exact
value without an overflow. Where digits are cut, what is left of them denotes the number of units
exactly, and reading it again never fails. -/
theorem round_float_exact {v places : Value} {x : Double} {d : Integer}
    (number : Number.of? v = some (.float x)) (digits : places.integer? = some d)
    (finite : x.isFinite = true) :
    ∃ (q : Int) (y : Double),
      (∀ k, NearestMultiple 1 (x.magnitude * 10 ^ d.toInt) k ↔ k = q) ∧
      (∀ z : Double, z.negative = x.negative ∧ z.NearestTo (q * 10 ^ (-d.toInt)) ↔ z = y) ∧
      (y.isInfinite = true ↔ 2 ^ 1024 - 2 ^ 970 ≤ (q : Rat) * 10 ^ (-d.toInt)) ∧
      (∀ w : World, (invoke "round" [v, places]).outcome w =
        (.ok (.float w.store.next y), { w with store := (w.store.create (.float · y)).2 })) ∧
      Checked.floatRounded x d = .ok y ∧
      (x.code ≠ 0 → -308 ≤ d.toInt → d.toInt ≤ 323 →
        Checked.floatRounded x d = Checked.roundedNumeral? x d >>= Checked.readAgain x ∧
        Checked.HandsOver x d (q * 10 ^ (-d.toInt)) y) := by
  obtain ⟨nearest, sign⟩ := Double.nearestTo_roundTo finite d.toInt
  rw [← Int.cast_natCast] at nearest
  refine ⟨x.scaledNearest d.toInt, x.roundTo d.toInt, fun k => ?_, fun z => ⟨?_, ?_⟩,
    nearest.isInfinite_iff, fun w => ?_, Checked.floatRounded_eq x d,
    fun some least most => ⟨?_, ?_⟩⟩
  · exact (x.nearestMultiple_scaledNearest d.toInt).eq_iff one_pos
  · rintro ⟨same, other⟩
    exact other.unique nearest (same.trans sign.symm)
  · rintro rfl
    exact ⟨sign, nearest⟩
  · have found : find? "round" = .some .round := rfl
    have accepts : (arity .round).Accepts [v, places].length := ⟨Nat.le_succ 1, Nat.le_refl 2⟩
    rw [outcome_invoke found nofun accepts, body_round number digits]
    rfl
  · exact Checked.floatRounded_of_near (by simp [finite, some, most]) (by omega)
  · rw [Int.cast_natCast]
    exact Checked.handsOver finite some least most

/-- The double next to 2.675 is less than that and rounds down; less than half of a thousandth below
zero is zero with a sign. -/
theorem round_float_exact_stored :
    (invoke "round" [.float 0 ⟨0x4005666666666666⟩, .int 1 2]).outcome World.empty =
      (.ok (.float 0 ⟨0x40055C28F5C28F5C⟩), ⟨⟨#[], #[], 1⟩, Sink.empty⟩) ∧
    (invoke "round" [.float 0 ⟨0xBF3A36E2EB1C432D⟩, .int 1 3]).outcome World.empty =
      (.ok (.float 0 ⟨0x8000000000000000⟩), ⟨⟨#[], #[], 1⟩, Sink.empty⟩) := by
  obtain ⟨_, y, _, _, _, above, computed, _⟩ :=
    @round_float_exact (.float 0 ⟨0x4005666666666666⟩) (.int 1 2) _ _ rfl rfl (by decide)
  obtain ⟨_, z, _, _, _, below, computed', _⟩ :=
    @round_float_exact (.float 0 ⟨0xBF3A36E2EB1C432D⟩) (.int 1 3) _ _ rfl rfl (by decide)
  rw [Checked.floatRounded_eq] at computed computed'
  have down : (⟨0x4005666666666666⟩ : Double).roundTo (2 : Integer).toInt =
      ⟨0x40055C28F5C28F5C⟩ := by decide +kernel
  have zero : (⟨0xBF3A36E2EB1C432D⟩ : Double).roundTo (3 : Integer).toInt =
      ⟨0x8000000000000000⟩ := by decide +kernel
  rw [down] at computed
  rw [zero] at computed'
  obtain rfl := Except.ok.inj computed
  obtain rfl := Except.ok.inj computed'
  exact ⟨above World.empty, below World.empty⟩

end Builtin

end CallConsole
