/-
**The texts of doubles are read back.**

The significant digits of a double and the place of the first of them are laid out in one of four
ways: with the point among the digits, with zeros between the digits and the point, with zeros
between the point and the digits, or in scientific form. Each of these texts is a written decimal,
and all are the same number:

* `DigitLayout.shows_write`: what a layout writes is a decimal, and the number of the digits;
* `Double.placed_significant`: the significant digits are those of the decimal;
* `Double.ofDecimal_shortest`: the shortest decimal of a finite double is read as the double;
* `Double.reads_back`: a finite double is read back from its text, both by `float` and as an
  expression.
-/

import CallConsole.Proofs.Checked.FloatText
import CallConsole.Proofs.DecimalTexts
import CallConsole.Proofs.DigitLists

namespace CallConsole

open Numeral

namespace Decimal

/-- The number of digits the first of which stands at `10 ^ exponent`. -/
def placed (digits : List Char) (exponent : Int) : Rat :=
  ofDigits digits * 10 ^ (exponent + 1 - digits.length)

variable {digits : List Char}

/-- What comes first counts as many times as the rest has places. -/
theorem ofDigits_append (first second : List Char) :
    ofDigits (first ++ second) = ofDigits first * 10 ^ second.length + ofDigits second := by
  rw [← DigitList.value_map_digit, List.map_append, DigitList.value_append, List.length_map,
    DigitList.value_map_digit, DigitList.value_map_digit]

theorem ofDigits_zeros (count : Nat) : ofDigits (List.replicate count '0') = 0 := by
  rw [ofDigits, Nat.ofDigitChars_replicate_zero, Nat.mul_zero]

/-- Zeros in front of digits change nothing. -/
theorem ofDigits_zeros_append (count : Nat) (digits : List Char) :
    ofDigits (List.replicate count '0' ++ digits) = ofDigits digits := by
  rw [ofDigits_append, ofDigits_zeros, Nat.zero_mul, Nat.zero_add]

/-- Zeros behind digits are powers of ten. -/
theorem ofDigits_append_zeros (digits : List Char) (count : Nat) :
    ofDigits (digits ++ List.replicate count '0') = ofDigits digits * 10 ^ count := by
  rw [ofDigits_append, ofDigits_zeros, List.length_replicate, Nat.add_zero]

/-- **Zeros behind the digits are made up for by the exponent.** -/
theorem rational_eq_placed {n zeros : Nat} {place exponent : Int}
    (same : n = ofDigits digits * 10 ^ zeros)
    (stands : place + zeros = exponent + 1 - digits.length) :
    (⟨n, place⟩ : Decimal).rational = placed digits exponent := by
  rw [rational, placed, ← stands, add_comm, zpow_add₀ (by decide), same, ten_zpow_natCast,
    Nat.cast_mul, mul_assoc]

/-- Zeros are digits. -/
theorem allDigits_zeros (count : Nat) : AllDigits (List.replicate count '0') := by
  intro c member
  rw [List.eq_of_mem_replicate member]
  rfl

/-- **The digits of the absolute value are an exponent behind its sign**, which a number that is not
negative need not have. -/
theorem writtenExponent_of_natAbs {exponent : Int} (some : digits ≠ []) (all : AllDigits digits)
    (value : ofDigits digits = exponent.natAbs) :
    (exponent < 0 → WrittenExponent ('e' :: '-' :: digits) exponent) ∧
      (0 ≤ exponent → WrittenExponent ('e' :: '+' :: digits) exponent ∧
        WrittenExponent ('e' :: digits) exponent) := by
  have minus := WrittenExponent.minus (.inl rfl) some all
  have plus := WrittenExponent.plus (.inl rfl) some all
  have unsigned := WrittenExponent.unsigned (.inl rfl) some all
  rw [value] at minus plus unsigned
  constructor
  · intro negative
    rwa [Int.ofNat_natAbs_of_nonpos negative.le, neg_neg] at minus
  · intro natural
    rw [Int.natAbs_of_nonneg natural] at plus unsigned
    exact ⟨plus, unsigned⟩

end Decimal

/-! ### Layouts -/

namespace DigitLayout

open Decimal

variable {digits : List Char} {exponent : Int}

/-- The text is a written decimal, and it is the number of the digits. -/
def Shows (text digits : List Char) (exponent : Int) : Prop :=
  ∃ d, Written text d ∧ d.rational = placed digits exponent

/-- Digits with a point among them, and an exponent. -/
theorem shows_pointed {whole fraction power : List Char} {place : Int} {zeros : Nat}
    (some : whole ++ fraction ≠ []) (all : AllDigits (whole ++ fraction))
    (written : WrittenExponent power place)
    (same : ofDigits (whole ++ fraction) = ofDigits digits * 10 ^ zeros)
    (stands : place - fraction.length + zeros = exponent + 1 - digits.length) :
    Shows (whole ++ '.' :: (fraction ++ power)) digits exponent := by
  obtain ⟨before, behind⟩ := List.forall_mem_append.mp all
  exact ⟨_, .pointed some before behind written, rational_eq_placed same stands⟩

/-- **With the point among the digits or behind them**, after as many places. -/
theorem shows_pointAfter (some : digits ≠ []) (all : AllDigits digits) (places : Nat)
    (stands : exponent + 1 = places) : Shows (pointAfter digits places) digits exponent := by
  unfold pointAfter
  split
  case isTrue inside =>
    have parts := List.take_append_drop places digits
    have pointed := @shows_pointed digits exponent (digits.take places) (digits.drop places) [] 0 0
      (by rwa [parts]) (by rwa [parts]) .nothing (by rw [parts, Nat.pow_zero, Nat.mul_one])
      (by rw [List.length_drop]; omega)
    rwa [List.append_nil] at pointed
  case isFalse outside =>
    have whole : digits ++ List.replicate (places - digits.length) '0' ++ ['0'] =
        digits ++ List.replicate (places - digits.length + 1) '0' := by
      rw [List.append_assoc, List.replicate_succ']
    have pointed := @shows_pointed digits exponent
      (digits ++ List.replicate (places - digits.length) '0') ['0'] [] 0 (places - digits.length + 1)
      (by rw [whole]; exact List.append_ne_nil_of_left_ne_nil some _)
      (by rw [whole]; exact List.forall_mem_append.mpr ⟨all, allDigits_zeros _⟩) .nothing
      (by rw [whole, ofDigits_append_zeros]) (by rw [List.length_singleton]; omega)
    rwa [List.append_nil] at pointed

/-- **With zeros between the point and the digits.** -/
theorem shows_leadingZeros (all : AllDigits digits) (zeros : Nat) (stands : exponent + 1 = -zeros) :
    Shows ('0' :: '.' :: (List.replicate zeros '0' ++ digits)) digits exponent := by
  have whole : ['0'] ++ (List.replicate zeros '0' ++ digits) =
      List.replicate (zeros + 1) '0' ++ digits := rfl
  have pointed := @shows_pointed digits exponent ['0'] (List.replicate zeros '0' ++ digits) [] 0 0
    (List.cons_ne_nil _ _)
    (by rw [whole]; exact List.forall_mem_append.mpr ⟨allDigits_zeros _, all⟩) .nothing
    (by rw [whole, ofDigits_zeros_append, Nat.pow_zero, Nat.mul_one])
    (by rw [List.length_append, List.length_replicate]; omega)
  rwa [List.append_nil] at pointed

/-- **In scientific form**: a point behind the first digit, if more of them follow. -/
theorem shows_scientific {power : List Char} (some : digits ≠ []) (all : AllDigits digits)
    (written : WrittenExponent power exponent) :
    Shows (digits.take 1 ++ (if digits.length ≤ 1 then [] else '.' :: digits.drop 1) ++ power)
      digits exponent := by
  have parts := List.take_append_drop 1 digits
  have one : ofDigits digits = ofDigits digits * 10 ^ 0 := (Nat.mul_one _).symm
  split
  case isTrue single =>
    have length : digits.length = 1 := le_antisymm single (List.length_pos_iff.mpr some)
    rw [List.append_nil, List.take_of_length_le single]
    exact ⟨_, .whole some all written, rational_eq_placed one (by omega)⟩
  case isFalse several =>
    have pointed := @shows_pointed digits exponent (digits.take 1) (digits.drop 1) power exponent 0
      (by rwa [parts]) (by rwa [parts]) written (by rwa [parts])
      (by rw [List.length_drop]; omega)
    rwa [List.append_assoc, List.cons_append]

/-- The exponent that a layout writes, filled with zeros. -/
theorem writtenExponent_exponentText (layout : DigitLayout) (exponent : Int) :
    WrittenExponent (layout.exponentText exponent) exponent := by
  unfold exponentText
  dsimp only
  generalize layout.exponentWidth - _ = zeros
  have signed := writtenExponent_of_natAbs
    (List.append_ne_nil_of_right_ne_nil (List.replicate zeros '0') Nat.toDigits_ne_nil)
    (List.forall_mem_append.mpr ⟨allDigits_zeros zeros, allDigits_toDigits exponent.natAbs⟩)
    (by rw [ofDigits_zeros_append, ofDigits_toDigits])
  split
  case isTrue negative => exact signed.1 negative
  case isFalse natural => exact (signed.2 (Int.not_lt.mp natural)).1

/-- **All layouts show the number of the digits.** -/
theorem shows_write (some : digits ≠ []) (all : AllDigits digits) (layout : DigitLayout)
    (exponent : Int) : Shows (layout.write digits exponent) digits exponent := by
  have scientific := shows_scientific some all (layout.writtenExponent_exponentText exponent)
  unfold write
  split
  · split
    case isTrue natural => exact shows_pointAfter some all _ (by omega)
    case isFalse negative => exact shows_leadingZeros all _ (by omega)
  · split
    case isTrue single =>
      rwa [if_pos single, List.append_nil, List.take_of_length_le single] at scientific
    case isFalse several =>
      rwa [if_neg several] at scientific

/-- A point stands among the digits or behind them. -/
theorem point_mem_pointAfter (digits : List Char) (places : Nat) : '.' ∈ pointAfter digits places := by
  unfold pointAfter
  split <;> simp

/-- **What is written has a point inside the range of the layout, and an exponent outside.** -/
theorem mark_mem_write (layout : DigitLayout) (digits : List Char) (exponent : Int) :
    (if layout.positionalFrom ≤ exponent ∧ exponent < layout.positionalBelow then '.' else 'e') ∈
      layout.write digits exponent := by
  unfold write exponentText
  split
  · split
    · exact point_mem_pointAfter digits _
    · simp
  · split <;> simp

/-- **There is no exponent exactly inside the range of the layout.** -/
theorem mark_notMem_write_iff (all : AllDigits digits) (layout : DigitLayout) (exponent : Int) :
    'e' ∉ layout.write digits exponent ↔
      layout.positionalFrom ≤ exponent ∧ exponent < layout.positionalBelow := by
  have marked := layout.mark_mem_write digits exponent
  constructor
  · intro none
    by_contra outside
    rw [if_neg outside] at marked
    exact none marked
  · intro inside member
    have noDigit : 'e' ∉ digits := fun member => absurd (all 'e' member) (by decide)
    have taken (places : Nat) : 'e' ∉ digits.take places := fun member =>
      noDigit (List.mem_of_mem_take member)
    have dropped (places : Nat) : 'e' ∉ digits.drop places := fun member =>
      noDigit (List.mem_of_mem_drop member)
    unfold write pointAfter at member
    rw [if_pos inside] at member
    split at member
    · split at member <;> simp [noDigit, taken, dropped] at member
    · simp [noDigit] at member

end DigitLayout

namespace Double

/-- The exponent of the scientific form. -/
theorem writtenExponent_exponentDigits (exponent : Int) :
    Decimal.WrittenExponent ('e' :: exponentDigits exponent) exponent := by
  have signed := Decimal.writtenExponent_of_natAbs Nat.toDigits_ne_nil
    (allDigits_toDigits exponent.natAbs) (Decimal.ofDigits_toDigits _)
  unfold exponentDigits
  split
  case isTrue negative => exact signed.1 negative
  case isFalse natural => exact (signed.2 (Int.not_lt.mp natural)).2

/-! ### Digits -/

/-- The exact decimal of a double is its absolute value. -/
theorem rational_exactDecimal (x : Double) : x.exactDecimal.rational = x.magnitude := by
  have some : (oneUnits : Rat) ≠ 0 := Nat.cast_ne_zero.mpr oneUnits_pos.ne'
  have tens (units places one : Nat) (unit : one = 2 ^ places) (place : Int)
      (stands : place = -places) :
      (⟨units * 5 ^ places, place⟩ : Decimal).rational * one = units := by
    rw [unit, stands, Decimal.rational, zpow_neg, zpow_natCast, mul_right_comm, ← Nat.cast_mul,
      Nat.mul_assoc, ← Nat.mul_pow, Nat.cast_mul, Nat.cast_pow, ← div_eq_mul_inv]
    exact mul_div_cancel_right₀ _ (pow_ne_zero _ (by decide))
  refine mul_right_cancel₀ some ?_
  rw [magnitude_mul, exactDecimal, tens x.units 1074 oneUnits oneUnits.eq_1 (-1074) rfl]

/-- **The shortest decimal of a finite double is read as the double.** -/
theorem ofDecimal_shortest {x : Double} (number : x.isNan = false) :
    ofDecimal x.negative x.shortest = x := by
  rcases x.shortest_cases with ⟨more, _, found⟩ | exact
  · exact (writtenDownTo?_cases found).2.2
  · rw [exact]
    exact ofDecimal_of_magnitude number x.rational_exactDecimal

/-- Digits are the significant ones and zeros behind them. -/
theorem exists_trailing_zeros (digits : List Char) : ∃ zeros,
    digits = (digits.reverse.dropWhile (· = '0')).reverse ++ List.replicate zeros '0' := by
  have taken : digits.reverse.takeWhile (· = '0') =
      List.replicate (digits.reverse.takeWhile (· = '0')).length '0' :=
    List.eq_replicate_iff.mpr ⟨rfl, fun c member => by simpa using List.mem_takeWhile_imp member⟩
  refine ⟨(digits.reverse.takeWhile (· = '0')).length, ?_⟩
  rw [← List.reverse_replicate, ← taken, ← List.reverse_append, List.takeWhile_append_dropWhile,
    List.reverse_reverse]

/-- **The significant digits are those of the decimal.** -/
theorem placed_significant (d : Decimal) :
    Decimal.placed (significant d).1 (significant d).2 = d.rational := by
  obtain ⟨zeros, whole⟩ := exists_trailing_zeros (Nat.toDigits 10 d.digits)
  have value := Decimal.ofDigits_toDigits d.digits
  rw [whole, Decimal.ofDigits_append_zeros] at value
  refine (Decimal.rational_eq_placed value.symm ?_).symm
  have length := congrArg List.length whole
  rw [List.length_append, List.length_replicate] at length
  unfold significant
  dsimp only
  omega

/-! ### Texts of doubles -/

/-- **The digits of the scientific form of a double, and its exponent.** Zero has the digit zero and
the exponent zero. -/
def rendering (x : Double) : List Char × Int :=
  if x.code = 0 then (['0'], 0) else significant x.shortest

variable {x : Double}

theorem rendering_ne_nil (x : Double) : x.rendering.1 ≠ [] := by
  unfold rendering
  split
  case isTrue => exact List.cons_ne_nil _ _
  case isFalse nonzero => exact significant_ne_nil (digits_shortest_ne_zero nonzero)

theorem allDigits_rendering (x : Double) : AllDigits x.rendering.1 := by
  unfold rendering
  split
  · exact List.forall_mem_singleton.mpr rfl
  · exact allDigits_significant x.shortest

/-- **All finite doubles are laid out alike**, zeros included. -/
theorem unsignedText_eq (x : Double) :
    x.unsignedText = DigitLayout.console.write x.rendering.1 x.rendering.2 := by
  unfold unsignedText rendering
  split
  · rfl
  · rfl

/-- A zero has no absolute value. -/
theorem magnitude_of_code_zero (zero : x.code = 0) : x.magnitude = 0 := by
  have none : x.units = 0 := by rw [units, zero, unitsOfCode_of_lt (by decide)]
  have some : (oneUnits : Rat) ≠ 0 := Nat.cast_ne_zero.mpr oneUnits_pos.ne'
  have scaled := x.magnitude_mul
  rw [none, Nat.cast_zero] at scaled
  exact (mul_eq_zero.mp scaled).resolve_right some

/-- **The number of the digits is read as the double.** -/
theorem ofDecimal_placed (number : x.isNan = false) {d : Decimal}
    (same : d.rational = Decimal.placed x.rendering.1 x.rendering.2) :
    ofDecimal x.negative d = x := by
  unfold rendering at same
  split at same
  case isTrue zero =>
    refine ofDecimal_of_magnitude number (same.trans ?_)
    rw [magnitude_of_code_zero zero, Decimal.placed]
    exact zero_mul _
  case isFalse =>
    rw [placed_significant] at same
    rw [ofDecimal_congr same, ofDecimal_shortest number]

/-- The text of a finite double, with its sign in front. -/
theorem text_eq (finite : x.isFinite = true) :
    x.text = (signsOf x.negative).map signChar ++ x.unsignedText := by
  have below : x.code < infinityCode := of_decide_eq_true finite
  have number : ¬ x.isNan = true := by simpa [isNan] using below.le
  have bounded : ¬ x.isInfinite = true := by simpa [isInfinite] using below.ne
  rw [text, if_neg number, if_neg bounded]
  cases x.negative <;> rfl

/-- **The text of a finite double behind its sign is a written decimal**, which is read as the double
together with the sign. -/
theorem exists_written (x : Double) : ∃ d, Decimal.Written x.unsignedText d ∧
    d.rational = Decimal.placed x.rendering.1 x.rendering.2 := by
  rw [unsignedText_eq]
  exact DigitLayout.shows_write x.rendering_ne_nil x.allDigits_rendering _ _

/-- So is the scientific form. -/
theorem exists_written_scientific (x : Double) : ∃ d,
    Decimal.Written (scientificForm x.rendering.1 x.rendering.2) d ∧
      d.rational = Decimal.placed x.rendering.1 x.rendering.2 :=
  DigitLayout.shows_scientific x.rendering_ne_nil x.allDigits_rendering
    (writtenExponent_exponentDigits _)

/-- What is written has a point or an exponent. -/
theorem exists_mark (x : Double) : ∃ c ∈ x.unsignedText, c = '.' ∨ c = 'e' := by
  rw [unsignedText_eq]
  refine ⟨_, DigitLayout.mark_mem_write _ _ _, ?_⟩
  split
  · exact .inl rfl
  · exact .inr rfl

end Double

namespace Console

/-- A source that is read as a number is evaluated to it. -/
theorem evalSource_of_float {source : List Char} {span : Span} {x : Double}
    (parsed : parse source = .ok (.literal span (.float x))) (w : World) :
    (evalSource source).outcome w =
      (.ok (.float w.store.next x), { w with store := (w.store.create (.float · x)).2 }) := by
  rw [Run.outcome, evalSource, parsed]
  dsimp only
  rw [evaluate]
  rfl

end Console

/-- **The text of a finite double is read back**, bit by bit, zeros and the least doubles included: its
`repr` evaluated as an expression is a double and the same one, and `float` of its `str` is. It has a
point or an exponent, so that it is no integer. Behind its sign it is the same decimal number as its
scientific form is, that of the digits and the exponent there, and it has no exponent exactly if that
one lies in `-4 .. 15`. -/
theorem Double.reads_back {x : Double} (finite : x.isFinite = true) (s : Store) (id : Nat)
    (w : World) :
    ((Console.evalSource (s.repr (.float id x))).outcome w).1 = .ok (.float w.store.next x) ∧
    ((Builtin.invoke "str" [.float id x] >>= fun text =>
        Builtin.invoke "float" [text]).outcome w).1 = .ok (.float (w.store.next + 1) x) ∧
    (∃ c ∈ x.text, c = '.' ∨ c = 'e') ∧
    x.text = (if x.negative then ['-'] else []) ++ x.unsignedText ∧
    (∃ d d', Decimal.Written x.unsignedText d ∧
      Decimal.Written (scientificForm x.rendering.1 x.rendering.2) d' ∧
      d.rational = d'.rational ∧ d'.rational = Decimal.placed x.rendering.1 x.rendering.2) ∧
    ('e' ∉ x.unsignedText ↔ -4 ≤ x.rendering.2 ∧ x.rendering.2 < 16) := by
  have number : x.isNan = false := by
    have below : x.code < infinityCode := of_decide_eq_true finite
    simpa [isNan] using below.le
  have text := text_eq finite
  have repr (s : Store) : s.repr (.float id x) = x.text := by rw [Store.repr, Store.reprInside]
  obtain ⟨d, written, placed⟩ := x.exists_written
  obtain ⟨d', written', placed'⟩ := x.exists_written_scientific
  obtain ⟨c, member, mark⟩ := x.exists_mark
  have reads := ofDecimal_placed number placed
  refine ⟨?_, ?_, ?_, ?_, ⟨d, d', written, written', placed.trans placed'.symm, placed'⟩, ?_⟩
  · have signed := written.signed ⟨c, member, mark.imp_right .inl⟩ x.negative
    rw [reads] at signed
    obtain ⟨span, parsed⟩ := (signedText_adjacent _ _).parse_of_signed written.spelled signed
    rw [repr, text, Console.evalSource_of_float parsed]
  · have read := written.ofText_eq x.negative
    rw [reads, ← text] at read
    have str : w.store.str (.float id x) = x.text := by
      rw [Store.str, repr]
      rintro _ _ ⟨⟩
    have made := Builtin.outcome_str (.float id x) w
    rw [str] at made
    have done := congrArg Prod.fst made
    rw [Run.outcome_bind_of_ok done, made, Builtin.outcome_float_text, read]
    rfl
  · rw [text]
    exact ⟨c, List.mem_append_right _ member, mark⟩
  · rw [text]
    cases x.negative <;> rfl
  · rw [unsignedText_eq]
    exact DigitLayout.mark_notMem_write_iff x.allDigits_rendering _ _

/-- The greatest double below zero. -/
def lastBelowZero : Double := ⟨0x8000000000000001⟩

/-- The greatest double below zero is read back from its text, and so is the negative zero. -/
theorem Double.reads_back_least :
    lastBelowZero.isFinite = true ∧ (zero true).isFinite = true ∧
    ((Console.evalSource (Store.empty.repr (.float 0 lastBelowZero))).outcome World.empty).1 =
      .ok (.float 0 lastBelowZero) ∧
    ((Console.evalSource (Store.empty.repr (.float 0 (zero true)))).outcome World.empty).1 =
      .ok (.float 0 (zero true)) := by
  have finite : lastBelowZero.isFinite = true := by decide
  have finite' : (zero true).isFinite = true := by decide
  exact ⟨finite, finite', (Double.reads_back finite Store.empty 0 World.empty).1,
    (Double.reads_back finite' Store.empty 0 World.empty).1⟩

end CallConsole
