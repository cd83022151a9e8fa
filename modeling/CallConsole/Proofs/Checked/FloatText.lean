/-
**Writing doubles by cutting a text.**

The text of a double is made from its scientific form, which is taken apart again: the digits before
the `e` and the exponent behind it. The digits are then cut and filled with zeros.

* `layOut_eq`: every cut lies inside the digits, and every count of zeros fits its word;
* `floatText_eq`: the scientific form always comes apart, and the text is that of the double.
-/

import CallConsole.Proofs.Checked.Words
import CallConsole.Proofs.ShortestDecimals

namespace CallConsole

open Width

namespace Double

/-- An exponent in scientific form. -/
def exponentDigits (exponent : Int) : List Char :=
  (if exponent < 0 then ['-'] else []) ++ Nat.toDigits 10 exponent.natAbs

/-- A number in scientific form: its digits with the point behind the first, and the exponent. -/
def scientificForm (digits : List Char) (exponent : Int) : List Char :=
  digits.take 1 ++ (if digits.length ≤ 1 then [] else '.' :: digits.drop 1) ++
    'e' :: exponentDigits exponent

/-- **The absolute value of a double in scientific form**, with as few digits as read back. -/
def scientific (x : Double) : List Char :=
  scientificForm (significant x.shortest).1 (significant x.shortest).2

end Double

namespace Checked

/-- A text in two at the first mark, which belongs to neither part. -/
def splitOnce? (mark : Char) (text : List Char) : Option (List Char × List Char) :=
  match text.span (· ≠ mark) with
  | (before, _ :: behind) => some (before, behind)
  | (_, []) => none

/-- The word that a text denotes. -/
def readWord? (width : Width) (text : List Char) : Option Int :=
  (Decimal.readSigned? text).filter fun n => decide (width.Fits n)

/-- Lays out digits, the first of which stands at `10 ^ exponent`. -/
def layOut (digits : List Char) (exponent : Int) : Checked (List Char) :=
  if -4 ≤ exponent ∧ exponent < 16 then
    if 0 ≤ exponent then do
      let places ← unsigned64.check (unsigned64.wrap exponent + 1)
      if places < digits.length then do
        let (whole, fraction) ← splitAt digits places.toNat
        .ok (whole ++ '.' :: fraction)
      else do
        let zeros ← unsigned64.check (places - digits.length)
        .ok (digits ++ List.replicate zeros.toNat '0' ++ ['.', '0'])
    else do
      let distance ← signed32.check (-exponent)
      let zeros ← signed32.check (distance - 1)
      .ok ('0' :: '.' :: (List.replicate (unsigned64.wrap zeros).toNat '0' ++ digits))
  else do
    let (first, others) ← splitAt digits 1
    let distance ← signed32.check exponent.natAbs
    let power := Nat.toDigits 10 distance.toNat
    .ok (first ++ (if 1 < digits.length then '.' :: others else []) ++
      'e' :: (if exponent < 0 then '-' else '+') ::
        (List.replicate (2 - power.length) '0' ++ power))

/-- **The text of a double.** -/
def floatText (x : Double) : Checked (List Char) :=
  if x.isNan then .ok ['n', 'a', 'n']
  else if x.isInfinite then .ok (if x.negative then ['-', 'i', 'n', 'f'] else ['i', 'n', 'f'])
  else if x.code = 0 then
    .ok (if x.negative then ['-', '0', '.', '0'] else ['0', '.', '0'])
  else do
    let (mantissa, power) ← expected (splitOnce? 'e' x.scientific)
    let exponent ← expected (readWord? signed32 power)
    let digits := mantissa.filter (· ≠ '.')
    let unsigned ← layOut digits exponent
    .ok ((if x.negative then ['-'] else []) ++ unsigned)

/-! ### Layout -/

/-- A number with its point inside or behind the digits. -/
theorem layOut_of_nonneg {digits : List Char} {exponent : Int} (least : 0 ≤ exponent)
    (most : exponent < 16) :
    layOut digits exponent = .ok (DigitLayout.pointAfter digits (exponent.toNat + 1)) := by
  have places : unsigned64.Fits (exponent + 1) := fits_unsigned64_iff.mpr (by omega)
  have count : (exponent + 1).toNat = exponent.toNat + 1 := by omega
  rw [layOut, if_pos ⟨by omega, most⟩, if_pos least,
    wrap_of_fits (fits_unsigned64_iff.mpr (by omega)), check_of_fits places, ok_bind]
  unfold DigitLayout.pointAfter
  by_cases inside : exponent.toNat + 1 < digits.length
  · rw [if_pos (by omega), if_pos inside, count, splitAt_of_le (Nat.le_of_lt inside)]
    rfl
  · have zeros : unsigned64.Fits (exponent + 1 - digits.length) :=
      fits_unsigned64_iff.mpr (by omega)
    have missing : (exponent + 1 - digits.length).toNat = exponent.toNat + 1 - digits.length := by
      omega
    rw [if_neg (by omega), if_neg inside, check_of_fits zeros, ok_bind, missing]

/-- A number below one, with zeros between its point and its digits. -/
theorem layOut_of_neg {digits : List Char} {exponent : Int} (least : -4 ≤ exponent)
    (most : exponent < 0) :
    layOut digits exponent =
      .ok ('0' :: '.' :: (List.replicate (-exponent - 1).toNat '0' ++ digits)) := by
  have distance : signed32.Fits (-exponent) := fits_signed32_iff.mpr (by omega)
  have zeros : signed32.Fits (-exponent - 1) := fits_signed32_iff.mpr (by omega)
  rw [layOut, if_pos ⟨least, by omega⟩, if_neg (by omega), check_of_fits distance, ok_bind,
    check_of_fits zeros, ok_bind, wrap_of_fits (fits_unsigned64_iff.mpr (by omega))]

/-- A number in scientific form. -/
theorem layOut_of_far {digits : List Char} {exponent : Int} (some : digits ≠ [])
    (far : ¬ (-4 ≤ exponent ∧ exponent < 16)) (word : -4000 ≤ exponent ∧ exponent ≤ 4000) :
    layOut digits exponent =
      .ok (digits.take 1 ++ (if 1 < digits.length then '.' :: digits.drop 1 else []) ++
        DigitLayout.console.exponentText exponent) := by
  have distance : signed32.Fits exponent.natAbs := fits_signed32_iff.mpr (by omega)
  rw [layOut, if_neg far, splitAt_of_le (List.length_pos_iff.mpr some), ok_bind]
  simp only [check_of_fits distance, ok_bind, Int.toNat_natCast]
  rfl

/-- **Digits are laid out as they ought to be**: no cut lies outside them. -/
theorem layOut_eq {digits : List Char} {exponent : Int} (some : digits ≠ [])
    (word : -4000 ≤ exponent ∧ exponent ≤ 4000) :
    layOut digits exponent = .ok (DigitLayout.console.write digits exponent) := by
  unfold DigitLayout.write
  by_cases positional : -4 ≤ exponent ∧ exponent < 16
  · rw [if_pos (show DigitLayout.console.positionalFrom ≤ exponent ∧
      exponent < DigitLayout.console.positionalBelow from positional)]
    by_cases sign : 0 ≤ exponent
    · rw [if_pos sign, layOut_of_nonneg sign positional.2]
    · rw [if_neg sign, layOut_of_neg positional.1 (by omega)]
  · rw [if_neg (show ¬ (DigitLayout.console.positionalFrom ≤ exponent ∧
      exponent < DigitLayout.console.positionalBelow) from positional),
      layOut_of_far some positional word]
    by_cases single : digits.length ≤ 1
    · have length := List.length_pos_iff.mpr some
      rw [if_pos single, if_neg (by omega), List.append_nil, List.take_of_length_le single]
    · rw [if_neg single, if_pos (by omega), List.append_assoc, List.cons_append]

/-! ### Taking the scientific form apart -/

/-- A text comes apart at a mark that is not in its first part. -/
theorem splitOnce?_append {mark : Char} {before : List Char} (without : ∀ c ∈ before, c ≠ mark)
    (behind : List Char) : splitOnce? mark (before ++ mark :: behind) = some (before, behind) := by
  have kept : ∀ c ∈ before, decide (c ≠ mark) = true := fun c member =>
    decide_eq_true (without c member)
  have stops : ∀ c ∈ (mark :: behind).head?, decide (c ≠ mark) = false := by
    rintro c ⟨⟩
    exact decide_eq_false (not_not_intro rfl)
  obtain ⟨takes, drops⟩ := Scanning.takeWhile_of_head stops
  rw [splitOnce?, List.span_eq_takeWhile_dropWhile, List.takeWhile_append_of_pos kept,
    List.dropWhile_append_of_pos kept, takes, drops, List.append_nil]

/-- A digit is neither the point nor the mark of an exponent. -/
theorem ne_of_isDigit {c : Char} (digit : c.isDigit = true) : c ≠ '.' ∧ c ≠ 'e' := by
  constructor <;> rintro rfl <;> cases digit

/-- A written exponent is read back. -/
theorem readWord?_exponentDigits {exponent : Int} (word : -4000 ≤ exponent ∧ exponent ≤ 4000) :
    readWord? signed32 (Double.exponentDigits exponent) = some exponent := by
  have digits := allDigits_toDigits exponent.natAbs
  have value := Decimal.ofDigits_toDigits exponent.natAbs
  have read : Decimal.readSigned? (Double.exponentDigits exponent) = some exponent := by
    unfold Double.exponentDigits
    by_cases negative : exponent < 0
    · have sign : Decimal.readSign ('-' :: Nat.toDigits 10 exponent.natAbs) =
          (true, Nat.toDigits 10 exponent.natAbs) := rfl
      rw [if_pos negative, List.singleton_append, Decimal.readSigned?_eq_some_iff sign, value]
      exact ⟨Nat.toDigits_ne_nil, digits, by rw [if_pos rfl]; omega⟩
    · rw [if_neg negative, List.nil_append,
        Decimal.readSigned?_eq_some_iff (Decimal.readSign_digits digits), value]
      exact ⟨Nat.toDigits_ne_nil, digits, by rw [if_neg Bool.false_ne_true]; omega⟩
  have fits : signed32.Fits exponent := fits_signed32_iff.mpr (by omega)
  rw [readWord?, read, Option.filter_some, if_pos (decide_eq_true fits)]

/-- Without the point, what stands before the exponent is the digits. -/
theorem filter_mantissa {digits : List Char} (all : AllDigits digits) :
    (digits.take 1 ++ (if digits.length ≤ 1 then [] else '.' :: digits.drop 1)).filter (· ≠ '.') =
      digits := by
  have kept : digits.filter (· ≠ '.') = digits :=
    List.filter_eq_self.mpr fun c member => decide_eq_true (ne_of_isDigit (all c member)).1
  have parts : (digits.take 1).filter (· ≠ '.') ++ (digits.drop 1).filter (· ≠ '.') = digits := by
    rw [← List.filter_append, List.take_append_drop, kept]
  rw [List.filter_append]
  split
  case isTrue single =>
    rw [List.drop_of_length_le single] at parts
    exact parts
  case isFalse => exact parts

/-- What stands before the exponent has no mark of an exponent. -/
theorem mantissa_without_mark {digits : List Char} (all : AllDigits digits) :
    ∀ c ∈ digits.take 1 ++ (if digits.length ≤ 1 then [] else '.' :: digits.drop 1), c ≠ 'e' := by
  intro c member
  rcases List.mem_append.mp member with first | others
  · exact (ne_of_isDigit (all c (List.mem_of_mem_take first))).2
  · split at others
    case isTrue => cases others
    case isFalse =>
      rcases List.mem_cons.mp others with rfl | behind
      · decide
      · exact (ne_of_isDigit (all c (List.mem_of_mem_drop behind))).2

/-- **The text is that of the double.** The scientific form always comes apart into digits and an
exponent, so nothing is put in their place. -/
theorem floatText_eq (x : Double) : floatText x = .ok x.text := by
  unfold floatText Double.text
  by_cases nan : x.isNan = true
  · rw [if_pos nan, if_pos nan]
  rw [if_neg nan, if_neg nan]
  by_cases infinite : x.isInfinite = true
  · rw [if_pos infinite, if_pos infinite]
    cases x.negative <;> rfl
  rw [if_neg infinite, if_neg infinite, Double.unsignedText]
  by_cases zero : x.code = 0
  · rw [if_pos zero, if_pos zero]
    cases x.negative <;> rfl
  rw [if_neg zero, if_neg zero]
  have finite : x.isFinite = true := by
    have notAbove : ¬ Double.infinityCode < x.code := fun above => nan (decide_eq_true above)
    have notEqual : ¬ x.code = Double.infinityCode := fun equal => infinite (decide_eq_true equal)
    exact decide_eq_true (by omega)
  have digits := Double.allDigits_significant x.shortest
  have some := Double.significant_ne_nil (Double.digits_shortest_ne_zero zero)
  have near := Double.exponent_significant_near finite
  unfold Double.scientific Double.scientificForm
  generalize Double.significant x.shortest = written at digits some near ⊢
  obtain ⟨digits', exponent⟩ := written
  rw [splitOnce?_append (mantissa_without_mark digits), expected_some, ok_bind]
  simp only [readWord?_exponentDigits near, expected_some, ok_bind]
  rw [filter_mantissa digits, layOut_eq some near]
  rfl

end Checked

end CallConsole
