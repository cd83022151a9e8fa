/-
**Rounding doubles by cutting their digits.**

A double is rounded to decimal places in its exact decimal expansion: the digits are cut behind the
last one that is kept, the others decide whether it is counted up, and the result is read again as a
double.

* `increment_eq`: counting up with a carry denotes one more;
* `roundsUp_eq`: the digits behind the cut decide as rounding half to even does;
* `roundedNumeral?_cases`: every cut lies inside the digits, no digit leaves its byte, and the text
  made of them is always read, as the multiple that the double is rounded to;
* `floatRounded_eq`: the result is the double rounded.
-/

import CallConsole.Double.Places
import CallConsole.Proofs.Checked.FloatText
import CallConsole.Proofs.DigitLists

namespace CallConsole

open Width DigitList

namespace Double

/-- The digits of a number, with zeros in front up to so many. -/
def paddedDigits (count n : Nat) : List Char :=
  List.replicate (count - Decimal.length n) '0' ++ Nat.toDigits 10 n

/-- No double has more digits than these behind the point. -/
def exactPlaces : Nat := 1074

/-- The digits before the point of the absolute value. -/
def wholeText (x : Double) : List Char :=
  Nat.toDigits 10 (x.exactDecimal.digits / 10 ^ exactPlaces)

/-- All digits behind the point of the absolute value. -/
def fractionText (x : Double) : List Char :=
  paddedDigits exactPlaces (x.exactDecimal.digits % 10 ^ exactPlaces)

/-- **The absolute value of a double, written exactly.** -/
def exactText (x : Double) : List Char := x.wholeText ++ '.' :: x.fractionText

end Double

namespace Checked

/-- The digit that a character is. -/
def digitOf (c : Char) : Checked Nat := do
  let d ← byte.check ((c.toNat : Int) - '0'.toNat)
  .ok d.toNat

/-- The character of a digit. -/
def characterOf (d : Nat) : Checked Char := do
  let code ← byte.check ('0'.toNat + d : Nat)
  .ok (Char.ofNat code.toNat)

/-- Digits counted up by one, the least digit first: a nine becomes a zero and the next digit is
counted up, or put there if there is none. -/
def carry : List Nat → Checked (List Nat)
  | [] => .ok [1]
  | d :: rest =>
    if d = 9 then do
      let others ← carry rest
      .ok (0 :: others)
    else do
      let next ← byte.check (d + 1)
      .ok (next.toNat :: rest)

/-- Digits counted up by one. -/
def increment (digits : List Nat) : Checked (List Nat) := do
  let counted ← carry digits.reverse
  .ok counted.reverse

/-- The last digit is odd. -/
def endsOdd (digits : List Nat) : Checked Bool :=
  match digits.getLast? with
  | some last => do
    let parity ← remainder byte last 2
    .ok (decide (parity = 1))
  | none => .ok false

/-- The digits behind a cut round those before it up. -/
def roundsUp (kept : List Nat) : List Nat → Checked Bool
  | [] => .ok false
  | first :: rest =>
    if 5 < first then .ok true
    else if first = 5 then
      if rest.any (· ≠ 0) then .ok true else endsOdd kept
    else .ok false

/-- The digits that are kept, counted up if those behind the cut say so. -/
def keepRounded (kept dropped : List Nat) : Checked (List Nat) := do
  if ← roundsUp kept dropped then increment kept else .ok kept

/-- The double that digits denote, the last of them standing so many places behind the point. -/
def readRounded (digits : List Nat) (places : Integer) : Checked Double := do
  let text ← digits.mapM characterOf
  let exponent ← signed64.check (-places.toInt)
  expected (Double.read?
    ((if text.isEmpty then ['0'] else text) ++ 'e' :: Double.exponentDigits exponent))

/-- **A double rounded to so many decimal places.** -/
def floatRounded (x : Double) (places : Integer) : Checked Double :=
  if !x.isFinite || x.code = 0 || 323 < places.toInt then .ok x
  else if places.toInt < -308 then .ok (Double.zero x.negative)
  else do
    let (whole, fraction) ← expected (splitOnce? '.' x.exactText)
    let digits ← (whole ++ fraction).mapM digitOf
    let keep ← signed64.check (signed64.wrap whole.length + places.toInt)
    if keep < 0 then .ok (Double.zero x.negative)
    else do
      let (kept, dropped) ← splitAt digits (min (unsigned64.wrap keep).toNat digits.length)
      let rounded ← keepRounded kept dropped
      let result ← readRounded rounded places
      .ok (result.copySign x)

/-- The text that is read again for digits, the last of them standing so many places behind the
point. -/
def numeral (digits : List Nat) (places : Integer) : Checked (List Char) := do
  let text ← digits.mapM characterOf
  let exponent ← signed64.check (-places.toInt)
  .ok ((if text.isEmpty then ['0'] else text) ++ 'e' :: Double.exponentDigits exponent)

/-- **The text that is read again for a rounded double**; there is none if the cut lies before all
of its digits. -/
def roundedNumeral? (x : Double) (places : Integer) : Checked (Option (List Char)) := do
  let (whole, fraction) ← expected (splitOnce? '.' x.exactText)
  let digits ← (whole ++ fraction).mapM digitOf
  let keep ← signed64.check (signed64.wrap whole.length + places.toInt)
  if keep < 0 then .ok none
  else do
    let (kept, dropped) ← splitAt digits (min (unsigned64.wrap keep).toNat digits.length)
    let rounded ← keepRounded kept dropped
    let text ← numeral rounded places
    .ok (some text)

/-- What is read becomes the result; without a text this is zero. -/
def readAgain (x : Double) : Option (List Char) → Checked Double
  | none => .ok (Double.zero x.negative)
  | some text => do
    let result ← expected (Double.read? text)
    .ok (result.copySign x)

/-- **A double in the range where digits are cut is what is read again.** -/
theorem floatRounded_of_near {x : Double} {places : Integer}
    (same : ¬ (!x.isFinite || x.code = 0 || 323 < places.toInt) = true)
    (near : ¬ places.toInt < -308) :
    floatRounded x places = roundedNumeral? x places >>= readAgain x := by
  unfold floatRounded roundedNumeral?
  rw [if_neg same, if_neg near]
  simp only [bind_assoc, readRounded, numeral]
  refine bind_congr fun parts => bind_congr fun digits => bind_congr fun keep => ?_
  split
  · rfl
  · simp only [bind_assoc]
    rfl

/-! ### Counting up -/

/-- Counting up keeps digits, and adds one to their number. -/
theorem carry_eq {digits : List Nat} (all : IsDigits digits) :
    ∃ counted, carry digits = .ok counted ∧ IsDigits counted ∧
      Nat.ofDigits 10 counted = Nat.ofDigits 10 digits + 1 := by
  induction digits with
  | nil => exact ⟨[1], rfl, List.forall_mem_singleton.mpr (by decide), rfl⟩
  | cons d rest ih =>
    obtain ⟨first, others⟩ := List.forall_mem_cons.mp all
    rw [carry]
    by_cases nine : d = 9
    · obtain ⟨counted, carried, digits, value⟩ := ih others
      refine ⟨0 :: counted, by rw [if_pos nine, carried]; rfl, ?_, ?_⟩
      · exact List.forall_mem_cons.mpr ⟨by decide, digits⟩
      · rw [Nat.ofDigits_cons, Nat.ofDigits_cons, value, nine]
        omega
    · have next : byte.Fits ((d : Int) + 1) := fits_byte_iff.mpr (by omega)
      refine ⟨(d + 1) :: rest, ?_, ?_, ?_⟩
      · rw [if_neg nine, check_of_fits next]
        rfl
      · exact List.forall_mem_cons.mpr ⟨by omega, others⟩
      · rw [Nat.ofDigits_cons, Nat.ofDigits_cons]
        omega

/-- **Counting up denotes one more.** -/
theorem increment_eq {digits : List Nat} (all : IsDigits digits) :
    ∃ counted, increment digits = .ok counted ∧ IsDigits counted ∧
      value counted = value digits + 1 := by
  obtain ⟨counted, carried, digits', denotes⟩ :=
    carry_eq fun d member => all d (List.mem_reverse.mp member)
  refine ⟨counted.reverse, by rw [increment, carried]; rfl, ?_, ?_⟩
  · exact fun d member => digits' d (List.mem_reverse.mp member)
  · rw [value, List.reverse_reverse, denotes, value]

/-! ### The decision -/

theorem endsOdd_eq {digits : List Nat} (all : IsDigits digits) :
    endsOdd digits = .ok (decide (value digits % 2 = 1)) := by
  rcases List.eq_nil_or_concat digits with rfl | ⟨front, last, rfl⟩
  · rfl
  · rw [List.concat_eq_append] at all ⊢
    have digit := all last (List.mem_append_right front (List.mem_singleton_self last))
    have half : byte.Fits ((last : Int).tdiv 2) := by
      rw [Int.tdiv_eq_ediv_of_nonneg (by omega)]
      exact fits_byte_iff.mpr (by omega)
    have parity : (last : Int).tmod 2 = 1 ↔ last % 2 = 1 := by
      rw [Int.tmod_eq_emod_of_nonneg (by omega)]
      omega
    rw [endsOdd, List.getLast?_append, List.getLast?_singleton, value_mod_two]
    simp only [Option.some_or, remainder_of_fits (by decide) half, ok_bind, parity]

/-- **The digits behind the cut decide as rounding half to even does.** -/
theorem roundsUp_eq {kept dropped : List Nat} (digits : IsDigits kept) (digits' : IsDigits dropped)
    (some : dropped ≠ []) : ∃ up, roundsUp kept dropped = .ok up ∧
      nearestEven (value (kept ++ dropped)) (10 ^ dropped.length) =
        if up then value kept + 1 else value kept := by
  cases dropped with
  | nil => exact absurd rfl some
  | cons first rest =>
    rw [List.length_cons, nearestEven_cut kept digits', roundsUp]
    by_cases large : 5 < first
    · have notLess : ¬ first < 5 := by omega
      exact ⟨true, if_pos large, by rw [if_neg notLess, if_pos (.inl large), if_pos rfl]⟩
    rw [if_neg large]
    by_cases five : first = 5
    · have notLess : ¬ first < 5 := by omega
      rw [if_pos five, if_neg notLess]
      by_cases others : ∃ d ∈ rest, d ≠ 0
      · have any : rest.any (· ≠ 0) = true := by simpa using others
        exact ⟨true, if_pos any, if_pos (.inr ⟨five, others⟩)⟩
      · have none : ¬ rest.any (· ≠ 0) = true := by simpa using others
        have half : ¬ (5 < first ∨ first = 5 ∧ ∃ d ∈ rest, d ≠ 0) := by
          rintro (above | ⟨_, more⟩)
          · exact large above
          · exact others more
        refine ⟨decide (value kept % 2 = 1), by rw [if_neg none, endsOdd_eq digits], ?_⟩
        rw [if_neg half]
        simp only [decide_eq_true_eq]
        split <;> omega
    · have less : first < 5 := by omega
      exact ⟨false, if_neg five, by rw [if_pos less, if_neg Bool.false_ne_true]⟩

/-- **What is kept denotes the rounded quotient.** -/
theorem keepRounded_eq {kept dropped : List Nat} (digits : IsDigits kept)
    (digits' : IsDigits dropped) (some : dropped ≠ []) : ∃ rounded,
      keepRounded kept dropped = .ok rounded ∧ IsDigits rounded ∧
        value rounded = nearestEven (value (kept ++ dropped)) (10 ^ dropped.length) := by
  obtain ⟨up, decided, nearest⟩ := roundsUp_eq digits digits' some
  rw [keepRounded, decided, ok_bind, nearest]
  cases up with
  | true => exact increment_eq digits
  | false => exact ⟨kept, rfl, digits, rfl⟩

/-! ### Digits and their text -/

theorem digitOf_eq {c : Char} (isDigit : c.isDigit = true) : digitOf c = .ok (digit c) := by
  obtain ⟨least, most⟩ := Char.isDigit_iff_toNat.mp isDigit
  have small := digit_lt isDigit
  have fits : byte.Fits ((c.toNat : Int) - '0'.toNat) := by
    unfold digit at small
    exact fits_byte_iff.mpr (by omega)
  rw [digitOf, check_of_fits fits, ok_bind, ← Int.natCast_sub least]
  rfl

theorem characterOf_eq {d : Nat} (isDigit : d < 10) :
    characterOf d = .ok (Char.ofNat (48 + d)) := by
  have fits : byte.Fits ('0'.toNat + d : Nat) := fits_byte_iff.mpr (by
    have zero : '0'.toNat = 48 := rfl
    omega)
  rw [characterOf, check_of_fits fits]
  rfl

/-- A text that begins with a digit has no sign. -/
theorem readSign_cons {c : Char} (isDigit : c.isDigit = true) (rest : List Char) :
    Decimal.readSign (c :: rest) = (false, c :: rest) := by
  rcases Decimal.readSign_cases (c :: rest) with ⟨_, same, _⟩ | ⟨_, same, _⟩ | bare
  · cases same
    cases isDigit
  · cases same
    cases isDigit
  · exact bare

theorem writtenExponent (exponent : Int) :
    Decimal.WrittenExponent ('e' :: Double.exponentDigits exponent) exponent := by
  have digits := allDigits_toDigits exponent.natAbs
  have value := Decimal.ofDigits_toDigits exponent.natAbs
  unfold Double.exponentDigits
  by_cases negative : exponent < 0
  · have written := Decimal.WrittenExponent.minus (.inl rfl) Nat.toDigits_ne_nil digits
    rw [value, show -(exponent.natAbs : Int) = exponent by omega] at written
    rw [if_pos negative]
    exact written
  · have written := Decimal.WrittenExponent.unsigned (.inl rfl) Nat.toDigits_ne_nil digits
    rw [value, show (exponent.natAbs : Int) = exponent by omega] at written
    rw [if_neg negative]
    exact written

/-- Digits with an exponent behind them are read. -/
theorem read?_digits {text : List Char} (some : text ≠ []) (all : AllDigits text)
    (exponent : Int) :
    Decimal.read? (text ++ 'e' :: Double.exponentDigits exponent) =
        Option.some ⟨Decimal.ofDigits text, exponent⟩ ∧
      Double.read? (text ++ 'e' :: Double.exponentDigits exponent) =
        Option.some (Double.ofDecimal false ⟨Decimal.ofDigits text, exponent⟩) := by
  obtain ⟨c, rest, rfl⟩ := List.exists_cons_of_ne_nil some
  have written := Decimal.read?_eq_some_iff.mpr
    (Decimal.Written.whole some all (writtenExponent exponent))
  refine ⟨written, ?_⟩
  rw [Double.read?, List.cons_append, readSign_cons (all c List.mem_cons_self)]
  dsimp only
  rw [← List.cons_append, written]

/-- **The text of digits is always read**, as the number that they denote. -/
theorem numeral_eq {digits : List Nat} (all : IsDigits digits) (places : Integer)
    (bounded : -4000 ≤ places.toInt) : ∃ text, numeral digits places = .ok text ∧
      Decimal.read? text = some ⟨value digits, -places.toInt⟩ ∧
      Double.read? text = some (Double.ofDecimal false ⟨value digits, -places.toInt⟩) := by
  have text : digits.mapM characterOf = .ok (digits.map fun d => Char.ofNat (48 + d)) :=
    mapM_of_forall fun d member => characterOf_eq (all d member)
  have exponent : signed64.Fits (-places.toInt) := by
    have word := Integer.fits_toInt places
    unfold Integer.Fits at word
    exact fits_signed64_iff.mpr (by omega)
  have written : AllDigits (digits.map fun d => Char.ofNat (48 + d)) := by
    intro c member
    obtain ⟨d, present, rfl⟩ := List.mem_map.mp member
    exact (isDigit_ofNat (all d present)).1
  have back : (digits.map fun d => Char.ofNat (48 + d)).map digit = digits := by
    rw [List.map_map]
    exact (List.map_congr_left fun d present => (isDigit_ofNat (all d present)).2).trans
      (List.map_id digits)
  have denotes : Decimal.ofDigits (digits.map fun d => Char.ofNat (48 + d)) = value digits := by
    rw [← value_map_digit, back]
  rw [numeral, text, ok_bind, check_of_fits exponent, ok_bind]
  refine ⟨_, rfl, ?_⟩
  cases digits with
  | nil =>
    have zero : AllDigits ['0'] := List.forall_mem_singleton.mpr rfl
    exact read?_digits (List.cons_ne_nil _ _) zero _
  | cons d rest =>
    rw [← denotes]
    exact read?_digits (List.cons_ne_nil _ _) written _

end Checked

/-! ### The exact expansion -/

namespace Double

theorem allDigits_paddedDigits (count n : Nat) : AllDigits (paddedDigits count n) := by
  intro c member
  rcases List.mem_append.mp member with zero | digit
  · rw [List.eq_of_mem_replicate zero]
    rfl
  · exact allDigits_toDigits n c digit

theorem length_paddedDigits {count n : Nat} (some : 0 < count) (below : n < 10 ^ count) :
    (paddedDigits count n).length = count := by
  have fits := Decimal.length_le some below
  unfold paddedDigits
  rw [List.length_append, List.length_replicate]
  unfold Decimal.length at fits ⊢
  omega

theorem ofDigits_paddedDigits (count n : Nat) : Decimal.ofDigits (paddedDigits count n) = n := by
  rw [Decimal.ofDigits, paddedDigits, Nat.ofDigitChars_append, Nat.ofDigitChars_replicate_zero,
    Nat.mul_zero, Nat.ofDigitChars_ten_toDigits]

/-- What stands before the point and what stands behind it, put together, is the exact value. -/
theorem ofDigits_append {places : Nat} (some : 0 < places) (n : Nat) :
    Decimal.ofDigits (Nat.toDigits 10 (n / 10 ^ places) ++ paddedDigits places (n % 10 ^ places)) =
      n := by
  have below : n % 10 ^ places < 10 ^ places := Nat.mod_lt _ (Nat.pow_pos (by decide))
  have fraction := ofDigits_paddedDigits places (n % 10 ^ places)
  rw [Decimal.ofDigits] at fraction
  rw [Decimal.ofDigits, Nat.ofDigitChars_append, Nat.ofDigitChars_ten_toDigits,
    Nat.ofDigitChars_eq_ofDigitChars_zero, fraction, length_paddedDigits some below]
  exact Nat.div_add_mod n (10 ^ places)

theorem length_fractionText (x : Double) : x.fractionText.length = exactPlaces :=
  length_paddedDigits (by decide) (Nat.mod_lt _ (Nat.pow_pos (by decide)))

/-- The places behind a point are split off. -/
theorem div_lt_of_lt {n whole places : Nat} (below : n < 10 ^ (whole + places)) :
    n / 10 ^ places < 10 ^ whole := by
  rwa [Nat.div_lt_iff_lt_mul (Nat.pow_pos (by decide)), ← Nat.pow_add]

/-- A double below a power of two has so many digits before the point at most. -/
theorem length_wholeText_le {x : Double} {high : Nat} (below : x.units < 2 ^ high * oneUnits) :
    x.wholeText.length ≤ high + 1 := by
  have limit := scaled_lt below exactPlaces
  have digits : x.exactDecimal.digits = x.units * 10 ^ exactPlaces / oneUnits := by
    rw [exactDecimal, exactPlaces, scaled_exactly]
  rw [← digits] at limit
  exact Decimal.length_le (Nat.succ_pos high) (div_lt_of_lt (Nat.lt_of_succ_lt limit))

/-- **The exact expansion denotes the exact value.** -/
theorem ofDigits_exact (x : Double) :
    Decimal.ofDigits (x.wholeText ++ x.fractionText) = x.exactDecimal.digits :=
  ofDigits_append (by decide) _

/-- A quotient of units is one of decimal digits. -/
theorem nearestEven_decimal (units : Nat) {places up down dropped : Nat}
    (balance : places + down = up + dropped) :
    nearestEven (units * 10 ^ up) (2 ^ places * 10 ^ down) =
      nearestEven (units * 5 ^ places) (10 ^ dropped) := by
  have numerator : units * 10 ^ up * 5 ^ places = units * 5 ^ places * 10 ^ up :=
    Nat.mul_right_comm ..
  have denominator : 2 ^ places * 10 ^ down * 5 ^ places = 10 ^ dropped * 10 ^ up := by
    rw [Nat.mul_right_comm, ← Nat.mul_pow, ← Nat.pow_add, balance, Nat.pow_add, Nat.mul_comm]
  rw [← nearestEven_mul_right _ _ (Nat.pow_pos (n := places) (show 0 < 5 by decide)), numerator,
    denominator, nearestEven_mul_right _ _ (Nat.pow_pos (by decide))]

/-- **A double rounded to decimal places is its exact expansion cut there.** -/
theorem scaledNearest_eq (x : Double) {places : Int} {dropped : Nat}
    (cut : places + dropped = exactPlaces) :
    x.scaledNearest places = nearestEven x.exactDecimal.digits (10 ^ dropped) := by
  have balance : exactPlaces + (-places).toNat = places.toNat + dropped := by omega
  unfold exactPlaces at balance
  unfold scaledNearest oneUnits exactDecimal
  generalize 1074 = exact at balance ⊢
  exact nearestEven_decimal x.units balance

/-- The digits of the exact expansion, without the point. -/
def exactDigits (x : Double) : List Nat := (x.wholeText ++ x.fractionText).map digit

theorem allDigits_exact (x : Double) : AllDigits (x.wholeText ++ x.fractionText) := by
  intro c member
  rcases List.mem_append.mp member with whole | fraction
  · exact allDigits_toDigits _ c whole
  · exact allDigits_paddedDigits _ _ c fraction

theorem isDigits_exactDigits (x : Double) : IsDigits x.exactDigits := by
  intro d member
  obtain ⟨c, present, rfl⟩ := List.mem_map.mp member
  exact digit_lt (x.allDigits_exact c present)

theorem length_exactDigits (x : Double) :
    x.exactDigits.length = x.wholeText.length + exactPlaces := by
  rw [exactDigits, List.length_map, List.length_append, length_fractionText]

theorem value_exactDigits (x : Double) : value x.exactDigits = x.exactDecimal.digits := by
  rw [exactDigits, value_map_digit, ofDigits_exact]

/-- **Cut before all of its digits, a double rounds to zero.** -/
theorem scaledNearest_of_far {x : Double} {places : Int}
    (far : x.wholeText.length + places < 0) : x.scaledNearest places = 0 := by
  obtain ⟨dropped, cut⟩ : ∃ dropped : Nat, places + dropped = exactPlaces :=
    ⟨(exactPlaces - places).toNat, by omega⟩
  have below := value_lt x.isDigits_exactDigits
  rw [value_exactDigits, length_exactDigits] at below
  have power : 10 ^ (x.wholeText.length + exactPlaces + 1) ≤ 10 ^ dropped :=
    Nat.pow_le_pow_right (by decide) (by omega)
  rw [Nat.pow_succ] at power
  have small : x.exactDecimal.digits < 10 ^ dropped := by omega
  rw [scaledNearest_eq x cut, nearestEven, Nat.div_eq_of_lt small, Nat.mod_eq_of_lt small]
  exact if_pos (by omega)

end Double

namespace Checked

/-- **Cut among its digits, a double is rounded there.** -/
theorem keepRounded_exactDigits {x : Double} {places : Int} {keep : Nat}
    (cut : x.wholeText.length + places = keep) (inside : places < Double.exactPlaces) :
    ∃ rounded, keepRounded (x.exactDigits.take keep) (x.exactDigits.drop keep) = .ok rounded ∧
      IsDigits rounded ∧ value rounded = x.scaledNearest places := by
  have length := x.length_exactDigits
  have digits := x.isDigits_exactDigits
  have some : x.exactDigits.drop keep ≠ [] := by
    rw [Ne, List.drop_eq_nil_iff]
    omega
  obtain ⟨rounded, done, digits', denotes⟩ := keepRounded_eq
    (fun d member => digits d (List.mem_of_mem_take member))
    (fun d member => digits d (List.mem_of_mem_drop member)) some
  have dropped : places + (x.exactDigits.drop keep).length = Double.exactPlaces := by
    rw [List.length_drop]
    omega
  refine ⟨rounded, done, digits', ?_⟩
  rw [denotes, List.take_append_drop, Double.value_exactDigits, Double.scaledNearest_eq x dropped]

/-- **The text that is read again denotes the multiple**, for every number of places at which digits
are cut. -/
theorem roundedNumeral?_cases {x : Double} {places : Integer} (finite : x.isFinite = true)
    (least : -308 ≤ places.toInt) (most : places.toInt ≤ 323) :
    (roundedNumeral? x places = .ok none ∧ x.scaledNearest places.toInt = 0) ∨
    ∃ text, roundedNumeral? x places = .ok (some text) ∧
      Decimal.read? text = some ⟨x.scaledNearest places.toInt, -places.toInt⟩ ∧
      Double.read? text =
        some (Double.ofDecimal false ⟨x.scaledNearest places.toInt, -places.toInt⟩) := by
  have whole := Double.length_wholeText_le (Double.units_lt_of_isFinite finite)
  have length := x.length_exactDigits
  have parts : splitOnce? '.' x.exactText = some (x.wholeText, x.fractionText) :=
    splitOnce?_append (fun c member => (ne_of_isDigit (allDigits_toDigits _ c member)).1) _
  have read : (x.wholeText ++ x.fractionText).mapM digitOf = .ok x.exactDigits :=
    mapM_of_forall fun c member => digitOf_eq (x.allDigits_exact c member)
  have size : signed64.wrap x.wholeText.length = x.wholeText.length :=
    wrap_of_fits (fits_signed64_iff.mpr (by omega))
  have keep : signed64.Fits (x.wholeText.length + places.toInt) :=
    fits_signed64_iff.mpr (by omega)
  rw [roundedNumeral?, parts, expected_some, ok_bind]
  simp only [read, ok_bind, size, check_of_fits keep]
  by_cases before : x.wholeText.length + places.toInt < 0
  · exact .inl ⟨if_pos before, Double.scaledNearest_of_far before⟩
  rw [if_neg before, wrap_of_fits (fits_unsigned64_iff.mpr (by omega))]
  have inside : places.toInt < Double.exactPlaces := by unfold Double.exactPlaces; omega
  obtain ⟨count, cut⟩ : ∃ count : Nat, x.wholeText.length + places.toInt = count :=
    ⟨_, (Int.toNat_of_nonneg (by omega)).symm⟩
  obtain ⟨rounded, done, digits, denotes⟩ := keepRounded_exactDigits cut inside
  obtain ⟨text, made, decimal, double⟩ := numeral_eq digits places (by omega)
  have within : min count x.exactDigits.length = count := by omega
  rw [cut, Int.toNat_natCast, within, splitAt_of_le (by omega), ok_bind]
  simp only [done, made, ok_bind]
  rw [← denotes]
  exact .inr ⟨text, rfl, decimal, double⟩

/-- **The rounding found is the right one**, for every double and every number of places. -/
theorem floatRounded_eq (x : Double) (places : Integer) :
    floatRounded x places = .ok (x.roundTo places.toInt) := by
  by_cases same : (!x.isFinite || x.code = 0 || 323 < places.toInt) = true
  · rw [floatRounded, Double.roundTo, if_pos same, if_pos same]
  by_cases far : places.toInt < -308
  · rw [floatRounded, Double.roundTo, if_neg same, if_neg same, if_pos far, if_pos far]
  rw [floatRounded_of_near same far, Double.roundTo, if_neg same, if_neg far]
  simp only [Bool.or_eq_true, Bool.not_eq_true', decide_eq_true_eq, not_or,
    Bool.not_eq_false] at same
  obtain ⟨⟨finite, _⟩, near⟩ := same
  rcases roundedNumeral?_cases finite (not_lt.mp far) (not_lt.mp near) with
    ⟨none, zero⟩ | ⟨text, some, _, read⟩
  · rw [none, zero, ok_bind, Double.ofDecimal_of_zero x.negative rfl, readAgain]
  · rw [some, ok_bind, readAgain, read, expected_some, ok_bind, Double.copySign_ofDecimal]

end Checked

end CallConsole
