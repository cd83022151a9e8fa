/-
**Decimals in writing, as texts of doubles.**

Wherever the point of a decimal stands, and whatever its exponent, it is one number token, and the
double that is read depends on no more than the rational number that it is:

* `Decimal.Written.spelled`: a written decimal is one number token;
* `Decimal.Written.parts`, `Decimal.Written.readSign_eq`: it holds neither underscores nor blanks, and
  no sign in front;
* `Double.ofDecimal_congr`: decimals that are the same number are read as the same double;
* `Decimal.Written.ofText_eq`, `Decimal.Written.signed`: what both readers make of a written decimal
  behind a sign.
-/

import CallConsole.Proofs.NearestDoubles
import CallConsole.Proofs.SignRuns
import CallConsole.Proofs.TextConversions

namespace CallConsole

open Numeral Scanning

namespace Decimal

variable {text power digits after : List Char} {d : Decimal} {exponent : Int} {point : Bool}

/-! ### The characters -/

/-- A character of a written decimal. -/
def IsPart (c : Char) : Prop := c.isDigit = true ∨ c ∈ ['.', 'e', 'E', '+', '-']

theorem WrittenExponent.parts (written : WrittenExponent power exponent) : ∀ c ∈ power, IsPart c := by
  have mark {c : Char} (letter : c = 'e' ∨ c = 'E') : IsPart c := by
    rcases letter with rfl | rfl
    · exact .inr (by decide)
    · exact .inr (by decide)
  have digit {digits : List Char} (all : AllDigits digits) : ∀ c ∈ digits, IsPart c :=
    fun c member => .inl (all c member)
  cases written with
  | nothing => exact List.forall_mem_nil _
  | unsigned letter _ all => exact List.forall_mem_cons.mpr ⟨mark letter, digit all⟩
  | plus letter _ all | minus letter _ all =>
    exact List.forall_mem_cons.mpr
      ⟨mark letter, List.forall_mem_cons.mpr ⟨.inr (by decide), digit all⟩⟩

/-- **A written decimal is digits, points, marks of exponents and their signs.** -/
theorem Written.parts (written : Written text d) : ∀ c ∈ text, IsPart c := by
  have digit {digits : List Char} (all : AllDigits digits) : ∀ c ∈ digits, IsPart c :=
    fun c member => .inl (all c member)
  cases written with
  | whole _ all power => exact List.forall_mem_append.mpr ⟨digit all, power.parts⟩
  | pointed _ all all' power =>
    exact List.forall_mem_append.mpr ⟨digit all, List.forall_mem_cons.mpr
      ⟨.inr (by decide), List.forall_mem_append.mpr ⟨digit all', power.parts⟩⟩⟩

theorem IsPart.ne_underscore {c : Char} (part : IsPart c) : c ≠ '_' := by
  rintro rfl
  rcases part with digit | mark
  · cases digit
  · exact absurd mark (by decide)

theorem IsPart.not_isBlank {c : Char} (part : IsPart c) : isBlank c = false := by
  have marks : ∀ c ∈ ['.', 'e', 'E', '+', '-'], isBlank c = false :=
    List.all_iff_forall_prop.mp rfl
  exact part.elim (fun digit => (solid_of_isDigit digit).1.1) (marks c)

/-- A written decimal holds no underscores. -/
theorem Written.plain_eq (written : Written text d) : plain text = text :=
  List.filter_eq_self.mpr fun c member => decide_eq_true (written.parts c member).ne_underscore

/-- A written decimal begins with a digit or with a point that a digit follows. -/
theorem Written.front (written : Written text d) : ∃ c cs, text = c :: cs ∧
    (c.isDigit = true ∨ startsFraction c cs = true) := by
  cases written with
  | whole some all power =>
    obtain ⟨c, cs, rfl⟩ := List.exists_cons_of_ne_nil some
    exact ⟨c, _, rfl, .inl (all c List.mem_cons_self)⟩
  | @pointed whole fraction _ _ some all all' power =>
    cases whole with
    | cons c cs => exact ⟨c, _, rfl, .inl (all c List.mem_cons_self)⟩
    | nil =>
      obtain ⟨c, cs, rfl⟩ := List.exists_cons_of_ne_nil some
      exact ⟨'.', _, rfl, .inr (startsFraction_iff.mpr ⟨rfl, c, _, rfl, all' c List.mem_cons_self⟩)⟩

/-- A written decimal has no sign in front. -/
theorem Written.readSign_eq (written : Written text d) : readSign text = (false, text) := by
  obtain ⟨c, cs, rfl, starts⟩ := written.front
  rcases readSign_cases (c :: cs) with ⟨rest, same, _⟩ | ⟨rest, same, _⟩ | bare
  · cases same
    rcases starts with digit | fraction
    · cases digit
    · cases (startsFraction_iff.mp fraction).1
  · cases same
    rcases starts with digit | fraction
    · cases digit
    · cases (startsFraction_iff.mp fraction).1
  · exact bare

/-! ### One token -/

/-- The exponent goes on with a number up to its end. -/
theorem WrittenExponent.numberTail_eq (written : WrittenExponent power exponent) (ends : Ends after)
    (point : Bool) : numberTail point false (power ++ after) = (power, after) := by
  have run {digits : List Char} (all : AllDigits digits) :
      numberTail point true (digits ++ after) = (digits, after) := by
    rw [numberTail_run _ _ fun c member => .inl (all c member), numberTail_stops (ends.stops _ _),
      List.append_nil]
  cases written with
  | nothing => exact numberTail_stops (ends.stops _ _)
  | @unsigned mark digits letter some all =>
    obtain ⟨c, cs, rfl⟩ := List.exists_cons_of_ne_nil some
    have noSign : ∀ d ∈ (c :: cs ++ after).head?, ¬ (d = '+' ∨ d = '-') := by
      rintro _ ⟨⟩ (rfl | rfl)
      · exact absurd (all '+' List.mem_cons_self) (by decide)
      · exact absurd (all '-' List.mem_cons_self) (by decide)
    rw [List.cons_append, numberTail_mark letter noSign, run all]
  | plus letter some all =>
    rw [List.cons_append, List.cons_append, numberTail_sign letter (.inl rfl), run all]
  | minus letter some all =>
    rw [List.cons_append, List.cons_append, numberTail_sign letter (.inr rfl), run all]

/-- So do digits in front of it. -/
theorem WrittenExponent.numberTail_digits (written : WrittenExponent power exponent)
    (ends : Ends after) (point : Bool) (all : AllDigits digits) :
    numberTail point false (digits ++ (power ++ after)) = (digits ++ power, after) := by
  rw [numberTail_run _ _ fun c member => .inl (all c member), written.numberTail_eq ends]

/-- **A written decimal is one number token.** -/
theorem Written.spelled (written : Written text d) : Spelled text := by
  cases written with
  | whole some all power =>
    obtain ⟨c, cs, rfl⟩ := List.exists_cons_of_ne_nil some
    obtain ⟨digit, others⟩ := List.forall_mem_cons.mp all
    obtain ⟨solid, noName, noPoint⟩ := solid_of_isDigit digit
    rw [List.cons_append]
    refine spelled_of_tail solid noName (fun _ => .inl digit) fun after ends => ?_
    rw [decide_eq_false noPoint, List.append_assoc, power.numberTail_digits ends _ others]
  | @pointed whole fraction _ _ some all all' power =>
    cases whole with
    | cons c cs =>
      obtain ⟨digit, others⟩ := List.forall_mem_cons.mp all
      obtain ⟨solid, noName, noPoint⟩ := solid_of_isDigit digit
      rw [List.cons_append]
      refine spelled_of_tail solid noName (fun _ => .inl digit) fun after ends => ?_
      rw [decide_eq_false noPoint, List.append_assoc, List.cons_append, List.append_assoc,
        numberTail_run _ _ fun c member => .inl (others c member), numberTail_point,
        power.numberTail_digits ends _ all']
    | nil =>
      obtain ⟨c, cs, rfl⟩ := List.exists_cons_of_ne_nil some
      have digit := all' c List.mem_cons_self
      refine spelled_of_tail ⟨by decide, by decide⟩ (by decide)
        (fun _ => .inr (startsFraction_iff.mpr ⟨rfl, c, _, rfl, digit⟩)) fun after ends => ?_
      rw [List.append_assoc]
      exact power.numberTail_digits ends _ all'

end Decimal

/-! ### The double that is read -/

namespace Double

/-- A double that is read has the sign that was read. -/
theorem negative_ofDecimal (negative : Bool) (d : Decimal) :
    (ofDecimal negative d).negative = negative := by
  obtain ⟨code, word, read⟩ := ofDecimal_eq_ofCode d
  rw [read, negative_ofCode negative word]

/-- **Decimals that are the same number are read as the same double.** -/
theorem ofDecimal_congr {d d' : Decimal} (same : d.rational = d'.rational) (negative : Bool) :
    ofDecimal negative d = ofDecimal negative d' := by
  have nearest := nearestTo_ofDecimal negative d
  rw [same] at nearest
  refine nearest.unique (nearestTo_ofDecimal negative d') ?_
  rw [negative_ofDecimal, negative_ofDecimal]

/-- A double is nearest to its own absolute value. -/
theorem nearestTo_magnitude {x : Double} (number : x.isNan = false) : x.NearestTo x.magnitude where
  number := number
  near z _ := by
    rw [sub_self, abs_zero]
    exact abs_nonneg _
  even z _ other tied := by
    rw [sub_self, abs_zero, abs_eq_zero, sub_eq_zero] at tied
    exact absurd tied.symm other

/-- **A decimal that is the absolute value of a double is read as the double.** -/
theorem ofDecimal_of_magnitude {x : Double} (number : x.isNan = false) {d : Decimal}
    (same : d.rational = x.magnitude) : ofDecimal x.negative d = x := by
  have nearest := nearestTo_ofDecimal x.negative d
  rw [same] at nearest
  exact nearest.unique (nearestTo_magnitude number) (negative_ofDecimal _ d)

end Double

namespace Decimal

variable {text : List Char} {d : Decimal}

/-- **A written decimal behind its sign is read as a double**, by the reader of doubles. -/
theorem Written.ofText_eq (written : Written text d) (negative : Bool) :
    Double.ofText ((signsOf negative).map signChar ++ text) = .ok (Double.ofDecimal negative d) := by
  have sign : readSign ((signsOf negative).map signChar ++ text) = (negative, text) := by
    cases negative with
    | true => rfl
    | false => exact written.readSign_eq
  have front : ∀ c ∈ (signsOf negative).map signChar, isBlank c = false := by
    cases negative with
    | true => exact List.forall_mem_singleton.mpr (by decide)
    | false => exact List.forall_mem_nil _
  have trimmed : Trimmed ((signsOf negative).map signChar ++ text) :=
    trimmed_of_none (List.forall_mem_append.mpr
      ⟨front, fun c member => (written.parts c member).not_isBlank⟩)
  have read : Double.read? ((signsOf negative).map signChar ++ text) =
      some (Double.ofDecimal negative d) := by
    rw [Double.read?, sign]
    simp only [read?_eq_some_iff.mpr written]
  rw [Double.ofText, trimmed.trimBlanks_eq, read]

/-- **With a point or a mark it denotes the double**, also behind a sign. -/
theorem Written.signed (written : Written text d) (mark : ∃ c ∈ text, IsMark c) (negative : Bool) :
    Signed text (signsOf negative) (.float (Double.ofDecimal negative d)) := by
  rw [← written.plain_eq] at mark
  have denotes : Denotes negative text (.float (Double.ofDecimal negative d)) :=
    .float mark (written.plain_eq.symm ▸ written)
  cases negative with
  | true => exact .near denotes
  | false => exact .bare denotes

end Decimal

end CallConsole
