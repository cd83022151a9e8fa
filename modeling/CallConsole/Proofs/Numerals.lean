/-
**Numerals: the written form of numbers.**

The reader of a number takes its text apart from the front. Here the text of a number is put
together from its parts instead, and the two descriptions are shown to agree:

* `Decimal.read?_eq_some_iff`: exactly the written decimals are read, as what they denote;
* `Numeral.numberLiteral?_eq_some_iff`: a text is read as the number that it denotes, and only if it
  denotes one.
-/

import CallConsole.Expression.Parsing
import CallConsole.Proofs.Scanning
import Mathlib.Data.List.TakeDrop
import Mathlib.Data.List.TakeWhile

namespace CallConsole

/-- All characters are digits. -/
def AllDigits (text : List Char) : Prop := ∀ c ∈ text, c.isDigit = true

/-- The decimal text of a number consists of digits. -/
theorem allDigits_toDigits (n : Nat) : AllDigits (Nat.toDigits 10 n) := fun _ member =>
  Nat.isDigit_of_mem_toDigits (by decide) (by decide) member

/-- The decimal text of a number denotes it. -/
theorem Decimal.ofDigits_toDigits (n : Nat) : Decimal.ofDigits (Nat.toDigits 10 n) = n :=
  Nat.ofDigitChars_ten_toDigits

/-- A text is refused as digits if it is empty or holds something else. -/
theorem refused_iff {text : List Char} :
    (text.isEmpty || !text.all Char.isDigit) = true ↔ ¬ (text ≠ [] ∧ AllDigits text) := by
  rw [AllDigits, ← List.all_eq_true]
  simp [Decidable.or_iff_not_imp_left]

/-- Digits at the front are split off, up to the first other character. -/
theorem span_digits {digits rest : List Char} (all : AllDigits digits)
    (stops : ∀ c ∈ rest.head?, c.isDigit = false) :
    (digits ++ rest).span Char.isDigit = (digits, rest) := by
  obtain ⟨takes, drops⟩ := Scanning.takeWhile_of_head stops
  rw [List.span_eq_takeWhile_dropWhile, List.takeWhile_append_of_pos all,
    List.dropWhile_append_of_pos all, takes, drops, List.append_nil]

/-- What is split off is digits, and no digit follows. -/
theorem exists_of_span {text digits rest : List Char}
    (split : text.span Char.isDigit = (digits, rest)) :
    text = digits ++ rest ∧ AllDigits digits := by
  rw [List.span_eq_takeWhile_dropWhile] at split
  cases split
  exact ⟨List.takeWhile_append_dropWhile.symm, fun c member => List.mem_takeWhile_imp member⟩

namespace Decimal

/-! ### Written decimals -/

/-- An exponent in writing: nothing, or an `e` and a number with a sign or without one. -/
inductive WrittenExponent : List Char → Int → Prop
  | nothing : WrittenExponent [] 0
  | unsigned {mark : Char} {digits : List Char} : mark = 'e' ∨ mark = 'E' → digits ≠ [] →
      AllDigits digits → WrittenExponent (mark :: digits) (ofDigits digits)
  | plus {mark : Char} {digits : List Char} : mark = 'e' ∨ mark = 'E' → digits ≠ [] →
      AllDigits digits → WrittenExponent (mark :: '+' :: digits) (ofDigits digits)
  | minus {mark : Char} {digits : List Char} : mark = 'e' ∨ mark = 'E' → digits ≠ [] →
      AllDigits digits → WrittenExponent (mark :: '-' :: digits) (-ofDigits digits)

/-- A decimal in writing: digits, a point among or beside them or none, and an exponent. -/
inductive Written : List Char → Decimal → Prop
  | whole {digits power : List Char} {exponent : Int} : digits ≠ [] → AllDigits digits →
      WrittenExponent power exponent → Written (digits ++ power) ⟨ofDigits digits, exponent⟩
  | pointed {whole fraction power : List Char} {exponent : Int} : whole ++ fraction ≠ [] →
      AllDigits whole → AllDigits fraction → WrittenExponent power exponent →
      Written (whole ++ '.' :: (fraction ++ power))
        ⟨ofDigits (whole ++ fraction), exponent - fraction.length⟩

/-- A sign is taken off the front, if there is one. -/
theorem readSign_cases (text : List Char) :
    (∃ rest, text = '-' :: rest ∧ readSign text = (true, rest)) ∨
      (∃ rest, text = '+' :: rest ∧ readSign text = (false, rest)) ∨
        readSign text = (false, text) := by
  unfold readSign
  split
  case h_1 rest => exact .inl ⟨rest, rfl, rfl⟩
  case h_2 rest => exact .inr (.inl ⟨rest, rfl, rfl⟩)
  case h_3 => exact .inr (.inr rfl)

/-- A run of digits has no sign. -/
theorem readSign_digits {digits : List Char} (all : AllDigits digits) :
    readSign digits = (false, digits) := by
  rcases readSign_cases digits with ⟨rest, rfl, _⟩ | ⟨rest, rfl, _⟩ | bare
  · exact absurd (all '-' List.mem_cons_self) (by decide)
  · exact absurd (all '+' List.mem_cons_self) (by decide)
  · exact bare

/-- A number behind its sign is digits, and at least one. -/
theorem readSigned?_eq_some_iff {text digits : List Char} {negative : Bool} {n : Int}
    (sign : readSign text = (negative, digits)) :
    readSigned? text = some n ↔
      digits ≠ [] ∧ AllDigits digits ∧ n = if negative then -(ofDigits digits : Int)
        else ofDigits digits := by
  rw [readSigned?, sign]
  show (if (digits.isEmpty || !digits.all Char.isDigit) = true then none else some _) = _ ↔ _
  by_cases shape : digits ≠ [] ∧ AllDigits digits
  · rw [if_neg (mt refused_iff.mp (not_not_intro shape)), Option.some.injEq, and_iff_right shape.1,
      and_iff_right shape.2, eq_comm]
  · rw [if_pos (refused_iff.mpr shape)]
    exact iff_of_false nofun fun all => shape ⟨all.1, all.2.1⟩

/-- **Exactly the written exponents are read.** -/
theorem readExponent?_eq_some_iff {text : List Char} {exponent : Int} :
    readExponent? text = some exponent ↔ WrittenExponent text exponent := by
  constructor
  · intro read
    cases text with
    | nil =>
      cases read
      exact .nothing
    | cons mark rest =>
      rw [readExponent?] at read
      split at read
      case isFalse => cases read
      case isTrue marked =>
        rcases readSign_cases rest with ⟨digits, rfl, sign⟩ | ⟨digits, rfl, sign⟩ | sign
        all_goals obtain ⟨some, all, rfl⟩ := (readSigned?_eq_some_iff sign).mp read
        · exact .minus marked some all
        · exact .plus marked some all
        · exact .unsigned marked some all
  · intro written
    cases written with
    | nothing => rfl
    | unsigned marked some all =>
      rw [readExponent?, if_pos marked, readSigned?_eq_some_iff (readSign_digits all)]
      exact ⟨some, all, rfl⟩
    | plus marked some all | minus marked some all =>
      rw [readExponent?, if_pos marked, readSigned?_eq_some_iff rfl]
      exact ⟨some, all, rfl⟩

/-- An exponent does not begin with a digit or a point. -/
theorem WrittenExponent.head {text : List Char} {exponent : Int}
    (written : WrittenExponent text exponent) :
    ∀ c ∈ text.head?, c.isDigit = false ∧ c ≠ '.' := by
  have mark {c : Char} (marked : c = 'e' ∨ c = 'E') : c.isDigit = false ∧ c ≠ '.' := by
    rcases marked with rfl | rfl <;> decide
  intro c front
  cases written with
  | nothing => cases front
  | unsigned marked | plus marked | minus marked =>
    cases front
    exact mark marked

/-- What is read of a text that falls into digits, a fraction and a rest. -/
theorem read?_of_parts {text whole after fraction power : List Char}
    (first : text.span Char.isDigit = (whole, after))
    (second : readFraction after = (fraction, power)) :
    read? text = if (whole.isEmpty && fraction.isEmpty) = true then none
      else (readExponent? power).map fun exponent =>
        ⟨ofDigits (whole ++ fraction), exponent - fraction.length⟩ := by
  simp only [read?, first, second]

/-- Without a point there is no fraction. -/
theorem readFraction_of_head {text : List Char} (noPoint : ∀ c ∈ text.head?, c ≠ '.') :
    readFraction text = ([], text) := by
  unfold readFraction
  split
  case h_1 => exact absurd rfl (noPoint '.' rfl)
  case h_2 => rfl

/-- **Exactly the written decimals are read**, as what they denote. -/
theorem read?_eq_some_iff {text : List Char} {d : Decimal} :
    read? text = some d ↔ Written text d := by
  constructor
  · intro read
    obtain ⟨whole, after, first⟩ : ∃ whole after, text.span Char.isDigit = (whole, after) :=
      ⟨_, _, rfl⟩
    obtain ⟨rfl, all⟩ := exists_of_span first
    by_cases point : ∃ rest, after = '.' :: rest
    · obtain ⟨rest, rfl⟩ := point
      obtain ⟨fraction, power, second⟩ :
          ∃ fraction power, rest.span Char.isDigit = (fraction, power) := ⟨_, _, rfl⟩
      obtain ⟨rfl, all'⟩ := exists_of_span second
      rw [read?_of_parts first second] at read
      split at read
      case isTrue => cases read
      case isFalse some =>
        obtain ⟨exponent, behind, rfl⟩ := Option.map_eq_some_iff.mp read
        refine .pointed (fun empty => some ?_) all all' (readExponent?_eq_some_iff.mp behind)
        obtain ⟨rfl, rfl⟩ := List.append_eq_nil_iff.mp empty
        rfl
    · have noPoint : ∀ c ∈ after.head?, c ≠ '.' := by
        rintro c front rfl
        exact point ⟨after.tail, List.eq_cons_of_mem_head? front⟩
      rw [read?_of_parts first (readFraction_of_head noPoint)] at read
      split at read
      case isTrue => cases read
      case isFalse some =>
        obtain ⟨exponent, behind, rfl⟩ := Option.map_eq_some_iff.mp read
        rw [List.append_nil, List.length_nil, Int.ofNat_zero, Int.sub_zero]
        refine .whole (fun empty => some ?_) all (readExponent?_eq_some_iff.mp behind)
        rw [empty]
        rfl
  · intro written
    cases written with
    | @whole digits power exponent some all behind =>
      rw [read?_of_parts (span_digits all fun c front => (behind.head c front).1)
        (readFraction_of_head fun c front => (behind.head c front).2), if_neg (by simpa using some),
        readExponent?_eq_some_iff.mpr behind]
      simp
    | @pointed whole fraction power exponent some all all' behind =>
      have point : ∀ c ∈ ('.' :: (fraction ++ power)).head?, c.isDigit = false := by
        intro c front
        cases front
        rfl
      rw [read?_of_parts (span_digits all point)
        (span_digits all' fun c front => (behind.head c front).1), if_neg (by simpa using some),
        readExponent?_eq_some_iff.mpr behind]
      rfl

end Decimal

/-! ### What a number token denotes -/

namespace Numeral

/-- The text without the underscores, which mean nothing. -/
def plain (text : List Char) : List Char := text.filter (· ≠ '_')

/-- The character makes the number a double. -/
def IsMark (c : Char) : Prop := c = '.' ∨ c = 'e' ∨ c = 'E'

/-- **What a text denotes**, with a minus in front of it or without one: digits denote the integer,
if it is a word; a decimal with a point or an exponent denotes the double nearest to it. -/
inductive Denotes (negative : Bool) (text : List Char) : Literal → Prop
  | int {n : Integer} : plain text ≠ [] → AllDigits (plain text) →
      n.toInt = (if negative then -(Decimal.ofDigits (plain text) : Int)
        else Decimal.ofDigits (plain text)) →
      Denotes negative text (.int n)
  | float {d : Decimal} : (∃ c ∈ plain text, IsMark c) → Decimal.Written (plain text) d →
      Denotes negative text (.float (Double.ofDecimal negative d))

/-- No digit is a mark. -/
theorem not_isMark_of_isDigit {c : Char} (digit : c.isDigit = true) : ¬ IsMark c := by
  rintro (rfl | rfl | rfl) <;> cases digit

theorem any_mark_iff {text : List Char} :
    (text.any fun c => c = '.' || c = 'e' || c = 'E') = true ↔ ∃ c ∈ text, IsMark c := by
  simp [IsMark, or_assoc]

/-- A text with a mark is read as a decimal. -/
theorem numberLiteral?_of_mark (negative : Bool) {text : List Char}
    (mark : ∃ c ∈ plain text, IsMark c) :
    numberLiteral? negative text =
      (Decimal.read? (plain text)).map fun d => .float (Double.ofDecimal negative d) :=
  if_pos (any_mark_iff.mpr mark)

/-- A text without a mark is read as an integer, if it is digits and at least one. -/
theorem numberLiteral?_of_no_mark (negative : Bool) {text : List Char}
    (whole : ¬ ∃ c ∈ plain text, IsMark c) :
    numberLiteral? negative text =
      if ((plain text).isEmpty || !(plain text).all Char.isDigit) = true then none
      else (Integer.ofInt? (if negative then -(Decimal.ofDigits (plain text) : Int)
        else Decimal.ofDigits (plain text))).map .int :=
  if_neg (mt any_mark_iff.mp whole)

/-- **A text is read as the number that it denotes**, and only if it denotes one. -/
theorem numberLiteral?_eq_some_iff {negative : Bool} {text : List Char} {value : Literal} :
    numberLiteral? negative text = some value ↔ Denotes negative text value := by
  constructor
  · intro read
    by_cases mark : ∃ c ∈ plain text, IsMark c
    · rw [numberLiteral?_of_mark negative mark] at read
      obtain ⟨d, decimal, rfl⟩ := Option.map_eq_some_iff.mp read
      exact .float mark (Decimal.read?_eq_some_iff.mp decimal)
    · rw [numberLiteral?_of_no_mark negative mark] at read
      split at read
      case isTrue => cases read
      case isFalse shape =>
        obtain ⟨some, digits⟩ := not_not.mp (mt refused_iff.mpr shape)
        obtain ⟨n, word, rfl⟩ := Option.map_eq_some_iff.mp read
        exact .int some digits (Integer.ofInt?_eq_some_iff.mp word)
  · intro denotes
    cases denotes with
    | int some digits equal =>
      rw [numberLiteral?_of_no_mark, if_neg (mt refused_iff.mp (not_not_intro ⟨some, digits⟩)),
        ← equal, Integer.ofInt?_toInt]
      · rfl
      · rintro ⟨c, member, mark⟩
        exact not_isMark_of_isDigit (digits c member) mark
    | float mark written =>
      rw [numberLiteral?_of_mark negative mark, Decimal.read?_eq_some_iff.mpr written]
      rfl

end Numeral

end CallConsole
