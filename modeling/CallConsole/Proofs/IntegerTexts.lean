/-
**The texts of integers.**

A sign or none, and digits, at least one of them: such a text is read by a call of `int` and as an
expression, and both read the integer that it denotes, if this is a word:

* `SignedDigits`: such a text, and the integer that it denotes;
* `isIntegerText_iff`: exactly these texts have the shape that `int` asks for;
* `SignedDigits.yieldsInteger`, `SignedDigits.parsesInteger`: what the two readers make of it;
* `signedDigits_text`: the text of an integer is one of them;
* `Builtin.int_reads_as_parse`: the readers agree, and undo the writing of an integer.
-/

import CallConsole.Proofs.ExactIntegers
import CallConsole.Proofs.SignRuns
import CallConsole.Proofs.TextConversions

namespace CallConsole

open Numeral

/-- **The text is a sign or none, and digits behind it**, and denotes the integer. -/
inductive SignedDigits : List Char → Int → Prop
  | bare {digits : List Char} : digits ≠ [] → AllDigits digits →
      SignedDigits digits (Decimal.ofDigits digits)
  | signed (negative : Bool) {digits : List Char} : digits ≠ [] → AllDigits digits →
      SignedDigits (signChar negative :: digits)
        (if negative then -(Decimal.ofDigits digits : Int) else Decimal.ofDigits digits)

variable {text digits : List Char} {n : Int}

/-! ### The shape -/

theorem readSign_signChar (negative : Bool) (digits : List Char) :
    Decimal.readSign (signChar negative :: digits) = (negative, digits) := by
  cases negative <;> rfl

/-- Such a text is the digits behind its sign. -/
theorem signedDigits_iff {negative : Bool} (sign : Decimal.readSign text = (negative, digits)) :
    SignedDigits text n ↔ digits ≠ [] ∧ AllDigits digits ∧
      n = if negative then -(Decimal.ofDigits digits : Int) else Decimal.ofDigits digits := by
  constructor
  · intro written
    cases written with
    | bare some all =>
      rw [Decimal.readSign_digits all] at sign
      cases sign
      exact ⟨some, all, rfl⟩
    | signed negative' some all =>
      rw [readSign_signChar] at sign
      cases sign
      exact ⟨some, all, rfl⟩
  · rintro ⟨some, all, rfl⟩
    rcases Decimal.readSign_cases text with ⟨rest, rfl, same⟩ | ⟨rest, rfl, same⟩ | same
    all_goals
      rw [same] at sign
      cases sign
    · exact .signed true some all
    · exact .signed false some all
    · exact .bare some all

/-- **Exactly these texts have the shape that is asked for.** -/
theorem isIntegerText_iff : isIntegerText text = true ↔ ∃ n, SignedDigits text n := by
  obtain ⟨negative, digits, sign⟩ : ∃ negative digits, Decimal.readSign text = (negative, digits) :=
    ⟨_, _, rfl⟩
  simp only [signedDigits_iff sign, exists_and_left, exists_eq, and_true]
  have shape : isIntegerText text = !(digits.isEmpty || !digits.all Char.isDigit) := by
    rw [isIntegerText, sign, Bool.not_or, Bool.not_not]
  rw [shape, Bool.not_eq_true', ← Bool.not_eq_true, refused_iff, not_not]

/-- They are read as what they denote. -/
theorem SignedDigits.integerTextValue_eq (written : SignedDigits text n) :
    integerTextValue text = n := by
  obtain ⟨negative, digits, sign⟩ : ∃ negative digits, Decimal.readSign text = (negative, digits) :=
    ⟨_, _, rfl⟩
  rw [integerTextValue, sign, ((signedDigits_iff sign).mp written).2.2]

/-- Such a text has no blank at its ends. -/
theorem SignedDigits.trimmed (written : SignedDigits text n) : Trimmed text := by
  have digit {c : Char} (digit : c.isDigit = true) : isBlank c = false :=
    (Scanning.solid_of_isDigit digit).1.1
  have sign (negative : Bool) : isBlank (signChar negative) = false := by
    cases negative <;> decide
  refine trimmed_of_none ?_
  cases written with
  | bare some all => exact fun c member => digit (all c member)
  | signed negative some all =>
    exact List.forall_mem_cons.mpr ⟨sign negative, fun c member => digit (all c member)⟩

/-! ### The readers -/

/-- **`int` reads such a text**, if it denotes a word, and fails with a wrong value if not. Blanks may
stand around the text. -/
theorem SignedDigits.yieldsInteger (written : SignedDigits text n) {before after : List Char}
    (blank : AllBlank before) (blank' : AllBlank after) (id : Nat) :
    Builtin.YieldsInteger "int" [.str id (before ++ (text ++ after))] n := by
  have trimmed := trimBlanks_between written.trimmed blank blank'
  have shape := isIntegerText_iff.mpr ⟨n, written⟩
  constructor
  · intro word denotes w
    have read : Integer.ofText (before ++ (text ++ after)) = .ok word := by
      rw [Integer.ofText, trimmed, if_pos shape, written.integerTextValue_eq,
        Integer.ofInt?_eq_some_iff.mpr denotes]
    rw [Builtin.outcome_int_text, read]
  · intro exceeds
    have read : Integer.ofText (before ++ (text ++ after)) = .error (.integerTextTooLarge text) := by
      rw [Integer.ofText, trimmed, if_pos shape, written.integerTextValue_eq,
        Integer.ofInt?_eq_none_iff.mpr exceeds]
    refine ⟨.integerTextTooLarge text, rfl, fun w => ?_⟩
    rw [Builtin.outcome_int_text, read]

theorem SignedDigits.yieldsInteger_alone (written : SignedDigits text n) (id : Nat) :
    Builtin.YieldsInteger "int" [.str id text] n := by
  have none : AllBlank [] := List.forall_mem_nil _
  have yields := written.yieldsInteger none none id
  rwa [List.append_nil] at yields

/-- A call that yields an integer yields a word exactly if this denotes it. -/
theorem Builtin.YieldsInteger.iff {name : String} {arguments : List Value}
    (yields : YieldsInteger name arguments n) {w : World} {word : Integer} :
    ((invoke name arguments).outcome w).1 = .ok (.int w.store.next word) ↔ word.toInt = n := by
  constructor
  · intro done
    by_cases fits : Integer.Fits n
    · obtain ⟨word', found⟩ := Integer.exists_ofInt?_iff.mpr fits
      have denotes := Integer.ofInt?_eq_some_iff.mp found
      rw [yields.fits word' denotes] at done
      cases done
      exact denotes
    · obtain ⟨cause, _, failed⟩ := yields.exceeds fits
      rw [failed] at done
      cases done
  · intro denotes
    rw [yields.fits word denotes]

/-- **Every other text is malformed for `int`.** -/
theorem outcome_int_malformed (none : ¬ ∃ n, SignedDigits (trimBlanks text) n) (id : Nat)
    (w : World) : (Builtin.invoke "int" [.str id text]).outcome w =
      (.error (.ofCause (.integerTextMalformed text)), w) := by
  have read : Integer.ofText text = .error (.integerTextMalformed text) :=
    if_neg (mt isIntegerText_iff.mp none)
  rw [Builtin.outcome_int_text, read]

/-- **The source is read as the integer**, if this is a word, and otherwise refused. -/
structure ParsesInteger (source : List Char) (n : Int) : Prop where
  fits : ∀ word : Integer, word.toInt = n → ∃ span, parse source = .ok (.literal span (.int word))
  exceeds : ¬ Integer.Fits n → ∃ failure, parse source = .error failure ∧
    failure.cause.kind = .parse

/-- A source of signs and a numeral that denote one integer is read as it. -/
theorem SignedText.parsesInteger {signs : List Bool} {source : List Char} (spelled : Spelled text)
    (written : SignedText text signs source)
    (denotes : ∀ value, Signed text signs value ↔ ∃ m : Integer, value = .int m ∧ m.toInt = n) :
    ParsesInteger source n where
  fits word equal := written.parse_of_signed spelled ((denotes _).mpr ⟨word, rfl, equal⟩)
  exceeds outside := by
    refine written.parse_of_none spelled fun value signed => ?_
    obtain ⟨m, _, rfl⟩ := (denotes value).mp signed
    exact outside (Integer.fits_toInt m)

theorem ParsesInteger.iff {source : List Char} (parses : ParsesInteger source n) (word : Integer) :
    (∃ span, parse source = .ok (.literal span (.int word))) ↔ word.toInt = n := by
  refine ⟨?_, parses.fits word⟩
  rintro ⟨span, read⟩
  by_cases fits : Integer.Fits n
  · obtain ⟨word', found⟩ := Integer.exists_ofInt?_iff.mpr fits
    have denotes := Integer.ofInt?_eq_some_iff.mp found
    obtain ⟨span', read'⟩ := parses.fits word' denotes
    rw [read] at read'
    cases read'
    exact denotes
  · obtain ⟨failure, refused, _⟩ := parses.exceeds fits
    rw [read] at refused
    cases refused

/-- **As an expression, such a text is read likewise.** -/
theorem SignedDigits.parsesInteger (written : SignedDigits text n) : ParsesInteger text n := by
  cases written with
  | bare some all =>
    obtain ⟨numeral, value⟩ := integerNumeral_of_digits some all
    refine (signedText_adjacent [] text).parsesInteger numeral.spelled fun literal => ?_
    rw [signed_bare_iff, numeral.isInteger.denotes_iff, value]
    rfl
  | @signed negative digits some all =>
    obtain ⟨numeral, value⟩ := integerNumeral_of_digits some all
    refine (signedText_adjacent [negative] digits).parsesInteger numeral.spelled fun literal => ?_
    rw [signed_near_iff, numeral.isInteger.denotes_iff, value]

/-! ### The text of an integer -/

/-- **The text of an integer is such a text**, and denotes it. -/
theorem signedDigits_text (n : Integer) : SignedDigits n.text n.toInt := by
  have all := allDigits_toDigits n.toInt.natAbs
  have value := Decimal.ofDigits_toDigits n.toInt.natAbs
  unfold Integer.text
  by_cases negative : n.toInt < 0
  · have written := SignedDigits.signed true Nat.toDigits_ne_nil all
    have same : (if true then -(n.toInt.natAbs : Int) else n.toInt.natAbs) = n.toInt := by
      rw [if_pos rfl]
      omega
    rw [value, same] at written
    rwa [if_pos negative]
  · have written := SignedDigits.bare Nat.toDigits_ne_nil all
    have same : (n.toInt.natAbs : Int) = n.toInt := by omega
    rw [value, same] at written
    rwa [if_neg negative]

namespace Builtin

/-- **The two readers of integers agree, and undo their writing.** A text of a sign or none and digits
is read by `int` as a word exactly if it is read as it as an expression, and exactly if it denotes
it; if what it denotes is no word, `int` fails with a wrong value and the text is refused as an
expression. Any text at all is malformed for `int` exactly if it is not of that shape without the
blanks around it. The text of an integer is read as the integer, with any blanks around it. -/
theorem int_reads_as_parse (w : World) (id : Nat) :
    (∀ text n, SignedDigits text n →
      (∀ word : Integer,
        (((invoke "int" [.str id text]).outcome w).1 = .ok (.int w.store.next word) ↔
          ∃ span, parse text = .ok (.literal span (.int word))) ∧
        ((∃ span, parse text = .ok (.literal span (.int word))) ↔ word.toInt = n)) ∧
      (¬ Integer.Fits n →
        (∃ cause, ((invoke "int" [.str id text]).outcome w).1 = .error (.ofCause cause) ∧
          cause.kind = .value) ∧
        ∃ failure, parse text = .error failure ∧ failure.cause.kind = .parse)) ∧
    (∀ text, (∃ cause, ((invoke "int" [.str id text]).outcome w).1 = .error (.ofCause cause) ∧
        cause.kind = .format) ↔
      ¬ ∃ before inner after n, text = before ++ (inner ++ after) ∧ AllBlank before ∧
        AllBlank after ∧ SignedDigits inner n) ∧
    ∀ (n : Integer) (before after : List Char), AllBlank before → AllBlank after →
      ((invoke "str" [.int id n]).outcome w).1 = .ok (.str w.store.next n.text) ∧
      ((invoke "int" [.str id (before ++ (n.text ++ after))]).outcome w).1 =
        .ok (.int w.store.next n) := by
  refine ⟨fun text n written => ⟨fun word => ?_, fun outside => ?_⟩, fun text => ⟨?_, ?_⟩, ?_⟩
  · have parses := written.parsesInteger.iff word
    exact ⟨(written.yieldsInteger_alone id).iff.trans parses.symm, parses⟩
  · obtain ⟨cause, kind, failed⟩ := (written.yieldsInteger_alone id).exceeds outside
    exact ⟨⟨cause, congrArg Prod.fst (failed w), kind⟩, written.parsesInteger.exceeds outside⟩
  · rintro ⟨cause, failed, kind⟩ ⟨before, inner, after, n, rfl, blank, blank', written⟩
    have yields := written.yieldsInteger blank blank' id
    by_cases fits : Integer.Fits n
    · obtain ⟨word, found⟩ := Integer.exists_ofInt?_iff.mpr fits
      rw [yields.fits word (Integer.ofInt?_eq_some_iff.mp found)] at failed
      cases failed
    · obtain ⟨cause', kind', failed'⟩ := yields.exceeds fits
      rw [failed'] at failed
      cases failed
      rw [kind] at kind'
      cases kind'
  · intro none
    obtain ⟨before, after, whole, blank, blank'⟩ := exists_trimmed text
    have shapeless : ¬ ∃ n, SignedDigits (trimBlanks text) n := fun ⟨n, written⟩ =>
      none ⟨before, _, after, n, whole, blank, blank', written⟩
    exact ⟨_, congrArg Prod.fst (outcome_int_malformed shapeless id w), rfl⟩
  · intro n before after blank blank'
    have yields := (signedDigits_text n).yieldsInteger blank blank' id
    have text : w.store.str (.int id n) = n.text := by
      rw [Store.str, Store.repr, Store.reprInside]
      exact nofun
    rw [outcome_str, text, yields.fits n rfl w]
    exact ⟨rfl, rfl⟩

/-- With a minus and a zero in front of them, the digits of `2 ^ 63` are read as the least word by both
readers; with a plus, by neither. -/
theorem int_reads_as_parse_limits :
    ((invoke "int" [.str 0 ('-' :: '0' :: Parsing.firstBeyond)]).outcome World.empty).1 =
      .ok (.int 0 Int64.minValue) ∧
    (∃ span, parse ('-' :: '0' :: Parsing.firstBeyond) =
      .ok (.literal span (.int Int64.minValue))) ∧
    (∃ cause, ((invoke "int" [.str 0 ('+' :: Parsing.firstBeyond)]).outcome World.empty).1 =
      .error (.ofCause cause) ∧ cause.kind = .value) ∧
    ∃ failure, parse ('+' :: Parsing.firstBeyond) = .error failure ∧
      failure.cause.kind = .parse := by
  have digits := Parsing.allDigits_firstBeyond
  have least : SignedDigits ('-' :: '0' :: Parsing.firstBeyond) _ :=
    .signed true (List.cons_ne_nil _ _) (List.forall_mem_cons.mpr ⟨rfl, digits⟩)
  have beyond : SignedDigits ('+' :: Parsing.firstBeyond) _ :=
    .signed false (List.cons_ne_nil _ _) digits
  obtain ⟨reads, _, _⟩ := int_reads_as_parse World.empty 0
  obtain ⟨both, denotes⟩ := (reads _ _ least).1 Int64.minValue
  have parsed := denotes.mpr (by decide +kernel)
  exact ⟨both.mpr parsed, parsed, (reads _ _ beyond).2 (by decide +kernel)⟩

end Builtin

end CallConsole
