/-
**Signs in front of a numeral.**

A numeral may have any number of signs in front of it, with blanks and comments between them. The
sign next to the numeral is read together with it; each sign further to the front turns the number
that stands behind it:

* `Signed`, `SignTokens.takes_iff`: the tokens of signs and a numeral are read as what they denote;
* `Numeral.Spelled`: a text that is one number token wherever something else ends it;
* `SignedText.parse_iff`: a source of signs and a numeral is read as what they denote, or refused;
* `signed_integer_iff`: which integers signs and digits denote;
* `Parsing.parse_sign_run`: such a source is read as the signed number, and beyond the greatest word
  only with a single minus, next to the digits.
-/

import CallConsole.Proofs.Layout
import CallConsole.Proofs.Recognition

namespace CallConsole

open Numeral Parsing

/-! ### What signs and a numeral denote -/

/-- **What signs and a numeral denote together.** The sign next to the numeral is read with it, and
each sign further to the front turns the number behind it. -/
inductive Signed (text : List Char) : List Bool → Literal → Prop
  | bare {value : Literal} : Denotes false text value → Signed text [] value
  | near {negative : Bool} {value : Literal} : Denotes negative text value →
      Signed text [negative] value
  | far {negative inner : Bool} {signs : List Bool} {value turned : Literal} :
      Signed text (inner :: signs) value → Turns negative value turned →
      Signed text (negative :: inner :: signs) turned

/-- **The tokens are signs and a numeral**, and stand in the span. -/
inductive SignTokens (text : List Char) : List Bool → Span → List Token → Prop
  | numeral (span : Span) : SignTokens text [] span [⟨.number text, span⟩]
  | sign {signs : List Bool} {span : Span} {tokens : List Token} (negative : Bool) (sign : Span) :
      SignTokens text signs span tokens →
      SignTokens text (negative :: signs) ⟨sign.start, span.stop⟩
        (⟨signSymbol negative, sign⟩ :: tokens)

section Tokens

variable {signs : List Bool} {text : List Char} {tokens rest : List Token} {span sign : Span}
  {value : Literal} {e : Expression} {stop : Nat} {negative : Bool}

/-- Signs and a numeral denote a number. -/
theorem Signed.number? (signed : Signed text signs value) : value.number? = some value := by
  induction signed with
  | bare denotes | near denotes => exact denotes.number?
  | far _ turns ih => exact turns.number? ih

/-- A numeral is read as what it denotes together with the sign, and only if it denotes something. -/
theorem readNumber_eq_ok_iff {start : Nat} :
    readNumber start negative text span = .ok e ↔
      ∃ value, Denotes negative text value ∧ e = .literal ⟨start, span.stop⟩ value := by
  unfold readNumber
  constructor
  · intro read
    split at read <;> cases read
    exact ⟨_, numberLiteral?_eq_some_iff.mp ‹_›, rfl⟩
  · rintro ⟨value, denotes, rfl⟩
    rw [numberLiteral?_eq_some_iff.mpr denotes]

/-- Behind a sign, the rest is read with the sign. -/
theorem takes_sign_iff : Takes stop (⟨signSymbol negative, sign⟩ :: tokens) rest e ↔
    ∃ after, signed stop sign.start negative tokens = .ok (e, after) ∧ after.1 = rest := by
  refine ⟨?_, takes_sign⟩
  rintro ⟨⟨_, shorter⟩, read, rfl⟩
  cases negative with
  | true =>
    rw [signSymbol, if_pos rfl, expression] at read
    split at read <;> cases read
    exact ⟨_, ‹_›, rfl⟩
  | false =>
    rw [signSymbol, if_neg Bool.false_ne_true, expression] at read
    split at read <;> cases read
    exact ⟨_, ‹_›, rfl⟩

theorem takes_numeral_iff : Takes stop [⟨.number text, span⟩] [] e ↔
    ∃ value, Denotes false text value ∧ e = .literal span value := by
  constructor
  · rintro ⟨after, read, _⟩
    rw [expression] at read
    split at read <;> cases read
    exact readNumber_eq_ok_iff.mp ‹_›
  · rintro ⟨value, denotes, rfl⟩
    exact expression_number (numberLiteral?_eq_some_iff.mpr denotes)

/-- The sign next to a numeral is read together with it. -/
theorem takes_near_iff : Takes stop [⟨signSymbol negative, sign⟩, ⟨.number text, span⟩] [] e ↔
    ∃ value, Denotes negative text value ∧ e = .literal ⟨sign.start, span.stop⟩ value := by
  constructor
  · rw [takes_sign_iff, signed]
    rintro ⟨after, read, _⟩
    split at read <;> cases read
    exact readNumber_eq_ok_iff.mp ‹_›
  · rintro ⟨value, denotes, rfl⟩
    exact takes_near sign span denotes []

/-- A sign in front of another one turns the number that is read behind it. -/
theorem takes_far_iff {inner : Bool} {sign' : Span} :
    Takes stop (⟨signSymbol negative, sign⟩ :: ⟨signSymbol inner, sign'⟩ :: tokens) rest e ↔
      ∃ span value turned,
        Takes stop (⟨signSymbol inner, sign'⟩ :: tokens) rest (.literal span value) ∧
        value.number? = some value ∧ Turns negative value turned ∧
        e = .literal ⟨sign.start, span.stop⟩ turned := by
  constructor
  · rw [takes_sign_iff, signed]
    · rintro ⟨after, read, rfl⟩
      split at read
      · cases read
      split at read <;> cases read
      obtain ⟨span, value, turned, rfl, number, turns, rfl⟩ := applySign_eq_ok_iff.mp ‹_›
      exact ⟨span, value, turned, ⟨_, ‹_›, rfl⟩, number, turns, rfl⟩
    · intro text span rest same
      cases inner <;> cases same
  · rintro ⟨span, value, turned, read, number, turns, rfl⟩
    exact takes_far sign sign' number turns read

/-- **The tokens of signs and a numeral are read as what they denote**, and only as that. -/
theorem SignTokens.takes_iff (are : SignTokens text signs span tokens) (stop : Nat) :
    Takes stop tokens [] e ↔ ∃ value, Signed text signs value ∧ e = .literal span value := by
  induction are generalizing e with
  | numeral span =>
    rw [takes_numeral_iff]
    constructor
    · rintro ⟨value, denotes, rfl⟩
      exact ⟨value, .bare denotes, rfl⟩
    · rintro ⟨value, signed, rfl⟩
      cases signed with
      | bare denotes => exact ⟨value, denotes, rfl⟩
  | sign negative sign are ih =>
    cases are with
    | numeral span =>
      rw [takes_near_iff]
      constructor
      · rintro ⟨value, denotes, rfl⟩
        exact ⟨value, .near denotes, rfl⟩
      · rintro ⟨value, signed, rfl⟩
        cases signed with
        | near denotes => exact ⟨value, denotes, rfl⟩
    | sign inner sign' are =>
      rw [takes_far_iff]
      constructor
      · rintro ⟨span, value, turned, read, _, turns, rfl⟩
        obtain ⟨_, signed, same⟩ := ih.mp read
        cases same
        exact ⟨turned, .far signed turns, rfl⟩
      · rintro ⟨turned, signed, rfl⟩
        cases signed with
        | far signed turns =>
          exact ⟨_, _, turned, ih.mpr ⟨_, signed, rfl⟩, signed.number?, turns, rfl⟩

end Tokens

/-! ### Sources of signs and a numeral -/

/-- The character of a sign. -/
def signChar (negative : Bool) : Char := if negative then '-' else '+'

namespace Numeral

open Scanning

/-- Nothing at the front goes on with a number. -/
def Ends (after : List Char) : Prop := ∀ c ∈ after.head?, ¬ NumberPart false false c

/-- **The text is one number token**, wherever it ends. -/
def Spelled (text : List Char) : Prop := ∀ after, Ends after → Spells after text (.number text)

variable {c : Char} {cs after : List Char}

/-- What ends a number ends it at every part of it. -/
theorem Ends.stops (ends : Ends after) (point mark : Bool) :
    ∀ c ∈ after.head?, ¬ NumberPart point mark c := by
  intro c front part
  refine ends c front ?_
  rcases part with digit | ⟨same, _, _⟩ | ⟨letter, _⟩
  · exact .inl digit
  · exact .inr (.inl ⟨same, rfl, rfl⟩)
  · exact .inr (.inr ⟨letter, rfl⟩)

/-- A text that begins as a number does, and goes on to its end, is one number token. -/
theorem spelled_of_tail (solid : Solid c) (noName : isNameStart c = false)
    (starts : ∀ after, c.isDigit = true ∨ startsFraction c (cs ++ after) = true)
    (tail : ∀ after, Ends after → numberTail (c = '.') false (cs ++ after) = (cs, after)) :
    Spelled (c :: cs) := by
  intro after ends
  refine .intro solid (fun _ => rfl) fun offset after' like => ?_
  have ends' : Ends after' := like.head ends not_numberPart
  rw [scanToken, if_neg (Bool.eq_false_iff.mp noName), if_pos (starts after'), tail after' ends']

/-- Digits and underscores go on with a number. -/
theorem numberTail_run (point mark : Bool) {run : List Char}
    (all : ∀ c ∈ run, c.isDigit = true ∨ c = '_') (rest : List Char) :
    numberTail point mark (run ++ rest) =
      (run ++ (numberTail point mark rest).1, (numberTail point mark rest).2) := by
  induction run with
  | nil => rfl
  | cons c run ih =>
    obtain ⟨first, others⟩ := List.forall_mem_cons.mp all
    rw [List.cons_append, numberTail_digit first, ih others, List.cons_append]

/-- **A digit, and digits and underscores behind it, are one number token.** -/
theorem spelled_run (digit : c.isDigit = true) (others : ∀ d ∈ cs, d.isDigit = true ∨ d = '_') :
    Spelled (c :: cs) := by
  obtain ⟨solid, noName, noPoint⟩ := solid_of_isDigit digit
  refine spelled_of_tail solid noName (fun _ => .inl digit) fun after ends => ?_
  rw [numberTail_run _ _ others, numberTail_stops (ends.stops _ _), List.append_nil]

/-- Neither a blank nor the beginning of a comment goes on with a number. -/
theorem ends_of_blanks {gap : List Char} (blanks : Blanks [] gap) : Ends gap := by
  intro c front part
  have solid : Solid c := by
    rcases part with (digit | rfl) | ⟨rfl, _⟩ | ⟨rfl | rfl, _⟩
    · exact (solid_of_isDigit digit).1
    all_goals exact ⟨by decide, by decide⟩
  cases blanks with
  | nothing => cases front
  | blank blank _ =>
    cases front
    rw [solid.1] at blank
    cases blank
  | comment line ends _ =>
    cases front
    exact solid.2 rfl

end Numeral

/-- Blanks and comments with the ends of their lines, so that anything may come after them. -/
def Gap (gap : List Char) : Prop := ∀ after, Scanning.Blanks after gap

/-- Blanks are a gap. -/
theorem gap_of_blanks {gap : List Char} (all : ∀ c ∈ gap, isBlank c = true) : Gap gap := by
  intro after
  induction gap with
  | nil => exact .nothing
  | cons c gap ih =>
    obtain ⟨first, others⟩ := List.forall_mem_cons.mp all
    exact .blank first (ih others)

theorem gap_nil : Gap [] := fun _ => .nothing

/-- **The source is signs and a numeral**, with gaps in front of each of them, and nothing but blanks
and comments behind the numeral. -/
inductive SignedText (text : List Char) : List Bool → List Char → Prop
  | numeral {gap behind : List Char} : Gap gap → Scanning.Blanks [] behind →
      SignedText text [] (gap ++ (text ++ behind))
  | sign {gap rest : List Char} {signs : List Bool} (negative : Bool) : Gap gap →
      SignedText text signs rest → SignedText text (negative :: signs)
        (gap ++ ([signChar negative] ++ rest))

/-- The signs that are written for a negative number, and for one that is not. -/
def signsOf (negative : Bool) : List Bool := if negative then [true] else []

/-- Signs and a numeral with nothing between them. -/
theorem signedText_adjacent (signs : List Bool) (text : List Char) :
    SignedText text signs (signs.map signChar ++ text) := by
  induction signs with
  | nil =>
    have numeral : SignedText text [] ([] ++ (text ++ [])) := .numeral gap_nil .nothing
    rwa [List.append_nil] at numeral
  | cons negative signs ih => exact .sign negative gap_nil ih

namespace Scanning

/-- A sign is a token in front of anything. -/
theorem spells_sign (negative : Bool) (after : List Char) :
    Spells after [signChar negative] (signSymbol negative) := by
  cases negative with
  | true => exact .intro ⟨by decide, by decide⟩ (fun _ => rfl) fun _ _ _ => rfl
  | false => exact .intro ⟨by decide, by decide⟩ (fun _ => rfl) fun _ _ _ => rfl

end Scanning

namespace SignedText

open Scanning

variable {text source : List Char} {signs : List Bool} {value : Literal}

/-- The source is laid out in the tokens of signs and a numeral. -/
theorem layout (spelled : Spelled text) (written : SignedText text signs source) (offset : Nat) :
    ∃ span tokens, Layout [] offset source tokens ∧ SignTokens text signs span tokens := by
  induction written generalizing offset with
  | @numeral gap behind gaps blanks =>
    have spells := spelled (behind ++ []) (by rw [List.append_nil]; exact ends_of_blanks blanks)
    exact ⟨_, _, .token offset (gaps _) spells (.blanks _ blanks), .numeral _⟩
  | @sign gap rest signs negative gaps written ih =>
    obtain ⟨span, tokens, others, are⟩ :=
      ih (offset + byteLength gap + byteLength [signChar negative])
    exact ⟨_, _, .token offset (gaps _) (spells_sign negative _) others, .sign negative _ are⟩

/-- **The source is read as what its signs and its numeral denote**, and refused if they denote
nothing. -/
theorem parse_iff (spelled : Spelled text) (written : SignedText text signs source) :
    ∃ span, (∀ e, parse source = .ok e ↔
        ∃ value, Signed text signs value ∧ e = .literal span value) ∧
      ∀ failure, parse source = .error failure → failure.cause.kind = .parse := by
  obtain ⟨span, tokens, layout, are⟩ := written.layout spelled 0
  have scanned : tokenize source = _ := layout.tokensFrom_eq
  exact ⟨span, fun e => (parse_eq_ok_iff scanned).trans (are.takes_iff _), fun failure refused =>
    kind_of_parse_error scanned refused⟩

theorem parse_of_signed (spelled : Spelled text) (written : SignedText text signs source)
    (signed : Signed text signs value) : ∃ span, parse source = .ok (.literal span value) := by
  obtain ⟨span, reads, _⟩ := written.parse_iff spelled
  exact ⟨span, (reads _).mpr ⟨value, signed, rfl⟩⟩

theorem parse_of_none (spelled : Spelled text) (written : SignedText text signs source)
    (none : ∀ value, ¬ Signed text signs value) :
    ∃ failure, parse source = .error failure ∧ failure.cause.kind = .parse := by
  obtain ⟨span, reads, refused⟩ := written.parse_iff spelled
  cases parsed : parse source with
  | ok e =>
    obtain ⟨value, signed, _⟩ := (reads e).mp parsed
    exact absurd signed (none value)
  | error failure => exact ⟨failure, rfl, refused failure parsed⟩

end SignedText

/-! ### Integers behind signs -/

/-- Of the signs, only the one next to the numeral is a minus. -/
def LastIsOnlyMinus (signs : List Bool) : Prop := ∃ others, signs = others ++ [true] ∧ true ∉ others

theorem lastIsOnlyMinus_singleton {negative : Bool} :
    LastIsOnlyMinus [negative] ↔ negative = true := by
  constructor
  · rintro ⟨others, whole, _⟩
    have last := congrArg List.getLast? whole
    rw [List.getLast?_concat] at last
    exact Option.some.inj last
  · rintro rfl
    exact ⟨[], rfl, List.not_mem_nil⟩

theorem lastIsOnlyMinus_cons {negative inner : Bool} {signs : List Bool} :
    LastIsOnlyMinus (negative :: inner :: signs) ↔
      negative = false ∧ LastIsOnlyMinus (inner :: signs) := by
  constructor
  · rintro ⟨others, whole, plus⟩
    cases others with
    | nil => cases whole
    | cons first others =>
      obtain ⟨rfl, behind⟩ := List.cons.inj whole
      rw [List.mem_cons, not_or] at plus
      exact ⟨(Bool.eq_false_or_eq_true negative).resolve_left (Ne.symm plus.1), others, behind, plus.2⟩
  · rintro ⟨rfl, others, behind, plus⟩
    refine ⟨false :: others, congrArg _ behind, ?_⟩
    rw [List.mem_cons, not_or]
    exact ⟨Bool.noConfusion, plus⟩

/-- **The number that signs make of another one**: its opposite, if the minus signs are odd in
number. -/
def signValue (signs : List Bool) (m : Int) : Int := (-1) ^ signs.count true * m

theorem signValue_nil (m : Int) : signValue [] m = m := by
  rw [signValue, List.count_nil, Int.pow_zero, Int.one_mul]

theorem signValue_plus (signs : List Bool) (m : Int) :
    signValue (false :: signs) m = signValue signs m := by
  rw [signValue, signValue, List.count_cons_of_ne Bool.false_ne_true]

theorem signValue_minus (signs : List Bool) (m : Int) :
    signValue (true :: signs) m = -signValue signs m := by
  rw [signValue, signValue, List.count_cons_self, Int.pow_succ, Int.mul_neg_one, Int.neg_mul]

/-- Signs change the sign at most. -/
theorem signValue_eq_or (signs : List Bool) (m : Int) :
    signValue signs m = m ∨ signValue signs m = -m := by
  induction signs with
  | nil => exact .inl (signValue_nil m)
  | cons negative signs ih =>
    cases negative with
    | false => rwa [signValue_plus]
    | true =>
      rw [signValue_minus]
      omega

/-- A single minus makes the opposite. -/
theorem LastIsOnlyMinus.signValue_eq {signs : List Bool} (last : LastIsOnlyMinus signs) (m : Int) :
    signValue signs m = -m := by
  obtain ⟨others, rfl, plus⟩ := last
  rw [signValue, List.count_append, List.count_eq_zero_of_not_mem plus, List.count_singleton_self,
    Nat.zero_add, Int.pow_succ, Int.pow_zero, Int.one_mul, Int.neg_one_mul]

namespace Numeral

variable {text : List Char} {signs : List Bool} {value : Literal}

/-- Without the underscores, the text is digits, and at least one. -/
def IsInteger (text : List Char) : Prop := plain text ≠ [] ∧ AllDigits (plain text)

/-- The number that the digits of a text denote. -/
def natural (text : List Char) : Nat := Decimal.ofDigits (plain text)

/-- Digits denote an integer and nothing else. -/
theorem IsInteger.denotes_iff (digits : IsInteger text) {negative : Bool} :
    Denotes negative text value ↔ ∃ n : Integer, value = .int n ∧
      n.toInt = if negative then -(natural text : Int) else natural text := by
  constructor
  · rintro (⟨_, _, equal⟩ | ⟨⟨c, member, mark⟩, _⟩)
    · exact ⟨_, rfl, equal⟩
    · exact absurd mark (not_isMark_of_isDigit (digits.2 c member))
  · rintro ⟨n, rfl, equal⟩
    exact .int digits.1 digits.2 equal

theorem signed_bare_iff : Signed text [] value ↔ Denotes false text value := by
  constructor
  · rintro ⟨⟩
    assumption
  · exact .bare

theorem signed_near_iff {negative : Bool} :
    Signed text [negative] value ↔ Denotes negative text value := by
  constructor
  · rintro ⟨⟩
    assumption
  · exact .near

theorem signed_far_iff {negative inner : Bool} {turned : Literal} :
    Signed text (negative :: inner :: signs) turned ↔
      ∃ value, Signed text (inner :: signs) value ∧ Turns negative value turned := by
  constructor
  · rintro ⟨⟩
    exact ⟨_, ‹_›, ‹_›⟩
  · rintro ⟨value, signed, turns⟩
    exact .far signed turns

/-- A plus changes nothing. -/
theorem turns_plus_iff {turned : Literal} : Turns false value turned ↔ turned = value := by
  constructor
  · rintro ⟨⟩
    rfl
  · rintro rfl
    exact .plus _

/-- **What signs and digits denote**: the signed number, if it and its opposite are words; the least
word has no opposite, and is denoted with a single minus, next to the digits. -/
theorem signed_integer_iff (digits : IsInteger text) (some : signs ≠ []) :
    Signed text signs value ↔ ∃ n : Integer, value = .int n ∧
      n.toInt = signValue signs (natural text) ∧
      (natural text < 2 ^ 63 ∨ natural text = 2 ^ 63 ∧ LastIsOnlyMinus signs) := by
  induction signs generalizing value with
  | nil => exact absurd rfl some
  | cons negative signs ih =>
    cases signs with
    | nil =>
      rw [signed_near_iff, digits.denotes_iff, lastIsOnlyMinus_singleton]
      refine exists_congr fun n => and_congr_right fun _ => ?_
      have word := Integer.fits_toInt n
      unfold Integer.Fits at word
      cases negative with
      | false =>
        rw [signValue_plus, signValue_nil]
        simp only [Bool.false_eq_true, if_false, and_false, or_false]
        omega
      | true =>
        rw [signValue_minus, signValue_nil]
        simp only [if_true, and_true]
        omega
    | cons inner signs =>
      have behind (value : Literal) := @ih value (List.cons_ne_nil inner signs)
      rw [signed_far_iff, lastIsOnlyMinus_cons]
      have sign := signValue_eq_or (inner :: signs) (natural text)
      cases negative with
      | false =>
        rw [signValue_plus]
        simp only [turns_plus_iff, exists_eq_right', behind, true_and]
      | true =>
        rw [signValue_minus]
        constructor
        · rintro ⟨value', signed, turns⟩
          obtain ⟨n', rfl, equal, bound⟩ := (behind value').mp signed
          cases turns with
          | @int _ n opposite =>
            have most : natural text ≤ 2 ^ 63 := bound.elim Nat.le_of_lt fun least => least.1.le
            have word := Integer.fits_toInt n
            have word' := Integer.fits_toInt n'
            unfold Integer.Fits at word word'
            exact ⟨n, rfl, by omega, .inl (by omega)⟩
        · rintro ⟨n, rfl, equal, bound⟩
          have less : natural text < 2 ^ 63 := bound.resolve_right fun last => nomatch last.2.1
          obtain ⟨n', found⟩ := Integer.exists_ofInt?_iff.mpr
            (show Integer.Fits (signValue (inner :: signs) (natural text)) by
              unfold Integer.Fits
              omega)
          have equal' := Integer.ofInt?_eq_some_iff.mp found
          exact ⟨.int n', (behind _).mpr ⟨n', rfl, equal', .inl less⟩, .int (by rw [equal, equal'])⟩

/-- A decimal integer in writing: a digit, and digits and underscores behind it. -/
inductive IntegerNumeral : List Char → Prop
  | run {first : Char} {others : List Char} : first.isDigit = true →
      (∀ c ∈ others, c.isDigit = true ∨ c = '_') → IntegerNumeral (first :: others)

theorem IntegerNumeral.spelled (numeral : IntegerNumeral text) : Spelled text := by
  cases numeral with
  | run first others => exact spelled_run first others

theorem IntegerNumeral.isInteger (numeral : IntegerNumeral text) : IsInteger text := by
  cases numeral with
  | @run first others digit more =>
    have kept : decide (first ≠ '_') = true := decide_eq_true fun same => by
      rw [same] at digit
      cases digit
    refine ⟨?_, fun c member => ?_⟩
    · exact List.ne_nil_of_mem (List.mem_filter.mpr ⟨List.mem_cons_self, kept⟩)
    · obtain ⟨inside, noUnderscore⟩ := List.mem_filter.mp member
      rcases List.mem_cons.mp inside with rfl | behind
      · exact digit
      · exact (more c behind).resolve_right (of_decide_eq_true noUnderscore)

/-- Digits have no underscores. -/
theorem plain_of_digits (all : AllDigits text) : plain text = text :=
  List.filter_eq_self.mpr fun c member => decide_eq_true fun same => by
    have digit := all c member
    rw [same] at digit
    cases digit

/-- **Digits alone are a decimal integer**, and denote what they are as digits. -/
theorem integerNumeral_of_digits (some : text ≠ []) (all : AllDigits text) :
    IntegerNumeral text ∧ natural text = Decimal.ofDigits text := by
  obtain ⟨first, others, rfl⟩ := List.exists_cons_of_ne_nil some
  obtain ⟨digit, behind⟩ := List.forall_mem_cons.mp all
  exact ⟨.run digit fun c member => .inl (behind c member), by rw [natural, plain_of_digits all]⟩

end Numeral

namespace Parsing

/-- **Signs in front of an integer.** With any signs, and at least one, with any blanks between them,
a decimal integer is read as the signed number if its digits denote less than `2 ^ 63`, or if they
denote `2 ^ 63` and the only minus stands next to them; otherwise it is refused. So of the numbers
that fit a word, just the least one can be refused: where it has a minus that does not stand next to
the digits. -/
theorem parse_sign_run {signs : List Bool} {text source : List Char} (some : signs ≠ [])
    (numeral : IntegerNumeral text) (written : SignedText text signs source) :
    let m := natural text
    let read := m < 2 ^ 63 ∨ m = 2 ^ 63 ∧ LastIsOnlyMinus signs
    (read → ∃ span n, parse source = .ok (.literal span (.int n)) ∧ n.toInt = signValue signs m) ∧
    (¬ read → ∃ failure, parse source = .error failure ∧ failure.cause.kind = .parse) ∧
    (Integer.Fits (signValue signs m) ∧ ¬ read ↔
      signValue signs m = -2 ^ 63 ∧ ¬ LastIsOnlyMinus signs) := by
  intro m read
  have denotes (value : Literal) := @signed_integer_iff text signs value numeral.isInteger some
  have sign := signValue_eq_or signs m
  unfold Integer.Fits
  refine ⟨fun readable => ?_, fun unreadable => ?_, ?_⟩
  · have fits : Integer.Fits (signValue signs m) := by
      unfold Integer.Fits
      rcases readable with less | ⟨equal, last⟩
      · omega
      · rw [last.signValue_eq, equal]
        decide
    obtain ⟨n, found⟩ := Integer.exists_ofInt?_iff.mpr fits
    have equal := Integer.ofInt?_eq_some_iff.mp found
    obtain ⟨span, parsed⟩ := written.parse_of_signed numeral.spelled
      ((denotes _).mpr ⟨n, rfl, equal, readable⟩)
    exact ⟨span, n, parsed, equal⟩
  · refine written.parse_of_none numeral.spelled fun value signed => ?_
    obtain ⟨_, _, _, readable⟩ := (denotes value).mp signed
    exact unreadable readable
  · constructor
    · rintro ⟨fits, unreadable⟩
      obtain ⟨large, several⟩ := not_or.mp unreadable
      have equal : m = 2 ^ 63 := by omega
      exact ⟨by omega, fun last => several ⟨equal, last⟩⟩
    · rintro ⟨equal, several⟩
      refine ⟨by omega, ?_⟩
      rintro (less | ⟨_, last⟩)
      · omega
      · exact several last

/-- The digits of `2 ^ 63`, which no word denotes. -/
def firstBeyond : List Char := '9' :: "223372036854775808".toList

theorem allDigits_firstBeyond : AllDigits firstBeyond := List.all_eq_true.mp (by decide +kernel)

theorem integerNumeral_firstBeyond : IntegerNumeral firstBeyond ∧ natural firstBeyond = 2 ^ 63 := by
  obtain ⟨numeral, value⟩ := integerNumeral_of_digits (List.cons_ne_nil _ _) allDigits_firstBeyond
  exact ⟨numeral, value.trans (by decide +kernel)⟩

/-- With a single minus next to it, `2 ^ 63` is read as the least word, also behind a plus. -/
theorem parse_sign_run_least : ∃ span n,
    parse ('+' :: ' ' :: '-' :: firstBeyond) = .ok (.literal span (.int n)) ∧
      n.toInt = -9223372036854775808 := by
  obtain ⟨numeral, value⟩ := integerNumeral_firstBeyond
  have blank : Gap [' '] := gap_of_blanks (List.forall_mem_singleton.mpr (by decide))
  have written : SignedText firstBeyond [false, true] ('+' :: ' ' :: '-' :: firstBeyond) :=
    .sign false gap_nil (.sign true blank (signedText_adjacent [] firstBeyond))
  have last : LastIsOnlyMinus [false, true] := ⟨[false], rfl, by decide⟩
  have read := (parse_sign_run (by decide) numeral written).1 (.inr ⟨value, last⟩)
  rw [value] at read
  exact read

/-- **Behind three minus signs `2 ^ 63` is refused**, although the signed number is a word. So it is
not so that signs in front of an integer are read whenever the signed number fits. -/
theorem parse_three_minus_refused :
    (∃ failure, parse ('-' :: '-' :: '-' :: firstBeyond) = .error failure ∧
      failure.cause.kind = .parse) ∧
    ¬ ∀ (signs : List Bool) (text source : List Char), signs ≠ [] → IntegerNumeral text →
      SignedText text signs source → Integer.Fits (signValue signs (natural text)) →
      ∃ span n, parse source = .ok (.literal span (.int n)) ∧
        n.toInt = signValue signs (natural text) := by
  obtain ⟨numeral, value⟩ := integerNumeral_firstBeyond
  have written : SignedText firstBeyond [true, true, true] ('-' :: '-' :: '-' :: firstBeyond) :=
    signedText_adjacent [true, true, true] firstBeyond
  have refused := written.parse_of_none numeral.spelled fun literal signed => by
    obtain ⟨_, _, _, bound⟩ := (signed_integer_iff numeral.isInteger (by decide)).mp signed
    rw [value, lastIsOnlyMinus_cons] at bound
    rcases bound with less | ⟨_, plus, _⟩
    · exact absurd less (by decide)
    · cases plus
  refine ⟨refused, fun reads => ?_⟩
  obtain ⟨span, n, parsed, _⟩ := reads _ _ _ (by decide) numeral written (by rw [value]; decide)
  obtain ⟨failure, failed, _⟩ := refused
  rw [parsed] at failed
  cases failed

end Parsing

end CallConsole
