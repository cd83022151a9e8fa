/-
**Where blanks and tokens end.**

Blanks and comments go on up to a character that belongs to neither, and a token goes on as long as
it can. Whether one of them ends where it does depends on no more than the character behind it:

* `skipBlanks_append`, `skipBlanks_cases`: blanks and comments are what is passed over;
* `numberTail_local`, `stringTail_local`: the rest of a number and of a string;
* `scanToken_local`: a token is read in front of whatever else ends it, at every offset.
-/

import CallConsole.Proofs.Scanning
import Mathlib.Data.List.TakeWhile

namespace CallConsole

namespace Scanning

/-! ### Blanks and comments -/

/-- The character is neither blank nor the beginning of a comment. -/
def Solid (c : Char) : Prop := isBlank c = false ∧ c ≠ '#'

/-- **The text holds nothing but blanks and comments**, in front of what comes after it. A comment
goes up to the next line break, or up to the end of the source. -/
inductive Blanks (after : List Char) : List Char → Prop
  | nothing : Blanks after []
  | blank {c : Char} {rest : List Char} : isBlank c = true → Blanks after rest →
      Blanks after (c :: rest)
  | comment {line rest : List Char} : '\n' ∉ line → (∀ c ∈ (rest ++ after).head?, c = '\n') →
      Blanks after rest → Blanks after ('#' :: line ++ rest)

variable {offset : Nat} {c : Char} {gap rest after after' text : List Char} {symbol : Symbol}
  {tokens : List Token}

theorem head?_append_congr (same : after'.head? = after.head?) (text : List Char) :
    (text ++ after').head? = (text ++ after).head? := by
  cases text with
  | nil => exact same
  | cons c rest => rfl

/-- Of what comes after blanks, only the first character counts. -/
theorem Blanks.congr (blanks : Blanks after gap) (same : after'.head? = after.head?) :
    Blanks after' gap := by
  induction blanks with
  | nothing => exact .nothing
  | blank blank _ ih => exact .blank blank ih
  | comment line ends _ ih => exact .comment line (head?_append_congr same _ ▸ ends) ih

/-- The rest of a comment is passed over, up to the line break behind it. -/
theorem skipComment_line (offset : Nat) {line : List Char} (inside : '\n' ∉ line)
    (ends : ∀ c ∈ rest.head?, c = '\n') :
    skipComment offset (line ++ rest) = skipBlanks (offset + byteLength line) rest := by
  induction line generalizing offset with
  | nil =>
    cases rest with
    | nil => rfl
    | cons c rest =>
      cases ends c rfl
      rw [List.nil_append, skipComment, if_pos rfl, skipBlanks, if_pos (by decide)]
      rfl
  | cons c line ih =>
    rw [List.mem_cons, not_or] at inside
    obtain ⟨differs, others⟩ := inside
    rw [List.cons_append, skipComment, if_neg (Ne.symm differs), ih _ others,
      byteLength, Nat.add_assoc]

/-- **Blanks are passed over**, whatever comes after them. -/
theorem skipBlanks_append (blanks : Blanks rest gap) (offset : Nat) :
    skipBlanks offset (gap ++ rest) = skipBlanks (offset + byteLength gap) rest := by
  induction blanks generalizing offset with
  | nothing => rfl
  | @blank c gap blank _ ih =>
    rw [List.cons_append, skipBlanks, if_pos blank, ih, byteLength, Nat.add_assoc]
  | @comment line gap inside ends _ ih =>
    rw [List.cons_append, List.cons_append, List.append_assoc, skipBlanks, if_neg (by decide),
      if_pos rfl, skipComment_line _ inside ends, ih, byteLength, byteLength_append, Nat.add_assoc,
      Nat.add_assoc]

mutual

/-- **What is passed over is blanks and comments**, and a solid character comes next. -/
theorem skipBlanks_cases (text : List Char) : ∃ gap rest, text = gap ++ rest ∧
    Blanks rest gap ∧ ∀ c ∈ rest.head?, Solid c := by
  cases text with
  | nil => exact ⟨[], [], rfl, .nothing, nofun⟩
  | cons c text =>
    by_cases blank : isBlank c = true
    · obtain ⟨gap, rest, rfl, blanks, solid⟩ := skipBlanks_cases text
      exact ⟨c :: gap, rest, rfl, .blank blank blanks, solid⟩
    · by_cases mark : c = '#'
      · subst mark
        obtain ⟨line, gap, rest, rfl, inside, ends, blanks, solid⟩ := skipComment_cases text
        refine ⟨'#' :: line ++ gap, rest, ?_, .comment inside ends blanks, solid⟩
        rw [List.cons_append, List.cons_append, List.append_assoc]
      · refine ⟨[], c :: text, rfl, .nothing, ?_⟩
        rintro _ ⟨⟩
        exact ⟨Bool.eq_false_iff.mpr blank, mark⟩

/-- The rest of a comment is a line up to its end, and then blanks and comments. -/
theorem skipComment_cases (text : List Char) : ∃ line gap rest,
    text = line ++ (gap ++ rest) ∧ '\n' ∉ line ∧ (∀ c ∈ (gap ++ rest).head?, c = '\n') ∧
      Blanks rest gap ∧ ∀ c ∈ rest.head?, Solid c := by
  cases text with
  | nil => exact ⟨[], [], [], rfl, List.not_mem_nil, nofun, .nothing, nofun⟩
  | cons c text =>
    by_cases ends : c = '\n'
    · subst ends
      obtain ⟨gap, rest, rfl, blanks, solid⟩ := skipBlanks_cases text
      refine ⟨[], '\n' :: gap, rest, rfl, List.not_mem_nil, ?_, .blank (by decide) blanks, solid⟩
      rintro _ ⟨⟩
      rfl
    · obtain ⟨line, gap, rest, rfl, inside, ends', blanks, solid⟩ := skipComment_cases text
      have inside' : '\n' ∉ c :: line := by
        rw [List.mem_cons, not_or]
        exact ⟨Ne.symm ends, inside⟩
      exact ⟨c :: line, gap, rest, rfl, inside', ends', blanks, solid⟩

end

/-- Blanks and comments can be put together. -/
theorem Blanks.append {more : List Char} (blanks : Blanks (more ++ after) gap)
    (others : Blanks after more) : Blanks after (gap ++ more) := by
  induction blanks with
  | nothing => exact others
  | blank blank _ ih => exact .blank blank ih
  | @comment line gap inside ends _ ih =>
    rw [List.append_assoc]
    rw [← List.append_assoc] at ends
    exact .comment inside ends ih

/-- A comment in front of a character that ends no line has its own end of line. -/
theorem Blanks.of_cons (blanks : Blanks (c :: rest) gap) (inLine : c ≠ '\n')
    (after : List Char) : Blanks after gap := by
  induction blanks with
  | nothing => exact .nothing
  | blank blank _ ih => exact .blank blank ih
  | @comment line gap inside ends _ ih =>
    cases gap with
    | nil => exact absurd (ends c rfl) inLine
    | cons d gap => exact .comment inside ends ih

/-! ### The end of a token -/

/-- What comes after a token is no part of any word or number. -/
def Apart (after : List Char) : Prop := ∀ c ∈ after.head?, isNamePart c = false ∧
  c ∉ ['.', '+', '-']

/-- Nothing comes after the end of a source. -/
theorem forall_head?_nil {p : Char → Prop} : ∀ c ∈ ([] : List Char).head?, p c := by
  intro c front
  cases front

/-- A token that ends in front of the first text ends in front of the second one, too. -/
def EndsLike (after after' : List Char) : Prop := after'.head? = after.head? ∨ Apart after'

/-- What the character behind a token must not be, it is not in the second text either. -/
theorem EndsLike.head {forbidden : Char → Prop} (like : EndsLike after after')
    (none : ∀ c ∈ after.head?, ¬ forbidden c)
    (apart : ∀ c, isNamePart c = false ∧ c ∉ ['.', '+', '-'] → ¬ forbidden c) :
    ∀ c ∈ after'.head?, ¬ forbidden c := by
  intro c front
  rcases like with same | apart'
  · exact none c (same ▸ front)
  · exact apart c (apart' c front)

theorem EndsLike.prepend (like : EndsLike after after') (text : List Char) :
    EndsLike (text ++ after) (text ++ after') := by
  cases text with
  | nil => exact like
  | cons c rest => exact .inl rfl

/-- No sign stands apart from a number. -/
theorem not_sign_of_apart (c : Char) (apart : isNamePart c = false ∧ c ∉ ['.', '+', '-']) :
    ¬ (c = '+' ∨ c = '-') := by
  rintro (rfl | rfl) <;> exact apart.2 (by decide)

theorem isNamePart_of_isDigit (digit : c.isDigit = true) : isNamePart c = true := by
  have bounds := Char.isDigit_iff_toNat.mp digit
  have ascii : c.toNat < 128 := by
    obtain ⟨_, last⟩ := bounds
    change c.toNat ≤ 57 at last
    omega
  simp [isNamePart, isAlphanumeric, ascii, Char.isAlphanum, digit]

/-- The character goes on with a number. -/
def NumberPart (point mark : Bool) (c : Char) : Prop :=
  (c.isDigit ∨ c = '_') ∨ (c = '.' ∧ !point ∧ !mark) ∨ ((c = 'e' ∨ c = 'E') ∧ !mark)

/-- Nothing that stands apart from a word goes on with a number. -/
theorem not_numberPart {point mark : Bool} (c : Char)
    (apart : isNamePart c = false ∧ c ∉ ['.', '+', '-']) : ¬ NumberPart point mark c := by
  obtain ⟨noName, others⟩ := apart
  rintro ((digit | rfl) | ⟨rfl, -, -⟩ | ⟨rfl | rfl, -⟩)
  · rw [isNamePart_of_isDigit digit] at noName
    cases noName
  · revert noName
    decide
  · exact others (by decide)
  · revert noName
    decide
  · revert noName
    decide

/-- A number ends in front of a character that does not go on with it. -/
theorem numberTail_stops {point mark : Bool}
    (stops : ∀ c ∈ text.head?, ¬ NumberPart point mark c) :
    numberTail point mark text = ([], text) := by
  cases text with
  | nil => rw [numberTail]
  | cons c rest =>
    obtain ⟨noDigit, others⟩ := not_or.mp (stops c rfl)
    obtain ⟨noPoint, noMark⟩ := not_or.mp others
    rw [numberTail.eq_def]
    simp only [if_neg noDigit, if_neg noPoint, if_neg noMark]

/-- A digit goes on with a number. -/
theorem numberTail_digit {point mark : Bool} (digit : c.isDigit ∨ c = '_') :
    numberTail point mark (c :: rest) =
      (c :: (numberTail point mark rest).1, (numberTail point mark rest).2) := by
  rw [numberTail.eq_def]
  simp only [if_pos digit]

/-- Behind a point, a number goes on with its fraction. -/
theorem numberTail_point : numberTail false false ('.' :: rest) =
    ('.' :: (numberTail true false rest).1, (numberTail true false rest).2) := by
  rw [numberTail.eq_def]
  simp

/-- Behind an exponent mark, a number goes on with the digits of the exponent. -/
theorem numberTail_mark {point : Bool} (letter : c = 'e' ∨ c = 'E')
    (noSign : ∀ d ∈ rest.head?, ¬ (d = '+' ∨ d = '-')) :
    numberTail point false (c :: rest) =
      (c :: (numberTail point true rest).1, (numberTail point true rest).2) := by
  have other : ¬ (c.isDigit = true ∨ c = '_') ∧ c ≠ '.' := by
    rcases letter with rfl | rfl <;> decide
  rw [numberTail.eq_def]
  simp only [other, letter, false_and, if_false, Bool.not_false, and_self, if_true]
  cases rest with
  | nil => simp [numberTail]
  | cons d rest => simp only [if_neg (noSign d rfl)]

/-- The sign of an exponent is part of the number. -/
theorem numberTail_sign {point : Bool} {sign : Char} (letter : c = 'e' ∨ c = 'E')
    (signs : sign = '+' ∨ sign = '-') :
    numberTail point false (c :: sign :: rest) =
      (c :: sign :: (numberTail point true rest).1, (numberTail point true rest).2) := by
  have other : ¬ (c.isDigit = true ∨ c = '_') ∧ c ≠ '.' := by
    rcases letter with rfl | rfl <;> decide
  rw [numberTail.eq_def]
  simp only [other, letter, signs, false_and, if_false, Bool.not_false, and_self, if_true]

/-- **A number ends where it does because of the character behind it.** -/
theorem numberTail_local {point mark : Bool} {tail : List Char}
    (read : numberTail point mark text = (tail, after)) :
    text = tail ++ after ∧ ∀ after', EndsLike after after' →
      numberTail point mark (tail ++ after') = (tail, after') := by
  fun_induction numberTail point mark text generalizing tail after with
  | case1 =>
    cases read
    exact ⟨rfl, fun after' like => numberTail_stops (like.head forall_head?_nil not_numberPart)⟩
  | case2 point mark c rest digit tail' after'' same ih =>
    cases read
    obtain ⟨rfl, local'⟩ := ih same
    refine ⟨rfl, fun after' like => ?_⟩
    rw [List.cons_append, numberTail_digit digit, local' after' like]
  | case3 point mark c rest _ points tail' after'' same ih =>
    cases read
    obtain ⟨rfl, noPoint, noMark⟩ := points
    cases point <;> cases noPoint
    cases mark <;> cases noMark
    obtain ⟨rfl, local'⟩ := ih same
    refine ⟨rfl, fun after' like => ?_⟩
    rw [List.cons_append, numberTail_point, local' after' like]
  | case4 point mark c _ _ marks =>
    cases read
    obtain ⟨letter, noMark⟩ := marks
    cases mark <;> cases noMark
    refine ⟨rfl, fun after' like => ?_⟩
    have noSign := like.head forall_head?_nil not_sign_of_apart
    have stops : ∀ d ∈ after'.head?, ¬ NumberPart point true d :=
      like.head forall_head?_nil not_numberPart
    rw [List.singleton_append, numberTail_mark letter noSign, numberTail_stops stops]
  | case5 point mark c _ _ marks sign rest signs tail' after'' same ih =>
    cases read
    obtain ⟨letter, noMark⟩ := marks
    cases mark <;> cases noMark
    obtain ⟨rfl, local'⟩ := ih same
    refine ⟨rfl, fun after' like => ?_⟩
    rw [List.cons_append, List.cons_append, numberTail_sign letter signs, local' after' like]
  | case6 point mark c _ _ marks d rest noSign tail' after'' same ih =>
    cases read
    obtain ⟨letter, noMark⟩ := marks
    cases mark <;> cases noMark
    obtain ⟨whole, local'⟩ := ih same
    refine ⟨by rw [List.cons_append, whole], fun after' like => ?_⟩
    have noSign' : ∀ d ∈ (tail' ++ after').head?, ¬ (d = '+' ∨ d = '-') := by
      refine (like.prepend tail').head ?_ not_sign_of_apart
      rw [← whole]
      rintro _ ⟨⟩
      exact noSign
    rw [List.cons_append, numberTail_mark letter noSign', local' after' like]
  | case7 point mark c rest noDigit noPoint noMark =>
    cases read
    refine ⟨rfl, fun after' like => numberTail_stops (like.head ?_ not_numberPart)⟩
    rintro _ ⟨⟩
    rintro (digit | points | marks)
    · exact noDigit digit
    · exact noPoint points
    · exact noMark marks

/-- **A string ends where it does because of its own characters.** -/
theorem stringTail_local {quote : Char} {content : List Char} {size : Nat}
    (read : stringTail quote text = .closed content size after) :
    ∃ inner, text = inner ++ after ∧ size = byteLength inner ∧
      ∀ after', stringTail quote (inner ++ after') = .closed content size after' := by
  fun_induction stringTail quote text generalizing content size with
  | case1 | case3 | case5 => cases read
  | case2 rest =>
    cases read
    refine ⟨[quote], rfl, rfl, fun after' => ?_⟩
    rw [List.singleton_append, stringTail.eq_def]
    simp only [if_true]
  | case4 escaped rest noQuote ih =>
    cases tail : stringTail quote rest with
    | unclosed more =>
      rw [tail] at read
      cases read
    | closed content' size' rest' =>
      rw [tail] at read
      cases read
      obtain ⟨inner, rfl, rfl, local'⟩ := ih tail
      refine ⟨'\\' :: escaped :: inner, rfl, Nat.add_assoc .., fun after' => ?_⟩
      rw [List.cons_append, List.cons_append, stringTail.eq_def]
      simp only [if_neg noQuote, if_true, local' after']
      rfl
  | case6 c rest noQuote noEscape noBreak ih =>
    cases tail : stringTail quote rest with
    | unclosed more =>
      rw [tail] at read
      cases read
    | closed content' size' rest' =>
      rw [tail] at read
      cases read
      obtain ⟨inner, rfl, rfl, local'⟩ := ih tail
      refine ⟨c :: inner, rfl, rfl, fun after' => ?_⟩
      rw [List.cons_append, stringTail.eq_def]
      simp only [if_neg noQuote, if_neg noEscape, if_neg noBreak, local' after']
      rfl

/-- Only a point in front of a digit begins a fraction. -/
theorem startsFraction_iff : startsFraction c rest = true ↔
    c = '.' ∧ ∃ d more, rest = d :: more ∧ d.isDigit = true := by
  cases rest with
  | nil => simp [startsFraction]
  | cons d more => simp [startsFraction]

/-- A point that begins no number begins none in front of another character that ends it. -/
theorem not_startsFraction_congr (like : EndsLike after after')
    (noFraction : ¬ startsFraction c after = true) : ¬ startsFraction c after' = true := by
  rw [startsFraction_iff] at noFraction ⊢
  rintro ⟨point, d, more, rfl, digit⟩
  have none : ∀ d ∈ after.head?, ¬ d.isDigit = true := by
    intro d front digit
    obtain ⟨more, rfl⟩ := List.head?_eq_some_iff.mp front
    exact noFraction ⟨point, d, more, rfl, digit⟩
  refine like.head none (fun d apart digit => ?_) d rfl digit
  rw [isNamePart_of_isDigit digit] at apart
  cases apart.1

/-- The fraction behind a point goes on in front of whatever its digits stand. -/
theorem startsFraction_tail {point : Bool} (fraction : startsFraction c rest = true)
    (after' : List Char) :
    startsFraction c ((numberTail point false rest).1 ++ after') = true := by
  obtain ⟨same, d, more, rfl, digit⟩ := startsFraction_iff.mp fraction
  rw [numberTail_digit (.inl digit)]
  exact startsFraction_iff.mpr ⟨same, d, _, rfl, digit⟩

/-- What ends a word ends it in front of every text that ends it, too. -/
theorem takeWhile_word (like : EndsLike (rest.dropWhile isNamePart) after') :
    (rest.takeWhile isNamePart ++ after').takeWhile isNamePart = rest.takeWhile isNamePart ∧
      (rest.takeWhile isNamePart ++ after').dropWhile isNamePart = after' := by
  have ends : ∀ c ∈ after'.head?, ¬ isNamePart c = true := by
    refine like.head ?_ fun c apart => Bool.eq_false_iff.mp apart.1
    intro c front part
    have stops := List.head?_dropWhile_not isNamePart rest
    rw [Option.mem_def.mp front] at stops
    exact absurd part (Bool.eq_false_iff.mp stops)
  obtain ⟨takes, drops⟩ := takeWhile_of_head fun c front => Bool.eq_false_iff.mpr (ends c front)
  have each : ∀ c ∈ rest.takeWhile isNamePart, isNamePart c = true :=
    fun c member => List.mem_takeWhile_imp member
  rw [List.takeWhile_append_of_pos each, List.dropWhile_append_of_pos each, takes, drops,
    List.append_nil]
  exact ⟨rfl, rfl⟩

/-- The characters of a word are its text. -/
theorem text_wordSymbol (word : List Char) : (wordSymbol word).text = word := by
  unfold wordSymbol
  split
  · simp_all [Symbol.text]
  split
  · simp_all [Symbol.text]
  split
  · simp_all [Symbol.text]
  · rfl

/-- A character that stands for itself is its text. -/
theorem text_characterSymbol (c : Char) : (characterSymbol c).text = [c] := by
  unfold characterSymbol
  split <;> rfl

/-- **Of what comes after a token, only the character next to it counts**, and any that is no part
of a word or number ends it the same. All symbols but strings are written as their text. -/
theorem scanToken_local {token : Token} (scanned : scanToken offset c rest = .ok (token, after)) :
    ∃ cs symbol, rest = cs ++ after ∧ token = tokenAt offset (byteLength (c :: cs)) symbol ∧
      ((∀ content, symbol ≠ .string content) → c :: cs = symbol.text) ∧
      ∀ offset' after', EndsLike after after' → scanToken offset' c (cs ++ after') =
        .ok (tokenAt offset' (byteLength (c :: cs)) symbol, after') := by
  unfold scanToken at scanned
  split at scanned
  case isTrue start =>
    cases scanned
    refine ⟨rest.takeWhile isNamePart, _, List.takeWhile_append_dropWhile.symm, rfl,
      fun _ => (text_wordSymbol _).symm, fun offset' after' like => ?_⟩
    obtain ⟨takes, drops⟩ := takeWhile_word like
    rw [scanToken, if_pos start, takes, drops]
  case isFalse noName =>
  split at scanned
  case isTrue number =>
    cases scanned
    obtain ⟨whole, local'⟩ := numberTail_local (Prod.eta _).symm
    refine ⟨_, _, whole, rfl, fun _ => rfl, fun offset' after' like => ?_⟩
    rw [scanToken, if_neg noName,
      if_pos (number.imp_right fun fraction => startsFraction_tail fraction after'),
      local' after' like]
  case isFalse noNumber =>
  obtain ⟨noDigit, noFraction⟩ := not_or.mp noNumber
  split at scanned
  case isTrue quotes =>
    split at scanned
    case h_2 => cases scanned
    case h_1 content size _ read =>
      cases scanned
      obtain ⟨inner, whole, rfl, local'⟩ := stringTail_local read
      refine ⟨inner, _, whole, rfl, fun noString => absurd rfl (noString content),
        fun offset' after' like => ?_⟩
      have noPoint : ¬ startsFraction c (inner ++ after') = true := by
        rw [startsFraction_iff]
        rintro ⟨rfl, -⟩
        rcases quotes with quote | quote <;> cases quote
      rw [scanToken, if_neg noName, if_neg (not_or.mpr ⟨noDigit, noPoint⟩), if_pos quotes,
        local' after']
      rfl
  case isFalse noQuote =>
    cases scanned
    refine ⟨[], _, rfl, rfl, fun _ => (text_characterSymbol c).symm, fun offset' after' like => ?_⟩
    have noFraction' := not_startsFraction_congr like noFraction
    rw [List.nil_append, scanToken, if_neg noName, if_neg (not_or.mpr ⟨noDigit, noFraction'⟩),
      if_neg noQuote]
    rfl

end Scanning

end CallConsole
