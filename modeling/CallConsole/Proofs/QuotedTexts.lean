/-
**What is read back of a quoted text.**

The writer of texts knows escapes that the reader of strings does not: it gives most control
characters as two hexadecimal digits behind `\x`, of which the reader takes the `x` and the digits
for ordinary characters. All other characters are read back as they were:

* `Scanning.stringTail_encode_readBack`: what is read between the quotes;
* `Quoted.readBack_eq_iff`: the texts that are read back as they were;
* `Store.tokenize_repr_str`: the text of every string is one token, and this is its content.
-/

import CallConsole.Proofs.Scanning
import CallConsole.Proofs.TokenEnds

namespace CallConsole

namespace Quoted

/-- The character is written as two hexadecimal digits. -/
def Hexadecimal (c : Char) : Prop := isControl c = true ∧ c ∉ ['\n', '\r', '\t']

instance (c : Char) : Decidable (Hexadecimal c) := inferInstanceAs (Decidable (_ ∧ _))

/-- All other control characters have a letter for an escape. -/
theorem not_hexadecimal_iff {c : Char} :
    ¬ Hexadecimal c ↔ (isControl c = true → c ∈ ['\n', '\r', '\t']) := by
  rw [Hexadecimal, not_and, Decidable.not_not]

/-- **What a character is read back as.** -/
def readBack (c : Char) : List Char := if Hexadecimal c then 'x' :: twoDigits c.toNat else [c]

/-- **A text is read back as it was** if none of its characters is written in hexadecimal digits. -/
theorem readBack_eq_iff {text : List Char} :
    text.flatMap readBack = text ↔ ∀ c ∈ text, isControl c = true → c ∈ ['\n', '\r', '\t'] := by
  induction text with
  | nil => exact iff_of_true rfl nofun
  | cons c text ih =>
    rw [List.flatMap_cons, List.forall_mem_cons, ← ih, readBack]
    split
    case isTrue hexadecimal =>
      refine iff_of_false (fun same => ?_) fun ⟨readable, _⟩ => ?_
      · rw [List.cons_append] at same
        -- the letter in front of the digits is no control character itself
        obtain ⟨rfl, _⟩ := List.cons.inj same
        exact absurd hexadecimal.1 (by decide)
      · exact hexadecimal.2 (readable hexadecimal.1)
    case isFalse plain =>
      have readable := not_hexadecimal_iff.mp plain
      rw [List.singleton_append, List.cons.injEq, and_iff_right rfl, and_iff_right readable]

/-- A character written in hexadecimal digits has no escape of its own. -/
theorem encodeChar_of_hexadecimal {quote c : Char} (quotes : quote = '\'' ∨ quote = '"')
    (hexadecimal : Hexadecimal c) : encodeChar quote c = '\\' :: 'x' :: twoDigits c.toNat := by
  obtain ⟨control, other⟩ := hexadecimal
  simp only [List.mem_cons, List.not_mem_nil, or_false, not_or] at other
  obtain ⟨noNewline, noReturn, noTab⟩ := other
  have noBackslash : c ≠ '\\' := by
    rintro rfl
    exact absurd control (by decide)
  have noQuote : c ≠ quote := by
    rintro rfl
    rcases quotes with rfl | rfl <;> exact absurd control (by decide)
  rw [encodeChar, if_neg noBackslash, if_neg noNewline, if_neg noReturn, if_neg noTab,
    if_neg noQuote, if_pos control]

end Quoted

namespace Scanning

open Quoted

/-- A digit inside a string stands for itself. -/
theorem stringTail_digit {quote : Char} (quotes : quote = '\'' ∨ quote = '"') {code : Nat}
    (small : code < 16) (more : List Char) :
    stringTail quote (code.digitChar :: more) =
      (stringTail quote more).prepend code.digitChar code.digitChar.utf8Size := by
  have each : ∀ code ∈ List.range 16, code.digitChar ∉ ['\'', '"', '\\', '\n'] :=
    List.all_iff_forall_prop.mp rfl
  have plain := each code (List.mem_range.mpr small)
  simp only [List.mem_cons, List.not_mem_nil, or_false, not_or] at plain
  obtain ⟨noSingle, noDouble, noBackslash, noNewline⟩ := plain
  have noQuote : code.digitChar ≠ quote := by rcases quotes with rfl | rfl <;> assumption
  rw [stringTail.eq_def]
  simp only [if_neg noQuote, if_neg noBackslash, if_neg noNewline]

/-- A character written in hexadecimal digits is read as three characters. -/
theorem stringTail_hexadecimal {quote c : Char} (quotes : quote = '\'' ∨ quote = '"')
    (hexadecimal : Hexadecimal c) {more content rest : List Char} {size : Nat}
    (read : stringTail quote more = .closed content size rest) :
    ∃ size, stringTail quote (encodeChar quote c ++ more) =
      .closed ('x' :: twoDigits c.toNat ++ content) size rest := by
  have small : c.toNat < 256 := by
    have control := hexadecimal.1
    simp only [isControl, Bool.or_eq_true, Bool.and_eq_true, decide_eq_true_eq] at control
    omega
  have noBackslash : '\\' ≠ quote := by rcases quotes with rfl | rfl <;> decide
  have letter (rest : List Char) : stringTail quote ('\\' :: 'x' :: rest) =
      (stringTail quote rest).prepend 'x' ('\\'.utf8Size + 'x'.utf8Size) := by
    rw [stringTail.eq_def]
    simp only [if_neg noBackslash, if_true]
    rfl
  rw [encodeChar_of_hexadecimal quotes hexadecimal, twoDigits, List.cons_append, List.cons_append,
    letter, List.cons_append, stringTail_digit quotes (by omega), List.cons_append,
    stringTail_digit quotes (by omega), List.nil_append, read]
  exact ⟨_, rfl⟩

/-- **What is read between the quotes.** -/
theorem stringTail_encode_readBack {quote : Char} (quotes : quote = '\'' ∨ quote = '"')
    (text rest : List Char) :
    ∃ size, stringTail quote (text.flatMap (encodeChar quote) ++ quote :: rest) =
      .closed (text.flatMap readBack) size rest := by
  induction text with
  | nil => exact stringTail_encode quotes (List.forall_mem_nil _) rest
  | cons c text ih =>
    obtain ⟨size, read⟩ := ih
    rw [List.flatMap_cons, List.flatMap_cons, List.append_assoc, readBack]
    split
    case isTrue hexadecimal => exact stringTail_hexadecimal quotes hexadecimal read
    case isFalse plain =>
      obtain ⟨size', first⟩ := stringTail_encodeChar quotes (not_hexadecimal_iff.mp plain)
        (text.flatMap (encodeChar quote) ++ quote :: rest)
      refine ⟨size' + size, ?_⟩
      rw [first, read]
      rfl

/-- **A quoted text is one token**, from its first byte to its last. -/
theorem tokenize_encode (text : List Char) :
    tokenize (encode text) =
      .ok ⟨[tokenAt 0 (byteLength (encode text)) (.string (text.flatMap readBack))],
        byteLength (encode text)⟩ := by
  have quotes := quoteFor_cases text
  obtain ⟨size, read⟩ := stringTail_encode_readBack quotes text []
  obtain ⟨inner, whole, rfl, _⟩ := stringTail_local read
  rw [List.append_nil] at whole
  rw [whole] at read
  have scanned := scanToken_quote quotes read 0
  have behind := tokensFrom_cons (solid_of_quote quotes) scanned (tokensFrom_nil _)
  have spelled : encode text = quoteFor text :: inner := congrArg _ whole
  have length : byteLength (encode text) = (quoteFor text).utf8Size + byteLength inner := by
    rw [spelled, byteLength]
  rw [tokenize, length, spelled, behind]
  simp only [tokenAt, Nat.zero_add]

end Scanning

namespace Store

/-- **The text of every string is one token**, which spans all of it. Its content is the string,
except that a control character other than the end of a line, a return and a tab has become the
letter `x` and two hexadecimal digits. So the string is read back exactly if it holds none of
these. -/
theorem tokenize_repr_str (s : Store) (id : Nat) (text : List Char) :
    tokenize (s.repr (.str id text)) =
      .ok ⟨[⟨.string (text.flatMap Quoted.readBack), ⟨0, byteLength (s.repr (.str id text))⟩⟩],
        byteLength (s.repr (.str id text))⟩ ∧
    (text.flatMap Quoted.readBack = text ↔
      ∀ c ∈ text, Quoted.isControl c = true → c ∈ ['\n', '\r', '\t']) := by
  have written : s.repr (.str id text) = Quoted.encode text := by rw [repr, reprInside]
  refine ⟨?_, Quoted.readBack_eq_iff⟩
  rw [written, Scanning.tokenize_encode, Scanning.tokenAt, Nat.zero_add]

/-- The string of the control character one is read back as three characters. -/
theorem tokenize_repr_control :
    tokenize (empty.repr (.str 0 ['\x01'])) = .ok ⟨[⟨.string ['x', '0', '1'], ⟨0, 6⟩⟩], 6⟩ ∧
    ¬ ∀ (s : Store) (id : Nat) (text : List Char), tokenize (s.repr (.str id text)) =
      .ok ⟨[⟨.string text, ⟨0, byteLength (s.repr (.str id text))⟩⟩],
        byteLength (s.repr (.str id text))⟩ := by
  have written : empty.repr (.str 0 ['\x01']) = Quoted.encode ['\x01'] := by rw [repr, reprInside]
  have read : tokenize (empty.repr (.str 0 ['\x01'])) =
      .ok ⟨[⟨.string ['x', '0', '1'], ⟨0, 6⟩⟩], 6⟩ := by
    rw [written]
    exact Scanning.tokenize_encode ['\x01']
  refine ⟨read, fun inverse => ?_⟩
  have claimed := inverse empty 0 ['\x01']
  rw [read] at claimed
  cases claimed

end Store

end CallConsole
