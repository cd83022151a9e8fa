/-
**The tokens of a written tree.**

A piece of text scans to given symbols if it divides into tokens with these symbols wherever it
stands, whatever comes after it. For words and numbers what comes after must end them, as a comma, a
colon or a bracket does:

* `Scans.append`: pieces that scan can be put together;
* `scans_quoted`: quoted text scans to a string with the text as its content;
* `scans_tree`: the text of a readable tree scans to the symbols of the tree.
-/

import CallConsole.Proofs.Rendering
import CallConsole.Token.Scanning
import Mathlib.Data.Bool.AllAny
import Mathlib.Data.List.Forall2

namespace CallConsole

namespace Scanning

/-! ### One token -/

/-- Nothing is skipped before a character that is neither blank nor the beginning of a comment. -/
theorem skipBlanks_of_solid (offset : Nat) {c : Char} (solid : isBlank c = false ∧ c ≠ '#')
    (rest : List Char) : skipBlanks offset (c :: rest) = (offset, c :: rest) := by
  rw [skipBlanks, if_neg (Bool.eq_false_iff.mp solid.1), if_neg solid.2]

/-- **A token at the front, and the tokens behind it.** -/
theorem tokensFrom_cons {offset : Nat} {c : Char} {rest after : List Char} {token : Token}
    {found : TokenList} (solid : isBlank c = false ∧ c ≠ '#')
    (scanned : scanToken offset c rest = .ok (token, after))
    (others : tokensFrom token.span.stop after = .ok found) :
    tokensFrom offset (c :: rest) = .ok ⟨token :: found.tokens, found.stop⟩ := by
  have skipped := skipBlanks_of_solid offset solid rest
  rw [tokensFrom.eq_def]
  split
  case h_1 stop empty =>
    rw [skipped] at empty
    cases empty
  case h_2 start c' rest' same =>
    rw [skipped] at same
    cases same
    split
    case h_1 failure failed =>
      rw [scanned] at failed
      cases failed
    case h_2 token' after' again =>
      rw [scanned] at again
      cases again
      rw [others]

/-- A blank at the front is passed over. -/
theorem tokensFrom_blank (offset : Nat) (rest : List Char) :
    tokensFrom offset (' ' :: rest) = tokensFrom (offset + 1) rest := by
  have skipped : skipBlanks offset (' ' :: rest) = skipBlanks (offset + 1) rest := by
    rw [skipBlanks, if_pos (by decide)]
    rfl
  rw [tokensFrom.eq_def, tokensFrom.eq_def (offset + 1), skipped]

/-- There are no tokens in nothing. -/
theorem tokensFrom_nil (offset : Nat) : tokensFrom offset [] = .ok ⟨[], offset⟩ := by
  rw [tokensFrom.eq_def]
  rfl

/-! ### Pieces of text -/

/-- Wherever the text stands, it divides into tokens with the given symbols, if what comes after it
is as told. -/
def Scans (After : List Char → Prop) (text : List Char) (symbols : List Symbol) : Prop :=
  ∀ offset rest, After rest → ∃ tokens next, tokens.map Token.symbol = symbols ∧
    ∀ found, tokensFrom next rest = .ok found →
      tokensFrom offset (text ++ rest) = .ok ⟨tokens ++ found.tokens, found.stop⟩

/-- Anything may come after the text. -/
def Anything (_ : List Char) : Prop := True

/-- What comes after the text ends a word or a number. -/
def Closed (rest : List Char) : Prop :=
  ∀ c ∈ rest.head?, c ∈ ['(', ')', ']', '}', ',', ':']

theorem Scans.of_anything {After : List Char → Prop} {text : List Char} {symbols : List Symbol}
    (scans : Scans Anything text symbols) : Scans After text symbols := by
  intro offset rest _
  exact scans offset rest trivial

/-- **Pieces that scan can be put together**, if the second one may come after the first. -/
theorem Scans.append {First Second : List Char → Prop} {first second : List Char}
    {symbols more : List Symbol} (scans : Scans First first symbols)
    (scans' : Scans Second second more) (joins : ∀ rest, Second rest → First (second ++ rest)) :
    Scans Second (first ++ second) (symbols ++ more) := by
  intro offset rest after
  obtain ⟨tokens, next, same, reads⟩ := scans offset (second ++ rest) (joins rest after)
  obtain ⟨tokens', next', same', reads'⟩ := scans' next rest after
  refine ⟨tokens ++ tokens', next', by rw [List.map_append, same, same'], ?_⟩
  intro found others
  rw [List.append_assoc, List.append_assoc]
  exact reads _ (reads' found others)

/-- A piece that is one token. -/
theorem scans_token {After : List Char → Prop} {c : Char} {cs : List Char} {symbol : Symbol}
    (solid : isBlank c = false ∧ c ≠ '#')
    (one : ∀ offset rest, After rest → ∃ size,
      scanToken offset c (cs ++ rest) = .ok (tokenAt offset size symbol, rest)) :
    Scans After (c :: cs) [symbol] := by
  intro offset rest after
  obtain ⟨size, scanned⟩ := one offset rest after
  refine ⟨[tokenAt offset size symbol], offset + size, rfl, ?_⟩
  intro found others
  exact tokensFrom_cons solid scanned others

theorem scans_blank : Scans Anything [' '] [] := by
  intro offset rest _
  refine ⟨[], offset + 1, rfl, ?_⟩
  intro found others
  exact (tokensFrom_blank offset rest).trans others

/-- A character that stands for itself scans to its symbol. -/
theorem scans_mark {c : Char} (mark : c ∈ ['(', ')', '[', ']', '{', '}', ',', ':', '-']) :
    Scans Anything [c] [characterSymbol c] := by
  have each : ∀ c ∈ ['(', ')', '[', ']', '{', '}', ',', ':', '-'],
      (isBlank c = false ∧ c ≠ '#') ∧ isNameStart c = false ∧ c.isDigit = false ∧ c ≠ '.' ∧
        ¬ (c = '"' ∨ c = '\'') :=
    List.all_iff_forall_prop.mp rfl
  obtain ⟨solid, noName, noDigit, noPoint, noQuote⟩ := each c mark
  refine scans_token solid fun offset rest _ => ⟨c.utf8Size, ?_⟩
  have noFraction : startsFraction c rest = false := by simp [startsFraction, noPoint]
  rw [List.nil_append, scanToken, if_neg (Bool.eq_false_iff.mp noName),
    if_neg (by simp [noDigit, noFraction]), if_neg noQuote]

/-! ### Words and numbers -/

/-- A closing character is no part of a word. -/
theorem not_isNamePart_of_closed {rest : List Char} (closed : Closed rest) :
    ∀ c ∈ rest.head?, isNamePart c = false := by
  have each : ∀ c ∈ ['(', ')', ']', '}', ',', ':'], isNamePart c = false :=
    List.all_iff_forall_prop.mp rfl
  intro c front
  exact each c (closed c front)

theorem takeWhile_of_head {p : Char → Bool} {rest : List Char}
    (stops : ∀ c ∈ rest.head?, p c = false) :
    rest.takeWhile p = [] ∧ rest.dropWhile p = rest := by
  cases rest with
  | nil => exact ⟨rfl, rfl⟩
  | cons c rest =>
    have stop := stops c rfl
    simp [stop]

/-- **A word scans to its symbol.** -/
theorem scans_word {c : Char} {cs : List Char} (solid : isBlank c = false ∧ c ≠ '#')
    (start : isNameStart c = true) (parts : cs.all isNamePart = true) :
    Scans Closed (c :: cs) [wordSymbol (c :: cs)] := by
  refine scans_token solid fun offset rest closed => ⟨byteLength (c :: cs), ?_⟩
  obtain ⟨takes, drops⟩ := takeWhile_of_head (not_isNamePart_of_closed closed)
  have each := List.all_eq_true.mp parts
  rw [scanToken, if_pos start, List.takeWhile_append_of_pos each, List.dropWhile_append_of_pos each,
    takes, drops, List.append_nil]

/-- The digits of a number are taken up to a closing character. -/
theorem numberTail_digits {digits rest : List Char} (all : ∀ c ∈ digits, c.isDigit = true)
    (closed : Closed rest) : numberTail false false (digits ++ rest) = (digits, rest) := by
  induction digits with
  | nil =>
    cases rest with
    | nil => rfl
    | cons c rest =>
      have each : ∀ c ∈ ['(', ')', ']', '}', ',', ':'],
          ¬ (c.isDigit = true ∨ c = '_') ∧ c ≠ '.' ∧ ¬ (c = 'e' ∨ c = 'E') :=
        List.all_iff_forall_prop.mp rfl
      obtain ⟨noDigit, noPoint, noMark⟩ := each c (closed c rfl)
      rw [List.nil_append, numberTail.eq_def]
      simp only [noDigit, noPoint, noMark, if_false, false_and]
  | cons c digits ih =>
    obtain ⟨digit, others⟩ := List.forall_mem_cons.mp all
    rw [List.cons_append, numberTail.eq_def]
    simp only [digit, true_or, if_true, ih others]

/-- A digit is a solid character that begins no name. -/
theorem solid_of_isDigit {c : Char} (digit : c.isDigit = true) :
    (isBlank c = false ∧ c ≠ '#') ∧ isNameStart c = false ∧ c ≠ '.' := by
  have each : ∀ code ∈ List.range' 48 10,
      (isBlank (Char.ofNat code) = false ∧ Char.ofNat code ≠ '#') ∧
        isNameStart (Char.ofNat code) = false ∧ Char.ofNat code ≠ '.' :=
    List.all_iff_forall_prop.mp rfl
  have bounds := Char.isDigit_iff_toNat.mp digit
  have known := each c.toNat (List.mem_range'_1.mpr ⟨bounds.1, Nat.lt_succ_of_le bounds.2⟩)
  rwa [Char.ofNat_toNat] at known

/-- **Digits scan to a number.** -/
theorem scans_digits {digits : List Char} (some : digits ≠ [])
    (all : ∀ c ∈ digits, c.isDigit = true) : Scans Closed digits [.number digits] := by
  obtain ⟨c, cs, rfl⟩ := List.exists_cons_of_ne_nil some
  obtain ⟨digit, others⟩ := List.forall_mem_cons.mp all
  obtain ⟨solid, noName, noPoint⟩ := solid_of_isDigit digit
  refine scans_token solid fun offset rest closed => ⟨byteLength (c :: cs), ?_⟩
  have plain : decide (c = '.') = false := decide_eq_false noPoint
  rw [scanToken, if_neg (Bool.eq_false_iff.mp noName), if_pos (.inl digit), plain,
    numberTail_digits others closed]

/-! ### Strings -/

/-- A character that is written raw or as an escape is read back. -/
theorem stringTail_encodeChar {quote c : Char} (quotes : quote = '\'' ∨ quote = '"')
    (readable : Quoted.isControl c = true → c ∈ ['\n', '\r', '\t']) (more : List Char) :
    ∃ size, stringTail quote (Quoted.encodeChar quote c ++ more) =
      (stringTail quote more).prepend c size := by
  have noBackslash : '\\' ≠ quote := by rcases quotes with rfl | rfl <;> decide
  have escape (e : Char) : stringTail quote ('\\' :: e :: more) =
      (stringTail quote more).prepend (unescape e) ('\\'.utf8Size + e.utf8Size) := by
    rw [stringTail.eq_def]
    simp only [if_neg noBackslash, if_true]
  unfold Quoted.encodeChar
  split
  case isTrue same =>
    subst same
    exact ⟨_, escape '\\'⟩
  case isFalse noBackslash' =>
  split
  case isTrue same =>
    subst same
    exact ⟨_, escape 'n'⟩
  case isFalse noNewline =>
  split
  case isTrue same =>
    subst same
    exact ⟨_, escape 'r'⟩
  case isFalse noReturn =>
  split
  case isTrue same =>
    subst same
    exact ⟨_, escape 't'⟩
  case isFalse noTab =>
  split
  case isTrue same =>
    subst same
    have itself : unescape c = c := by rcases quotes with rfl | rfl <;> rfl
    refine ⟨'\\'.utf8Size + c.utf8Size, ?_⟩
    rw [List.cons_append, List.cons_append, List.nil_append, escape c, itself]
  case isFalse noQuote =>
  split
  case isTrue control =>
    have listed := readable control
    simp [noNewline, noReturn, noTab] at listed
  case isFalse =>
    refine ⟨c.utf8Size, ?_⟩
    rw [List.cons_append, List.nil_append, stringTail.eq_def]
    simp only [if_neg noQuote, if_neg noBackslash', if_neg noNewline]

/-- **The content between quotes is read back.** -/
theorem stringTail_encode {quote : Char} (quotes : quote = '\'' ∨ quote = '"') {text : List Char}
    (readable : ∀ c ∈ text, Quoted.isControl c = true → c ∈ ['\n', '\r', '\t'])
    (rest : List Char) :
    ∃ size, stringTail quote (text.flatMap (Quoted.encodeChar quote) ++ quote :: rest) =
      .closed text size rest := by
  induction text with
  | nil =>
    refine ⟨quote.utf8Size, ?_⟩
    rw [List.flatMap_nil, List.nil_append, stringTail.eq_def]
    simp only [if_true]
  | cons c text ih =>
    obtain ⟨head, tail⟩ := List.forall_mem_cons.mp readable
    obtain ⟨size, read⟩ := ih tail
    obtain ⟨size', first⟩ := stringTail_encodeChar quotes head
      (text.flatMap (Quoted.encodeChar quote) ++ quote :: rest)
    refine ⟨size' + size, ?_⟩
    rw [List.flatMap_cons, List.append_assoc, first, read]
    rfl

/-- A text is put between quotes of one of the two kinds. -/
theorem quoteFor_cases (text : List Char) :
    Quoted.quoteFor text = '\'' ∨ Quoted.quoteFor text = '"' := by
  unfold Quoted.quoteFor
  split
  · exact .inr rfl
  · exact .inl rfl

/-- A quote begins neither a blank nor a comment. -/
theorem solid_of_quote {quote : Char} (quotes : quote = '\'' ∨ quote = '"') :
    isBlank quote = false ∧ quote ≠ '#' := by
  rcases quotes with rfl | rfl <;> decide

/-- **A quote begins a string**, whose content is what the rest is read to. -/
theorem scanToken_quote {quote : Char} (quotes : quote = '\'' ∨ quote = '"')
    {rest content after : List Char} {size : Nat}
    (read : stringTail quote rest = .closed content size after) (offset : Nat) :
    scanToken offset quote rest =
      .ok (tokenAt offset (quote.utf8Size + size) (.string content), after) := by
  have alone : isNameStart quote = false ∧ quote.isDigit = false ∧ quote ≠ '.' := by
    rcases quotes with rfl | rfl <;> decide
  obtain ⟨noName, noDigit, noPoint⟩ := alone
  have noFraction : startsFraction quote rest = false := by simp [startsFraction, noPoint]
  rw [scanToken, if_neg (Bool.eq_false_iff.mp noName), if_neg (by simp [noDigit, noFraction]),
    if_pos quotes.symm, read]

/-- **Quoted text scans to a string** with the text as its content. -/
theorem scans_quoted {text : List Char}
    (readable : ∀ c ∈ text, Quoted.isControl c = true → c ∈ ['\n', '\r', '\t']) :
    Scans Anything (Quoted.encode text) [.string text] := by
  have quotes := quoteFor_cases text
  refine scans_token (solid_of_quote quotes) fun offset rest _ => ?_
  obtain ⟨size, read⟩ := stringTail_encode quotes readable rest
  refine ⟨(Quoted.quoteFor text).utf8Size + size, ?_⟩
  rw [List.append_assoc, List.singleton_append, scanToken_quote quotes read]

/-! ### Integers and sequences -/

/-- The symbols of an integer: a minus if it is negative, and the digits. -/
def integerSymbols (n : Integer) : List Symbol :=
  (if n.toInt < 0 then [.minus] else []) ++ [.number (Nat.toDigits 10 n.toInt.natAbs)]

/-- The symbols of items with commas between them. -/
def commaSymbols : List (List Symbol) → List Symbol
  | [] => []
  | [item] => item
  | item :: rest => item ++ .comma :: commaSymbols rest

theorem scans_integer (n : Integer) : Scans Closed n.text (integerSymbols n) := by
  have digits : Scans Closed (Nat.toDigits 10 n.toInt.natAbs)
      [.number (Nat.toDigits 10 n.toInt.natAbs)] :=
    scans_digits Nat.toDigits_ne_nil fun c member =>
      Nat.isDigit_of_mem_toDigits (by decide) (by decide) member
  unfold Integer.text integerSymbols
  split
  · exact (scans_mark (c := '-') (by decide)).append digits fun _ _ => trivial
  · exact digits

/-- **Pieces with commas and blanks between them scan**, if each of them does. -/
theorem scans_commaSeparated {texts : List (List Char)} {symbols : List (List Symbol)}
    (each : List.Forall₂ (Scans Closed) texts symbols) :
    Scans Closed (commaSeparated texts) (commaSymbols symbols) := by
  induction each with
  | nil => exact fun offset rest _ => ⟨[], offset, rfl, fun _ others => others⟩
  | @cons text item texts symbols head tail ih =>
    cases tail with
    | nil => exact head
    | cons next others =>
      have comma : Scans Anything [','] [.comma] := scans_mark (by decide)
      have behind := (comma.append scans_blank fun _ _ => trivial).append ih fun _ _ => trivial
      exact head.append behind fun rest _ c front => by cases front; decide

end Scanning

/-! ### Trees -/

namespace Tree

open Scanning

/-- The symbols of a call that makes a range. -/
def rangeSymbols (r : Range) : List Symbol :=
  .identifier ['r', 'a', 'n', 'g', 'e'] :: .leftParen ::
    commaSymbols ([integerSymbols r.start, integerSymbols r.stop] ++
      if r.step = 1 then [] else [integerSymbols r.step]) ++ [.rightParen]

mutual

/-- The symbols that the text of a tree divides into. -/
def symbols : Tree → List Symbol
  | .null => [.keyword .none]
  | .bool true => [.keyword .true]
  | .bool false => [.keyword .false]
  | .int n => integerSymbols n
  | .str text => [.string text]
  | .list ts => .leftBracket :: commaSymbols (symbolsAll ts) ++ [.rightBracket]
  | .dict ts => .leftBrace :: commaSymbols (symbolsEntries ts) ++ [.rightBrace]
  | .tuple ts =>
    .leftParen :: commaSymbols (symbolsAll ts) ++
      if ts.length = 1 then [.comma, .rightParen] else [.rightParen]
  | .range r => rangeSymbols r

/-- The symbols of trees. -/
def symbolsAll : List Tree → List (List Symbol)
  | [] => []
  | t :: ts => symbols t :: symbolsAll ts

/-- The symbols of entries, each a key and a value with a colon between them. -/
def symbolsEntries : List (Tree × Tree) → List (List Symbol)
  | [] => []
  | (k, t) :: ts => (symbols k ++ .colon :: symbols t) :: symbolsEntries ts

end

/-- A piece that scans between two marks. -/
theorem scans_between (opening closing : Char) {text : List Char} {symbols : List Symbol}
    (opens : opening ∈ ['(', '[', '{']) (closes : closing ∈ [')', ']', '}'])
    (scans : Scans Closed text symbols) :
    Scans Anything (opening :: text ++ [closing])
      (characterSymbol opening :: symbols ++ [characterSymbol closing]) := by
  have openings : ['(', '[', '{'] ⊆ ['(', ')', '[', ']', '{', '}', ',', ':', '-'] := by decide
  have closings : [')', ']', '}'] ⊆ ['(', ')', '[', ']', '{', '}', ',', ':', '-'] := by decide
  have ends : [')', ']', '}'] ⊆ ['(', ')', ']', '}', ',', ':'] := by decide
  refine ((scans_mark (openings opens)).append scans fun _ _ => trivial).append
    (scans_mark (closings closes)) ?_
  intro rest _ c head
  cases head
  exact ends closes

theorem scans_range (r : Range) : Scans Anything r.text (rangeSymbols r) := by
  have word : Scans Closed ['r', 'a', 'n', 'g', 'e'] [.identifier ['r', 'a', 'n', 'g', 'e']] :=
    scans_word (by decide) (by decide) (by decide)
  have bounds : List.Forall₂ (Scans Closed)
      ([r.start.text, r.stop.text] ++ if r.step = 1 then [] else [r.step.text])
      ([integerSymbols r.start, integerSymbols r.stop] ++
        if r.step = 1 then [] else [integerSymbols r.step]) := by
    refine .cons (scans_integer r.start) (.cons (scans_integer r.stop) ?_)
    split
    · exact .nil
    · exact .cons (scans_integer r.step) .nil
  have call := scans_between '(' ')' (by decide) (by decide) (scans_commaSeparated bounds)
  exact word.append call fun rest _ c head => by cases head; decide

mutual

/-- **The text of a readable tree scans to the symbols of the tree.** -/
theorem scans_tree (t : Tree) (readable : t.Readable) : Scans Closed t.text t.symbols := by
  cases t with
  | null => exact scans_word (by decide) (by decide) (by decide)
  | bool b => cases b <;> exact scans_word (by decide) (by decide) (by decide)
  | int n => exact scans_integer n
  | str text => exact (scans_quoted readable).of_anything
  | list ts =>
    rw [text, symbols]
    exact (scans_between '[' ']' (by decide) (by decide)
      (scans_commaSeparated (scans_trees ts readable))).of_anything
  | dict ts =>
    rw [text, symbols]
    exact (scans_between '{' '}' (by decide) (by decide)
      (scans_commaSeparated (scans_entries ts readable.1))).of_anything
  | tuple ts =>
    have inner := scans_commaSeparated (scans_trees ts readable)
    rw [text, symbols]
    split
    · -- the comma behind a single item is scanned with the items
      have comma : Scans Closed [','] [.comma] := (scans_mark (by decide)).of_anything
      have all := inner.append comma fun rest _ c head => by cases head; decide
      have whole := scans_between '(' ')' (by decide) (by decide) all
      simp only [List.cons_append, List.append_assoc, List.nil_append] at whole ⊢
      exact whole.of_anything
    · exact (scans_between '(' ')' (by decide) (by decide) inner).of_anything
  | range r => exact (scans_range r).of_anything

theorem scans_trees (ts : List Tree) (readable : ReadableAll ts) :
    List.Forall₂ (Scans Closed) (textAll ts) (symbolsAll ts) := by
  cases ts with
  | nil => exact .nil
  | cons t ts => exact .cons (scans_tree t readable.1) (scans_trees ts readable.2)

theorem scans_entries (ts : List (Tree × Tree)) (readable : ReadableEntries ts) :
    List.Forall₂ (Scans Closed) (textEntries ts) (symbolsEntries ts) := by
  match ts with
  | [] => exact .nil
  | (k, t) :: ts =>
    have colon : Scans Anything [':'] [.colon] := scans_mark (by decide)
    have behind := (colon.append scans_blank fun _ _ => trivial).append
      (scans_tree t readable.2.1) fun _ _ => trivial
    have entry := (scans_tree k readable.1).append behind fun rest _ c head => by cases head; decide
    exact .cons entry (scans_entries ts readable.2.2)

end

/-- **The text of a readable tree has tokens with the symbols of the tree.** -/
theorem exists_tokens {t : Tree} (readable : t.Readable) :
    ∃ found, tokenize t.text = .ok found ∧ found.tokens.map Token.symbol = t.symbols := by
  obtain ⟨tokens, next, same, reads⟩ := scans_tree t readable 0 [] nofun
  have whole := reads _ (tokensFrom_nil next)
  rw [List.append_nil] at whole
  refine ⟨_, whole, ?_⟩
  rw [List.append_nil]
  exact same

end Tree

end CallConsole
