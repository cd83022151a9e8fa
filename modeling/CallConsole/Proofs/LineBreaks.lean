/-
**Tokens on both sides of a line break.**

No token, and no comment, goes on behind the end of its line unless a string is still open there. So
a source that divides into tokens does so in front of a line break as well, and what stands behind
the break has the tokens, or the failure, that it has alone:

* `tokensFrom_move`: a text has the same tokens further on, or fails in the same way, with all spans
  moved;
* `Layout.beforeBreak`, `tokensFrom_break`: a layout may end in front of a line break, and the break
  is passed over;
* `tokenize_break`: the tokens of two sources with a line break between them.
-/

import CallConsole.Proofs.Lossless

namespace CallConsole

open Scanning

/-- The failure with its span changed. -/
def SourceFailure.move (f : Nat → Nat) (failure : SourceFailure) : SourceFailure :=
  ⟨failure.cause, failure.span.move f⟩

/-- The tokens with their spans changed, and the end of the source with them. -/
def TokenList.move (f : Nat → Nat) (found : TokenList) : TokenList :=
  ⟨found.tokens.map (Token.move f), f found.stop⟩

namespace Scanning

variable {offset : Nat} {text rest : List Char} {tokens : List Token}

/-! ### Reading further on -/

/-- A string that does not end is all that is left of a source. -/
theorem tokensFrom_unclosed {quote : Char} {size : Nat} (quotes : quote = '"' ∨ quote = '\'')
    (unclosed : stringTail quote rest = .unclosed size) (offset : Nat) :
    tokensFrom offset (quote :: rest) =
      .error ⟨.stringUnterminated, ⟨offset, offset + (quote.utf8Size + size)⟩⟩ := by
  have solid : Solid quote := by rcases quotes with rfl | rfl <;> exact ⟨by decide, by decide⟩
  have noWord : isNameStart quote = false := by rcases quotes with rfl | rfl <;> decide
  have noNumber : ¬ (quote.isDigit = true ∨ startsFraction quote rest = true) := by
    rcases quotes with rfl | rfl <;> simp [startsFraction]
  rw [tokensFrom_solid solid, scanToken, noWord, if_neg Bool.false_ne_true, if_neg noNumber,
    if_pos quotes, unclosed]
  rfl

/-- **Further on, the text has the same tokens**, moved with it, or it fails in the same way. -/
theorem tokensFrom_move (back offset : Nat) (text : List Char) :
    tokensFrom (back + offset) text =
      ((tokensFrom offset text).map (TokenList.move (back + ·))).mapError
        (SourceFailure.move (back + ·)) := by
  rcases tokensFrom_cases (back + offset) text with
    ⟨tokens, layout⟩ | ⟨before, quote, rest, tokens, size, rfl, quotes, layout, unclosed, refused⟩
  · obtain ⟨moved, here, rfl⟩ := layout.move rfl
    rw [layout.tokensFrom_eq, here.tokensFrom_eq, Nat.add_assoc]
    rfl
  · obtain ⟨moved, here, -⟩ := layout.move rfl
    rw [refused, here.tokensFrom_append, tokensFrom_unclosed quotes unclosed]
    simp only [Except.map, Except.mapError, SourceFailure.move, Span.move, Nat.add_assoc]

/-! ### Across a line break -/

/-- Nothing that goes on with a token breaks a line. -/
theorem apart_break (rest : List Char) : Apart ('\n' :: rest) := by
  rintro _ ⟨⟩
  decide

/-- Blanks and comments up to the end of a source may end in front of a line break. -/
theorem Blanks.beforeBreak {gap : List Char} (blanks : Blanks [] gap) (rest : List Char) :
    Blanks ('\n' :: rest) gap := by
  induction blanks with
  | nothing => exact .nothing
  | blank blank _ ih => exact .blank blank ih
  | @comment line behind inside ends _ ih =>
    refine .comment inside ?_ ih
    cases behind with
    | nil =>
      rintro _ ⟨⟩
      rfl
    | cons c behind => exact ends

/-- **A layout up to the end of a source may end in front of a line break.** -/
theorem Layout.beforeBreak (layout : Layout [] offset text tokens) (rest : List Char) :
    Layout ('\n' :: rest) offset text tokens :=
  layout.congr (apart_break rest) fun _ blanks => blanks.beforeBreak rest

/-- A line break is passed over. -/
theorem tokensFrom_break (offset : Nat) (rest : List Char) :
    tokensFrom offset ('\n' :: rest) = tokensFrom (offset + 1) rest := by
  have blank : Blanks rest ['\n'] := .blank (by decide) .nothing
  exact tokensFrom_append blank offset

end Scanning

/-! ### Two sources -/

/-- **The tokens of two sources with a line break between them.** If the first source divides into
tokens, the whole divides into tokens exactly if the second source does. These are the tokens of the
first source, and then those of the second one, behind the first source and the break. If the second
source fails, the whole fails in the same way, that far behind. -/
theorem tokenize_break {first : List Char} {found : TokenList} (read : tokenize first = .ok found)
    (second : List Char) :
    ((∃ all, tokenize (first ++ '\n' :: second) = .ok all) ↔
      ∃ others, tokenize second = .ok others) ∧
    (∀ others, tokenize second = .ok others →
      tokenize (first ++ '\n' :: second) =
        .ok ⟨found.tokens ++ others.tokens.map (Token.move (byteLength first + 1 + ·)),
          byteLength first + 1 + others.stop⟩) ∧
    (∀ failure, tokenize second = .error failure →
      tokenize (first ++ '\n' :: second) =
        .error (failure.move (byteLength first + 1 + ·))) := by
  have layout := (layout_of_tokenize read).1.beforeBreak second
  have whole : tokenize (first ++ '\n' :: second) =
      (((tokenize second).map (TokenList.move (byteLength first + 1 + ·))).mapError
        (SourceFailure.move (byteLength first + 1 + ·))).map
          fun others => ⟨found.tokens ++ others.tokens, others.stop⟩ := by
    have moved := tokensFrom_move (byteLength first + 1) 0 second
    rw [tokenize, layout.tokensFrom_append, tokensFrom_break, Nat.zero_add]
    exact congrArg _ moved
  rw [whole]
  cases tokenize second with
  | ok others =>
    refine ⟨iff_of_true ⟨_, rfl⟩ ⟨_, rfl⟩, ?_, nofun⟩
    rintro _ ⟨⟩
    rfl
  | error failure =>
    refine ⟨iff_of_false nofun nofun, nofun, ?_⟩
    rintro _ ⟨⟩
    rfl

/-- A number up to its exponent mark, and a comment with a quote in it. -/
def firstLine : List Char := "é .1e # '".toList

/-- The tokens of the first line. -/
def firstTokens : List Token := [⟨.unknown 'é', ⟨0, 2⟩⟩, ⟨.number ['.', '1', 'e'], ⟨3, 6⟩⟩]

theorem tokenize_break_exponent :
    tokenize firstLine = .ok ⟨firstTokens, 10⟩ ∧
    tokenize (firstLine ++ '\n' :: ['+', '2']) =
      .ok ⟨firstTokens ++ [⟨.plus, ⟨11, 12⟩⟩, ⟨.number ['2'], ⟨12, 13⟩⟩], 13⟩ ∧
    tokenize (firstLine ++ '\n' :: ['2', '\'', 'x']) =
      .error ⟨.stringUnterminated, ⟨12, 14⟩⟩ := by
  have read : tokenize firstLine = .ok ⟨firstTokens, 10⟩ := by decide +kernel
  have sum : tokenize ['+', '2'] = .ok ⟨[⟨.plus, ⟨0, 1⟩⟩, ⟨.number ['2'], ⟨1, 2⟩⟩], 2⟩ := by
    decide +kernel
  have unclosed : tokenize ['2', '\'', 'x'] = .error ⟨.stringUnterminated, ⟨1, 3⟩⟩ := by
    decide +kernel
  exact ⟨read, (tokenize_break read ['+', '2']).2.1 _ sum,
    (tokenize_break read ['2', '\'', 'x']).2.2 _ unclosed⟩

end CallConsole
