/-
**How tokens lie in a source.**

Before, between and behind the tokens of a source stand blanks and comments. A stretch of the source
from the beginning of a token to the end of one has the same tokens when it stands alone:

* `tokensFrom_cases`: a source is laid out in tokens, or up to a string that does not end;
* `Layout.tokensFrom_append`: a text that is laid out in tokens has these tokens, in front of those
  that come after it;
* `Layout.congr`: what comes after it matters little;
* `Layout.drop`, `Layout.take`: a stretch between two boundaries is laid out in its tokens;
* `Layout.move`: further to the front, it is laid out in the same tokens, moved with it.
-/

import CallConsole.Proofs.TokenEnds

namespace CallConsole

/-- **The span cuts the source** into what stands before it, in it and behind it. -/
structure Span.Cuts (span : Span) (source before text after : List Char) : Prop where
  source_eq : source = before ++ text ++ after
  start_eq : span.start = byteLength before
  stop_eq : span.stop = byteLength (before ++ text)

/-- The first span ends before the second one begins. -/
def Span.Before (first second : Span) : Prop := first.stop ≤ second.start

/-- The span with its two offsets changed. -/
def Span.move (f : Nat → Nat) (span : Span) : Span := ⟨f span.start, f span.stop⟩

/-- The token with its span changed. -/
def Token.move (f : Nat → Nat) (token : Token) : Token := ⟨token.symbol, token.span.move f⟩

namespace Scanning

variable {offset : Nat} {c : Char} {gap word rest after after' text : List Char} {symbol : Symbol}
  {tokens : List Token}

/-! ### Texts laid out in tokens -/

/-- **The text is one token with the symbol**, wherever it stands, if what comes after it ends it as
the given text does. -/
inductive Spells (after : List Char) : List Char → Symbol → Prop
  | intro {c : Char} {cs : List Char} {symbol : Symbol} : Solid c →
      ((∀ content, symbol ≠ .string content) → c :: cs = symbol.text) →
      (∀ offset after', EndsLike after after' → scanToken offset c (cs ++ after') =
        .ok (tokenAt offset (byteLength (c :: cs)) symbol, after')) →
      Spells after (c :: cs) symbol

/-- **The text is laid out in tokens**, from an offset on and in front of what comes after it:
blanks and comments stand before and between the tokens, and behind the last one. -/
inductive Layout (after : List Char) : Nat → List Char → List Token → Prop
  | blanks {gap : List Char} (offset : Nat) : Blanks after gap → Layout after offset gap []
  | token {gap word rest : List Char} {symbol : Symbol} {tokens : List Token} (offset : Nat) :
      Blanks (word ++ (rest ++ after)) gap → Spells (rest ++ after) word symbol →
      Layout after (offset + byteLength gap + byteLength word) rest tokens →
      Layout after offset (gap ++ (word ++ rest))
        (tokenAt (offset + byteLength gap) (byteLength word) symbol :: tokens)

theorem EndsLike.trans {after'' : List Char} (first : EndsLike after after')
    (second : EndsLike after' after'') : EndsLike after after'' := by
  rcases second with same | apart
  · rcases first with same' | apart
    · exact .inl (same.trans same')
    · exact .inr fun c front => apart c (same ▸ front)
  · exact .inr apart

/-- A token is a token in front of whatever else ends it. -/
theorem Spells.congr (spells : Spells after word symbol) (like : EndsLike after after') :
    Spells after' word symbol := by
  cases spells with
  | intro solid written scans =>
    exact .intro solid written fun offset after'' like' => scans offset after'' (like.trans like')

/-- A token begins with a solid character. -/
theorem Spells.front (spells : Spells after word symbol) :
    ∃ c cs, word = c :: cs ∧ Solid c := by
  cases spells with
  | intro solid _ _ => exact ⟨_, _, rfl, solid⟩

/-- All symbols but strings are written as their text. -/
theorem Spells.eq_text (spells : Spells after word symbol)
    (noString : ∀ content, symbol ≠ .string content) : word = symbol.text := by
  cases spells with
  | intro _ written _ => exact written noString

/-- Blanks in front of the text are passed over. -/
theorem tokensFrom_append (blanks : Blanks rest gap) (offset : Nat) :
    tokensFrom offset (gap ++ rest) = tokensFrom (offset + byteLength gap) rest := by
  rw [tokensFrom.eq_def, tokensFrom.eq_def (offset + byteLength gap), skipBlanks_append blanks]

/-- The tokens of a text that begins with one. -/
theorem tokensFrom_solid (solid : Solid c) (offset : Nat) (rest : List Char) :
    tokensFrom offset (c :: rest) = (scanToken offset c rest).bind fun found =>
      (tokensFrom found.1.span.stop found.2).map fun others =>
        ⟨found.1 :: others.tokens, others.stop⟩ := by
  have skipped := skipBlanks_of_solid offset solid rest
  rw [tokensFrom.eq_def]
  split
  case h_1 stop empty =>
    rw [skipped] at empty
    cases empty
  case h_2 start c' rest' same =>
    rw [skipped] at same
    cases same
    split
    case h_1 failure failed =>
      rw [failed, Except.bind]
    case h_2 token after scanned =>
      rw [scanned, Except.bind]
      cases tokensFrom token.span.stop after with
      | error failure => rfl
      | ok others => rfl

/-- The offset behind three pieces of text. -/
theorem offset_append (offset : Nat) (gap word rest : List Char) :
    offset + byteLength (gap ++ (word ++ rest)) =
      offset + byteLength gap + byteLength word + byteLength rest := by
  rw [byteLength_append, byteLength_append]
  omega

/-- **A text that is laid out in tokens has these tokens**, in front of those that come after it. -/
theorem Layout.tokensFrom_append (layout : Layout after offset text tokens) :
    tokensFrom offset (text ++ after) = (tokensFrom (offset + byteLength text) after).map
      fun others => ⟨tokens ++ others.tokens, others.stop⟩ := by
  induction layout with
  | blanks offset blanks =>
    rw [Scanning.tokensFrom_append blanks]
    cases tokensFrom _ after <;> rfl
  | @token gap word rest symbol tokens offset blanks spells layout ih =>
    cases spells with
    | @intro c cs _ solid _ scans =>
      have scanned := scans (offset + byteLength gap) (rest ++ after) (.inl rfl)
      rw [List.append_assoc, List.append_assoc, Scanning.tokensFrom_append blanks,
        List.cons_append, tokensFrom_solid solid, scanned, offset_append]
      simp only [Except.bind, tokenAt, ih]
      cases tokensFrom _ after <;> rfl

/-- With nothing after it, the end of such a text is where it ends. -/
theorem Layout.tokensFrom_eq (layout : Layout [] offset text tokens) :
    tokensFrom offset text = .ok ⟨tokens, offset + byteLength text⟩ := by
  have all := layout.tokensFrom_append
  rwa [List.append_nil, tokensFrom_nil, Except.map, List.append_nil] at all

/-- A string that does not end is refused from its quote on. -/
theorem scanToken_error {failure : SourceFailure}
    (refused : scanToken offset c rest = .error failure) : (c = '"' ∨ c = '\'') ∧
      ∃ size, stringTail c rest = .unclosed size ∧
        failure = ⟨.stringUnterminated, ⟨offset, offset + (c.utf8Size + size)⟩⟩ := by
  unfold scanToken at refused
  split at refused
  · cases refused
  split at refused
  · cases refused
  split at refused
  case isTrue quotes =>
    split at refused
    case h_1 => cases refused
    case h_2 size read =>
      cases refused
      exact ⟨quotes, size, read, rfl⟩
  case isFalse => cases refused

/-- **Every text is laid out in tokens**, or it is up to a string that does not end. -/
theorem tokensFrom_cases (offset : Nat) (text : List Char) :
    (∃ tokens, Layout [] offset text tokens) ∨
    ∃ before quote rest tokens size, text = before ++ quote :: rest ∧
      (quote = '"' ∨ quote = '\'') ∧ Layout (quote :: rest) offset before tokens ∧
      stringTail quote rest = .unclosed size ∧
      tokensFrom offset text = .error ⟨.stringUnterminated, ⟨offset + byteLength before,
        offset + byteLength before + (quote.utf8Size + size)⟩⟩ := by
  induction shorter : text.length using Nat.strong_induction_on generalizing offset text with
  | _ size ih =>
  subst shorter
  obtain ⟨gap, rest, rfl, blanks, solid⟩ := skipBlanks_cases text
  rw [tokensFrom_append blanks]
  cases rest with
  | nil =>
    rw [List.append_nil]
    exact .inl ⟨[], .blanks offset blanks⟩
  | cons c rest =>
  have solid' := solid c rfl
  rw [tokensFrom_solid solid']
  cases scanned : scanToken (offset + byteLength gap) c rest with
  | error failure =>
    obtain ⟨quotes, size, read, rfl⟩ := scanToken_error scanned
    exact .inr ⟨gap, c, rest, [], size, rfl, quotes, .blanks offset blanks, read, rfl⟩
  | ok found =>
  obtain ⟨token, after⟩ := found
  obtain ⟨cs, symbol, rfl, rfl, written, scans⟩ := scanToken_local scanned
  have fewer : after.length < (gap ++ c :: (cs ++ after)).length := by
    simp only [List.length_append, List.length_cons]
    omega
  have spells : Spells after (c :: cs) symbol := .intro solid' written scans
  rcases ih _ fewer (offset + byteLength gap + byteLength (c :: cs)) after rfl with
    ⟨tokens, layout⟩ | ⟨before, quote, rest, tokens, size, rfl, quotes, layout, read, refused⟩
  · refine .inl ⟨tokenAt (offset + byteLength gap) (byteLength (c :: cs)) symbol :: tokens, ?_⟩
    rw [← List.append_nil after] at spells blanks
    exact .token offset blanks spells layout
  · refine .inr ⟨gap ++ (c :: cs ++ before), quote, rest, _, size, ?_, quotes,
      .token offset ?_ spells layout, read, ?_⟩
    · simp only [List.append_assoc, List.cons_append]
    · exact blanks
    · rw [offset_append]
      simp only [Except.bind, tokenAt, refused, Except.map]

/-! ### Stretches of a text -/

/-- A layout does not depend on what comes after it, as long as that is apart from its last token
and does not go on with its last comment. -/
theorem Layout.congr (layout : Layout after offset text tokens) (apart : Apart after')
    (same : ∀ gap, Blanks after gap → Blanks after' gap) : Layout after' offset text tokens := by
  induction layout with
  | blanks offset blanks => exact .blanks offset (same _ blanks)
  | @token gap word rest symbol tokens offset blanks spells layout ih =>
    refine .token offset (blanks.congr ?_) (spells.congr (EndsLike.prepend (.inr apart) rest)) ih
    obtain ⟨c, cs, rfl, -⟩ := spells.front
    rfl

/-- Blanks in front of a layout belong to it. -/
theorem Layout.prepend (blanks : Blanks (text ++ after) gap)
    (layout : Layout after (offset + byteLength gap) text tokens) :
    Layout after offset (gap ++ text) tokens := by
  cases layout with
  | blanks _ blanks' => exact .blanks offset (blanks.append blanks')
  | @token gap' word rest symbol tokens _ blanks' spells layout =>
    rw [List.append_assoc, List.append_assoc] at blanks
    have whole : Blanks (word ++ (rest ++ after)) (gap ++ gap') := blanks.append blanks'
    rw [← List.append_assoc gap gap']
    rw [Nat.add_assoc offset, ← byteLength_append] at layout ⊢
    exact .token offset whole spells layout

/-- **Behind the first tokens, the text is laid out in the others.** -/
theorem Layout.drop {front : List Token} (layout : Layout after offset text (front ++ tokens)) :
    ∃ before rest, text = before ++ rest ∧
      Layout after (offset + byteLength before) rest tokens := by
  induction front generalizing offset text with
  | nil => exact ⟨[], text, rfl, layout⟩
  | cons token front ih =>
    cases layout with
    | @token gap word rest symbol _ _ _ _ layout =>
      obtain ⟨before, rest', rfl, others⟩ := ih layout
      refine ⟨gap ++ (word ++ before), rest', by simp only [List.append_assoc], ?_⟩
      rwa [offset_append]

/-- A single token, in front of whatever ends it. -/
theorem Spells.layout (spells : Spells after word symbol) (apart : Apart after') (offset : Nat) :
    Layout after' offset word [tokenAt offset (byteLength word) symbol] := by
  have ends : Layout after' offset ([] ++ (word ++ [])) _ :=
    .token offset .nothing (spells.congr (.inr apart)) (.blanks _ .nothing)
  rwa [List.append_nil] at ends

/-- **The stretch from a token to a later one is laid out in the tokens from the one to the other**,
whatever ends it. In front of it stand blanks, and behind it the text is laid out in the tokens that
come after. -/
theorem Layout.take {first : Token} {others more : List Token}
    (layout : Layout after offset text (first :: others ++ more)) :
    ∃ gap part behind, text = gap ++ (part ++ behind) ∧ Blanks (part ++ (behind ++ after)) gap ∧
      part ≠ [] ∧ first.span.start = offset + byteLength gap ∧
      (∀ last ∈ (first :: others).getLast?,
        last.span.stop = offset + byteLength gap + byteLength part) ∧
      (∀ after', Apart after' →
        Layout after' (offset + byteLength gap) part (first :: others)) ∧
      Layout after (offset + byteLength gap + byteLength part) behind more := by
  induction others generalizing offset text first with
  | nil =>
    cases layout with
    | @token gap word rest symbol _ _ blanks spells layout =>
      obtain ⟨c, cs, rfl, solid⟩ := spells.front
      refine ⟨gap, c :: cs, rest, rfl, blanks, List.cons_ne_nil c cs, rfl, ?_,
        fun after' apart => ?_, layout⟩
      · rintro _ ⟨⟩
        rfl
      · exact spells.layout apart _
  | cons next others ih =>
    cases layout with
    | @token gap word rest symbol _ _ blanks spells layout =>
      obtain ⟨gap', part, behind, rfl, blanks', some, starts, stops, whole, layout'⟩ := ih layout
      obtain ⟨c, cs, rfl, solid⟩ := spells.front
      have sizes := offset_append (offset + byteLength gap) (c :: cs) gap' part
      refine ⟨gap, c :: cs ++ (gap' ++ part), behind, by simp only [List.append_assoc],
        by simpa only [List.append_assoc] using blanks, List.cons_ne_nil c _, rfl, ?_,
        fun after' apart => ?_, ?_⟩
      · rw [List.getLast?_cons_cons, sizes]
        exact stops
      · -- inside the stretch the first token stands in front of the same character as before
        have same : (gap' ++ part ++ after').head? = (gap' ++ (part ++ behind) ++ after).head? := by
          obtain ⟨d, part, rfl⟩ := List.exists_cons_of_ne_nil some
          cases gap' <;> rfl
        have blanks'' : Blanks (part ++ after') gap' := by
          refine blanks'.congr ?_
          obtain ⟨d, part, rfl⟩ := List.exists_cons_of_ne_nil some
          rfl
        have others := (whole after' apart).prepend blanks''
        exact .token (offset + byteLength gap) .nothing (spells.congr (.inl same)) others
      · rwa [sizes]

/-- **Further to the front, the text is laid out in the same tokens**, moved with it. -/
theorem Layout.move {there : Nat} (layout : Layout after there text tokens) {back : Nat}
    (place : back + offset = there) :
    ∃ moved, Layout after offset text moved ∧ moved.map (Token.move (back + ·)) = tokens := by
  induction layout generalizing offset with
  | blanks _ blanks => exact ⟨[], .blanks offset blanks, rfl⟩
  | @token gap word rest symbol tokens there blanks spells layout ih =>
    subst place
    have behind : back + (offset + byteLength gap + byteLength word) =
        back + offset + byteLength gap + byteLength word := by omega
    obtain ⟨moved, others, rfl⟩ := ih behind
    refine ⟨_, .token offset blanks spells others, ?_⟩
    rw [List.map_cons, Token.move, Span.move]
    simp only [tokenAt, Nat.add_assoc]

end Scanning

end CallConsole
