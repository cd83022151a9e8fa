/-
**Nothing of a source is lost in its tokens.**

The spans of the tokens cut the source between characters, one behind the other, and what they leave
out is blanks and comments:

* `Layout.cuts`, `Layout.ordered`, `Layout.gaps_blank`: the tokens of a layout, their order, and the
  bytes that they leave out;
* `tokenize_lossless`: the source divides into its tokens, up to its end or up to the quote of a
  string that does not end, and is blank exactly if there are none.
-/

import CallConsole.Proofs.Layout

namespace CallConsole

open Scanning

/-- The bytes before, between and behind tokens, from an offset on and up to a stop. -/
def gaps (offset : Nat) : List Token → Nat → List Span
  | [], stop => [⟨offset, stop⟩]
  | token :: rest, stop => ⟨offset, token.span.start⟩ :: gaps token.span.stop rest stop

/-- The spans of tokens, and the end behind them. -/
def spansUpTo (tokens : List Token) (stop : Nat) : List Span :=
  tokens.map Token.span ++ [⟨stop, stop⟩]

/-- **The token is a stretch of the source**, which is not empty. If it is no string, this stretch
is its text. -/
def Token.Cuts (source : List Char) (token : Token) : Prop :=
  ∃ before text after, token.span.Cuts source before text after ∧ text ≠ [] ∧
    ((∀ content, token.symbol ≠ .string content) → text = token.symbol.text)

/-- The bytes are a stretch of the source that holds nothing but blanks and comments. -/
def Span.IsBlank (source : List Char) (span : Span) : Prop :=
  ∃ before text after, span.Cuts source before text after ∧ Blanks after text

/-- **The source divides into the tokens**, up to a stop. -/
structure Divides (source : List Char) (tokens : List Token) (stop : Nat) : Prop where
  /-- Every token is a stretch of the source. -/
  cuts : ∀ token ∈ tokens, token.Cuts source
  /-- Every token ends before the next one begins, and before the stop. -/
  ordered : (spansUpTo tokens stop).Pairwise Span.Before
  /-- What the tokens leave out is blanks and comments. -/
  blank : ∀ gap ∈ gaps 0 tokens stop, gap.IsBlank source

variable {offset stop : Nat} {after text before : List Char} {tokens : List Token}

namespace Scanning

/-! ### The tokens of a layout -/

/-- A piece of a text cuts it. -/
theorem cuts_append (before text after : List Char) :
    Span.Cuts ⟨byteLength before, byteLength before + byteLength text⟩ (before ++ (text ++ after))
      before text after where
  source_eq := (List.append_assoc ..).symm
  start_eq := rfl
  stop_eq := (byteLength_append before text).symm

/-- Every token of a layout is a stretch of the text. -/
theorem Layout.cuts (layout : Layout after offset text tokens)
    (place : offset = byteLength before) :
    ∀ token ∈ tokens, token.Cuts (before ++ (text ++ after)) := by
  induction layout generalizing before with
  | blanks => exact List.forall_mem_nil _
  | @token gap word rest symbol tokens offset blanks spells layout ih =>
    subst place
    intro token member
    cases member with
    | head =>
      refine ⟨before ++ gap, word, rest ++ after, ?_, ?_, spells.eq_text⟩
      · have piece := cuts_append (before ++ gap) word (rest ++ after)
        simpa only [tokenAt, byteLength_append, List.append_assoc] using piece
      · obtain ⟨c, cs, rfl, -⟩ := spells.front
        exact List.cons_ne_nil c cs
    | tail _ member =>
      have place : byteLength before + byteLength gap + byteLength word =
          byteLength (before ++ (gap ++ word)) := by
        rw [byteLength_append, byteLength_append, Nat.add_assoc]
      have others := ih place token member
      simpa only [List.append_assoc] using others

/-- No token of a layout begins before the text, and the stop is behind it. -/
theorem Layout.le_start (layout : Layout after offset text tokens)
    (behind : offset + byteLength text ≤ stop) :
    ∀ span ∈ spansUpTo tokens stop, offset ≤ span.start := by
  induction layout with
  | blanks offset _ =>
    intro span member
    rw [List.mem_singleton.mp member]
    exact Nat.le_trans (Nat.le_add_right _ _) behind
  | token offset _ _ _ ih =>
    rw [offset_append] at behind
    intro span member
    cases member with
    | head => exact Nat.le_add_right _ _
    | tail _ member =>
      have later := ih behind span member
      omega

/-- The tokens of a layout lie one behind the other. -/
theorem Layout.ordered (layout : Layout after offset text tokens)
    (behind : offset + byteLength text ≤ stop) :
    (spansUpTo tokens stop).Pairwise Span.Before := by
  induction layout with
  | blanks => exact List.pairwise_singleton _ _
  | token offset _ _ layout ih =>
    rw [offset_append] at behind
    exact .cons (layout.le_start behind) (ih behind)

/-- What the tokens of a layout leave out is blanks and comments. -/
theorem Layout.gaps_blank (layout : Layout after offset text tokens)
    (place : offset = byteLength before) :
    ∀ gap ∈ gaps offset tokens (offset + byteLength text),
      gap.IsBlank (before ++ (text ++ after)) := by
  induction layout generalizing before with
  | @blanks gap _ blanks =>
    subst place
    intro span member
    rw [List.mem_singleton.mp member]
    exact ⟨before, gap, after, cuts_append before gap after, blanks⟩
  | @token gap word rest symbol tokens offset blanks spells layout ih =>
    subst place
    intro span member
    cases member with
    | head =>
      refine ⟨before, gap, word ++ (rest ++ after), ?_, blanks⟩
      rw [List.append_assoc, List.append_assoc]
      exact cuts_append before gap (word ++ (rest ++ after))
    | tail _ member =>
      rw [offset_append] at member
      have place : byteLength before + byteLength gap + byteLength word =
          byteLength (before ++ (gap ++ word)) := by
        rw [byteLength_append, byteLength_append, Nat.add_assoc]
      have others := ih place span member
      simpa only [List.append_assoc] using others

/-- **A text that is laid out in tokens divides into them.** -/
theorem Layout.divides (layout : Layout after 0 text tokens) :
    Divides (text ++ after) tokens (byteLength text) where
  cuts := by
    have start : 0 = byteLength [] := rfl
    exact layout.cuts start
  ordered := layout.ordered (Nat.le_of_eq (Nat.zero_add _))
  blank := by
    have start : 0 = byteLength [] := rfl
    have blank := layout.gaps_blank start
    rwa [Nat.zero_add] at blank

/-- A layout in front of a character that ends no line is one in front of nothing, too. -/
theorem Layout.alone {c : Char} {rest : List Char} (layout : Layout (c :: rest) offset text tokens)
    (inLine : c ≠ '\n') : Layout [] offset text tokens :=
  layout.congr forall_head?_nil fun _ blanks => blanks.of_cons inLine []

end Scanning

/-! ### The tokens of a source -/

/-- A source with tokens is laid out in them, and ends where they do. -/
theorem layout_of_tokenize {source : List Char} {found : TokenList}
    (read : tokenize source = .ok found) :
    Layout [] 0 source found.tokens ∧ found.stop = byteLength source := by
  rcases tokensFrom_cases 0 source with ⟨tokens, layout⟩ | ⟨_, _, _, _, _, _, _, _, _, refused⟩
  · have all := layout.tokensFrom_eq
    rw [Nat.zero_add] at all
    cases read.symm.trans all
    exact ⟨layout, rfl⟩
  · cases read.symm.trans refused

/-- **A source is blank exactly if it holds nothing but blanks and comments.** -/
theorem isBlankSource_iff {source : List Char} :
    isBlankSource source = true ↔ Blanks [] source := by
  unfold isBlankSource
  constructor
  · intro blank
    split at blank
    case h_2 => cases blank
    case h_1 found read =>
      have layout := (layout_of_tokenize read).1
      rw [List.isEmpty_iff.mp blank] at layout
      cases layout with
      | blanks _ blanks => exact blanks
  · intro blanks
    have all : tokenize source = _ := (Layout.blanks 0 blanks).tokensFrom_eq
    rw [all]
    rfl

/-- **Tokens lose nothing of a source.** The source divides into its tokens up to its end, and is
blank exactly if there is nothing between its ends but blanks and comments. If it is refused, a
string begins at a quote behind all that divides into tokens, and does not end. -/
theorem tokenize_lossless (source : List Char) :
    (∀ found, tokenize source = .ok found →
      found.stop = byteLength source ∧ Divides source found.tokens found.stop) ∧
    (isBlankSource source = true ↔ Blanks [] source) ∧
    (∀ failure, tokenize source = .error failure →
      failure.cause = .stringUnterminated ∧ failure.cause.kind = .token ∧
      ∃ before quote after tokens, source = before ++ quote :: after ∧
        (quote = '"' ∨ quote = '\'') ∧ failure.span.start = byteLength before ∧
        tokenize before = .ok ⟨tokens, byteLength before⟩ ∧
        Divides source tokens (byteLength before)) := by
  refine ⟨fun found read => ?_, isBlankSource_iff, fun failure refused => ?_⟩
  · obtain ⟨layout, stops⟩ := layout_of_tokenize read
    have divides := layout.divides
    rw [List.append_nil] at divides
    rw [stops]
    exact ⟨rfl, divides⟩
  · rcases tokensFrom_cases 0 source with
      ⟨tokens, layout⟩ | ⟨before, quote, after, tokens, size, rfl, quotes, layout, _, refused'⟩
    · cases refused.symm.trans layout.tokensFrom_eq
    · cases refused.symm.trans refused'
      have inLine : quote ≠ '\n' := by rcases quotes with rfl | rfl <;> decide
      have alone : tokenize before = _ := (layout.alone inLine).tokensFrom_eq
      rw [Nat.zero_add] at alone ⊢
      exact ⟨rfl, rfl, before, quote, after, tokens, rfl, quotes, rfl, alone, layout.divides⟩

/-- A list behind a comment. -/
def commentSource : List Char := "# é\n['ü',.5]".toList

/-- The tokens of the list. -/
def commentTokens : List Token :=
  [⟨.leftBracket, ⟨5, 6⟩⟩, ⟨.string ['ü'], ⟨6, 10⟩⟩, ⟨.comma, ⟨10, 11⟩⟩,
    ⟨.number ['.', '5'], ⟨11, 13⟩⟩, ⟨.rightBracket, ⟨13, 14⟩⟩]

/-- A number, a quote in a comment, and a string that does not end. -/
def openSource : List Char := "1 # '\n'é".toList

theorem tokenize_lossless_comment :
    (tokenize commentSource = .ok ⟨commentTokens, 14⟩ ∧ Divides commentSource commentTokens 14) ∧
    tokenize openSource = .error ⟨.stringUnterminated, ⟨6, 9⟩⟩ ∧
    ∃ before quote after tokens, openSource = before ++ quote :: after ∧
      (quote = '"' ∨ quote = '\'') ∧ 6 = byteLength before ∧
      tokenize before = .ok ⟨tokens, byteLength before⟩ ∧
      Divides openSource tokens (byteLength before) := by
  have read : tokenize commentSource = .ok ⟨commentTokens, 14⟩ := by decide +kernel
  have refused : tokenize openSource = .error ⟨.stringUnterminated, ⟨6, 9⟩⟩ := by decide +kernel
  exact ⟨⟨read, ((tokenize_lossless commentSource).1 _ read).2⟩, refused,
    ((tokenize_lossless openSource).2.2 _ refused).2.2⟩

end CallConsole
