/-
**Every node is read from its own bytes.**

A node of a tree takes up the bytes from the first of its tokens to the last one. These bytes alone
are read as the node, with spans that count from its beginning:

* `Forms.ends`: the span of an expression goes from its first token to its last one;
* `Forms.children`, `Forms.of_isNode`: the tokens of a node hold those of the nodes below, in order;
* `Forms.move`: moved tokens form the moved tree;
* `parse_nodes_exact`: every node of a source is cut out of it by its span.
-/

import CallConsole.Proofs.Lossless
import CallConsole.Proofs.Recognition

namespace CallConsole

/-! ### Nodes and spans of trees -/

namespace Expression

/-- The nodes right below a node, in the order of the source. -/
def children : Expression → List Expression
  | literal .. | name .. => []
  | call _ _ items | list _ items | tuple _ items => items
  | dict _ entries => entries.flatMap fun entry => [entry.1, entry.2]
  | group _ inner => [inner]

/-- The node is the root of the tree or stands somewhere below it. -/
inductive IsNode (node : Expression) : Expression → Prop
  | root : IsNode node node
  | under {e child : Expression} : child ∈ e.children → IsNode node child → IsNode node e

mutual

/-- The tree with the offsets of all its spans changed. -/
def move (f : Nat → Nat) : Expression → Expression
  | literal span value => literal (span.move f) value
  | name span word => name (span.move f) word
  | call span function items => call (span.move f) function (moveAll f items)
  | list span items => list (span.move f) (moveAll f items)
  | dict span entries => dict (span.move f) (moveEntries f entries)
  | tuple span items => tuple (span.move f) (moveAll f items)
  | group span inner => group (span.move f) (move f inner)

/-- Trees with the offsets of all their spans changed. -/
def moveAll (f : Nat → Nat) : List Expression → List Expression
  | [] => []
  | e :: es => move f e :: moveAll f es

/-- Entries with the offsets of all their spans changed. -/
def moveEntries (f : Nat → Nat) :
    List (Expression × Expression) → List (Expression × Expression)
  | [] => []
  | (k, e) :: entries => (move f k, move f e) :: moveEntries f entries

end

end Expression

open Scanning Parsing

variable {f : Nat → Nat} {tokens : List Token} {e node : Expression} {es : List Expression}
  {span : Span} {value : Literal}

/-! ### The tokens of a node -/

theorem SignedNumber.ends (number : SignedNumber tokens span value) :
    ∃ first ∈ tokens.head?, ∃ last ∈ tokens.getLast?,
      span = ⟨first.span.start, last.span.stop⟩ := by
  induction number with
  | near sign span denotes => exact ⟨_, rfl, _, rfl, rfl⟩
  | far sign number _ ih =>
    obtain ⟨_, _, last, ends, rfl⟩ := ih
    obtain ⟨negative, sign', others, rfl⟩ := number.front
    exact ⟨_, rfl, last, ends, rfl⟩

/-- **The span of an expression** goes from its first token to its last one. -/
theorem Forms.ends (forms : Forms tokens e) : ∃ first ∈ tokens.head?, ∃ last ∈ tokens.getLast?,
    e.span = ⟨first.span.start, last.span.stop⟩ := by
  cases forms with
  | signed number => exact number.ends
  | number | keyword | string | name | unit => exact ⟨_, rfl, _, rfl, rfl⟩
  | call | list | dict | group | tuple =>
    exact ⟨_, rfl, _, List.getLast?_concat, rfl⟩

/-- The pieces occur in the tokens in their order, without overlap. -/
inductive Embeds : List (List Token) → List Token → Prop
  | nothing (tokens : List Token) : Embeds [] tokens
  | piece {pieces : List (List Token)} {rest : List Token} (gap piece : List Token) :
      Embeds pieces rest → Embeds (piece :: pieces) (gap ++ (piece ++ rest))

/-- More tokens may come before and behind. -/
theorem Embeds.between {pieces : List (List Token)} (embeds : Embeds pieces tokens)
    (before after : List Token) : Embeds pieces (before ++ (tokens ++ after)) := by
  induction embeds generalizing before with
  | nothing => exact .nothing _
  | @piece pieces rest gap piece embeds ih =>
    have inner := Embeds.piece (before ++ gap) piece (ih [])
    simpa only [List.append_assoc, List.nil_append] using inner

/-- Pieces of one stretch of tokens, and pieces of one that comes later. -/
theorem Embeds.append {pieces more : List (List Token)} {others : List Token}
    (embeds : Embeds pieces tokens) (embeds' : Embeds more others) :
    Embeds (pieces ++ more) (tokens ++ others) := by
  induction embeds with
  | nothing tokens =>
    have whole := embeds'.between tokens []
    rwa [List.append_nil] at whole
  | piece gap piece _ ih =>
    rw [List.append_assoc, List.append_assoc]
    exact .piece gap piece ih

theorem Embeds.isInfix {pieces : List (List Token)} {piece : List Token}
    (embeds : Embeds pieces tokens) (member : piece ∈ pieces) : piece <:+: tokens := by
  induction embeds with
  | nothing => cases member
  | piece gap first embeds ih =>
    cases member with
    | head => exact ⟨gap, _, List.append_assoc ..⟩
    | tail _ member =>
      rw [← List.append_assoc]
      exact (ih member).trans (List.suffix_append _ _).isInfix

/-- Stretches of the tokens form the expressions, in order and without overlap. -/
def FormsWithin (tokens : List Token) (es : List Expression) : Prop :=
  ∃ pieces, List.Forall₂ Forms pieces es ∧ Embeds pieces tokens

theorem FormsWithin.nothing (tokens : List Token) : FormsWithin tokens [] :=
  ⟨[], .nil, .nothing tokens⟩

theorem Forms.within (forms : Forms tokens e) : FormsWithin tokens [e] := by
  have alone := Embeds.piece [] tokens (.nothing [])
  rw [List.append_nil] at alone
  exact ⟨[tokens], .cons forms .nil, alone⟩

theorem FormsWithin.between (within : FormsWithin tokens es) (before after : List Token) :
    FormsWithin (before ++ (tokens ++ after)) es := by
  obtain ⟨pieces, forms, embeds⟩ := within
  exact ⟨pieces, forms, embeds.between before after⟩

theorem FormsWithin.append {others : List Token} {es' : List Expression}
    (within : FormsWithin tokens es) (within' : FormsWithin others es') :
    FormsWithin (tokens ++ others) (es ++ es') := by
  obtain ⟨pieces, forms, embeds⟩ := within
  obtain ⟨more, forms', embeds'⟩ := within'
  exact ⟨pieces ++ more, List.rel_append forms forms', embeds.append embeds'⟩

theorem FormsSeries.within {tokens : List Token} {es : List Expression}
    (series : FormsSeries tokens es) : FormsWithin tokens es := by
  cases series with
  | single forms => exact forms.within
  | more comma forms series =>
    have others := (FormsSeries.within series).between [⟨.comma, comma⟩] []
    rw [List.append_nil] at others
    exact forms.within.append others

theorem FormsItems.within (items : FormsItems tokens es) : FormsWithin tokens es := by
  cases items with
  | nothing => exact .nothing []
  | series series => exact series.within
  | trailing comma series => exact series.within.between [] [⟨.comma, comma⟩]

theorem FormsPairs.within {tokens : List Token} {pairs : List (Expression × Expression)}
    (forms : FormsPairs tokens pairs) :
    FormsWithin tokens (pairs.flatMap fun entry => [entry.1, entry.2]) := by
  cases forms with
  | single colon key value =>
    have behind := value.within.between [⟨.colon, colon⟩] []
    rw [List.append_nil] at behind
    exact key.within.append behind
  | more colon comma key value pairs =>
    have behind := value.within.between [⟨.colon, colon⟩] []
    have others := (FormsPairs.within pairs).between [⟨.comma, comma⟩] []
    rw [List.append_nil] at behind others
    exact (key.within.append behind).append others

theorem FormsEntries.within {pairs : List (Expression × Expression)}
    (entries : FormsEntries tokens pairs) :
    FormsWithin tokens (pairs.flatMap fun entry => [entry.1, entry.2]) := by
  cases entries with
  | nothing => exact .nothing []
  | series series => exact series.within
  | trailing comma series => exact series.within.between [] [⟨.comma, comma⟩]

/-- **The tokens of a node hold those of the nodes below it**, in order. -/
theorem Forms.children (forms : Forms tokens e) : FormsWithin tokens e.children := by
  cases forms with
  | number | signed | keyword | string | name | unit => exact .nothing _
  | @call tokens _ name span opening closing items =>
    exact items.within.between [⟨.identifier name, span⟩, ⟨.leftParen, opening⟩] [_]
  | list opening closing items => exact items.within.between [⟨.leftBracket, opening⟩] [_]
  | dict opening closing entries => exact entries.within.between [⟨.leftBrace, opening⟩] [_]
  | group opening closing inner => exact inner.within.between [⟨.leftParen, opening⟩] [_]
  | tuple opening comma closing inner items =>
    have others := items.within.between [⟨.comma, comma⟩] []
    rw [List.append_nil] at others
    exact (inner.within.append others).between [⟨.leftParen, opening⟩] [_]

/-- Every expression that is formed within tokens is formed by a stretch of them. -/
theorem FormsWithin.exists_infix (within : FormsWithin tokens es) (member : e ∈ es) :
    ∃ piece, piece <:+: tokens ∧ Forms piece e := by
  obtain ⟨pieces, forms, embeds⟩ := within
  obtain ⟨i, bound, rfl⟩ := List.mem_iff_getElem.mp member
  have place : i < pieces.length := forms.length_eq ▸ bound
  exact ⟨pieces[i], embeds.isInfix (List.getElem_mem place), forms.get place bound⟩

/-- **Every node of a tree is formed by a stretch of its tokens.** -/
theorem Forms.of_isNode (forms : Forms tokens e) (isNode : node.IsNode e) :
    ∃ piece, piece <:+: tokens ∧ Forms piece node := by
  induction isNode generalizing tokens with
  | root => exact ⟨tokens, List.infix_refl tokens, forms⟩
  | under member _ ih =>
    obtain ⟨piece, inside, forms'⟩ := forms.children.exists_infix member
    obtain ⟨piece', inside', forms''⟩ := ih forms'
    exact ⟨piece', inside'.trans inside, forms''⟩

/-! ### The order of the nodes -/

/-- No token ends before it begins, and every one ends before the next one begins. -/
structure InOrder (tokens : List Token) : Prop where
  start_le_stop : ∀ token ∈ tokens, token.span.start ≤ token.span.stop
  ordered : tokens.Pairwise fun first second => first.span.Before second.span

theorem InOrder.isInfix {piece : List Token} (order : InOrder tokens) (inside : piece <:+: tokens) :
    InOrder piece :=
  ⟨fun token member => order.start_le_stop token (inside.mem member),
    order.ordered.sublist inside.sublist⟩

/-- No token begins before the first one. -/
theorem InOrder.start_le {first token : Token} (order : InOrder tokens)
    (head : first ∈ tokens.head?) (member : token ∈ tokens) :
    first.span.start ≤ token.span.start := by
  obtain ⟨others, rfl⟩ := List.head?_eq_some_iff.mp head
  cases member with
  | head => exact Nat.le_refl _
  | tail _ member =>
    have after := (List.pairwise_cons.mp order.ordered).1 token member
    exact Nat.le_trans (order.start_le_stop first List.mem_cons_self) after

/-- No token ends behind the last one. -/
theorem InOrder.le_stop {last token : Token} (order : InOrder tokens)
    (ends : last ∈ tokens.getLast?) (member : token ∈ tokens) :
    token.span.stop ≤ last.span.stop := by
  obtain ⟨others, rfl⟩ := List.getLast?_eq_some_iff.mp ends
  rcases List.mem_append.mp member with member | member
  · have before := (List.pairwise_append.mp order.ordered).2.2 token member last
      List.mem_cons_self
    have inside := List.mem_append_right others (List.mem_cons_self (a := last) (l := []))
    exact Nat.le_trans before (order.start_le_stop last inside)
  · rw [List.mem_singleton.mp member]

/-- **What a stretch of the tokens of an expression forms lies inside of its span.** -/
theorem Forms.span_le {piece : List Token} (order : InOrder tokens) (forms : Forms tokens e)
    (inside : piece <:+: tokens) (forms' : Forms piece node) :
    e.span.start ≤ node.span.start ∧ node.span.stop ≤ e.span.stop := by
  obtain ⟨first, head, last, ends, span⟩ := forms.ends
  obtain ⟨first', head', last', ends', span'⟩ := forms'.ends
  rw [span, span']
  exact ⟨order.start_le head (inside.mem (List.mem_of_mem_head? head')),
    order.le_stop ends (inside.mem (List.mem_of_mem_getLast? ends'))⟩

/-- **What is formed within tokens in order lies in order.** -/
theorem FormsWithin.pairwise (within : FormsWithin tokens es) (order : InOrder tokens) :
    es.Pairwise fun first second => first.span.Before second.span := by
  obtain ⟨pieces, forms, embeds⟩ := within
  induction embeds generalizing es with
  | nothing =>
    cases forms
    exact .nil
  | @piece pieces rest gap piece embeds ih =>
    cases forms with
    | @cons _ e _ es forms others =>
      have behind : InOrder (piece ++ rest) := order.isInfix (List.suffix_append gap _).isInfix
      refine .cons (fun e' member => ?_)
        (ih (behind.isInfix (List.suffix_append ..).isInfix) others)
      obtain ⟨piece', inside, forms'⟩ := FormsWithin.exists_infix ⟨pieces, others, embeds⟩ member
      obtain ⟨_, _, last, ends, span⟩ := forms.ends
      obtain ⟨first, head, _, _, span'⟩ := forms'.ends
      rw [span, span']
      exact (List.pairwise_append.mp behind.ordered).2.2 last (List.mem_of_mem_getLast? ends) first
        (inside.mem (List.mem_of_mem_head? head))

/-! ### Moved trees -/

/-- Moved tokens of a number behind signs. -/
theorem SignedNumber.move (f : Nat → Nat) (number : SignedNumber tokens span value) :
    SignedNumber (tokens.map (Token.move f)) (span.move f) value := by
  induction number with
  | near sign span denotes => exact .near (sign.move f) (span.move f) denotes
  | far sign _ turns ih => exact .far (sign.move f) ih turns

mutual

/-- **Moved tokens form the moved tree.** -/
theorem Forms.move {tokens : List Token} {e : Expression} (f : Nat → Nat) :
    Forms tokens e → Forms (tokens.map (Token.move f)) (e.move f)
  | .number span denotes => .number (span.move f) denotes
  | .signed number => .signed (number.move f)
  | .keyword word span => .keyword word (span.move f)
  | .string content span => .string content (span.move f)
  | .name name span => .name name (span.move f)
  | .call name span opening closing items => by
    rw [List.map_append]
    exact .call name (span.move f) (opening.move f) (closing.move f) (items.move f)
  | .list opening closing items => by
    rw [List.map_append]
    exact .list (opening.move f) (closing.move f) (items.move f)
  | .dict opening closing entries => by
    rw [List.map_append]
    exact .dict (opening.move f) (closing.move f) (entries.move f)
  | .unit opening closing => .unit (opening.move f) (closing.move f)
  | .group opening closing inner => by
    rw [List.map_append]
    exact .group (opening.move f) (closing.move f) (inner.move f)
  | .tuple opening comma closing inner items => by
    rw [List.map_append, List.map_cons, List.map_append]
    exact .tuple (opening.move f) (comma.move f) (closing.move f) (inner.move f) (items.move f)

theorem FormsItems.move {tokens : List Token} {es : List Expression} (f : Nat → Nat) :
    FormsItems tokens es → FormsItems (tokens.map (Token.move f)) (Expression.moveAll f es)
  | .nothing => .nothing
  | .series series => .series (series.move f)
  | .trailing comma series => by
    rw [List.map_append]
    exact .trailing (comma.move f) (series.move f)

theorem FormsSeries.move {tokens : List Token} {es : List Expression} (f : Nat → Nat) :
    FormsSeries tokens es → FormsSeries (tokens.map (Token.move f)) (Expression.moveAll f es)
  | .single forms => .single (forms.move f)
  | .more comma forms series => by
    rw [List.map_append]
    exact .more (comma.move f) (forms.move f) (series.move f)

theorem FormsEntries.move {tokens : List Token} {pairs : List (Expression × Expression)}
    (f : Nat → Nat) : FormsEntries tokens pairs →
      FormsEntries (tokens.map (Token.move f)) (Expression.moveEntries f pairs)
  | .nothing => .nothing
  | .series series => .series (series.move f)
  | .trailing comma series => by
    rw [List.map_append]
    exact .trailing (comma.move f) (series.move f)

theorem FormsPairs.move {tokens : List Token} {pairs : List (Expression × Expression)}
    (f : Nat → Nat) : FormsPairs tokens pairs →
      FormsPairs (tokens.map (Token.move f)) (Expression.moveEntries f pairs)
  | .single colon key value => by
    rw [List.map_append]
    exact .single (colon.move f) (key.move f) (value.move f)
  | .more colon comma key value pairs => by
    rw [List.map_append, List.map_append]
    exact .more (colon.move f) (comma.move f) (key.move f) (value.move f) (pairs.move f)

end

/-! ### Nodes cut out of the source -/

/-- The tokens of a layout lie in order. -/
theorem Scanning.Layout.inOrder {after text : List Char} {offset : Nat}
    (layout : Layout after offset text tokens) : InOrder tokens where
  start_le_stop := by
    induction layout with
    | blanks => exact List.forall_mem_nil _
    | token offset _ _ _ ih => exact List.forall_mem_cons.mpr ⟨Nat.le_add_right _ _, ih⟩
  ordered := by
    have ordered := layout.ordered (Nat.le_refl _)
    exact List.pairwise_map.mp (List.pairwise_append.mp ordered).1

/-- A text that is laid out in the tokens of a tree is read as the tree. -/
theorem parse_of_layout {text : List Char} (layout : Layout [] 0 text tokens)
    (forms : Forms tokens e) : parse text = .ok e :=
  (parse_eq_ok_iff layout.tokensFrom_eq).mpr ((takes_iff _).mpr forms)

/-- **A tree takes up the text from its first token to its last one**, and this text alone is read
as the tree, with spans that count from its beginning. -/
theorem Scanning.Layout.cut {text : List Char} {offset : Nat} {back : List Token}
    (layout : Layout [] offset text (tokens ++ back)) (forms : Forms tokens e) :
    ∃ gap part behind, text = gap ++ (part ++ behind) ∧ part ≠ [] ∧
      e.span = ⟨offset + byteLength gap, offset + byteLength gap + byteLength part⟩ ∧
      Blanks (part ++ behind) gap ∧
      Layout [] (offset + byteLength gap + byteLength part) behind back ∧
      ∃ alone, parse part = .ok alone ∧ alone.move (e.span.start + ·) = e := by
  obtain ⟨first, others, rfl, -⟩ := forms.front
  obtain ⟨gap, part, behind, rfl, blanks, some, starts, stops, inside, rest⟩ := layout.take
  obtain ⟨_, ⟨⟩, last, ends, span⟩ := forms.ends
  rw [starts, stops last ends] at span
  rw [List.append_nil] at blanks
  refine ⟨gap, part, behind, rfl, some, span, blanks, rest, ?_⟩
  have apart : Apart [] := forall_head?_nil
  obtain ⟨moved, layout', same⟩ := (inside [] apart).move (Nat.add_zero _)
  -- moving the tokens to the front and back again leaves them as they are
  have unmoved : (first :: others).map (Token.move (· - (offset + byteLength gap))) = moved := by
    rw [← same, List.map_map]
    conv_rhs => rw [← List.map_id moved]
    refine List.map_congr_left fun token _ => ?_
    simp only [Function.comp_apply, Token.move, Span.move, Nat.add_sub_cancel_left, id_eq]
  have forms' := forms.move (· - (offset + byteLength gap))
  rw [unmoved] at forms'
  have again := forms'.move (offset + byteLength gap + ·)
  rw [same] at again
  rw [span]
  exact ⟨_, parse_of_layout layout' forms', Parsing.Forms.unique again forms⟩

/-- A source that is read as a tree is laid out in tokens that form it. -/
theorem layout_of_parse {source : List Char} (parsed : parse source = .ok e) :
    ∃ tokens, Layout [] 0 source tokens ∧ Forms tokens e := by
  cases scanned : tokenize source with
  | error failure =>
    unfold parse at parsed
    rw [scanned] at parsed
    cases parsed
  | ok found =>
    exact ⟨found.tokens, (layout_of_tokenize scanned).1,
      (takes_iff _).mp ((parse_eq_ok_iff scanned).mp parsed)⟩

/-- **The spans of a tree are exact.** The root takes up all of the source but blanks and comments
at its two ends. Every node takes up a stretch of the source, which is read alone as this node, with
spans that count from its beginning. The nodes below a node lie inside of it, one behind the
other. -/
theorem parse_nodes_exact {source : List Char} {root : Expression}
    (parsed : parse source = .ok root) :
    (∃ before text after, root.span.Cuts source before text after ∧
      Blanks (text ++ after) before ∧ Blanks [] after) ∧
    ∀ node, node.IsNode root →
      (∃ before text after, node.span.Cuts source before text after ∧ text ≠ [] ∧
        ∃ alone, parse text = .ok alone ∧ alone.move (node.span.start + ·) = node) ∧
      (∀ child ∈ node.children,
        node.span.start ≤ child.span.start ∧ child.span.stop ≤ node.span.stop) ∧
      node.children.Pairwise fun first second => first.span.Before second.span := by
  obtain ⟨tokens, layout, forms⟩ := layout_of_parse parsed
  refine ⟨?_, fun node isNode => ?_⟩
  · rw [← List.append_nil tokens] at layout
    obtain ⟨gap, part, behind, rfl, some, span, blanks, rest, -⟩ := layout.cut forms
    rw [Nat.zero_add] at span
    cases rest with
    | blanks _ blanks' =>
      exact ⟨gap, part, behind, span ▸ cuts_append gap part behind, blanks, blanks'⟩
  · obtain ⟨piece, ⟨front, back, rfl⟩, forms'⟩ := forms.of_isNode isNode
    have order : InOrder piece := layout.inOrder.isInfix ⟨front, back, rfl⟩
    refine ⟨?_, fun child member => ?_, forms'.children.pairwise order⟩
    · rw [List.append_assoc] at layout
      obtain ⟨before, rest, rfl, layout'⟩ := layout.drop
      obtain ⟨gap, part, behind, rfl, some, span, _, _, alone⟩ := layout'.cut forms'
      refine ⟨before ++ gap, part, behind, ?_, some, alone⟩
      have piece := cuts_append (before ++ gap) part behind
      rw [Nat.zero_add, ← byteLength_append] at span
      rw [span, ← List.append_assoc]
      exact piece
    · obtain ⟨piece', inside, forms''⟩ := forms'.children.exists_infix member
      exact forms'.span_le order inside forms''

/-- A list with a signed number and a tuple in it, between comments. -/
def tupleSource : List Char := "#é\n[-1,('ü',)] #".toList

/-- The tokens of the list. -/
def tupleTokens : List Token :=
  [⟨.leftBracket, ⟨4, 5⟩⟩, ⟨.minus, ⟨5, 6⟩⟩, ⟨.number ['1'], ⟨6, 7⟩⟩, ⟨.comma, ⟨7, 8⟩⟩,
    ⟨.leftParen, ⟨8, 9⟩⟩, ⟨.string ['ü'], ⟨9, 13⟩⟩, ⟨.comma, ⟨13, 14⟩⟩, ⟨.rightParen, ⟨14, 15⟩⟩,
    ⟨.rightBracket, ⟨15, 16⟩⟩]

/-- The tuple in the list. -/
def innerTuple : Expression := .tuple ⟨8, 15⟩ [.literal ⟨9, 13⟩ (.str ['ü'])]

/-- The tree of the list. -/
def tupleExpression : Expression := .list ⟨4, 16⟩ [.literal ⟨5, 7⟩ (.int (-1)), innerTuple]

theorem forms_tupleExpression : Forms tupleTokens tupleExpression := by
  have one : Numeral.Denotes true ['1'] (.int (-1)) :=
    .int (by decide) (List.all_eq_true.mp rfl) (by decide)
  have number : SignedNumber [⟨.minus, ⟨5, 6⟩⟩, ⟨.number ['1'], ⟨6, 7⟩⟩] ⟨5, 7⟩ (.int (-1)) :=
    .near ⟨5, 6⟩ ⟨6, 7⟩ one
  have tuple : Forms _ innerTuple :=
    .tuple ⟨8, 9⟩ ⟨13, 14⟩ ⟨14, 15⟩ (.string ['ü'] ⟨9, 13⟩) .nothing
  exact .list ⟨4, 5⟩ ⟨15, 16⟩ (.series (.more ⟨7, 8⟩ (.signed number) (.single tuple)))

theorem parse_nodes_exact_tuple : parse tupleSource = .ok tupleExpression ∧
    ∃ before text after, innerTuple.span.Cuts tupleSource before text after ∧ text ≠ [] ∧
      ∃ alone, parse text = .ok alone ∧ alone.move (innerTuple.span.start + ·) = innerTuple := by
  have scanned : tokenize tupleSource = .ok ⟨tupleTokens, 18⟩ := by decide +kernel
  have parsed : parse tupleSource = .ok tupleExpression :=
    (parse_eq_ok_iff scanned).mpr ((takes_iff _).mpr forms_tupleExpression)
  have isNode : innerTuple.IsNode tupleExpression :=
    .under (List.mem_cons_of_mem _ List.mem_cons_self) .root
  exact ⟨parsed, ((parse_nodes_exact parsed).2 innerTuple isNode).1⟩

end CallConsole
