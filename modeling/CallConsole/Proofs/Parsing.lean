/-
**Reading the tokens of a tree.**

What one reading function does is said without the spans of the nodes and without the proofs that
tokens were taken: the tokens that are left are a list, and the expression read is one that yields
the tree.

* `expression_list`, `expression_tuple`, … : how an expression is put together from its parts;
* `items_reads`, `entries_reads`: sequences of expressions are read up to their closing token;
* `reads_tree`: tokens with the symbols of a readable tree are read as an expression that yields it.
-/

import CallConsole.Proofs.Evaluation
import CallConsole.Proofs.Scanning

namespace CallConsole

namespace Parsing

open Console Scanning

/-! ### Literals -/

/-- An expression is read from the front of the tokens, and the given ones are left. -/
def Takes (stop : Nat) (tokens rest : List Token) (e : Expression) : Prop :=
  ∃ after, expression stop tokens = .ok (e, after) ∧ after.1 = rest

/-- Expressions are read up to the given tokens. -/
def TakesItems (stop : Nat) (closing : Symbol) (tokens rest : List Token) (es : List Expression) :
    Prop :=
  ∃ after, items stop closing tokens = .ok (es, after) ∧ after.1 = rest

/-- Entries are read up to the given tokens. -/
def TakesEntries (stop : Nat) (tokens rest : List Token) (pairs : List (Expression × Expression)) :
    Prop :=
  ∃ after, entries stop tokens = .ok (pairs, after) ∧ after.1 = rest

variable {stop : Nat} {span span' : Span} {token close : Token} {tokens rest more : List Token}
  {e k : Expression} {es : List Expression} {pairs : List (Expression × Expression)}

theorem expression_keyword (stop : Nat) (span : Span) (word : Keyword) (rest : List Token) :
    Takes stop (⟨.keyword word, span⟩ :: rest) rest (.literal span (keywordLiteral word)) := by
  unfold Takes
  rw [expression]
  exact ⟨_, rfl, rfl⟩

theorem expression_string (stop : Nat) (span : Span) (content : List Char) (rest : List Token) :
    Takes stop (⟨.string content, span⟩ :: rest) rest (.literal span (.str content)) := by
  unfold Takes
  rw [expression]
  exact ⟨_, rfl, rfl⟩

theorem expression_number {text : List Char} {value : Literal}
    (number : numberLiteral? false text = some value) :
    Takes stop (⟨.number text, span⟩ :: rest) rest (.literal ⟨span.start, span.stop⟩ value) := by
  unfold Takes
  rw [expression, readNumber, number]
  exact ⟨_, rfl, rfl⟩

/-- A number is read together with the minus in front of it. -/
theorem expression_minus {text : List Char} {value : Literal}
    (number : numberLiteral? true text = some value) :
    Takes stop (⟨.minus, span⟩ :: ⟨.number text, span'⟩ :: rest) rest
      (.literal ⟨span.start, span'.stop⟩ value) := by
  unfold Takes
  rw [expression, signed, readNumber, number]
  exact ⟨_, rfl, rfl⟩

/-- **The digits of an integer, read with its sign, denote the integer.** -/
theorem numberLiteral?_digits (n : Integer) :
    numberLiteral? (decide (n.toInt < 0)) (Nat.toDigits 10 n.toInt.natAbs) = some (.int n) := by
  have digits : ∀ c ∈ Nat.toDigits 10 n.toInt.natAbs, c.isDigit = true :=
    fun c member => Nat.isDigit_of_mem_toDigits (by decide) (by decide) member
  have plain : (Nat.toDigits 10 n.toInt.natAbs).filter (· ≠ '_') =
      Nat.toDigits 10 n.toInt.natAbs := by
    apply List.filter_eq_self.mpr
    intro c member
    refine decide_eq_true fun same => ?_
    have digit := digits c member
    rw [same] at digit
    cases digit
  have whole : ((Nat.toDigits 10 n.toInt.natAbs).any
      fun c => c = '.' || c = 'e' || c = 'E') = false := by
    apply List.any_eq_false.mpr
    intro c member mark
    have digit := digits c member
    simp only [Bool.or_eq_true, decide_eq_true_eq] at mark
    rcases mark with (rfl | rfl) | rfl <;> cases digit
  have digitsOnly : ((Nat.toDigits 10 n.toInt.natAbs).isEmpty ||
      !(Nat.toDigits 10 n.toInt.natAbs).all Char.isDigit) = false := by
    rw [List.all_eq_true.mpr digits, Bool.or_eq_false_iff]
    exact ⟨List.isEmpty_eq_false_iff.mpr Nat.toDigits_ne_nil, rfl⟩
  have value : (if decide (n.toInt < 0) = true then -(n.toInt.natAbs : Int) else n.toInt.natAbs) =
      n.toInt := by
    split
    case isTrue negative =>
      have negative := of_decide_eq_true negative
      omega
    case isFalse positive =>
      have positive := of_decide_eq_false (Bool.eq_false_iff.mpr positive)
      omega
  unfold numberLiteral?
  simp only [plain, whole, digitsOnly, Bool.false_eq_true, if_false]
  rw [Decimal.ofDigits, Nat.ofDigitChars_ten_toDigits, value, Integer.ofInt?_toInt]
  rfl

/-! ### Displays and calls -/

theorem expect_of_symbol (stop : Nat) {symbol : Symbol} (cause : Cause)
    (same : close.symbol = symbol) (rest : List Token) :
    expect stop symbol cause (close :: rest) =
      .ok (close.span.stop, ⟨rest, Nat.lt_succ_self _⟩) := by
  rw [expect, if_pos same]

theorem expression_list (symbol : close.symbol = .rightBracket)
    (read : TakesItems stop .rightBracket tokens (close :: rest) es) :
    Takes stop (⟨.leftBracket, span⟩ :: tokens) rest (.list ⟨span.start, close.span.stop⟩ es) := by
  obtain ⟨⟨_, notLonger⟩, read, rfl⟩ := read
  unfold Takes
  rw [expression, read]
  simp only [expect_of_symbol stop .listUnclosed symbol]
  exact ⟨_, rfl, rfl⟩

theorem expression_dict (symbol : close.symbol = .rightBrace)
    (read : TakesEntries stop tokens (close :: rest) pairs) :
    Takes stop (⟨.leftBrace, span⟩ :: tokens) rest (.dict ⟨span.start, close.span.stop⟩ pairs) := by
  obtain ⟨⟨_, notLonger⟩, read, rfl⟩ := read
  unfold Takes
  rw [expression, read]
  simp only [expect_of_symbol stop .dictUnclosed symbol]
  exact ⟨_, rfl, rfl⟩

theorem expression_call {name : List Char} (symbol : close.symbol = .rightParen)
    (read : TakesItems stop .rightParen tokens (close :: rest) es) :
    Takes stop (⟨.identifier name, span⟩ :: ⟨.leftParen, span'⟩ :: tokens) rest
      (.call ⟨span.start, close.span.stop⟩ (String.ofList name) es) := by
  obtain ⟨⟨_, notLonger⟩, read, rfl⟩ := read
  unfold Takes
  rw [expression, read]
  simp only [expect_of_symbol stop .argumentsUnclosed symbol]
  exact ⟨_, rfl, rfl⟩

theorem expression_unit (stop : Nat) (span span' : Span) (rest : List Token) :
    Takes stop (⟨.leftParen, span⟩ :: ⟨.rightParen, span'⟩ :: rest) rest
      (.tuple ⟨span.start, span'.stop⟩ []) := by
  unfold Takes
  rw [expression]
  exact ⟨_, rfl, rfl⟩

/-- A comma behind the first expression makes a tuple. -/
theorem expression_tuple (symbol : close.symbol = .rightParen)
    (opens : ∀ t ∈ tokens.head?, t.symbol ≠ .rightParen)
    (first : Takes stop tokens (⟨.comma, span'⟩ :: more) e)
    (read : TakesItems stop .rightParen more (close :: rest) es) :
    Takes stop (⟨.leftParen, span⟩ :: tokens) rest
      (.tuple ⟨span.start, close.span.stop⟩ (e :: es)) := by
  obtain ⟨⟨_, shorter⟩, first, rfl⟩ := first
  obtain ⟨⟨_, notLonger⟩, read, rfl⟩ := read
  unfold Takes
  rw [expression, first]
  · simp only [read, expect_of_symbol stop .tupleUnclosed symbol]
    exact ⟨_, rfl, rfl⟩
  · rintro span'' rest' rfl
    exact opens _ rfl rfl

/-! ### Sequences -/

theorem items_nil {closing : Symbol} (symbol : close.symbol = closing) :
    TakesItems stop closing (close :: rest) (close :: rest) [] := by
  unfold TakesItems
  rw [items, if_pos symbol]
  exact ⟨_, rfl, rfl⟩

theorem items_last {closing : Symbol} (opens : token.symbol ≠ closing)
    (last : Takes stop (token :: tokens) (close :: rest) e) (symbol : close.symbol ≠ .comma) :
    TakesItems stop closing (token :: tokens) (close :: rest) [e] := by
  obtain ⟨⟨_, shorter⟩, last, rfl⟩ := last
  unfold TakesItems
  rw [items, if_neg opens, last]
  obtain ⟨mark, span⟩ := close
  cases mark <;> first | exact absurd rfl symbol | exact ⟨_, rfl, rfl⟩

theorem items_cons {closing : Symbol} (opens : token.symbol ≠ closing)
    (first : Takes stop (token :: tokens) (⟨.comma, span⟩ :: more) e)
    (others : TakesItems stop closing more rest es) :
    TakesItems stop closing (token :: tokens) rest (e :: es) := by
  obtain ⟨⟨_, shorter⟩, first, rfl⟩ := first
  obtain ⟨⟨_, notLonger⟩, others, rfl⟩ := others
  unfold TakesItems
  rw [items, if_neg opens, first]
  simp only [others]
  exact ⟨_, rfl, rfl⟩

theorem entries_nil (symbol : close.symbol = .rightBrace) :
    TakesEntries stop (close :: rest) (close :: rest) [] := by
  unfold TakesEntries
  rw [entries, if_pos symbol]
  exact ⟨_, rfl, rfl⟩

theorem entries_last {behind : List Token} (opens : token.symbol ≠ .rightBrace)
    (key : Takes stop (token :: tokens) (⟨.colon, span⟩ :: behind) k)
    (value : Takes stop behind (close :: rest) e) (symbol : close.symbol ≠ .comma) :
    TakesEntries stop (token :: tokens) (close :: rest) [(k, e)] := by
  obtain ⟨⟨_, shorter⟩, key, rfl⟩ := key
  obtain ⟨⟨_, shorter'⟩, value, rfl⟩ := value
  unfold TakesEntries
  rw [entries, if_neg opens, key]
  have colon : expect stop .colon .colonMissing (⟨.colon, span⟩ :: behind) = _ :=
    expect_of_symbol stop .colonMissing rfl behind
  simp only [colon, value]
  obtain ⟨mark, span⟩ := close
  cases mark <;> first | exact absurd rfl symbol | exact ⟨_, rfl, rfl⟩

theorem entries_cons {behind : List Token} (opens : token.symbol ≠ .rightBrace)
    (key : Takes stop (token :: tokens) (⟨.colon, span⟩ :: behind) k)
    (value : Takes stop behind (⟨.comma, span'⟩ :: more) e)
    (others : TakesEntries stop more rest pairs) :
    TakesEntries stop (token :: tokens) rest ((k, e) :: pairs) := by
  obtain ⟨⟨_, shorter⟩, key, rfl⟩ := key
  obtain ⟨⟨_, shorter'⟩, value, rfl⟩ := value
  obtain ⟨⟨_, notLonger⟩, others, rfl⟩ := others
  unfold TakesEntries
  rw [entries, if_neg opens, key]
  have colon : expect stop .colon .colonMissing (⟨.colon, span⟩ :: behind) = _ :=
    expect_of_symbol stop .colonMissing rfl behind
  simp only [colon, value, others]
  exact ⟨_, rfl, rfl⟩

/-! ### Trees -/

/-- Tokens with the symbols of the tree are read as an expression that yields it, whatever comes
after them. No closing symbol is at their front. -/
structure Reads (t : Tree) : Prop where
  opens : ∃ symbol symbols, t.symbols = symbol :: symbols ∧
    symbol ∉ [.rightParen, .rightBracket, .rightBrace]
  takes : ∀ stop tokens rest, tokens.map Token.symbol = t.symbols →
    ∃ e, Takes stop (tokens ++ rest) rest e ∧ Yields e t

/-- Tokens that are read begin with one that closes nothing. -/
theorem Reads.front {t : Tree} (reads : Reads t) (same : tokens.map Token.symbol = t.symbols) :
    ∃ first others, tokens = first :: others ∧
      first.symbol ∉ [.rightParen, .rightBracket, .rightBrace] := by
  obtain ⟨symbol, symbols, whole, opens⟩ := reads.opens
  rw [whole] at same
  obtain ⟨first, others, rfl, rfl, _⟩ := List.map_eq_cons_iff.mp same
  exact ⟨first, others, rfl, opens⟩

/-- Tokens with the symbols of two pieces and a mark between them fall apart there. -/
theorem exists_split {symbol : Symbol} {first second : List Symbol}
    (same : tokens.map Token.symbol = first ++ symbol :: second) :
    ∃ front span behind, tokens = front ++ ⟨symbol, span⟩ :: behind ∧
      front.map Token.symbol = first ∧ behind.map Token.symbol = second := by
  obtain ⟨front, others, rfl, before, after⟩ := List.map_eq_append_iff.mp same
  obtain ⟨⟨_, span⟩, behind, rfl, rfl, last⟩ := List.map_eq_cons_iff.mp after
  exact ⟨front, span, behind, rfl, before, last⟩

/-- **Expressions with commas between them are read up to the closing token.** -/
theorem items_reads {ts : List Tree} (each : ∀ t ∈ ts, Reads t) (stop : Nat) (close : Token)
    (rest : List Token) (same : tokens.map Token.symbol = commaSymbols (Tree.symbolsAll ts))
    (closes : close.symbol ∈ [.rightParen, .rightBracket]) :
    ∃ es, TakesItems stop close.symbol (tokens ++ close :: rest) (close :: rest) es ∧
      List.Forall₂ Yields es ts := by
  induction ts generalizing tokens with
  | nil =>
    rw [List.map_eq_nil_iff.mp same]
    exact ⟨[], items_nil rfl, .nil⟩
  | cons t ts ih =>
    obtain ⟨head, tail⟩ := List.forall_mem_cons.mp each
    have opens {token : Token} (first : token.symbol ∉ [.rightParen, .rightBracket, .rightBrace]) :
        token.symbol ≠ close.symbol := by
      intro equal
      rw [equal] at first
      rcases List.mem_pair.mp closes with closing | closing <;> simp [closing] at first
    have noComma : close.symbol ≠ .comma := by
      rcases List.mem_pair.mp closes with closing | closing <;> simp [closing]
    cases ts with
    | nil =>
      obtain ⟨first, others, rfl, front⟩ := head.front same
      obtain ⟨e, taken, yields⟩ := head.takes stop (first :: others) (close :: rest) same
      exact ⟨[e], items_last (opens front) taken noComma, .cons yields .nil⟩
    | cons next ts =>
      obtain ⟨piece, span, behind, rfl, same, same'⟩ := exists_split same
      obtain ⟨first, others, rfl, front⟩ := head.front same
      obtain ⟨e, taken, yields⟩ := head.takes stop (first :: others)
        (⟨.comma, span⟩ :: (behind ++ close :: rest)) same
      obtain ⟨es, takes, all⟩ := ih tail same'
      rw [List.append_assoc]
      exact ⟨e :: es, items_cons (opens front) taken takes, .cons yields all⟩

/-- **Entries with commas between them are read up to the closing brace.** -/
theorem entries_reads {ts : List (Tree × Tree)} (each : ∀ p ∈ ts, Reads p.1 ∧ Reads p.2)
    (stop : Nat) (close : Token) (rest : List Token)
    (same : tokens.map Token.symbol = commaSymbols (Tree.symbolsEntries ts))
    (closes : close.symbol = .rightBrace) :
    ∃ pairs, TakesEntries stop (tokens ++ close :: rest) (close :: rest) pairs ∧
      List.Forall₂ (fun p t => Yields p.1 t.1 ∧ Yields p.2 t.2) pairs ts := by
  induction ts generalizing tokens with
  | nil =>
    rw [List.map_eq_nil_iff.mp same]
    exact ⟨[], entries_nil closes, .nil⟩
  | cons p ts ih =>
    obtain ⟨⟨key, value⟩, tail⟩ := List.forall_mem_cons.mp each
    have opens {token : Token} (first : token.symbol ∉ [.rightParen, .rightBracket, .rightBrace]) :
        token.symbol ≠ .rightBrace := by
      intro equal
      simp [equal] at first
    cases ts with
    | nil =>
      obtain ⟨piece, span, behind, rfl, same, same'⟩ := exists_split same
      obtain ⟨first, others, rfl, front⟩ := key.front same
      obtain ⟨k, takenKey, yieldsKey⟩ := key.takes stop (first :: others)
        (⟨.colon, span⟩ :: (behind ++ close :: rest)) same
      obtain ⟨e, taken, yields⟩ := value.takes stop behind (close :: rest) same'
      rw [List.append_assoc]
      exact ⟨[(k, e)], entries_last (opens front) takenKey taken (by rw [closes]; decide),
        .cons ⟨yieldsKey, yields⟩ .nil⟩
    | cons next ts =>
      obtain ⟨entry, span', behind', rfl, same, others'⟩ := exists_split same
      obtain ⟨piece, span, behind, rfl, same, same'⟩ := exists_split same
      obtain ⟨first, others, rfl, front⟩ := key.front same
      obtain ⟨k, takenKey, yieldsKey⟩ := key.takes stop (first :: others)
        (⟨.colon, span⟩ :: (behind ++ ⟨.comma, span'⟩ :: (behind' ++ close :: rest))) same
      obtain ⟨e, taken, yields⟩ := value.takes stop behind
        (⟨.comma, span'⟩ :: (behind' ++ close :: rest)) same'
      obtain ⟨pairs, takes, all⟩ := ih tail others'
      rw [List.append_assoc, List.append_assoc]
      exact ⟨(k, e) :: pairs, entries_cons (opens front) takenKey taken takes,
        .cons ⟨yieldsKey, yields⟩ all⟩

/-- Tokens with the symbols of something between two marks are two tokens around what is between. -/
theorem exists_between {opening closing : Symbol} {inner : List Symbol}
    (same : tokens.map Token.symbol = opening :: inner ++ [closing]) :
    ∃ span span' body, tokens = ⟨opening, span⟩ :: body ++ [⟨closing, span'⟩] ∧
      body.map Token.symbol = inner := by
  obtain ⟨⟨_, span⟩, others, rfl, rfl, behind⟩ := List.map_eq_cons_iff.mp same
  obtain ⟨body, span', last, rfl, before, none⟩ := exists_split behind
  rw [List.map_eq_nil_iff.mp none]
  exact ⟨span, span', body, rfl, before⟩

theorem reads_int (n : Integer) : Reads (.int n) where
  opens := by
    rw [Tree.symbols, integerSymbols]
    split
    · exact ⟨_, _, rfl, by decide⟩
    · exact ⟨_, _, rfl, by simp⟩
  takes stop tokens rest same := by
    have number := numberLiteral?_digits n
    rw [Tree.symbols, integerSymbols] at same
    split at same
    case isTrue negative =>
      obtain ⟨⟨_, span⟩, others, rfl, rfl, behind⟩ := List.map_eq_cons_iff.mp same
      obtain ⟨⟨_, span'⟩, last, rfl, rfl, none⟩ := List.map_eq_cons_iff.mp behind
      rw [List.map_eq_nil_iff.mp none]
      rw [decide_eq_true negative] at number
      exact ⟨_, expression_minus number, yields_literal _ rfl⟩
    case isFalse positive =>
      obtain ⟨⟨_, span⟩, last, rfl, rfl, none⟩ := List.map_eq_cons_iff.mp same
      rw [List.map_eq_nil_iff.mp none]
      rw [decide_eq_false positive] at number
      exact ⟨_, expression_number number, yields_literal _ rfl⟩

theorem reads_range (r : Range) : Reads (.range r) where
  opens := ⟨_, _, rfl, by simp⟩
  takes stop tokens rest same := by
    have bounds : commaSymbols (Tree.symbolsAll (rangeBounds r)) =
        commaSymbols ([integerSymbols r.start, integerSymbols r.stop] ++
          if r.step = 1 then [] else [integerSymbols r.step]) := by
      unfold rangeBounds
      split <;> rfl
    have each : ∀ t ∈ rangeBounds r, Reads t := by
      intro t member
      unfold rangeBounds at member
      split at member <;> simp at member <;> rcases member with rfl | rfl | rfl
      all_goals exact reads_int _
    obtain ⟨⟨_, span⟩, others, rfl, rfl, behind⟩ := List.map_eq_cons_iff.mp same
    obtain ⟨span', span'', body, rfl, inner⟩ := exists_between behind
    rw [← bounds] at inner
    obtain ⟨es, takes, all⟩ := items_reads each stop ⟨.rightParen, span''⟩ rest inner (by simp)
    simp only [List.cons_append, List.append_assoc, List.nil_append]
    exact ⟨_, expression_call rfl takes, yields_range _ all⟩

/-- A tree that is written as one token is read if the token is. -/
theorem reads_token {t : Tree} {symbol : Symbol} (single : t.symbols = [symbol])
    (opens : symbol ∉ [.rightParen, .rightBracket, .rightBrace])
    (takes : ∀ stop span rest, ∃ e, Takes stop (⟨symbol, span⟩ :: rest) rest e ∧ Yields e t) :
    Reads t where
  opens := ⟨symbol, [], single, opens⟩
  takes stop tokens rest same := by
    rw [single] at same
    obtain ⟨⟨_, span⟩, others, rfl, rfl, none⟩ := List.map_eq_cons_iff.mp same
    rw [List.map_eq_nil_iff.mp none]
    exact takes stop span rest

theorem reads_list {ts : List Tree} (each : ∀ t ∈ ts, Reads t) : Reads (.list ts) where
  opens := ⟨_, _, rfl, by decide⟩
  takes stop tokens rest same := by
    obtain ⟨span, span', body, rfl, inner⟩ := exists_between same
    obtain ⟨es, takes, all⟩ := items_reads each stop ⟨.rightBracket, span'⟩ rest inner (by simp)
    simp only [List.cons_append, List.append_assoc, List.nil_append]
    exact ⟨_, expression_list rfl takes, yields_list _ all⟩

theorem reads_dict {ts : List (Tree × Tree)} (each : ∀ p ∈ ts, Reads p.1 ∧ Reads p.2)
    (distinct : Tree.DistinctKeys ts) : Reads (.dict ts) where
  opens := ⟨_, _, rfl, by decide⟩
  takes stop tokens rest same := by
    obtain ⟨span, span', body, rfl, inner⟩ := exists_between same
    obtain ⟨pairs, takes, all⟩ := entries_reads each stop ⟨.rightBrace, span'⟩ rest inner rfl
    simp only [List.cons_append, List.append_assoc, List.nil_append]
    exact ⟨_, expression_dict rfl takes, yields_dict _ all distinct⟩

/-- A comma stands behind the first item of a tuple, also where no other item follows. -/
theorem symbols_tuple_cons (t : Tree) (ts : List Tree) :
    (Tree.tuple (t :: ts)).symbols =
      .leftParen :: (t.symbols ++ .comma :: commaSymbols (Tree.symbolsAll ts)) ++
        [.rightParen] := by
  cases ts with
  | nil =>
    show .leftParen :: t.symbols ++ [.comma, .rightParen] = _
    rw [List.cons_append, List.cons_append, List.append_assoc]
    rfl
  | cons next ts => rfl

theorem reads_tuple {ts : List Tree} (each : ∀ t ∈ ts, Reads t) : Reads (.tuple ts) where
  opens := ⟨_, _, rfl, by decide⟩
  takes stop tokens rest same := by
    cases ts with
    | nil =>
      obtain ⟨span, span', body, rfl, inner⟩ := exists_between same
      rw [List.map_eq_nil_iff.mp inner]
      exact ⟨_, expression_unit stop span span' rest, yields_tuple _ .nil⟩
    | cons t ts =>
      obtain ⟨head, tail⟩ := List.forall_mem_cons.mp each
      rw [symbols_tuple_cons] at same
      obtain ⟨span, span'', body, rfl, inner⟩ := exists_between same
      obtain ⟨front, span', behind, rfl, first, others⟩ := exists_split inner
      obtain ⟨token, more, rfl, opens⟩ := head.front first
      obtain ⟨e, taken, yields⟩ := head.takes stop (token :: more)
        (⟨.comma, span'⟩ :: (behind ++ ⟨.rightParen, span''⟩ :: rest)) first
      obtain ⟨es, takes, all⟩ := items_reads tail stop ⟨.rightParen, span''⟩ rest others (by simp)
      have front : ∀ t ∈ (token :: more ++ ⟨.comma, span'⟩ :: (behind ++
          ⟨.rightParen, span''⟩ :: rest)).head?, t.symbol ≠ .rightParen := by
        intro other same equal
        cases same
        simp [equal] at opens
      simp only [List.cons_append, List.append_assoc, List.nil_append] at taken front ⊢
      exact ⟨_, expression_tuple rfl front taken takes, yields_tuple _ (.cons yields all)⟩

mutual

/-- **Tokens with the symbols of a readable tree are read as an expression that yields it.** -/
theorem reads_tree (t : Tree) (readable : t.Readable) : Reads t := by
  cases t with
  | null =>
    exact reads_token rfl (by decide) fun stop span rest =>
      ⟨_, expression_keyword stop span .none rest, yields_literal span rfl⟩
  | bool b =>
    cases b with
    | true =>
      exact reads_token rfl (by decide) fun stop span rest =>
        ⟨_, expression_keyword stop span .true rest, yields_literal span rfl⟩
    | false =>
      exact reads_token rfl (by decide) fun stop span rest =>
        ⟨_, expression_keyword stop span .false rest, yields_literal span rfl⟩
  | int n => exact reads_int n
  | str text =>
    exact reads_token rfl (by simp) fun stop span rest =>
      ⟨_, expression_string stop span text rest, yields_literal span rfl⟩
  | list ts => exact reads_list (reads_trees ts readable)
  | dict ts => exact reads_dict (reads_entries ts readable.1) readable.2
  | tuple ts => exact reads_tuple (reads_trees ts readable)
  | range r => exact reads_range r

theorem reads_trees (ts : List Tree) (readable : Tree.ReadableAll ts) : ∀ t ∈ ts, Reads t := by
  cases ts with
  | nil => exact fun t member => absurd member List.not_mem_nil
  | cons t ts =>
    exact List.forall_mem_cons.mpr ⟨reads_tree t readable.1, reads_trees ts readable.2⟩

theorem reads_entries (ts : List (Tree × Tree)) (readable : Tree.ReadableEntries ts) :
    ∀ p ∈ ts, Reads p.1 ∧ Reads p.2 := by
  match ts with
  | [] => exact fun p member => absurd member List.not_mem_nil
  | (k, t) :: ts =>
    exact List.forall_mem_cons.mpr ⟨⟨reads_tree k readable.1, reads_tree t readable.2.1⟩,
      reads_entries ts readable.2.2⟩

end

/-- **The text of a readable tree is read as an expression that yields the tree.** -/
theorem parse_text {t : Tree} (readable : t.Readable) :
    ∃ e, parse t.text = .ok e ∧ Yields e t := by
  obtain ⟨found, tokens, same⟩ := Tree.exists_tokens readable
  obtain ⟨e, takes, yields⟩ := (reads_tree t readable).takes found.stop found.tokens [] same
  rw [List.append_nil] at takes
  obtain ⟨⟨_, shorter⟩, taken, rfl⟩ := takes
  refine ⟨e, ?_, yields⟩
  rw [parse, tokens]
  simp only [taken]

end Parsing

end CallConsole
