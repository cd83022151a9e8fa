/-
**The reader recognizes the grammar.**

What the grammar forms is read; here is the other direction. Of any tokens, what is read from the
front has the form that it is read as, and what is refused is refused with a failure of parsing.

* `recognizes_sign`, `recognizes_paren`, … : one kind of expression, from its parts;
* `expression_recognizes`, `items_recognizes`, `entries_recognizes`: the reading functions, by
  recursion with them;
* `takes_iff`: exactly the tokens that form an expression are read as it;
* `parse_recognizes`: a source is read as a tree exactly if its tokens form the tree.
-/

import CallConsole.Proofs.Grammar

namespace CallConsole

namespace Parsing

open Numeral

/-- What is taken from the front of the tokens has the form, and a failure is one of parsing. -/
def Recognizes {α : Type} {fits : List Token → Prop} (form : List Token → α → Prop)
    (tokens : List Token) : Except SourceFailure (α × { rest : List Token // fits rest }) → Prop
  | .ok (a, after) => ∃ front, tokens = front ++ after.1 ∧ form front a
  | .error failure => failure.cause.kind = .parse

/-- What is recognized was taken from the front of the tokens, or refused. -/
theorem Recognizes.cases {α : Type} {fits : List Token → Prop} {form : List Token → α → Prop}
    {tokens : List Token} {result : Except SourceFailure (α × { rest : List Token // fits rest })}
    (inner : Recognizes form tokens result) :
    (∃ a front after fit, result = .ok (a, ⟨after, fit⟩) ∧ tokens = front ++ after ∧
      form front a) ∨
    ∃ failure, result = .error failure ∧ failure.cause.kind = .parse := by
  cases result with
  | error failure => exact .inr ⟨failure, rfl, inner⟩
  | ok taken =>
    obtain ⟨front, whole, formed⟩ := inner
    exact .inl ⟨taken.1, front, taken.2.1, taken.2.2, rfl, whole, formed⟩

/-- Behind a sign, the tokens form the expression together with the sign. -/
def FormsBehind (start : Nat) (negative : Bool) (tokens : List Token) (e : Expression) : Prop :=
  ∀ sign : Span, sign.start = start → Forms (⟨signSymbol negative, sign⟩ :: tokens) e

variable {stop : Nat} {span : Span} {token : Token} {tokens front rest : List Token}

/-- The expected token is there, or the failure is the given one. -/
theorem expect_cases (stop : Nat) (symbol : Symbol) (cause : Cause) (tokens : List Token) :
    (∃ span rest shorter, tokens = ⟨symbol, span⟩ :: rest ∧
      expect stop symbol cause tokens = .ok (span.stop, ⟨rest, shorter⟩)) ∨
    ∃ failure, expect stop symbol cause tokens = .error failure ∧ failure.cause = cause := by
  unfold expect
  split
  case h_1 => exact .inr ⟨_, rfl, rfl⟩
  case h_2 token rest =>
    split
    case isTrue same => exact .inl ⟨token.span, rest, Nat.lt_succ_self _, same ▸ rfl, rfl⟩
    case isFalse => exact .inr ⟨_, rfl, rfl⟩

/-! ### Numbers and signs -/

/-- A numeral is read as what it denotes, or refused. -/
theorem readNumber_cases {start : Nat} {negative : Bool} {text : List Char} (span : Span) :
    (∃ value, Denotes negative text value ∧
      readNumber start negative text span = .ok (.literal ⟨start, span.stop⟩ value)) ∨
    ∃ failure, readNumber start negative text span = .error failure ∧
      failure.cause.kind = .parse := by
  unfold readNumber
  split
  case h_1 value read =>
    exact .inl ⟨value, numberLiteral?_eq_some_iff.mp read, rfl⟩
  case h_2 => exact .inr ⟨_, rfl, rfl⟩

theorem recognizes_number {text : List Char} (span : Span) (rest : List Token) :
    Recognizes Forms (⟨.number text, span⟩ :: rest)
      (expression stop (⟨.number text, span⟩ :: rest)) := by
  rw [expression]
  rcases readNumber_cases span with ⟨value, denotes, read⟩ | ⟨failure, read, parsing⟩
  · rw [read]
    exact ⟨[⟨.number text, span⟩], rfl, .number span denotes⟩
  · rw [read]
    exact parsing

/-- A number that a sign stands next to is read together with the sign. -/
theorem recognizes_near {start : Nat} {negative : Bool} {text : List Char} (span : Span)
    (rest : List Token) :
    Recognizes (FormsBehind start negative) (⟨.number text, span⟩ :: rest)
      (signed stop start negative (⟨.number text, span⟩ :: rest)) := by
  rw [signed]
  rcases readNumber_cases span with ⟨value, denotes, read⟩ | ⟨failure, read, parsing⟩
  · rw [read]
    refine ⟨[⟨.number text, span⟩], rfl, ?_⟩
    rintro sign rfl
    exact .signed (.near sign span denotes)
  · rw [read]
    exact parsing

/-- A form that denotes a number is one number token, or a number behind signs. -/
theorem number_or_signs {value : Literal} (forms : Forms front (.literal span value))
    (number : value.number? = some value) :
    (∃ text, front = [⟨.number text, span⟩]) ∨ SignedNumber front span value := by
  cases forms with
  | number _ denotes => exact .inl ⟨_, rfl⟩
  | signed number => exact .inr number
  | keyword word => cases word <;> cases number
  | string => cases number

/-- A sign that stands in front of no number is refused. -/
theorem applySign_error {start : Nat} {negative : Bool} {operand : Expression}
    {failure : SourceFailure} (refused : applySign start negative operand = .error failure) :
    failure.cause.kind = .parse := by
  unfold applySign at refused
  simp only at refused
  split at refused <;> cases refused
  rfl

/-- What a sign stands in front of, if it is no bare number, must be a number behind signs. -/
theorem recognizes_far {start : Nat} {negative : Bool}
    (bare : ∀ text span rest, tokens ≠ ⟨.number text, span⟩ :: rest)
    (inner : Recognizes Forms tokens (expression stop tokens)) :
    Recognizes (FormsBehind start negative) tokens (signed stop start negative tokens) := by
  rw [signed]
  case x => exact bare
  rcases inner.cases with
    ⟨operand, front, after, fit, read, whole, forms⟩ | ⟨failure, read, failed⟩
  case inr =>
    simp only [read]
    exact failed
  case inl =>
    simp only [read]
    cases applied : applySign start negative operand with
    | error failure => exact applySign_error applied
    | ok turned =>
      obtain ⟨span, value, value', rfl, number, turns, rfl⟩ := applySign_eq_ok_iff.mp applied
      refine ⟨front, whole, ?_⟩
      rintro sign rfl
      rcases number_or_signs forms number with ⟨text, rfl⟩ | signs
      · exact absurd whole (bare _ _ _)
      · exact .signed (.far sign signs turns)

theorem recognizes_sign {negative : Bool} (sign : Span)
    (inner : Recognizes (FormsBehind sign.start negative) rest
      (signed stop sign.start negative rest)) :
    Recognizes Forms (⟨signSymbol negative, sign⟩ :: rest)
      (expression stop (⟨signSymbol negative, sign⟩ :: rest)) := by
  cases negative with
  | true =>
    rw [signSymbol, if_pos rfl, expression]
    rcases inner.cases with
      ⟨e, front, after, fit, read, whole, forms⟩ | ⟨failure, read, failed⟩
    case inr =>
      simp only [read]
      exact failed
    case inl =>
      simp only [read]
      exact ⟨⟨.minus, sign⟩ :: front, congrArg _ whole, forms sign rfl⟩
  | false =>
    rw [signSymbol, if_neg Bool.false_ne_true, expression]
    rcases inner.cases with
      ⟨e, front, after, fit, read, whole, forms⟩ | ⟨failure, read, failed⟩
    case inr =>
      simp only [read]
      exact failed
    case inl =>
      simp only [read]
      exact ⟨⟨.plus, sign⟩ :: front, congrArg _ whole, forms sign rfl⟩

/-! ### Displays, calls and groups -/

/-- What ends with a token stands in front of what comes after the token. -/
theorem append_closing {after behind : List Token} (whole : rest = front ++ after)
    (ends : after = token :: behind) : rest = front ++ [token] ++ behind := by
  rw [whole, ends, List.append_assoc]
  rfl

theorem recognizes_list (opening : Span)
    (inner : Recognizes FormsItems rest (items stop .rightBracket rest)) :
    Recognizes Forms (⟨.leftBracket, opening⟩ :: rest)
      (expression stop (⟨.leftBracket, opening⟩ :: rest)) := by
  rw [expression]
  rcases inner.cases with
    ⟨es, front, after, fit, read, whole, forms⟩ | ⟨failure, read, failed⟩
  case inr =>
    simp only [read]
    exact failed
  case inl =>
    simp only [read]
    rcases expect_cases stop .rightBracket .listUnclosed after with
      ⟨closing, behind, shorter, ends, expected⟩ | ⟨failure, expected, cause⟩
    · simp only [expected]
      exact ⟨⟨.leftBracket, opening⟩ :: front ++ [⟨.rightBracket, closing⟩],
        congrArg _ (append_closing whole ends), .list opening closing forms⟩
    · simp only [expected]
      exact congrArg Cause.kind cause

theorem recognizes_dict (opening : Span)
    (inner : Recognizes FormsEntries rest (entries stop rest)) :
    Recognizes Forms (⟨.leftBrace, opening⟩ :: rest)
      (expression stop (⟨.leftBrace, opening⟩ :: rest)) := by
  rw [expression]
  rcases inner.cases with
    ⟨pairs, front, after, fit, read, whole, forms⟩ | ⟨failure, read, failed⟩
  case inr =>
    simp only [read]
    exact failed
  case inl =>
    simp only [read]
    rcases expect_cases stop .rightBrace .dictUnclosed after with
      ⟨closing, behind, shorter, ends, expected⟩ | ⟨failure, expected, cause⟩
    · simp only [expected]
      exact ⟨⟨.leftBrace, opening⟩ :: front ++ [⟨.rightBrace, closing⟩],
        congrArg _ (append_closing whole ends), .dict opening closing forms⟩
    · simp only [expected]
      exact congrArg Cause.kind cause

theorem recognizes_call {name : List Char} (span opening : Span)
    (inner : Recognizes FormsItems rest (items stop .rightParen rest)) :
    Recognizes Forms (⟨.identifier name, span⟩ :: ⟨.leftParen, opening⟩ :: rest)
      (expression stop (⟨.identifier name, span⟩ :: ⟨.leftParen, opening⟩ :: rest)) := by
  rw [expression]
  rcases inner.cases with
    ⟨es, front, after, fit, read, whole, forms⟩ | ⟨failure, read, failed⟩
  case inr =>
    simp only [read]
    exact failed
  case inl =>
    simp only [read]
    rcases expect_cases stop .rightParen .argumentsUnclosed after with
      ⟨closing, behind, shorter, ends, expected⟩ | ⟨failure, expected, cause⟩
    · simp only [expected]
      exact ⟨⟨.identifier name, span⟩ :: ⟨.leftParen, opening⟩ :: front ++
        [⟨.rightParen, closing⟩], congrArg _ (congrArg _ (append_closing whole ends)),
        .call name span opening closing forms⟩
    · simp only [expected]
      exact congrArg Cause.kind cause

/-- Two pieces with a token between them stand in front of what comes after the second one. -/
theorem append_between {more middle after : List Token} (whole : tokens = front ++ token :: more)
    (others : more = middle ++ after) : tokens = front ++ token :: middle ++ after := by
  rw [whole, others, List.append_assoc]
  rfl

theorem length_behind {more : List Token} (whole : tokens = front ++ token :: more) :
    more.length < tokens.length := by
  rw [whole, List.length_append, List.length_cons]
  omega

/-- An opening parenthesis begins a tuple if a comma follows the first expression, else a group. -/
theorem recognizes_paren (opening : Span) (opens : ∀ span more, rest ≠ ⟨.rightParen, span⟩ :: more)
    (inner : Recognizes Forms rest (expression stop rest))
    (others : ∀ front comma more, rest = front ++ ⟨.comma, comma⟩ :: more →
      Recognizes FormsItems more (items stop .rightParen more)) :
    Recognizes Forms (⟨.leftParen, opening⟩ :: rest)
      (expression stop (⟨.leftParen, opening⟩ :: rest)) := by
  rw [expression]
  case x => exact opens
  split
  case h_1 failure read =>
    rw [read] at inner
    exact inner
  case h_2 e comma more shorter read =>
    rw [read] at inner
    obtain ⟨front, whole, forms⟩ := inner
    rcases (others front comma more whole).cases with
      ⟨es, middle, after, fit, read', whole', forms'⟩ | ⟨failure, read', failed⟩
    case inr =>
      simp only [read']
      exact failed
    case inl =>
      simp only [read']
      rcases expect_cases stop .rightParen .tupleUnclosed after with
        ⟨closing, behind, shorter, ends, expected⟩ | ⟨failure, expected, cause⟩
      · simp only [expected]
        exact ⟨⟨.leftParen, opening⟩ :: (front ++ ⟨.comma, comma⟩ :: middle) ++
          [⟨.rightParen, closing⟩],
          congrArg _ (append_closing (append_between whole whole') ends),
          .tuple opening comma closing forms forms'⟩
      · simp only [expected]
        exact congrArg Cause.kind cause
  case h_3 e after _ read =>
    rw [read] at inner
    obtain ⟨front, whole, forms⟩ := inner
    rcases expect_cases stop .rightParen .groupUnclosed after.1 with
      ⟨closing, behind, shorter, ends, expected⟩ | ⟨failure, expected, cause⟩
    · simp only [expected]
      exact ⟨⟨.leftParen, opening⟩ :: front ++ [⟨.rightParen, closing⟩],
        congrArg _ (append_closing whole ends), .group opening closing forms⟩
    · simp only [expected]
      exact congrArg Cause.kind cause

/-! ### Sequences -/

/-- Items are one more, as long as commas follow. -/
theorem recognizes_items {closing : Symbol} (opens : token.symbol ≠ closing)
    (inner : Recognizes Forms (token :: rest) (expression stop (token :: rest)))
    (others : ∀ front comma more, token :: rest = front ++ ⟨.comma, comma⟩ :: more →
      Recognizes FormsItems more (items stop closing more)) :
    Recognizes FormsItems (token :: rest) (items stop closing (token :: rest)) := by
  rw [items, if_neg opens]
  split
  case h_1 failure read =>
    rw [read] at inner
    exact inner
  case h_2 e comma more shorter read =>
    rw [read] at inner
    obtain ⟨front, whole, forms⟩ := inner
    rcases (others front comma more whole).cases with
      ⟨es, middle, after, fit, read', whole', forms'⟩ | ⟨failure, read', failed⟩
    case inr =>
      simp only [read']
      exact failed
    case inl =>
      simp only [read']
      exact ⟨front ++ ⟨.comma, comma⟩ :: middle, append_between whole whole',
        .cons forms comma forms'⟩
  case h_3 e after _ read =>
    rw [read] at inner
    obtain ⟨front, whole, forms⟩ := inner
    exact ⟨front, whole, .series (.single forms)⟩

/-- Entries are one more, as long as commas follow. -/
theorem recognizes_entries (opens : token.symbol ≠ .rightBrace)
    (key : Recognizes Forms (token :: rest) (expression stop (token :: rest)))
    (value : ∀ front colon behind, token :: rest = front ++ ⟨.colon, colon⟩ :: behind →
      Recognizes Forms behind (expression stop behind))
    (others : ∀ front comma more, token :: rest = front ++ ⟨.comma, comma⟩ :: more →
      Recognizes FormsEntries more (entries stop more)) :
    Recognizes FormsEntries (token :: rest) (entries stop (token :: rest)) := by
  rw [entries, if_neg opens]
  rcases key.cases with
    ⟨k, first, afterKey, fit, read, whole, formsKey⟩ | ⟨failure, read, failed⟩
  case inr =>
    simp only [read]
    exact failed
  case inl =>
    simp only [read]
    rcases expect_cases stop .colon .colonMissing afterKey with
      ⟨colon, behind, shorter, ends, expected⟩ | ⟨failure, expected, cause⟩
    case inr =>
      simp only [expected]
      exact congrArg Cause.kind cause
    case inl =>
      simp only [expected]
      rw [ends] at whole
      have inner := value first colon behind whole
      split
      case h_1 failure read =>
        rw [read] at inner
        exact inner
      case h_2 e comma more shorter read =>
        rw [read] at inner
        obtain ⟨second, whole', forms⟩ := inner
        have between := append_between whole whole'
        rcases (others _ comma more between).cases with
          ⟨pairs, last, after, fit, read', whole'', forms'⟩ | ⟨failure, read', failed⟩
        case inr =>
          simp only [read']
          exact failed
        case inl =>
          simp only [read']
          exact ⟨first ++ ⟨.colon, colon⟩ :: second ++ ⟨.comma, comma⟩ :: last,
            append_between between whole'', .cons colon formsKey forms comma forms'⟩
      case h_3 e after _ read =>
        rw [read] at inner
        obtain ⟨second, whole', forms⟩ := inner
        exact ⟨first ++ ⟨.colon, colon⟩ :: second, append_between whole whole',
          .series (.single colon formsKey forms)⟩

/-! ### The reading functions -/

mutual

/-- **What is read as an expression has its form.** -/
theorem expression_recognizes (stop : Nat) (tokens : List Token) :
    Recognizes Forms tokens (expression stop tokens) := by
  match tokens with
  | [] =>
    rw [expression]
    exact congrArg Cause.kind rfl
  | ⟨symbol, span⟩ :: rest =>
    cases symbol with
    | minus =>
      exact recognizes_sign span (signed_recognizes stop span.start true rest)
    | plus =>
      exact recognizes_sign span (signed_recognizes stop span.start false rest)
    | number text => exact recognizes_number span rest
    | keyword word =>
      rw [expression]
      exact ⟨[⟨.keyword word, span⟩], rfl, .keyword word span⟩
    | string content =>
      rw [expression]
      exact ⟨[⟨.string content, span⟩], rfl, .string content span⟩
    | identifier name =>
      by_cases call : ∃ opening more, rest = ⟨.leftParen, opening⟩ :: more
      · obtain ⟨opening, more, same⟩ := call
        have shorter : more.length < rest.length := by
          rw [same]
          exact Nat.lt_succ_self _
        rw [same]
        exact recognizes_call span opening (items_recognizes stop .rightParen more)
      · rw [expression]
        · exact ⟨[⟨.identifier name, span⟩], rfl, .name name span⟩
        · exact fun opening more same => call ⟨opening, more, same⟩
    | leftParen =>
      by_cases unit : ∃ closing more, rest = ⟨.rightParen, closing⟩ :: more
      · obtain ⟨closing, more, rfl⟩ := unit
        rw [expression]
        exact ⟨[⟨.leftParen, span⟩, ⟨.rightParen, closing⟩], rfl, .unit span closing⟩
      · refine recognizes_paren span (fun closing more same => unit ⟨closing, more, same⟩)
          (expression_recognizes stop rest) ?_
        intro front comma more whole
        have shorter := length_behind whole
        exact items_recognizes stop .rightParen more
    | leftBracket =>
      exact recognizes_list span (items_recognizes stop .rightBracket rest)
    | leftBrace => exact recognizes_dict span (entries_recognizes stop rest)
    | rightParen | rightBracket | rightBrace | comma | colon | unknown =>
      unfold expression
      exact congrArg Cause.kind rfl
termination_by 2 * tokens.length
decreasing_by
  all_goals simp only [List.length_cons] at *
  all_goals omega

theorem signed_recognizes (stop start : Nat) (negative : Bool) (tokens : List Token) :
    Recognizes (FormsBehind start negative) tokens (signed stop start negative tokens) := by
  by_cases bare : ∃ text span rest, tokens = ⟨.number text, span⟩ :: rest
  · obtain ⟨text, span, rest, rfl⟩ := bare
    exact recognizes_near span rest
  · refine recognizes_far (fun text span rest same => bare ⟨text, span, rest, same⟩) ?_
    exact expression_recognizes stop tokens
termination_by 2 * tokens.length + 1

theorem items_recognizes (stop : Nat) (closing : Symbol) (tokens : List Token) :
    Recognizes FormsItems tokens (items stop closing tokens) := by
  match tokens with
  | [] =>
    rw [items]
    exact ⟨[], rfl, .nothing⟩
  | token :: rest =>
    by_cases closes : token.symbol = closing
    · rw [items, if_pos closes]
      exact ⟨[], rfl, .nothing⟩
    · refine recognizes_items closes (expression_recognizes stop (token :: rest)) ?_
      intro front comma more whole
      have shorter := length_behind whole
      exact items_recognizes stop closing more
termination_by 2 * tokens.length + 1
decreasing_by
  all_goals simp only [List.length_cons] at *
  all_goals omega

theorem entries_recognizes (stop : Nat) (tokens : List Token) :
    Recognizes FormsEntries tokens (entries stop tokens) := by
  match tokens with
  | [] =>
    rw [entries]
    exact ⟨[], rfl, .nothing⟩
  | token :: rest =>
    by_cases closes : token.symbol = .rightBrace
    · rw [entries, if_pos closes]
      exact ⟨[], rfl, .nothing⟩
    · refine recognizes_entries closes (expression_recognizes stop (token :: rest)) ?_ ?_
      · intro front colon behind whole
        have shorter := length_behind whole
        exact expression_recognizes stop behind
      · intro front comma more whole
        have shorter := length_behind whole
        exact entries_recognizes stop more
termination_by 2 * tokens.length + 1
decreasing_by
  all_goals simp only [List.length_cons] at *
  all_goals omega

end

/-! ### Sources -/

/-- Of all tokens, exactly those that form the expression are read as it with nothing left. -/
theorem takes_iff (stop : Nat) {e : Expression} : Takes stop tokens [] e ↔ Forms tokens e := by
  constructor
  · rintro ⟨after, read, empty⟩
    have recognized := expression_recognizes stop tokens
    rw [read] at recognized
    obtain ⟨front, whole, forms⟩ := recognized
    rw [empty, List.append_nil] at whole
    exact whole ▸ forms
  · intro forms
    have takes := forms.takes stop [] nofun
    rwa [List.append_nil] at takes

/-- **The tokens of an expression have one tree.** -/
theorem Forms.unique {e e' : Expression} (first : Forms tokens e) (second : Forms tokens e') :
    e = e' := by
  obtain ⟨after, read, _⟩ := (takes_iff 0).mpr first
  obtain ⟨after', read', _⟩ := (takes_iff 0).mpr second
  rw [read] at read'
  cases read'
  rfl

/-- A source is read as what its tokens are read as with nothing left. -/
theorem parse_eq_ok_iff {source : List Char} {found : TokenList} {e : Expression}
    (scanned : tokenize source = .ok found) :
    parse source = .ok e ↔ Takes found.stop found.tokens [] e := by
  unfold parse
  simp only [scanned]
  constructor
  · intro read
    split at read
    case h_1 => cases read
    case h_2 e' after taken =>
      split at read
      case h_1 empty =>
        cases read
        exact ⟨after, taken, empty⟩
      case h_2 => cases read
  · rintro ⟨⟨_, shorter⟩, taken, rfl⟩
    simp only [taken]

/-- A source that is refused although it has tokens is refused with a failure of parsing. -/
theorem kind_of_parse_error {source : List Char} {found : TokenList} {failure : SourceFailure}
    (scanned : tokenize source = .ok found) (refused : parse source = .error failure) :
    failure.cause.kind = .parse := by
  have recognized := expression_recognizes found.stop found.tokens
  unfold parse at refused
  simp only [scanned] at refused
  split at refused
  case h_1 failure' read =>
    cases refused
    rw [read] at recognized
    exact recognized
  case h_2 e after taken =>
    split at refused <;> cases refused
    rfl

/-- **The reader accepts exactly its grammar, and builds its one tree.** A source that has tokens is
read as a tree exactly if its tokens form the tree, and is refused with a failure of parsing if they
form none; the same tokens form one tree at most. Of any tokens at all, either an expression is
taken from the front, which is never empty, or they are refused with a failure of parsing. -/
theorem parse_recognizes :
    (∀ source found, tokenize source = .ok found →
      (∀ e, parse source = .ok e ↔ Forms found.tokens e) ∧
      ((∀ e, ¬ Forms found.tokens e) →
        ∃ failure, parse source = .error failure ∧ failure.cause.kind = .parse)) ∧
    (∀ tokens e e', Forms tokens e → Forms tokens e' → e = e') ∧
    ∀ stop tokens,
      (∃ front rest e, tokens = front ++ rest ∧ front ≠ [] ∧ Forms front e ∧
        Takes stop tokens rest e) ∨
      ∃ failure, expression stop tokens = .error failure ∧ failure.cause.kind = .parse := by
  refine ⟨fun source found scanned => ?_, fun tokens e e' => Forms.unique, fun stop tokens => ?_⟩
  · have accepts (e : Expression) : parse source = .ok e ↔ Forms found.tokens e :=
      (parse_eq_ok_iff scanned).trans (takes_iff found.stop)
    refine ⟨accepts, fun none => ?_⟩
    cases read : parse source with
    | ok e => exact absurd ((accepts e).mp read) (none e)
    | error failure => exact ⟨failure, rfl, kind_of_parse_error scanned read⟩
  · rcases (expression_recognizes stop tokens).cases with
      ⟨e, front, after, shorter, read, whole, forms⟩ | failed
    · obtain ⟨first, others, same, _⟩ := forms.front
      exact .inl ⟨front, after, e, whole, same ▸ List.cons_ne_nil first others, forms,
        ⟨after, shorter⟩, read, rfl⟩
    · exact .inr failed

/-- A tuple of a number behind two signs and a dict with a call in it. -/
def nestedSource : List Char := "(-+1_0, \x7b1: f([],)\x7d)".toList

/-- The tokens of the tuple. -/
def nestedTokens : List Token :=
  [⟨.leftParen, ⟨0, 1⟩⟩, ⟨.minus, ⟨1, 2⟩⟩, ⟨.plus, ⟨2, 3⟩⟩, ⟨.number ['1', '_', '0'], ⟨3, 6⟩⟩,
    ⟨.comma, ⟨6, 7⟩⟩, ⟨.leftBrace, ⟨8, 9⟩⟩, ⟨.number ['1'], ⟨9, 10⟩⟩, ⟨.colon, ⟨10, 11⟩⟩,
    ⟨.identifier ['f'], ⟨12, 13⟩⟩, ⟨.leftParen, ⟨13, 14⟩⟩, ⟨.leftBracket, ⟨14, 15⟩⟩,
    ⟨.rightBracket, ⟨15, 16⟩⟩, ⟨.comma, ⟨16, 17⟩⟩, ⟨.rightParen, ⟨17, 18⟩⟩,
    ⟨.rightBrace, ⟨18, 19⟩⟩, ⟨.rightParen, ⟨19, 20⟩⟩]

/-- The tree of the tuple. -/
def nestedExpression : Expression :=
  .tuple ⟨0, 20⟩ [.literal ⟨1, 6⟩ (.int (-10)),
    .dict ⟨8, 19⟩ [(.literal ⟨9, 10⟩ (.int 1), .call ⟨12, 18⟩ "f" [.list ⟨14, 16⟩ []])]]

theorem forms_nested : Forms nestedTokens nestedExpression := by
  have one : Denotes false ['1'] (.int 1) := .int (by decide) (List.all_eq_true.mp rfl) (by decide)
  have ten : Denotes false ['1', '_', '0'] (.int 10) :=
    .int (by decide) (List.all_eq_true.mp rfl) (by decide)
  have plus : SignedNumber [⟨signSymbol false, ⟨2, 3⟩⟩, ⟨.number ['1', '_', '0'], ⟨3, 6⟩⟩] ⟨2, 6⟩
      (.int 10) := .near ⟨2, 3⟩ ⟨3, 6⟩ ten
  have minus : SignedNumber (⟨signSymbol true, ⟨1, 2⟩⟩ :: _) ⟨1, 6⟩ (.int (-10)) :=
    .far ⟨1, 2⟩ plus (.int (by decide))
  have call : Forms (⟨.identifier ['f'], ⟨12, 13⟩⟩ :: ⟨.leftParen, ⟨13, 14⟩⟩ :: _ ++
      [⟨.rightParen, ⟨17, 18⟩⟩]) (.call ⟨12, 18⟩ "f" [.list ⟨14, 16⟩ []]) :=
    .call ['f'] ⟨12, 13⟩ ⟨13, 14⟩ ⟨17, 18⟩
      (.trailing ⟨16, 17⟩ (.single (.list ⟨14, 15⟩ ⟨15, 16⟩ .nothing)))
  have dict : Forms (⟨.leftBrace, ⟨8, 9⟩⟩ :: _ ++ [⟨.rightBrace, ⟨18, 19⟩⟩]) (.dict ⟨8, 19⟩ _) :=
    .dict ⟨8, 9⟩ ⟨18, 19⟩ (.series (.single ⟨10, 11⟩ (.number ⟨9, 10⟩ one) call))
  exact .tuple ⟨0, 1⟩ ⟨6, 7⟩ ⟨19, 20⟩ (.signed minus) (.series (.single dict))

theorem parse_recognizes_nested :
    tokenize nestedSource = .ok ⟨nestedTokens, 20⟩ ∧ parse nestedSource = .ok nestedExpression := by
  have scanned : tokenize nestedSource = .ok ⟨nestedTokens, 20⟩ := by decide +kernel
  exact ⟨scanned, ((parse_recognizes.1 nestedSource _ scanned).1 _).mpr forms_nested⟩

end Parsing

end CallConsole
