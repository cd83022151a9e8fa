/-
**Reading an expression from tokens.**

Each reading function takes tokens from the front and gives back what is left, which is shorter; the
readings end because of it. A failure names the token that stood in the way, or the end of the
source.
-/

import CallConsole.Double.Reading
import CallConsole.Expression
import CallConsole.Token.Scanning

namespace CallConsole

/-- The number that a number token denotes: underscores are dropped, and a point or an exponent
mark makes it a double. An integer is digits only. -/
def numberLiteral? (negative : Bool) (text : List Char) : Option Literal :=
  let plain := text.filter (· ≠ '_')
  if plain.any fun c => c = '.' || c = 'e' || c = 'E' then
    (Decimal.read? plain).map fun decimal => .float (Double.ofDecimal negative decimal)
  else if plain.isEmpty || !plain.all Char.isDigit then none
  else
    let magnitude : Int := Decimal.ofDigits plain
    (Integer.ofInt? (if negative then -magnitude else magnitude)).map .int

namespace Parsing

/-- What is left after at least one token was taken. -/
abbrev Shorter (tokens : List Token) := { rest : List Token // rest.length < tokens.length }

/-- What is left after any number of tokens was taken. -/
abbrev NotLonger (tokens : List Token) := { rest : List Token // rest.length ≤ tokens.length }

/-- A failure at the first of the tokens, or at the end of the source if there is none. -/
def failAt (stop : Nat) (cause : Cause) : List Token → SourceFailure
  | [] => ⟨cause, ⟨stop, stop⟩⟩
  | token :: _ => ⟨cause, token.span⟩

/-- The next token must be the given symbol; its end and what follows come back. -/
def expect (stop : Nat) (symbol : Symbol) (cause : Cause) (tokens : List Token) :
    Except SourceFailure (Nat × Shorter tokens) :=
  match tokens with
  | [] => .error (failAt stop cause [])
  | token :: rest =>
    if token.symbol = symbol then .ok (token.span.stop, ⟨rest, Nat.lt_succ_self _⟩)
    else .error (failAt stop cause (token :: rest))

/-- A literal number of a number token. -/
def readNumber (start : Nat) (negative : Bool) (text : List Char) (span : Span) :
    Except SourceFailure Expression :=
  match numberLiteral? negative text with
  | some value => .ok (.literal ⟨start, span.stop⟩ value)
  | none => .error ⟨.numberMalformed (String.ofList text), span⟩

/-- A sign in front of an operand that is no bare number token. -/
def applySign (start : Nat) (negative : Bool) (operand : Expression) :
    Except SourceFailure Expression :=
  let span : Span := ⟨start, operand.span.stop⟩
  let signed := match operand with
    | .literal _ value => if negative then value.negate? else value.number?
    | _ => none
  match signed with
  | some value => .ok (.literal span value)
  | none => .error ⟨.signWithoutNumber, span⟩

/-- The literal of a keyword. -/
def keywordLiteral : Keyword → Literal
  | .true => .bool true
  | .false => .bool false
  | .none => .null

mutual

/-- **Reads one expression.** -/
def expression (stop : Nat) (tokens : List Token) :
    Except SourceFailure (Expression × Shorter tokens) :=
  match tokens with
  | [] => .error (failAt stop .tokenUnexpected [])
  | ⟨.minus, span⟩ :: rest =>
    match signed stop span.start true rest with
    | .error failure => .error failure
    | .ok (e, after) => .ok (e, ⟨after.1, Nat.lt_succ_of_lt after.2⟩)
  | ⟨.plus, span⟩ :: rest =>
    match signed stop span.start false rest with
    | .error failure => .error failure
    | .ok (e, after) => .ok (e, ⟨after.1, Nat.lt_succ_of_lt after.2⟩)
  | ⟨.number text, span⟩ :: rest =>
    match readNumber span.start false text span with
    | .error failure => .error failure
    | .ok e => .ok (e, ⟨rest, Nat.lt_succ_self _⟩)
  | ⟨.keyword word, span⟩ :: rest =>
    .ok (.literal span (keywordLiteral word), ⟨rest, Nat.lt_succ_self _⟩)
  | ⟨.string content, span⟩ :: rest =>
    .ok (.literal span (.str content), ⟨rest, Nat.lt_succ_self _⟩)
  | ⟨.identifier name, span⟩ :: ⟨.leftParen, _⟩ :: rest =>
    match items stop .rightParen rest with
    | .error failure => .error failure
    | .ok (arguments, afterItems) =>
      match expect stop .rightParen .argumentsUnclosed afterItems.1 with
      | .error failure => .error failure
      | .ok (close, after) =>
        .ok (.call ⟨span.start, close⟩ (String.ofList name) arguments,
          ⟨after.1, by
            have := after.2; have := afterItems.2; simp only [List.length_cons]; omega⟩)
  | ⟨.identifier name, span⟩ :: rest =>
    .ok (.name span (String.ofList name), ⟨rest, Nat.lt_succ_self _⟩)
  | ⟨.leftParen, span⟩ :: ⟨.rightParen, close⟩ :: rest =>
    .ok (.tuple ⟨span.start, close.stop⟩ [],
      ⟨rest, by simp only [List.length_cons]; omega⟩)
  | ⟨.leftParen, span⟩ :: rest =>
    match expression stop rest with
    | .error failure => .error failure
    | .ok (first, ⟨⟨.comma, _⟩ :: more, shorter⟩) =>
      match items stop .rightParen more with
      | .error failure => .error failure
      | .ok (others, afterItems) =>
        match expect stop .rightParen .tupleUnclosed afterItems.1 with
        | .error failure => .error failure
        | .ok (close, after) =>
          .ok (.tuple ⟨span.start, close⟩ (first :: others),
            ⟨after.1, by
              have := after.2; have := afterItems.2; simp only [List.length_cons] at *; omega⟩)
    | .ok (inner, afterInner) =>
      match expect stop .rightParen .groupUnclosed afterInner.1 with
      | .error failure => .error failure
      | .ok (close, after) =>
        .ok (.group ⟨span.start, close⟩ inner,
          ⟨after.1, by
            have := after.2; have := afterInner.2; simp only [List.length_cons]; omega⟩)
  | ⟨.leftBracket, span⟩ :: rest =>
    match items stop .rightBracket rest with
    | .error failure => .error failure
    | .ok (elements, afterItems) =>
      match expect stop .rightBracket .listUnclosed afterItems.1 with
      | .error failure => .error failure
      | .ok (close, after) =>
        .ok (.list ⟨span.start, close⟩ elements,
          ⟨after.1, by
            have := after.2; have := afterItems.2; simp only [List.length_cons]; omega⟩)
  | ⟨.leftBrace, span⟩ :: rest =>
    match entries stop rest with
    | .error failure => .error failure
    | .ok (pairs, afterEntries) =>
      match expect stop .rightBrace .dictUnclosed afterEntries.1 with
      | .error failure => .error failure
      | .ok (close, after) =>
        .ok (.dict ⟨span.start, close⟩ pairs,
          ⟨after.1, by
            have := after.2; have := afterEntries.2; simp only [List.length_cons]; omega⟩)
  | token :: rest => .error (failAt stop .tokenUnexpected (token :: rest))
termination_by 2 * tokens.length
decreasing_by
  all_goals simp only [List.length_cons] at *
  all_goals omega

/-- Reads what a sign stands in front of. A number is read together with the sign next to it. -/
def signed (stop start : Nat) (negative : Bool) (tokens : List Token) :
    Except SourceFailure (Expression × Shorter tokens) :=
  match tokens with
  | ⟨.number text, span⟩ :: rest =>
    match readNumber start negative text span with
    | .error failure => .error failure
    | .ok e => .ok (e, ⟨rest, Nat.lt_succ_self _⟩)
  | tokens =>
    match expression stop tokens with
    | .error failure => .error failure
    | .ok (operand, after) =>
      match applySign start negative operand with
      | .error failure => .error failure
      | .ok e => .ok (e, after)
termination_by 2 * tokens.length + 1

/-- Reads expressions with commas between them, up to the closing symbol. A comma may stand after
the last one. -/
def items (stop : Nat) (closing : Symbol) (tokens : List Token) :
    Except SourceFailure (List Expression × NotLonger tokens) :=
  match tokens with
  | [] => .ok ([], ⟨[], Nat.le_refl _⟩)
  | token :: rest =>
    if token.symbol = closing then .ok ([], ⟨token :: rest, Nat.le_refl _⟩)
    else match expression stop (token :: rest) with
      | .error failure => .error failure
      | .ok (e, ⟨⟨.comma, _⟩ :: more, shorter⟩) =>
        match items stop closing more with
        | .error failure => .error failure
        | .ok (others, after) =>
          .ok (e :: others,
            ⟨after.1, by have := after.2; simp only [List.length_cons] at *; omega⟩)
      | .ok (e, after) => .ok ([e], ⟨after.1, Nat.le_of_lt after.2⟩)
termination_by 2 * tokens.length + 1
decreasing_by
  all_goals simp only [List.length_cons] at *
  all_goals omega

/-- Reads the entries of a dict, up to the closing brace. -/
def entries (stop : Nat) (tokens : List Token) :
    Except SourceFailure (List (Expression × Expression) × NotLonger tokens) :=
  match tokens with
  | [] => .ok ([], ⟨[], Nat.le_refl _⟩)
  | token :: rest =>
    if token.symbol = .rightBrace then .ok ([], ⟨token :: rest, Nat.le_refl _⟩)
    else match expression stop (token :: rest) with
      | .error failure => .error failure
      | .ok (key, afterKey) =>
        match expect stop .colon .colonMissing afterKey.1 with
        | .error failure => .error failure
        | .ok (_, afterColon) =>
          match expression stop afterColon.1 with
          | .error failure => .error failure
          | .ok (value, ⟨⟨.comma, _⟩ :: more, shorter⟩) =>
            match entries stop more with
            | .error failure => .error failure
            | .ok (others, after) =>
              .ok ((key, value) :: others,
                ⟨after.1, by
                  have := after.2; have := afterColon.2; have := afterKey.2
                  simp only [List.length_cons] at *; omega⟩)
          | .ok (value, after) =>
            .ok ([(key, value)],
              ⟨after.1, by
                have := after.2; have := afterColon.2; have := afterKey.2
                simp only [List.length_cons] at *; omega⟩)
termination_by 2 * tokens.length + 1
decreasing_by
  · simp only [List.length_cons] at *; omega
  all_goals have := afterKey.2
  all_goals have := afterColon.2
  all_goals simp only [List.length_cons] at *
  all_goals omega

end

end Parsing

/-- **Reads a source as one expression.** Nothing may follow it. -/
def parse (source : List Char) : Except SourceFailure Expression :=
  match tokenize source with
  | .error failure => .error failure
  | .ok found =>
    match Parsing.expression found.stop found.tokens with
    | .error failure => .error failure
    | .ok (e, rest) =>
      match rest.1 with
      | [] => .ok e
      | token :: _ => .error ⟨.tokenAfterExpression, token.span⟩

end CallConsole
