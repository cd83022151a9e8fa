/-
**The grammar of expressions.**

```
expression = sign* NUMBER | True | False | None | STRING | NAME | NAME '(' items ')'
           | '[' items ']' | '{' entries '}'
           | '(' ')' | '(' expression ')' | '(' expression ',' items ')'
items      = nothing | expression (',' expression)* [',']
entries    = nothing | expression ':' expression (',' expression ':' expression)* [',']
```

`Forms` relates the tokens of an expression to its tree, and says nothing of how they are read.
Every form is read from the front of the tokens, whatever comes after it:

* `SignedNumber.takes`: a number is read with the sign next to it, and turned by each further minus;
* `Forms.takes`, `FormsItems.takes`, `FormsEntries.takes`: what the grammar forms is read.
-/

import CallConsole.Proofs.Numerals
import CallConsole.Proofs.Parsing

namespace CallConsole

open Numeral

/-- The symbol of a sign. -/
def signSymbol (negative : Bool) : Symbol := if negative then .minus else .plus

/-- A sign in front of a number gives another number: a plus the same one, a minus its opposite,
which must be a word if the number is one. -/
inductive Turns : Bool → Literal → Literal → Prop
  | plus (value : Literal) : Turns false value value
  | int {m n : Integer} : n.toInt = -m.toInt → Turns true (.int m) (.int n)
  | float (x : Double) : Turns true (.float x) (.float x.negate)

/-- One or more signs and a number, with their span and what they denote. The sign next to the
number is read together with it. -/
inductive SignedNumber : List Token → Span → Literal → Prop
  | near {negative : Bool} {text : List Char} {value : Literal} (sign span : Span) :
      Denotes negative text value →
      SignedNumber [⟨signSymbol negative, sign⟩, ⟨.number text, span⟩] ⟨sign.start, span.stop⟩ value
  | far {negative : Bool} {tokens : List Token} {value turned : Literal} {span : Span}
      (sign : Span) : SignedNumber tokens span value → Turns negative value turned →
      SignedNumber (⟨signSymbol negative, sign⟩ :: tokens) ⟨sign.start, span.stop⟩ turned

mutual

/-- **The tokens form the expression.** -/
inductive Forms : List Token → Expression → Prop
  | number {text : List Char} {value : Literal} (span : Span) : Denotes false text value →
      Forms [⟨.number text, span⟩] (.literal span value)
  | signed {tokens : List Token} {span : Span} {value : Literal} :
      SignedNumber tokens span value → Forms tokens (.literal span value)
  | keyword (word : Keyword) (span : Span) :
      Forms [⟨.keyword word, span⟩] (.literal span (Parsing.keywordLiteral word))
  | string (content : List Char) (span : Span) :
      Forms [⟨.string content, span⟩] (.literal span (.str content))
  | name (name : List Char) (span : Span) :
      Forms [⟨.identifier name, span⟩] (.name span (String.ofList name))
  | call {tokens : List Token} {es : List Expression} (name : List Char)
      (span opening closing : Span) : FormsItems tokens es →
      Forms (⟨.identifier name, span⟩ :: ⟨.leftParen, opening⟩ :: tokens ++
        [⟨.rightParen, closing⟩]) (.call ⟨span.start, closing.stop⟩ (String.ofList name) es)
  | list {tokens : List Token} {es : List Expression} (opening closing : Span) :
      FormsItems tokens es →
      Forms (⟨.leftBracket, opening⟩ :: tokens ++ [⟨.rightBracket, closing⟩])
        (.list ⟨opening.start, closing.stop⟩ es)
  | dict {tokens : List Token} {pairs : List (Expression × Expression)} (opening closing : Span) :
      FormsEntries tokens pairs →
      Forms (⟨.leftBrace, opening⟩ :: tokens ++ [⟨.rightBrace, closing⟩])
        (.dict ⟨opening.start, closing.stop⟩ pairs)
  | unit (opening closing : Span) :
      Forms [⟨.leftParen, opening⟩, ⟨.rightParen, closing⟩]
        (.tuple ⟨opening.start, closing.stop⟩ [])
  | group {tokens : List Token} {e : Expression} (opening closing : Span) : Forms tokens e →
      Forms (⟨.leftParen, opening⟩ :: tokens ++ [⟨.rightParen, closing⟩])
        (.group ⟨opening.start, closing.stop⟩ e)
  | tuple {tokens more : List Token} {e : Expression} {es : List Expression}
      (opening comma closing : Span) : Forms tokens e → FormsItems more es →
      Forms (⟨.leftParen, opening⟩ :: (tokens ++ ⟨.comma, comma⟩ :: more) ++
        [⟨.rightParen, closing⟩]) (.tuple ⟨opening.start, closing.stop⟩ (e :: es))

/-- The tokens form expressions with commas between them; a comma may stand after the last one. -/
inductive FormsItems : List Token → List Expression → Prop
  | nothing : FormsItems [] []
  | series {tokens : List Token} {es : List Expression} : FormsSeries tokens es →
      FormsItems tokens es
  | trailing {tokens : List Token} {es : List Expression} (comma : Span) : FormsSeries tokens es →
      FormsItems (tokens ++ [⟨.comma, comma⟩]) es

/-- The tokens form one or more expressions with commas between them. -/
inductive FormsSeries : List Token → List Expression → Prop
  | single {tokens : List Token} {e : Expression} : Forms tokens e → FormsSeries tokens [e]
  | more {tokens others : List Token} {e : Expression} {es : List Expression} (comma : Span) :
      Forms tokens e → FormsSeries others es →
      FormsSeries (tokens ++ ⟨.comma, comma⟩ :: others) (e :: es)

/-- The tokens form entries with commas between them; a comma may stand after the last one. -/
inductive FormsEntries : List Token → List (Expression × Expression) → Prop
  | nothing : FormsEntries [] []
  | series {tokens : List Token} {pairs : List (Expression × Expression)} :
      FormsPairs tokens pairs → FormsEntries tokens pairs
  | trailing {tokens : List Token} {pairs : List (Expression × Expression)} (comma : Span) :
      FormsPairs tokens pairs → FormsEntries (tokens ++ [⟨.comma, comma⟩]) pairs

/-- The tokens form one or more entries with commas between them. -/
inductive FormsPairs : List Token → List (Expression × Expression) → Prop
  | single {key value : List Token} {k e : Expression} (colon : Span) : Forms key k →
      Forms value e → FormsPairs (key ++ ⟨.colon, colon⟩ :: value) [(k, e)]
  | more {key value others : List Token} {k e : Expression}
      {pairs : List (Expression × Expression)} (colon comma : Span) : Forms key k →
      Forms value e → FormsPairs others pairs →
      FormsPairs (key ++ ⟨.colon, colon⟩ :: value ++ ⟨.comma, comma⟩ :: others) ((k, e) :: pairs)

end

open Parsing

variable {stop : Nat} {tokens more rest : List Token} {close : Token} {span : Span}
  {value : Literal} {e : Expression} {es : List Expression}
  {pairs : List (Expression × Expression)}

/-! ### Numbers with signs -/

/-- A number behind signs begins with a sign. -/
theorem SignedNumber.front (number : SignedNumber tokens span value) :
    ∃ negative sign others, tokens = ⟨signSymbol negative, sign⟩ :: others := by
  cases number with
  | @near negative _ _ sign => exact ⟨negative, sign, _, rfl⟩
  | @far negative _ _ _ _ sign => exact ⟨negative, sign, _, rfl⟩

/-- What a text denotes is a number. -/
theorem Numeral.Denotes.number? {negative : Bool} {text : List Char}
    (denotes : Denotes negative text value) : value.number? = some value := by
  cases denotes <;> rfl

/-- A sign gives a number for a number. -/
theorem Turns.number? {negative : Bool} {turned : Literal} (turns : Turns negative value turned)
    (number : value.number? = some value) : turned.number? = some turned := by
  cases turns with
  | plus => exact number
  | int | float => rfl

theorem SignedNumber.number? (number : SignedNumber tokens span value) :
    value.number? = some value := by
  induction number with
  | near _ _ denotes => exact denotes.number?
  | far _ _ turns ih => exact turns.number? ih

/-- **What a sign gives for a literal**: what it turns it into, if the literal is a number. -/
theorem turns_iff {negative : Bool} {turned : Literal} :
    (if negative then value.negate? else value.number?) = some turned ↔
      value.number? = some value ∧ Turns negative value turned := by
  constructor
  · intro given
    cases negative with
    | true =>
      cases value with
      | int m =>
        obtain ⟨n, word, rfl⟩ := Option.map_eq_some_iff.mp given
        exact ⟨rfl, .int (Integer.ofInt?_eq_some_iff.mp word)⟩
      | float x =>
        cases given
        exact ⟨rfl, .float x⟩
      | null | bool | str => cases given
    | false =>
      cases value with
      | int | float =>
        cases given
        exact ⟨rfl, .plus _⟩
      | null | bool | str => cases given
  · rintro ⟨number, turns⟩
    cases turns with
    | plus => exact number
    | int opposite =>
      exact Option.map_eq_some_iff.mpr ⟨_, Integer.ofInt?_eq_some_iff.mpr opposite, rfl⟩
    | float x => rfl

/-- **A sign stands in front of numbers only**, and turns them. -/
theorem applySign_eq_ok_iff {start : Nat} {negative : Bool} {operand turned : Expression} :
    applySign start negative operand = .ok turned ↔
      ∃ span value value', operand = .literal span value ∧ value.number? = some value ∧
        Turns negative value value' ∧ turned = .literal ⟨start, span.stop⟩ value' := by
  constructor
  · intro applied
    unfold applySign at applied
    simp only at applied
    split at applied
    case h_2 => cases applied
    case h_1 value' given =>
      split at given
      case h_2 => cases given
      case h_1 span value =>
        cases applied
        obtain ⟨number, turns⟩ := turns_iff.mp given
        exact ⟨span, value, value', rfl, number, turns, rfl⟩
  · rintro ⟨span, value, value', rfl, number, turns, rfl⟩
    unfold applySign
    simp only [turns_iff.mpr ⟨number, turns⟩]
    rfl

/-- What the sign is read for is read with the sign. -/
theorem takes_sign {negative : Bool} {sign : Span}
    (read : ∃ after, Parsing.signed stop sign.start negative tokens = .ok (e, after) ∧
      after.1 = rest) :
    Takes stop (⟨signSymbol negative, sign⟩ :: tokens) rest e := by
  obtain ⟨⟨_, shorter⟩, read, rfl⟩ := read
  unfold Takes
  cases negative with
  | true =>
    rw [signSymbol, if_pos rfl, expression, read]
    exact ⟨_, rfl, rfl⟩
  | false =>
    rw [signSymbol, if_neg Bool.false_ne_true, expression, read]
    exact ⟨_, rfl, rfl⟩

/-- A number token is read together with the sign next to it. -/
theorem takes_near {negative : Bool} {text : List Char} (sign span : Span)
    (denotes : Denotes negative text value) (rest : List Token) :
    Takes stop (⟨signSymbol negative, sign⟩ :: ⟨.number text, span⟩ :: rest) rest
      (.literal ⟨sign.start, span.stop⟩ value) := by
  apply takes_sign
  rw [Parsing.signed, readNumber, numberLiteral?_eq_some_iff.mpr denotes]
  exact ⟨_, rfl, rfl⟩

/-- A number behind signs is turned by one more sign. -/
theorem takes_far {negative inner : Bool} {turned : Literal} (sign sign' : Span)
    (number : value.number? = some value) (turns : Turns negative value turned)
    (read : Takes stop (⟨signSymbol inner, sign'⟩ :: tokens) rest (.literal span value)) :
    Takes stop (⟨signSymbol negative, sign⟩ :: ⟨signSymbol inner, sign'⟩ :: tokens) rest
      (.literal ⟨sign.start, span.stop⟩ turned) := by
  obtain ⟨⟨_, shorter⟩, read, rfl⟩ := read
  have applied : applySign sign.start negative (.literal span value) =
      .ok (.literal ⟨sign.start, span.stop⟩ turned) :=
    applySign_eq_ok_iff.mpr ⟨span, value, turned, rfl, number, turns, rfl⟩
  apply takes_sign
  rw [Parsing.signed, read]
  · simp only [applied]
    exact ⟨_, rfl, rfl⟩
  · intro text span rest same
    cases inner <;> cases same

/-- **A number behind signs is read as what it denotes.** -/
theorem SignedNumber.takes (number : SignedNumber tokens span value) (stop : Nat)
    (rest : List Token) : Takes stop (tokens ++ rest) rest (.literal span value) := by
  induction number with
  | near sign span denotes => exact takes_near sign span denotes rest
  | far sign number turns ih =>
    obtain ⟨inner, sign', others, rfl⟩ := number.front
    exact takes_far sign sign' number.number? turns ih

/-! ### Sequences -/

/-- Before items stands one more, with a comma after it. -/
theorem FormsItems.cons (first : Forms tokens e) (comma : Span) (others : FormsItems more es) :
    FormsItems (tokens ++ ⟨.comma, comma⟩ :: more) (e :: es) := by
  cases others with
  | nothing => exact .trailing comma (.single first)
  | series series => exact .series (.more comma first series)
  | @trailing front _ last series =>
    rw [← List.cons_append, ← List.append_assoc]
    exact .trailing last (.more comma first series)

/-- Before entries stands one more, with a comma after it. -/
theorem FormsEntries.cons {key : List Token} {k : Expression} (colon : Span) (first : Forms key k)
    (value : Forms tokens e) (comma : Span) (others : FormsEntries more pairs) :
    FormsEntries (key ++ ⟨.colon, colon⟩ :: tokens ++ ⟨.comma, comma⟩ :: more)
      ((k, e) :: pairs) := by
  cases others with
  | nothing => exact .trailing comma (.single colon first value)
  | series series => exact .series (.more colon comma first value series)
  | @trailing front _ last series =>
    have longer := FormsEntries.trailing last (.more colon comma first value series)
    rwa [List.append_assoc] at longer

/-! ### Forms are read -/

/-- No expression begins with a closing token. -/
theorem Forms.front (forms : Forms tokens e) : ∃ first others, tokens = first :: others ∧
    first.symbol ∉ [.rightParen, .rightBracket, .rightBrace] := by
  cases forms with
  | signed number =>
    obtain ⟨negative, sign, others, rfl⟩ := number.front
    exact ⟨_, others, rfl, by cases negative <;> simp [signSymbol]⟩
  | _ => exact ⟨_, _, rfl, by simp⟩

theorem takes_name (name : List Char) (span : Span)
    (next : ∀ t ∈ rest.head?, t.symbol ≠ .leftParen) :
    Takes stop (⟨.identifier name, span⟩ :: rest) rest (.name span (String.ofList name)) := by
  unfold Takes
  rw [expression]
  · exact ⟨_, rfl, rfl⟩
  · rintro span' rest' rfl
    exact next _ rfl rfl

/-- What is read up to a closing parenthesis is a group, unless a comma follows it. -/
theorem takes_group (symbol : close.symbol = .rightParen)
    (opens : ∀ t ∈ tokens.head?, t.symbol ≠ .rightParen)
    (read : Takes stop tokens (close :: rest) e) (opening : Span) :
    Takes stop (⟨.leftParen, opening⟩ :: tokens) rest
      (.group ⟨opening.start, close.span.stop⟩ e) := by
  obtain ⟨⟨_, shorter⟩, read, rfl⟩ := read
  unfold Takes
  obtain ⟨mark, span⟩ := close
  cases symbol
  rw [expression, read]
  · have closes : expect stop .rightParen .groupUnclosed (⟨.rightParen, span⟩ :: rest) = _ :=
      expect_of_symbol stop .groupUnclosed rfl rest
    simp only [closes]
    exact ⟨_, rfl, rfl⟩
  · rintro span'' rest' rfl
    exact opens _ rfl rfl

/-- The last expression of a sequence is read up to the closing token, with the comma after it if
there is one. -/
theorem takesItems_last {closing : Symbol} {first : Token} {others tail : List Token}
    (opens : first.symbol ≠ closing) (symbol : close.symbol = closing) (noComma : closing ≠ .comma)
    (ends : tail = [] ∨ ∃ comma, tail = [⟨.comma, comma⟩])
    (last : Takes stop (first :: others) (tail ++ close :: rest) e) :
    TakesItems stop closing (first :: others) (close :: rest) [e] := by
  rcases ends with rfl | ⟨comma, rfl⟩
  · exact items_last opens last (symbol ▸ noComma)
  · exact items_cons opens last (items_nil symbol)

/-- The last entry is read up to the closing brace, with the comma after it if there is one. -/
theorem takesEntries_last {first : Token} {others behind tail : List Token} {k : Expression}
    {colon : Span} (opens : first.symbol ≠ .rightBrace) (symbol : close.symbol = .rightBrace)
    (ends : tail = [] ∨ ∃ comma, tail = [⟨.comma, comma⟩])
    (key : Takes stop (first :: others) (⟨.colon, colon⟩ :: behind) k)
    (last : Takes stop behind (tail ++ close :: rest) e) :
    TakesEntries stop (first :: others) (close :: rest) [(k, e)] := by
  rcases ends with rfl | ⟨comma, rfl⟩
  · exact entries_last opens key last (by rw [symbol]; decide)
  · exact entries_cons opens key last (entries_nil symbol)

/-- A token that closes nothing does not close the sequence that it begins. -/
theorem opens_of_front {first : Token}
    (front : first.symbol ∉ [.rightParen, .rightBracket, .rightBrace])
    (closes : close.symbol ∈ [.rightParen, .rightBracket, .rightBrace]) :
    first.symbol ≠ close.symbol :=
  fun same => front (same ▸ closes)

/-- A comma or a closing token opens nothing. -/
theorem noParen_of_ends {tail : List Token}
    (closes : close.symbol ∈ [.rightParen, .rightBracket, .rightBrace])
    (ends : tail = [] ∨ ∃ comma, tail = [⟨.comma, comma⟩]) :
    ∀ t ∈ (tail ++ close :: rest).head?, t.symbol ≠ .leftParen := by
  rcases ends with rfl | ⟨comma, rfl⟩
  · intro t front paren
    cases front
    simp [paren] at closes
  · intro t front paren
    cases front
    cases paren

mutual

/-- **What forms an expression is read as it**, if no parenthesis comes after it. -/
theorem Forms.takes {tokens : List Token} {e : Expression} (forms : Forms tokens e) (stop : Nat)
    (rest : List Token) (next : ∀ t ∈ rest.head?, t.symbol ≠ .leftParen) :
    Takes stop (tokens ++ rest) rest e := by
  cases forms with
  | number span denotes => exact expression_number (numberLiteral?_eq_some_iff.mpr denotes)
  | signed number => exact number.takes stop rest
  | keyword word span => exact expression_keyword stop span word rest
  | string content span => exact expression_string stop span content rest
  | name name span => exact takes_name name span next
  | call name span opening closing inner =>
    have read := FormsItems.takes inner stop ⟨.rightParen, closing⟩ rest (by simp)
    simp only [List.cons_append, List.append_assoc, List.nil_append]
    exact expression_call rfl read
  | list opening closing inner =>
    have read := FormsItems.takes inner stop ⟨.rightBracket, closing⟩ rest (by simp)
    simp only [List.cons_append, List.append_assoc, List.nil_append]
    exact expression_list rfl read
  | dict opening closing inner =>
    have read := FormsEntries.takes inner stop ⟨.rightBrace, closing⟩ rest rfl
    simp only [List.cons_append, List.append_assoc, List.nil_append]
    exact expression_dict rfl read
  | unit opening closing => exact expression_unit stop opening closing rest
  | group opening closing inner =>
    have read := Forms.takes inner stop (⟨.rightParen, closing⟩ :: rest) (by simp)
    obtain ⟨first, others, rfl, opens⟩ := inner.front
    simp only [List.cons_append, List.append_assoc, List.nil_append] at read ⊢
    exact takes_group rfl (by simp_all) read opening
  | @tuple _ more _ _ opening comma closing inner items =>
    have read := Forms.takes inner stop
      (⟨.comma, comma⟩ :: (more ++ ⟨.rightParen, closing⟩ :: rest)) (by simp)
    have readOthers := FormsItems.takes items stop ⟨.rightParen, closing⟩ rest (by simp)
    obtain ⟨first, others, rfl, opens⟩ := inner.front
    simp only [List.cons_append, List.append_assoc, List.nil_append] at read ⊢
    have closes : (⟨.rightParen, closing⟩ : Token).symbol = .rightParen := rfl
    exact expression_tuple closes (by simp_all) read readOthers
termination_by 3 * tokens.length
decreasing_by
  all_goals subst_vars
  all_goals try simp only [List.length_cons, List.length_append]
  all_goals omega

/-- **Items are read up to the closing token.** -/
theorem FormsItems.takes {tokens : List Token} {es : List Expression}
    (forms : FormsItems tokens es) (stop : Nat) (close : Token) (rest : List Token)
    (closes : close.symbol ∈ [.rightParen, .rightBracket, .rightBrace]) :
    TakesItems stop close.symbol (tokens ++ close :: rest) (close :: rest) es := by
  cases forms with
  | nothing => exact items_nil rfl
  | series series => exact FormsSeries.takes series stop close rest closes [] (.inl rfl)
  | trailing comma series =>
    rw [List.append_assoc]
    exact FormsSeries.takes series stop close rest closes [⟨.comma, comma⟩] (.inr ⟨comma, rfl⟩)
termination_by 3 * tokens.length + 2
decreasing_by
  all_goals subst_vars
  all_goals try simp only [List.length_cons, List.length_append]
  all_goals omega

theorem FormsSeries.takes {tokens : List Token} {es : List Expression}
    (forms : FormsSeries tokens es) (stop : Nat) (close : Token) (rest : List Token)
    (closes : close.symbol ∈ [.rightParen, .rightBracket, .rightBrace]) (tail : List Token)
    (ends : tail = [] ∨ ∃ comma, tail = [⟨.comma, comma⟩]) :
    TakesItems stop close.symbol (tokens ++ (tail ++ close :: rest)) (close :: rest) es := by
  cases forms with
  | single inner =>
    have read := Forms.takes inner stop (tail ++ close :: rest) (noParen_of_ends closes ends)
    obtain ⟨first, others, rfl, front⟩ := inner.front
    have noComma : close.symbol ≠ .comma := by
      intro comma
      simp [comma] at closes
    exact takesItems_last (opens_of_front front closes) rfl noComma ends read
  | @more _ behind _ _ comma inner series =>
    have read := Forms.takes inner stop (⟨.comma, comma⟩ :: (behind ++ (tail ++ close :: rest)))
      (by simp)
    have others := FormsSeries.takes series stop close rest closes tail ends
    obtain ⟨first, more, rfl, front⟩ := inner.front
    rw [List.append_assoc]
    exact items_cons (opens_of_front front closes) read others
termination_by 3 * tokens.length + 1
decreasing_by
  all_goals subst_vars
  all_goals try simp only [List.length_cons, List.length_append]
  all_goals omega

/-- **Entries are read up to the closing brace.** -/
theorem FormsEntries.takes {tokens : List Token} {pairs : List (Expression × Expression)}
    (forms : FormsEntries tokens pairs) (stop : Nat) (close : Token) (rest : List Token)
    (closes : close.symbol = .rightBrace) :
    TakesEntries stop (tokens ++ close :: rest) (close :: rest) pairs := by
  cases forms with
  | nothing => exact entries_nil closes
  | series series => exact FormsPairs.takes series stop close rest closes [] (.inl rfl)
  | trailing comma series =>
    rw [List.append_assoc]
    exact FormsPairs.takes series stop close rest closes [⟨.comma, comma⟩] (.inr ⟨comma, rfl⟩)
termination_by 3 * tokens.length + 2
decreasing_by
  all_goals subst_vars
  all_goals try simp only [List.length_cons, List.length_append]
  all_goals omega

theorem FormsPairs.takes {tokens : List Token} {pairs : List (Expression × Expression)}
    (forms : FormsPairs tokens pairs) (stop : Nat) (close : Token) (rest : List Token)
    (closes : close.symbol = .rightBrace) (tail : List Token)
    (ends : tail = [] ∨ ∃ comma, tail = [⟨.comma, comma⟩]) :
    TakesEntries stop (tokens ++ (tail ++ close :: rest)) (close :: rest) pairs := by
  cases forms with
  | @single _ behind _ _ colon key value =>
    have readKey := Forms.takes key stop (⟨.colon, colon⟩ :: (behind ++ (tail ++ close :: rest)))
      (by simp)
    have read := Forms.takes value stop (tail ++ close :: rest)
      (noParen_of_ends (by simp [closes]) ends)
    obtain ⟨first, others, rfl, front⟩ := key.front
    rw [List.append_assoc]
    exact takesEntries_last (fun brace => front (by simp [brace])) closes ends readKey read
  | @more _ value behind _ _ _ colon comma key inner pairs =>
    have readKey := Forms.takes key stop
      (⟨.colon, colon⟩ :: (value ++ ⟨.comma, comma⟩ :: (behind ++ (tail ++ close :: rest))))
      (by simp)
    have read := Forms.takes inner stop (⟨.comma, comma⟩ :: (behind ++ (tail ++ close :: rest)))
      (by simp)
    have others := FormsPairs.takes pairs stop close rest closes tail ends
    obtain ⟨first, more, rfl, front⟩ := key.front
    rw [List.append_assoc, List.append_assoc]
    exact entries_cons (fun brace => front (by simp [brace])) readKey read others
termination_by 3 * tokens.length + 1
decreasing_by
  all_goals subst_vars
  all_goals try simp only [List.length_cons, List.length_append]
  all_goals omega

end

end CallConsole
