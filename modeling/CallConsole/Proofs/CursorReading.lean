/-
**The cursor reads what the reader reads.**

From wherever the cursor is, if it is not past the mark, the walk ends as reading the tokens ahead
ends: with the same expression and the cursor in front of what is left, or with the report about the
same failure. So the cursor is never past the mark, and no report is without a place:

* `SourceFailure.Placed`: the places that failures have among the tokens;
* `Tracks`: a walk ends as reading does;
* `tracks_sign`, `tracks_paren`, …: one kind of expression, from its parts;
* `expression_tracks`, `items_tracks`, `entries_tracks`: the walk, by recursion with the reader.
-/

import CallConsole.Proofs.Recognition
import CallConsole.Proofs.TokenCursor

namespace CallConsole

open Parsing

/-! ### Places of failures -/

/-- **The place of a failure among the tokens**: a token, the end of the source, or all from a sign
to the end of the expression behind it. The last one is that of a sign in front of no number. -/
inductive SourceFailure.Placed (found : TokenList) : SourceFailure → Prop
  | token {cause : Cause} {token : Token} : cause ≠ .signWithoutNumber → token ∈ found.tokens →
      Placed found ⟨cause, token.span⟩
  | ending {cause : Cause} : cause ≠ .signWithoutNumber →
      Placed found ⟨cause, ⟨found.stop, found.stop⟩⟩
  | sign {negative : Bool} {before operand after : List Token} {sign : Span} {e : Expression} :
      found.tokens = before ++ ⟨signSymbol negative, sign⟩ :: (operand ++ after) →
      Forms operand e → Placed found ⟨.signWithoutNumber, ⟨sign.start, e.span.stop⟩⟩

/-- **The walk ends as reading does**: with the same value and the cursor in front of what is left,
or with the report about the same failure. The cursor has not moved back, and is not past the
mark. -/
def Tracks {α : Type} {fits : List Token → Prop} (found : TokenList) (n : Nat) (walk : Walk α) :
    Except SourceFailure (α × { rest : List Token // fits rest }) → Prop
  | .ok (a, after) => ∃ m, n ≤ m ∧ Ahead found m after.1 ∧ walk n = some (.ok a, m)
  | .error failure => failure.Placed found ∧
      ∃ m, n ≤ m ∧ m ≤ found.tokens.length ∧ walk n = some (.error failure.report, m)

/-- How reading ends, the walk ends too. -/
theorem Tracks.cases {α : Type} {fits : List Token → Prop} {found : TokenList} {n : Nat}
    {walk : Walk α} {result : Except SourceFailure (α × { rest : List Token // fits rest })}
    (tracks : Tracks found n walk result) :
    (∃ a after fit m, result = .ok (a, ⟨after, fit⟩) ∧ n ≤ m ∧ Ahead found m after ∧
      walk n = some (.ok a, m)) ∨
    ∃ failure m, result = .error failure ∧ failure.Placed found ∧ n ≤ m ∧
      m ≤ found.tokens.length ∧ walk n = some (.error failure.report, m) := by
  cases result with
  | error failure =>
    obtain ⟨placed, m, forth, inside, walked⟩ := tracks
    exact .inr ⟨failure, m, rfl, placed, forth, inside, walked⟩
  | ok taken =>
    obtain ⟨m, forth, ahead, walked⟩ := tracks
    exact .inl ⟨taken.1, taken.2.1, taken.2.2, m, rfl, forth, ahead, walked⟩

/-- **A walk of two parts ends as reading does**, if the first part does, and the second one does
from wherever the first one has led. -/
theorem Tracks.andThen {α β : Type} {fits total : List Token → Prop} {found : TokenList} {n m : Nat}
    {first : Walk α} {next : α → Walk β} {whole : Walk β}
    {part : Except SourceFailure (α × { rest : List Token // fits rest })}
    {result : Except SourceFailure (β × { rest : List Token // total rest })}
    (tracks : Tracks found m first part) (forth : n ≤ m)
    (walks : whole n = (first >>= next) m)
    (refused : ∀ failure, part = .error failure → result = .error failure)
    (further : ∀ a after fit last, part = .ok (a, ⟨after, fit⟩) → n ≤ last →
      Ahead found last after → whole n = next a last → Tracks found n whole result) :
    Tracks found n whole result := by
  rcases tracks.cases with ⟨a, after, fit, last, read, forth', ahead, walked⟩ |
    ⟨failure, last, read, placed, forth', inside, walked⟩
  · exact further a after fit last read (Nat.le_trans forth forth') ahead
      (walks.trans (Walk.bind_of_ok walked))
  · rw [refused failure read]
    exact ⟨placed, last, Nat.le_trans forth forth', inside,
      walks.trans (Walk.bind_of_error walked)⟩

variable {found : TokenList} {n m depth : Nat} {token : Token} {rest after : List Token}
  {span : Span} {cause : Cause}

theorem Ahead.placed_failAt (ahead : Ahead found n rest) (other : cause ≠ .signWithoutNumber) :
    (failAt found.stop cause rest).Placed found := by
  cases rest with
  | nil => exact .ending other
  | cons token rest => exact .token other ahead.mem

/-- A walk that ends with an expected token. -/
theorem Ahead.tracks_closing {α : Type} {fits : List Token → Prop} {whole : Walk α}
    {result : Except SourceFailure (α × { rest : List Token // fits rest })} {symbol : Symbol}
    (ahead : Ahead found m after) (cause : Cause) (other : cause ≠ .signWithoutNumber)
    (build : Nat → α) (forth : n ≤ m)
    (walks : whole n = (Walk.consume found.stations symbol cause >>= fun close =>
      pure (build close.span.stop)) m)
    (refused : ∀ failure, expect found.stop symbol cause after = .error failure →
      result = .error failure)
    (closed : ∀ close more shorter,
      expect found.stop symbol cause after = .ok (close, ⟨more, shorter⟩) →
        ∃ fit, result = .ok (build close, ⟨more, fit⟩)) :
    Tracks found n whole result := by
  rcases ahead.consume_eq symbol cause with
    ⟨close, more, shorter, rfl, expected, walked⟩ | ⟨expected, walked⟩
  · obtain ⟨fit, read⟩ := closed _ more shorter expected
    rw [read]
    exact ⟨m + 1, Nat.le_succ_of_le forth, ahead.tail, walks.trans (Walk.bind_of_ok walked)⟩
  · rw [refused _ expected]
    exact ⟨ahead.placed_failAt other, m, forth, ahead.inside,
      walks.trans (Walk.bind_of_error walked)⟩

/-! ### From primaries to expressions -/

/-- The tokens begin with no sign. -/
def Unsigned (tokens : List Token) : Prop :=
  ∀ negative sign more, tokens ≠ ⟨signSymbol negative, sign⟩ :: more

theorem unsigned_nil : Unsigned [] := nofun

theorem unsigned_cons (minus : token.symbol ≠ .minus) (plus : token.symbol ≠ .plus) :
    Unsigned (token :: rest) := by
  intro negative sign more same
  cases negative with
  | true => exact minus (congrArg Token.symbol (List.cons.inj same).1)
  | false => exact plus (congrArg Token.symbol (List.cons.inj same).1)

theorem Ahead.expression_eq (ahead : Ahead found n rest) (unsigned : Unsigned rest) :
    Walk.expression found.stations (depth + 1) n = Walk.call found.stations depth n := by
  have minus : Walk.skip found.stations .minus n = _ := ahead.skip_of_ne (unsigned true)
  have plus : Walk.skip found.stations .plus n = _ := ahead.skip_of_ne (unsigned false)
  rw [Walk.expression, Walk.bind_of_ok minus, if_neg Bool.false_ne_true, Walk.bind_of_ok plus,
    if_neg Bool.false_ne_true]

/-- What begins with no sign and no name is walked over as a primary. -/
theorem Tracks.expression {fits : List Token → Prop}
    {result : Except SourceFailure (Expression × { rest : List Token // fits rest })}
    (tracks : Tracks found n (Walk.primary found.stations depth) result)
    (ahead : Ahead found n rest) (unsigned : Unsigned rest)
    (noName : ∀ span name after, result ≠ .ok (.name span name, after)) :
    Tracks found n (Walk.expression found.stations (depth + 2)) result := by
  have walks : Walk.expression found.stations (depth + 2) n = _ := ahead.expression_eq unsigned
  rw [Walk.call] at walks
  refine tracks.andThen (Nat.le_refl n) walks (fun _ refused => refused) ?_
  rintro e after fit m rfl forth ahead' walks'
  refine ⟨m, forth, ahead', walks'.trans ?_⟩
  cases e with
  | name span name => exact absurd rfl (noName span name _)
  | _ => rfl

/-! ### Single tokens and displays -/

theorem tracks_list (opening : Span) (ahead : Ahead found n (⟨.leftBracket, opening⟩ :: rest))
    (inner : Tracks found (n + 1) (Walk.items found.stations depth .rightBracket)
      (items found.stop .rightBracket rest)) :
    Tracks found n (Walk.primary found.stations (depth + 1))
      (expression found.stop (⟨.leftBracket, opening⟩ :: rest)) := by
  have walks : Walk.primary found.stations (depth + 1) n = (do
      let elements ← Walk.items found.stations depth .rightBracket
      let close ← Walk.consume found.stations .rightBracket .listUnclosed
      return .list ⟨opening.start, close.span.stop⟩ elements : Walk Expression) (n + 1) := by
    rw [Walk.primary, Walk.bind_of_ok ahead.peek_eq]
    exact Walk.bind_of_ok ahead.advance_eq
  rw [expression]
  refine inner.andThen (Nat.le_succ n) walks ?_ ?_
  · intro failure read
    rw [read]
  · intro es after fit m read forth ahead' walks'
    simp only [read]
    refine ahead'.tracks_closing .listUnclosed (by decide)
      (fun close => .list ⟨opening.start, close⟩ es) forth walks' ?_ ?_
    · intro failure failed
      rw [failed]
    · intro close more shorter expected
      rw [expected]
      exact ⟨_, rfl⟩

theorem tracks_dict (opening : Span) (ahead : Ahead found n (⟨.leftBrace, opening⟩ :: rest))
    (inner : Tracks found (n + 1) (Walk.entries found.stations depth)
      (entries found.stop rest)) :
    Tracks found n (Walk.primary found.stations (depth + 2))
      (expression found.stop (⟨.leftBrace, opening⟩ :: rest)) := by
  have walks : Walk.primary found.stations (depth + 2) n = (do
      let pairs ← Walk.entries found.stations depth
      let close ← Walk.consume found.stations .rightBrace .dictUnclosed
      return .dict ⟨opening.start, close.span.stop⟩ pairs : Walk Expression) (n + 1) := by
    rw [Walk.primary, Walk.bind_of_ok ahead.peek_eq]
    show Walk.dict found.stations (depth + 1) n = _
    rw [Walk.dict]
    exact Walk.bind_of_ok ahead.advance_eq
  rw [expression]
  refine inner.andThen (Nat.le_succ n) walks ?_ ?_
  · intro failure read
    rw [read]
  · intro pairs after fit m read forth ahead' walks'
    simp only [read]
    refine ahead'.tracks_closing .dictUnclosed (by decide)
      (fun close => .dict ⟨opening.start, close⟩ pairs) forth walks' ?_ ?_
    · intro failure failed
      rw [failed]
    · intro close more shorter expected
      rw [expected]
      exact ⟨_, rfl⟩

theorem Ahead.primary_name {name : List Char}
    (ahead : Ahead found n (⟨.identifier name, span⟩ :: rest)) :
    Walk.primary found.stations (depth + 1) n =
      some (.ok (.name span (String.ofList name)), n + 1) := by
  rw [Walk.primary, Walk.bind_of_ok ahead.peek_eq]
  exact Walk.bind_of_ok ahead.advance_eq

theorem tracks_call {name : List Char} (span opening : Span)
    (ahead : Ahead found n (⟨.identifier name, span⟩ :: ⟨.leftParen, opening⟩ :: rest))
    (inner : Tracks found (n + 2) (Walk.items found.stations (depth + 1) .rightParen)
      (items found.stop .rightParen rest)) :
    Tracks found n (Walk.expression found.stations (depth + 3))
      (expression found.stop (⟨.identifier name, span⟩ :: ⟨.leftParen, opening⟩ :: rest)) := by
  have walks : Walk.expression found.stations (depth + 3) n = (do
      let arguments ← Walk.items found.stations (depth + 1) .rightParen
      let close ← Walk.consume found.stations .rightParen .argumentsUnclosed
      return .call ⟨span.start, close.span.stop⟩ (String.ofList name) arguments :
        Walk Expression) (n + 2) := by
    rw [ahead.expression_eq (unsigned_cons (by simp) (by simp)), Walk.call,
      Walk.bind_of_ok ahead.primary_name]
    exact Walk.bind_of_ok ahead.tail.skip_of_eq
  rw [expression]
  refine inner.andThen (Nat.le_add_right n 2) walks ?_ ?_
  · intro failure read
    rw [read]
  · intro es after fit m read forth ahead' walks'
    simp only [read]
    refine ahead'.tracks_closing .argumentsUnclosed (by decide)
      (fun close => .call ⟨span.start, close⟩ (String.ofList name) es) forth walks' ?_ ?_
    · intro failure failed
      rw [failed]
    · intro close more shorter expected
      rw [expected]
      exact ⟨_, rfl⟩

/-- A name that no arguments follow. -/
theorem tracks_name {name : List Char} (span : Span)
    (ahead : Ahead found n (⟨.identifier name, span⟩ :: rest))
    (bare : ∀ opening more, rest ≠ ⟨.leftParen, opening⟩ :: more) :
    Tracks found n (Walk.expression found.stations (depth + 3))
      (expression found.stop (⟨.identifier name, span⟩ :: rest)) := by
  rw [expression]
  case x => exact bare
  refine ⟨n + 1, Nat.le_succ n, ahead.tail, ?_⟩
  rw [ahead.expression_eq (unsigned_cons (by simp) (by simp)), Walk.call,
    Walk.bind_of_ok ahead.primary_name]
  exact Walk.bind_of_ok (ahead.tail.skip_of_ne bare)

theorem tracks_keyword (word : Keyword) (span : Span)
    (ahead : Ahead found n (⟨.keyword word, span⟩ :: rest)) :
    Tracks found n (Walk.primary found.stations (depth + 1))
      (expression found.stop (⟨.keyword word, span⟩ :: rest)) := by
  rw [expression]
  refine ⟨n + 1, Nat.le_succ n, ahead.tail, ?_⟩
  rw [Walk.primary, Walk.bind_of_ok ahead.peek_eq]
  exact Walk.bind_of_ok ahead.advance_eq

theorem tracks_string (content : List Char) (span : Span)
    (ahead : Ahead found n (⟨.string content, span⟩ :: rest)) :
    Tracks found n (Walk.primary found.stations (depth + 1))
      (expression found.stop (⟨.string content, span⟩ :: rest)) := by
  rw [expression]
  refine ⟨n + 1, Nat.le_succ n, ahead.tail, ?_⟩
  rw [Walk.primary, Walk.bind_of_ok ahead.peek_eq]
  exact Walk.bind_of_ok ahead.advance_eq

/-- At a token that begins no expression, and at the mark, reading and the walk end. -/
theorem tracks_unexpected {fits : List Token → Prop}
    {result : Except SourceFailure (Expression × { rest : List Token // fits rest })}
    (ahead : Ahead found n rest)
    (refused : result = .error (failAt found.stop .tokenUnexpected rest))
    (walked : Walk.primary found.stations depth n =
      some (.error (failAt found.stop .tokenUnexpected rest).report, n)) :
    Tracks found n (Walk.primary found.stations depth) result := by
  rw [refused]
  exact ⟨ahead.placed_failAt (by decide), n, Nat.le_refl n, ahead.inside, walked⟩

theorem tracks_unit (opening closing : Span)
    (ahead : Ahead found n (⟨.leftParen, opening⟩ :: ⟨.rightParen, closing⟩ :: rest)) :
    Tracks found n (Walk.primary found.stations (depth + 1))
      (expression found.stop (⟨.leftParen, opening⟩ :: ⟨.rightParen, closing⟩ :: rest)) := by
  rw [expression]
  refine ⟨n + 2, Nat.le_add_right n 2, ahead.tail.tail, ?_⟩
  rw [Walk.primary, Walk.bind_of_ok ahead.peek_eq]
  refine (Walk.bind_of_ok ahead.advance_eq).trans ?_
  rw [Walk.bind_of_ok ahead.tail.skip_of_eq, if_pos rfl, Walk.bind_of_ok ahead.tail.previous_eq]
  rfl

/-- An opening parenthesis begins a tuple if a comma follows the first expression, else a group. -/
theorem tracks_paren (opening : Span) (opens : ∀ span more, rest ≠ ⟨.rightParen, span⟩ :: more)
    (ahead : Ahead found n (⟨.leftParen, opening⟩ :: rest))
    (inner : Tracks found (n + 1) (Walk.expression found.stations depth)
      (expression found.stop rest))
    (others : ∀ m comma more, Ahead found m (⟨.comma, comma⟩ :: more) →
      more.length < rest.length →
      Tracks found (m + 1) (Walk.items found.stations depth .rightParen)
        (items found.stop .rightParen more)) :
    Tracks found n (Walk.primary found.stations (depth + 1))
      (expression found.stop (⟨.leftParen, opening⟩ :: rest)) := by
  have walks : Walk.primary found.stations (depth + 1) n = (do
      let first ← Walk.expression found.stations depth
      if ← Walk.skip found.stations .comma then
        let others ← Walk.items found.stations depth .rightParen
        let close ← Walk.consume found.stations .rightParen .tupleUnclosed
        return .tuple ⟨opening.start, close.span.stop⟩ (first :: others)
      else
        let close ← Walk.consume found.stations .rightParen .groupUnclosed
        return .group ⟨opening.start, close.span.stop⟩ first : Walk Expression) (n + 1) := by
    rw [Walk.primary, Walk.bind_of_ok ahead.peek_eq]
    refine (Walk.bind_of_ok ahead.advance_eq).trans ?_
    rw [Walk.bind_of_ok (ahead.tail.skip_of_ne opens), if_neg Bool.false_ne_true]
  rw [expression]
  case x => exact opens
  refine inner.andThen (Nat.le_succ n) walks ?_ ?_
  · intro failure read
    rw [read]
  intro first after fit m read forth ahead' walks'
  rcases ahead'.skip_eq .comma with ⟨comma, more, rfl, skipped⟩ | ⟨absent, skipped⟩
  · rw [Walk.bind_of_ok skipped, if_pos rfl] at walks'
    simp only [read]
    refine (others m comma more ahead' (Nat.lt_of_succ_lt fit)).andThen (Nat.le_succ_of_le forth)
      walks' ?_ ?_
    · intro failure read'
      rw [read']
    · intro es after _ last read' forth' ahead'' walks''
      simp only [read']
      refine ahead''.tracks_closing .tupleUnclosed (by decide)
        (fun close => .tuple ⟨opening.start, close⟩ (first :: es)) forth' walks'' ?_ ?_
      · intro failure failed
        rw [failed]
      · intro close more shorter expected
        rw [expected]
        exact ⟨_, rfl⟩
  · rw [Walk.bind_of_ok skipped, if_neg Bool.false_ne_true] at walks'
    -- Reading asks for a comma in what is left, the walk at the cursor: both find none.
    split
    case h_1 failure failed => cases read.symm.trans failed
    case h_2 e span more _ taken =>
      cases read.symm.trans taken
      exact absurd rfl (absent span more)
    case h_3 e left _ taken =>
      cases read.symm.trans taken
      refine ahead'.tracks_closing .groupUnclosed (by decide)
        (fun close => .group ⟨opening.start, close⟩ first) forth walks' ?_ ?_
      · intro failure failed
        rw [failed]
      · intro close more shorter expected
        rw [expected]
        exact ⟨_, rfl⟩

/-! ### Numbers and signs -/

/-- A sign in front of no number is refused together with what it stands in front of. -/
theorem applySign_refused {start : Nat} {negative : Bool} {operand : Expression}
    {failure : SourceFailure} (refused : applySign start negative operand = .error failure) :
    failure = ⟨.signWithoutNumber, ⟨start, operand.span.stop⟩⟩ := by
  unfold applySign at refused
  simp only at refused
  split at refused <;> cases refused
  rfl

/-- A walk that ends with the number of a token. A malformed number is refused at its token. -/
theorem tracks_readNumber {text : List Char} {start : Nat} {negative : Bool}
    {whole : Walk Expression} {fits : List Token → Prop}
    (ahead : Ahead found n (⟨.number text, span⟩ :: rest))
    (walks : whole n = Walk.located (readNumber start negative text span) (n + 1))
    (fit : fits rest) :
    Tracks found n whole (match readNumber start negative text span with
      | .error failure => .error failure
      | .ok e => .ok (e, (⟨rest, fit⟩ : { rest : List Token // fits rest }))) := by
  unfold readNumber at *
  split at walks
  case h_1 value number =>
    exact ⟨n + 1, Nat.le_succ n, ahead.tail, walks⟩
  case h_2 malformed =>
    have other : Cause.numberMalformed (String.ofList text) ≠ .signWithoutNumber := nofun
    exact ⟨.token other ahead.mem, n + 1, Nat.le_succ n, ahead.tail.inside, walks⟩

theorem tracks_number {text : List Char} (span : Span)
    (ahead : Ahead found n (⟨.number text, span⟩ :: rest)) :
    Tracks found n (Walk.primary found.stations (depth + 1))
      (expression found.stop (⟨.number text, span⟩ :: rest)) := by
  rw [expression]
  refine tracks_readNumber ahead ?_ (Nat.lt_succ_self _)
  rw [Walk.primary, Walk.bind_of_ok ahead.peek_eq]
  exact Walk.bind_of_ok ahead.advance_eq

/-- A number that a sign stands next to. -/
theorem tracks_near {text : List Char} {negative : Bool} (sign : Token) (span : Span)
    (ahead : Ahead found n (⟨.number text, span⟩ :: rest)) :
    Tracks found n (Walk.signed found.stations (depth + 1) sign.station negative)
      (signed found.stop sign.span.start negative (⟨.number text, span⟩ :: rest)) := by
  rw [signed]
  refine tracks_readNumber ahead ?_ (Nat.lt_succ_self _)
  rw [Walk.signed, Walk.bind_of_ok ahead.peek_eq]
  exact Walk.bind_of_ok ahead.advance_eq

/-- What a sign stands in front of, if it is no bare number. -/
theorem tracks_far {negative : Bool} {sign : Span}
    (bare : ∀ text span more, rest ≠ ⟨.number text, span⟩ :: more)
    (ahead : Ahead found n (⟨signSymbol negative, sign⟩ :: rest))
    (inner : Tracks found (n + 1) (Walk.expression found.stations depth)
      (expression found.stop rest)) :
    Tracks found (n + 1)
      (Walk.signed found.stations (depth + 1) (Token.station ⟨signSymbol negative, sign⟩) negative)
      (signed found.stop sign.start negative rest) := by
  have walks : Walk.signed found.stations (depth + 1)
      (Token.station ⟨signSymbol negative, sign⟩) negative (n + 1) = (do
        let operand ← Walk.expression found.stations depth
        Walk.located (applySign sign.start negative operand) : Walk Expression) (n + 1) := by
    rw [Walk.signed, Walk.bind_of_ok ahead.tail.peek_eq]
    cases rest with
    | nil => rfl
    | cons token rest =>
      obtain ⟨symbol, span⟩ := token
      cases symbol with
      | number text => exact absurd rfl (bare text span rest)
      | _ => rfl
  rw [signed]
  case x => exact bare
  have recognized := expression_recognizes found.stop rest
  refine inner.andThen (Nat.le_refl _) walks ?_ ?_
  · intro failure read
    rw [read]
  intro operand after fit m read forth ahead' walks'
  rw [read] at recognized
  obtain ⟨front, whole, forms⟩ := recognized
  simp only [read]
  cases applied : applySign sign.start negative operand with
  | ok e =>
    rw [applied] at walks'
    exact ⟨m, forth, ahead', walks'⟩
  | error failure =>
    rw [applied] at walks'
    cases applySign_refused applied
    -- The operand is what the sign stands in front of, so the refused stretch ends behind it.
    have divided : found.tokens = found.tokens.take n ++
        ⟨signSymbol negative, sign⟩ :: (front ++ after) := by
      rw [← whole, ← ahead.drop_eq, List.take_append_drop]
    exact ⟨.sign divided forms, m, forth, ahead'.inside, walks'⟩

theorem tracks_sign {negative : Bool} (sign : Span)
    (ahead : Ahead found n (⟨signSymbol negative, sign⟩ :: rest))
    (inner : Tracks found (n + 1)
      (Walk.signed found.stations depth (Token.station ⟨signSymbol negative, sign⟩) negative)
      (signed found.stop sign.start negative rest)) :
    Tracks found n (Walk.expression found.stations (depth + 1))
      (expression found.stop (⟨signSymbol negative, sign⟩ :: rest)) := by
  have walks : Walk.expression found.stations (depth + 1) n =
      Walk.signed found.stations depth (Token.station ⟨signSymbol negative, sign⟩) negative
        (n + 1) := by
    rw [Walk.expression]
    cases negative with
    | true =>
      refine (Walk.bind_of_ok ahead.skip_of_eq).trans ?_
      exact Walk.bind_of_ok ahead.previous_eq
    | false =>
      have other : ∀ span more, (⟨signSymbol false, sign⟩ : Token) :: rest ≠
        ⟨.minus, span⟩ :: more := nofun
      rw [Walk.bind_of_ok (ahead.skip_of_ne other), if_neg Bool.false_ne_true]
      refine (Walk.bind_of_ok ahead.skip_of_eq).trans ?_
      exact Walk.bind_of_ok ahead.previous_eq
  have reads : expression found.stop (⟨signSymbol negative, sign⟩ :: rest) =
      (signed found.stop sign.start negative rest).map fun taken =>
        (taken.1, ⟨taken.2.1, Nat.lt_succ_of_lt taken.2.2⟩) := by
    cases negative with
    | true =>
      rw [signSymbol, if_pos rfl, expression]
      cases signed found.stop sign.start true rest <;> rfl
    | false =>
      rw [signSymbol, if_neg Bool.false_ne_true, expression]
      cases signed found.stop sign.start false rest <;> rfl
  rw [reads]
  rcases inner.cases with ⟨e, after, fit, m, read, forth, ahead', walked⟩ |
    ⟨failure, m, read, placed, forth, inside, walked⟩
  · rw [read]
    exact ⟨m, Nat.le_of_succ_le forth, ahead', walks.trans walked⟩
  · rw [read]
    exact ⟨placed, m, Nat.le_of_succ_le forth, inside, walks.trans walked⟩

/-! ### Sequences -/

/-- At the end of items, and at the mark, the cursor stays. -/
theorem Ahead.items_of_closed {closing : Symbol} (ahead : Ahead found n rest)
    (closed : ∀ token ∈ rest.head?, token.symbol = closing) :
    Walk.items found.stations (depth + 1) closing n = some (.ok [], n) := by
  rw [Walk.items, Walk.bind_of_ok ahead.check_eq, Walk.bind_of_ok ahead.isAtEnd_eq]
  cases rest with
  | nil => rfl
  | cons token rest =>
    rw [List.head?_cons, Option.any_some, decide_eq_true (closed token rfl)]
    rfl

/-- Items are one more, as long as commas follow. -/
theorem tracks_items {closing : Symbol} (opens : token.symbol ≠ closing)
    (ahead : Ahead found n (token :: rest))
    (inner : Tracks found n (Walk.expression found.stations depth)
      (expression found.stop (token :: rest)))
    (others : ∀ m comma more, Ahead found m (⟨.comma, comma⟩ :: more) →
      more.length < (token :: rest).length →
      Tracks found (m + 1) (Walk.items found.stations depth closing)
        (items found.stop closing more)) :
    Tracks found n (Walk.items found.stations (depth + 1) closing)
      (items found.stop closing (token :: rest)) := by
  have walks : Walk.items found.stations (depth + 1) closing n = (do
      let e ← Walk.expression found.stations depth
      if ← Walk.skip found.stations .comma then
        let others ← Walk.items found.stations depth closing
        return e :: others
      else return [e] : Walk (List Expression)) n := by
    rw [Walk.items, Walk.bind_of_ok ahead.check_eq, Walk.bind_of_ok ahead.isAtEnd_eq,
      List.head?_cons, Option.any_some, decide_eq_false opens]
    rfl
  rw [items, if_neg opens]
  refine inner.andThen (Nat.le_refl n) walks ?_ ?_
  · intro failure read
    rw [read]
  intro e after fit m read forth ahead' walks'
  rcases ahead'.skip_eq .comma with ⟨comma, more, rfl, skipped⟩ | ⟨absent, skipped⟩
  · rw [Walk.bind_of_ok skipped, if_pos rfl] at walks'
    simp only [read]
    refine (others m comma more ahead' (Nat.lt_of_succ_lt fit)).andThen (Nat.le_succ_of_le forth)
      walks' ?_ ?_
    · intro failure read'
      rw [read']
    · intro es after _ last read' forth' ahead'' walks''
      simp only [read']
      exact ⟨last, forth', ahead'', walks''⟩
  · rw [Walk.bind_of_ok skipped, if_neg Bool.false_ne_true] at walks'
    split
    case h_1 failure failed => cases read.symm.trans failed
    case h_2 e span more _ taken =>
      cases read.symm.trans taken
      exact absurd rfl (absent span more)
    case h_3 e left _ taken =>
      cases read.symm.trans taken
      exact ⟨m, forth, ahead', walks'⟩

theorem Ahead.entries_of_closed (ahead : Ahead found n rest)
    (closed : ∀ token ∈ rest.head?, token.symbol = .rightBrace) :
    Walk.entries found.stations (depth + 1) n = some (.ok [], n) := by
  rw [Walk.entries, Walk.bind_of_ok ahead.check_eq, Walk.bind_of_ok ahead.isAtEnd_eq]
  cases rest with
  | nil => rfl
  | cons token rest =>
    rw [List.head?_cons, Option.any_some, decide_eq_true (closed token rfl)]
    rfl

/-- Entries are one more, as long as commas follow. -/
theorem tracks_entries (opens : token.symbol ≠ .rightBrace)
    (ahead : Ahead found n (token :: rest))
    (key : Tracks found n (Walk.expression found.stations depth)
      (expression found.stop (token :: rest)))
    (value : ∀ m behind, Ahead found m behind → behind.length < (token :: rest).length →
      Tracks found m (Walk.expression found.stations depth) (expression found.stop behind))
    (others : ∀ m comma more, Ahead found m (⟨.comma, comma⟩ :: more) →
      more.length < (token :: rest).length →
      Tracks found (m + 1) (Walk.entries found.stations depth) (entries found.stop more)) :
    Tracks found n (Walk.entries found.stations (depth + 1))
      (entries found.stop (token :: rest)) := by
  have walks : Walk.entries found.stations (depth + 1) n = (do
      let key ← Walk.expression found.stations depth
      let _ ← Walk.consume found.stations .colon .colonMissing
      let value ← Walk.expression found.stations depth
      if ← Walk.skip found.stations .comma then
        let others ← Walk.entries found.stations depth
        return (key, value) :: others
      else return [(key, value)] : Walk (List (Expression × Expression))) n := by
    rw [Walk.entries, Walk.bind_of_ok ahead.check_eq, Walk.bind_of_ok ahead.isAtEnd_eq,
      List.head?_cons, Option.any_some, decide_eq_false opens]
    rfl
  rw [entries, if_neg opens]
  refine key.andThen (Nat.le_refl n) walks ?_ ?_
  · intro failure read
    rw [read]
  intro k afterKey fit m read forth ahead' walksKey
  simp only [read]
  rcases ahead'.consume_eq .colon .colonMissing with
    ⟨colon, behind, shorter, rfl, expected, consumed⟩ | ⟨expected, consumed⟩
  case inr =>
    simp only [expected]
    exact ⟨ahead'.placed_failAt (by decide), m, forth, ahead'.inside,
      walksKey.trans (Walk.bind_of_error consumed)⟩
  have walksColon := walksKey.trans (Walk.bind_of_ok consumed)
  simp only [expected]
  have fewer : behind.length < (token :: rest).length := Nat.lt_of_succ_lt fit
  refine (value (m + 1) behind ahead'.tail fewer).andThen (Nat.le_succ_of_le forth) walksColon
    ?_ ?_
  · intro failure read'
    rw [read']
  intro v after fit' m' read' forth' aheadValue walksValue
  rcases aheadValue.skip_eq .comma with ⟨comma, more, rfl, skipped⟩ | ⟨absent, skipped⟩
  · rw [Walk.bind_of_ok skipped, if_pos rfl] at walksValue
    simp only [read']
    have fewest : more.length < (token :: rest).length :=
      Nat.lt_trans (Nat.lt_of_succ_lt fit') fewer
    refine (others m' comma more aheadValue fewest).andThen (Nat.le_succ_of_le forth') walksValue
      ?_ ?_
    · intro failure readOthers
      rw [readOthers]
    · intro pairs after _ last readOthers forth'' aheadLast walksOthers
      simp only [readOthers]
      exact ⟨last, forth'', aheadLast, walksOthers⟩
  · rw [Walk.bind_of_ok skipped, if_neg Bool.false_ne_true] at walksValue
    split
    case h_1 failure failed => cases read'.symm.trans failed
    case h_2 e span more _ taken =>
      cases read'.symm.trans taken
      exact absurd rfl (absent span more)
    case h_3 e left _ taken =>
      cases read'.symm.trans taken
      exact ⟨m', forth', aheadValue, walksValue⟩

/-! ### The walk -/

/-- Only a name token is read as a name. -/
theorem expression_ne_name (stop : Nat) (noName : ∀ name, token.symbol ≠ .identifier name)
    (span : Span) (name : String) (after : Shorter (token :: rest)) :
    expression stop (token :: rest) ≠ .ok (.name span name, after) := by
  intro read
  have recognized := expression_recognizes stop (token :: rest)
  rw [read] at recognized
  obtain ⟨front, whole, forms⟩ := recognized
  cases forms with
  | name name => exact noName name (congrArg Token.symbol (List.cons.inj whole).1)

/-- A token with which neither a sign nor a name begins. -/
theorem Tracks.expression_cons
    (tracks : Tracks found n (Walk.primary found.stations depth)
      (Parsing.expression found.stop (token :: rest)))
    (ahead : Ahead found n (token :: rest)) (minus : token.symbol ≠ .minus)
    (plus : token.symbol ≠ .plus) (noName : ∀ name, token.symbol ≠ .identifier name) :
    Tracks found n (Walk.expression found.stations (depth + 2))
      (Parsing.expression found.stop (token :: rest)) :=
  tracks.expression ahead (unsigned_cons minus plus) (expression_ne_name _ noName)

mutual

/-- **Walking over an expression is reading one**, if the walk may go deep enough. For each token,
no more than five parts of it are inside of one another. -/
theorem expression_tracks (found : TokenList) (n depth : Nat) (tokens : List Token)
    (ahead : Ahead found n tokens) (deep : 5 * tokens.length ≤ depth) :
    Tracks found n (Walk.expression found.stations (depth + 3))
      (expression found.stop tokens) := by
  match tokens with
  | [] =>
    refine (tracks_unexpected ahead ?_ ?_).expression ahead unsigned_nil ?_
    · rw [expression]
    · rw [Walk.primary, Walk.bind_of_ok ahead.peek_eq]
      rfl
    · intro span name after read
      rw [expression] at read
      cases read
  | ⟨symbol, span⟩ :: rest =>
    obtain ⟨depth, rfl⟩ := Nat.exists_eq_add_of_le' (Nat.le_of_add_left_le deep)
    -- A dict is the deepest way to a next token: call, primary, dict, entries, expression.
    have deep' : 5 * rest.length ≤ depth := Nat.le_of_add_le_add_right deep
    cases symbol with
    | minus =>
      have inner := signed_tracks found n (depth + 3) true span rest ahead (by omega)
      exact tracks_sign span ahead inner
    | plus =>
      have inner := signed_tracks found n (depth + 3) false span rest ahead (by omega)
      exact tracks_sign span ahead inner
    | number text =>
      exact (tracks_number span ahead).expression_cons ahead nofun nofun nofun
    | keyword word =>
      exact (tracks_keyword word span ahead).expression_cons ahead nofun nofun nofun
    | string content =>
      exact (tracks_string content span ahead).expression_cons ahead nofun nofun nofun
    | identifier name =>
      by_cases call : ∃ opening more, rest = ⟨.leftParen, opening⟩ :: more
      · obtain ⟨opening, more, same⟩ := call
        have shorter : more.length < rest.length := by
          rw [same]
          exact Nat.lt_succ_self _
        subst same
        exact tracks_call span opening ahead
          (items_tracks found (n + 2) (depth + 2) .rightParen more ahead.tail.tail (by omega))
      · exact tracks_name span ahead fun opening more same => call ⟨opening, more, same⟩
    | leftParen =>
      refine Tracks.expression_cons ?_ ahead nofun nofun nofun
      by_cases unit : ∃ closing more, rest = ⟨.rightParen, closing⟩ :: more
      · obtain ⟨closing, more, rfl⟩ := unit
        exact tracks_unit span closing ahead
      · refine tracks_paren span (fun closing more same => unit ⟨closing, more, same⟩) ahead
          (expression_tracks found (n + 1) (depth + 2) rest ahead.tail (by omega)) ?_
        intro m comma more ahead' fewer
        exact items_tracks found (m + 1) (depth + 1) .rightParen more ahead'.tail (by omega)
    | leftBracket =>
      have inner := items_tracks found (n + 1) (depth + 1) .rightBracket rest ahead.tail (by omega)
      exact (tracks_list span ahead inner).expression_cons ahead nofun nofun nofun
    | leftBrace =>
      have inner := entries_tracks found (n + 1) depth rest ahead.tail deep'
      exact (tracks_dict span ahead inner).expression_cons ahead nofun nofun nofun
    | rightParen | rightBracket | rightBrace | comma | colon | unknown =>
      refine (tracks_unexpected ahead ?_ ?_).expression_cons ahead nofun nofun nofun
      · unfold expression
        rfl
      · rw [Walk.primary, Walk.bind_of_ok ahead.peek_eq]
        rfl
termination_by 2 * tokens.length
decreasing_by
  all_goals simp only [List.length_cons] at *
  all_goals omega

theorem signed_tracks (found : TokenList) (n depth : Nat) (negative : Bool) (sign : Span)
    (tokens : List Token) (ahead : Ahead found n (⟨signSymbol negative, sign⟩ :: tokens))
    (deep : 5 * tokens.length ≤ depth) :
    Tracks found (n + 1)
      (Walk.signed found.stations (depth + 4) (Token.station ⟨signSymbol negative, sign⟩) negative)
      (signed found.stop sign.start negative tokens) := by
  by_cases bare : ∃ text span rest, tokens = ⟨.number text, span⟩ :: rest
  · obtain ⟨text, span, rest, rfl⟩ := bare
    exact tracks_near ⟨signSymbol negative, sign⟩ span ahead.tail
  · refine tracks_far (fun text span rest same => bare ⟨text, span, rest, same⟩) ahead ?_
    exact expression_tracks found (n + 1) depth tokens ahead.tail deep
termination_by 2 * tokens.length + 1

theorem items_tracks (found : TokenList) (n depth : Nat) (closing : Symbol) (tokens : List Token)
    (ahead : Ahead found n tokens) (deep : 5 * tokens.length ≤ depth) :
    Tracks found n (Walk.items found.stations (depth + 4) closing)
      (items found.stop closing tokens) := by
  match tokens with
  | [] =>
    rw [items]
    exact ⟨n, Nat.le_refl n, ahead, ahead.items_of_closed nofun⟩
  | token :: rest =>
    by_cases closes : token.symbol = closing
    · rw [items, if_pos closes]
      refine ⟨n, Nat.le_refl n, ahead, ahead.items_of_closed ?_⟩
      rintro _ ⟨⟩
      exact closes
    · refine tracks_items closes ahead (expression_tracks found n depth _ ahead deep) ?_
      intro m comma more ahead' fewer
      obtain ⟨depth, rfl⟩ := Nat.exists_eq_add_of_le' (Nat.le_of_add_left_le deep)
      exact items_tracks found (m + 1) (depth + 4) closing more ahead'.tail (by omega)
termination_by 2 * tokens.length + 1
decreasing_by
  all_goals simp only [List.length_cons] at *
  all_goals omega

theorem entries_tracks (found : TokenList) (n depth : Nat) (tokens : List Token)
    (ahead : Ahead found n tokens) (deep : 5 * tokens.length ≤ depth) :
    Tracks found n (Walk.entries found.stations (depth + 4)) (entries found.stop tokens) := by
  match tokens with
  | [] =>
    rw [entries]
    exact ⟨n, Nat.le_refl n, ahead, ahead.entries_of_closed nofun⟩
  | token :: rest =>
    by_cases closes : token.symbol = .rightBrace
    · rw [entries, if_pos closes]
      refine ⟨n, Nat.le_refl n, ahead, ahead.entries_of_closed ?_⟩
      rintro _ ⟨⟩
      exact closes
    · refine tracks_entries closes ahead (expression_tracks found n depth _ ahead deep) ?_ ?_
      · intro m behind ahead' fewer
        exact expression_tracks found m depth behind ahead' (by omega)
      · intro m comma more ahead' fewer
        obtain ⟨depth, rfl⟩ := Nat.exists_eq_add_of_le' (Nat.le_of_add_left_le deep)
        exact entries_tracks found (m + 1) (depth + 4) more ahead'.tail (by omega)
termination_by 2 * tokens.length + 1
decreasing_by
  all_goals simp only [List.length_cons] at *
  all_goals omega

end

end CallConsole
