/-
**A cursor over the tokens of a source.**

A source can be read by a cursor that walks along its tokens, one step at a time, up to a mark
behind the last one. The walk looks at the station that the cursor is at, and steps over it. Were
the cursor ever past the mark, there would be nothing to look at, and no place to name in a failure.
The parts of a walk are inside of one another, and nothing in them says how deep that goes, so a
walk has a depth, which does not matter if it is large enough for the tokens:

* `Walk.expression`, `Walk.items`, `Walk.entries`: the walk, down to a depth;
* `Walk.bind_of_ok`, `Walk.bind_of_error`: a walk of two parts;
* `Ahead`: the tokens that are ahead of a cursor that is not past the mark;
* `Ahead.advance_eq`, `Ahead.skip_eq`, `Ahead.consume_eq`: single steps of such a cursor.
-/

import CallConsole.Expression.Parsing

namespace CallConsole

/-- A token, or the mark behind all of them, which has no symbol. -/
structure Station where
  symbol : Option Symbol
  span : Span

/-- The station of a token. -/
def Token.station (token : Token) : Station := ⟨some token.symbol, token.span⟩

/-- The mark at the end of a source. -/
def endMark (stop : Nat) : Station := ⟨none, ⟨stop, stop⟩⟩

/-- The tokens of a source and the mark behind them. -/
def TokenList.stations (found : TokenList) : List Station :=
  found.tokens.map Token.station ++ [endMark found.stop]

/-- The report about a failure. -/
def SourceFailure.report (failure : SourceFailure) : Report := .ofDiagnostic failure.toDiagnostic

/-- **A walk of a cursor.** It begins at a position and ends at one, with a value or a report, or it
is aborted: where it needs a station and there is none, or where it would go too deep. -/
abbrev Walk := ExceptT Report (StateT Nat Option)

namespace Walk

/-! ### Single steps -/

/-- The walk is aborted. -/
def abort {α : Type} : Walk α := fun _ => none

section

variable (stations : List Station)

/-- The station that the cursor is at. -/
def peek : Walk (Option Station) := do
  return stations[← get]?

/-- The cursor is at a token with the symbol. -/
def check (symbol : Symbol) : Walk Bool := do
  return (← peek stations).any (·.symbol = some symbol)

/-- The cursor is at the mark, or past it. -/
def isAtEnd : Walk Bool := do
  return (← peek stations).all (·.symbol.isNone)

/-- The station before the cursor. The walk is aborted if there is none. -/
def previous : Walk Station := do
  match stations[(← get) - 1]? with
  | some station => pure station
  | none => abort

/-- Steps over a token, but not over the mark. -/
def advance : Walk Station := do
  if ← isAtEnd stations then previous stations
  else
    modify (· + 1)
    previous stations

/-- Steps over a token with the symbol, if the cursor is at one. -/
def skip (symbol : Symbol) : Walk Bool := do
  if ← check stations symbol then
    let _ ← advance stations
    return true
  else return false

/-- Ends with a report about a station. -/
def failAt {α : Type} (cause : Cause) (station : Station) : Walk α :=
  throw (.ofDiagnostic ⟨cause, some station.span, []⟩)

/-- Steps over a token with the symbol, which must be there. Past the mark, the report has no
place. -/
def consume (symbol : Symbol) (cause : Cause) : Walk Station := do
  if ← check stations symbol then advance stations
  else match ← peek stations with
    | some station => failAt cause station
    | none => throw (.ofDiagnostic (.ofCause cause))

/-- Goes on with a value, or ends with the report about a failure. -/
def located {α : Type} : Except SourceFailure α → Walk α
  | .ok a => pure a
  | .error failure => throw failure.report

/-! ### The walk over an expression

The depth is how many parts of the walk can be inside of one another. -/

mutual

/-- **Walks over one expression.** -/
def expression : Nat → Walk Expression
  | 0 => abort
  | depth + 1 => do
    if ← skip stations .minus then
      signed depth (← previous stations) true
    else if ← skip stations .plus then
      signed depth (← previous stations) false
    else call depth

/-- Walks over what a sign stands in front of. -/
def signed : Nat → Station → Bool → Walk Expression
  | 0, _, _ => abort
  | depth + 1, sign, negative => do
    match ← peek stations with
    | some ⟨some (.number text), span⟩ =>
      let _ ← advance stations
      located (Parsing.readNumber sign.span.start negative text span)
    | _ =>
      let operand ← expression depth
      located (Parsing.applySign sign.span.start negative operand)

/-- Walks over a name and its arguments, or over what begins with no name. -/
def call : Nat → Walk Expression
  | 0 => abort
  | depth + 1 => do
    match ← primary depth with
    | .name span callee =>
      if ← skip stations .leftParen then
        let arguments ← items depth .rightParen
        let close ← consume stations .rightParen .argumentsUnclosed
        return .call ⟨span.start, close.span.stop⟩ callee arguments
      else return .name span callee
    | e => return e

/-- Walks over an expression without signs and arguments. Past the mark, the report has no place. -/
def primary : Nat → Walk Expression
  | 0 => abort
  | depth + 1 => do
    match ← peek stations with
    | none => throw ⟨.parse, "unexpected end of expression", none, []⟩
    | some ⟨some (.keyword word), span⟩ =>
      let _ ← advance stations
      return .literal span (Parsing.keywordLiteral word)
    | some ⟨some (.number text), span⟩ =>
      let _ ← advance stations
      located (Parsing.readNumber span.start false text span)
    | some ⟨some (.string content), span⟩ =>
      let _ ← advance stations
      return .literal span (.str content)
    | some ⟨some (.identifier name), span⟩ =>
      let _ ← advance stations
      return .name span (String.ofList name)
    | some ⟨some .leftParen, span⟩ =>
      let _ ← advance stations
      if ← skip stations .rightParen then
        return .tuple ⟨span.start, (← previous stations).span.stop⟩ []
      else
        let first ← expression depth
        if ← skip stations .comma then
          let others ← items depth .rightParen
          let close ← consume stations .rightParen .tupleUnclosed
          return .tuple ⟨span.start, close.span.stop⟩ (first :: others)
        else
          let close ← consume stations .rightParen .groupUnclosed
          return .group ⟨span.start, close.span.stop⟩ first
    | some ⟨some .leftBracket, span⟩ =>
      let _ ← advance stations
      let elements ← items depth .rightBracket
      let close ← consume stations .rightBracket .listUnclosed
      return .list ⟨span.start, close.span.stop⟩ elements
    | some ⟨some .leftBrace, _⟩ => dict depth
    | some station => failAt .tokenUnexpected station

/-- Walks over expressions with commas between them, up to the closing symbol. -/
def items : Nat → Symbol → Walk (List Expression)
  | 0, _ => abort
  | depth + 1, closing => do
    if (← check stations closing) || (← isAtEnd stations) then return []
    else
      let e ← expression depth
      if ← skip stations .comma then
        let others ← items depth closing
        return e :: others
      else return [e]

/-- Walks over a dict display. -/
def dict : Nat → Walk Expression
  | 0 => abort
  | depth + 1 => do
    let opening ← advance stations
    let pairs ← entries depth
    let close ← consume stations .rightBrace .dictUnclosed
    return .dict ⟨opening.span.start, close.span.stop⟩ pairs

/-- Walks over the entries of a dict, up to the closing brace. -/
def entries : Nat → Walk (List (Expression × Expression))
  | 0 => abort
  | depth + 1 => do
    if (← check stations .rightBrace) || (← isAtEnd stations) then return []
    else
      let key ← expression depth
      let _ ← consume stations .colon .colonMissing
      let value ← expression depth
      if ← skip stations .comma then
        let others ← entries depth
        return (key, value) :: others
      else return [(key, value)]

end

/-- **Walks over a whole source**, which must end behind the expression. -/
def whole (depth : Nat) : Walk Expression := do
  let e ← expression stations depth
  if ← isAtEnd stations then return e
  else failAt .tokenAfterExpression (← advance stations)

end

/-! ### Walks in parts -/

variable {α β : Type} {walk : Walk α} {next : α → Walk β} {n m : Nat}

/-- A walk of two parts goes on with the second one. -/
theorem bind_of_ok {a : α} (done : walk n = some (.ok a, m)) : (walk >>= next) n = next a m := by
  simp only [bind, ExceptT.bind, ExceptT.mk, StateT.bind, done, ExceptT.bindCont, Option.bind]

/-- A walk of two parts ends where the first one ends with a report. -/
theorem bind_of_error {report : Report} (failed : walk n = some (.error report, m)) :
    (walk >>= next) n = some (.error report, m) := by
  simp only [bind, ExceptT.bind, ExceptT.mk, StateT.bind, failed, ExceptT.bindCont, Option.bind]
  rfl

end Walk

/-! ### What is ahead of the cursor -/

/-- **The tokens ahead of a cursor** that is not past the mark. -/
structure Ahead (found : TokenList) (n : Nat) (rest : List Token) : Prop where
  inside : n ≤ found.tokens.length
  drop_eq : found.tokens.drop n = rest

/-- The first one of the tokens, or the mark if there is none. -/
def frontStation (stop : Nat) : List Token → Station
  | [] => endMark stop
  | token :: _ => token.station

namespace Ahead

open Walk

variable {found : TokenList} {n : Nat} {token : Token} {rest : List Token} {symbol : Symbol}
  {span : Span}

/-- Behind the first token, the others are ahead. -/
theorem tail (ahead : Ahead found n (token :: rest)) : Ahead found (n + 1) rest where
  inside := by
    have length := congrArg List.length ahead.drop_eq
    rw [List.length_drop, List.length_cons] at length
    omega
  drop_eq := by rw [← List.tail_drop, ahead.drop_eq, List.tail_cons]

theorem mem (ahead : Ahead found n (token :: rest)) : token ∈ found.tokens :=
  List.mem_of_mem_drop (ahead.drop_eq ▸ List.mem_cons_self)

theorem length_le (ahead : Ahead found n rest) : rest.length ≤ found.tokens.length := by
  rw [← ahead.drop_eq, List.length_drop]
  exact Nat.sub_le ..

theorem getElem?_stations (ahead : Ahead found n rest) :
    found.stations[n]? = some (frontStation found.stop rest) := by
  rw [TokenList.stations]
  cases rest with
  | nil =>
    have last : n = found.tokens.length :=
      Nat.le_antisymm ahead.inside (List.drop_eq_nil_iff.mp ahead.drop_eq)
    rw [last, ← List.length_map (f := Token.station), List.getElem?_concat_length]
    rfl
  | cons token rest =>
    have there : found.tokens[n]? = some token := by
      rw [← List.head?_drop, ahead.drop_eq, List.head?_cons]
    rw [List.getElem?_append_left, List.getElem?_map, there]
    · rfl
    · rw [List.length_map]
      exact ahead.tail.inside

theorem peek_eq (ahead : Ahead found n rest) :
    peek found.stations n = some (.ok (some (frontStation found.stop rest)), n) := by
  rw [← ahead.getElem?_stations]
  rfl

theorem check_eq (ahead : Ahead found n rest) :
    check found.stations symbol n = some (.ok (rest.head?.any (·.symbol = symbol)), n) := by
  rw [check, bind_of_ok ahead.peek_eq]
  cases rest with
  | nil => rfl
  | cons token rest =>
    simp only [frontStation, Token.station, Option.any, List.head?_cons, Option.some.injEq]
    rfl

theorem isAtEnd_eq (ahead : Ahead found n rest) :
    isAtEnd found.stations n = some (.ok rest.isEmpty, n) := by
  rw [isAtEnd, bind_of_ok ahead.peek_eq]
  cases rest <;> rfl

theorem previous_eq (ahead : Ahead found n (token :: rest)) :
    previous found.stations (n + 1) = some (.ok token.station, n + 1) := by
  have here : (get : Walk Nat) (n + 1) = some (.ok (n + 1), n + 1) := rfl
  rw [previous, bind_of_ok here, Nat.add_sub_cancel, ahead.getElem?_stations]
  rfl

/-- The cursor steps over a token. -/
theorem advance_eq (ahead : Ahead found n (token :: rest)) :
    advance found.stations n = some (.ok token.station, n + 1) := by
  have moved : (modify (· + 1) : Walk PUnit) n = some (.ok ⟨⟩, n + 1) := rfl
  rw [advance, bind_of_ok ahead.isAtEnd_eq, List.isEmpty_cons, if_neg Bool.false_ne_true,
    bind_of_ok moved]
  exact ahead.previous_eq

theorem skip_of_eq (ahead : Ahead found n (⟨symbol, span⟩ :: rest)) :
    skip found.stations symbol n = some (.ok true, n + 1) := by
  have there : Option.any (fun token : Token => decide (token.symbol = symbol))
      (List.head? (⟨symbol, span⟩ :: rest)) = true := decide_eq_true rfl
  rw [skip, bind_of_ok ahead.check_eq, there, if_pos rfl, bind_of_ok ahead.advance_eq]
  rfl

theorem skip_of_ne (ahead : Ahead found n rest)
    (other : ∀ span more, rest ≠ ⟨symbol, span⟩ :: more) :
    skip found.stations symbol n = some (.ok false, n) := by
  have absent : rest.head?.any (fun token => decide (token.symbol = symbol)) = false := by
    cases rest with
    | nil => rfl
    | cons token rest => exact decide_eq_false fun same => other token.span rest (same ▸ rfl)
  rw [skip, bind_of_ok ahead.check_eq, absent, if_neg Bool.false_ne_true]
  rfl

/-- The token with the symbol is next and is stepped over, or it is not and nothing happens. -/
theorem skip_eq (ahead : Ahead found n rest) (symbol : Symbol) :
    (∃ span more, rest = ⟨symbol, span⟩ :: more ∧
      skip found.stations symbol n = some (.ok true, n + 1)) ∨
    (∀ span more, rest ≠ ⟨symbol, span⟩ :: more) ∧
      skip found.stations symbol n = some (.ok false, n) := by
  by_cases there : ∃ span more, rest = ⟨symbol, span⟩ :: more
  case pos =>
    obtain ⟨span, more, rfl⟩ := there
    exact .inl ⟨span, more, rfl, ahead.skip_of_eq⟩
  case neg =>
    have absent (span : Span) (more : List Token) : rest ≠ ⟨symbol, span⟩ :: more :=
      fun same => there ⟨span, more, same⟩
    exact .inr ⟨absent, ahead.skip_of_ne absent⟩

/-- **The cursor steps over an expected token, or the report is about what is there instead.** -/
theorem consume_eq (ahead : Ahead found n rest) (symbol : Symbol) (cause : Cause) :
    (∃ span more shorter, rest = ⟨symbol, span⟩ :: more ∧
      Parsing.expect found.stop symbol cause rest = .ok (span.stop, ⟨more, shorter⟩) ∧
      consume found.stations symbol cause n = some (.ok ⟨some symbol, span⟩, n + 1)) ∨
    Parsing.expect found.stop symbol cause rest = .error (Parsing.failAt found.stop cause rest) ∧
      consume found.stations symbol cause n =
        some (.error (Parsing.failAt found.stop cause rest).report, n) := by
  rw [consume, bind_of_ok ahead.check_eq]
  cases rest with
  | nil =>
    refine .inr ⟨rfl, ?_⟩
    rw [List.head?_nil, Option.any_none, if_neg Bool.false_ne_true, bind_of_ok ahead.peek_eq]
    rfl
  | cons token rest =>
    rw [List.head?_cons, Option.any_some, Parsing.expect]
    by_cases same : token.symbol = symbol
    · subst same
      rw [decide_eq_true rfl, if_pos rfl, if_pos rfl]
      exact .inl ⟨token.span, rest, Nat.lt_succ_self _, rfl, rfl, ahead.advance_eq⟩
    · rw [decide_eq_false same, if_neg Bool.false_ne_true, if_neg same, bind_of_ok ahead.peek_eq]
      exact .inr ⟨rfl, rfl⟩

end Ahead

/-- Any position that is not past the mark has tokens ahead. -/
theorem ahead_drop {found : TokenList} {n : Nat} (inside : n ≤ found.tokens.length) :
    Ahead found n (found.tokens.drop n) := ⟨inside, rfl⟩

end CallConsole
