/-
**Where sources are refused.**

A source that is refused is refused at a stretch of it: at a string that does not end, at one of its
tokens, at its end, or at a sign and the expression behind it. The walk over its tokens never meets
a failure without a place, since the cursor is never past the mark:

* `Walk.EndsInside`, `Walk.Stays`: a walk that ends, with the cursor not past the mark and a place
  in every report;
* `Walk.staysInside`: every part of the walk over an expression is such a walk;
* `whole_walks`: the walk over a source ends as reading the source does;
* `SourceFailure.Placed.cuts`: the place of a failure is a stretch of the source;
* `parse_failures_located`: all of this together.
-/

import CallConsole.Proofs.CursorReading
import CallConsole.Proofs.NodeSpans

namespace CallConsole

open Parsing Scanning

/-! ### The cursor is never past the mark -/

namespace Walk

variable {α β : Type} {found : TokenList} {walk : Walk α} {n m : Nat}

/-- **The walk ends inside**: it does not move the cursor back or past the mark, and a report has a
place. -/
def EndsInside (found : TokenList) (walk : Walk α) (n : Nat) : Prop :=
  ∃ result m, walk n = some (result, m) ∧ n ≤ m ∧ m ≤ found.tokens.length ∧
    ∀ report, result = .error report → report.span ≠ none

/-- **The walk stays inside**: it ends inside from wherever the cursor is, if it is not past the
mark. -/
def Stays (found : TokenList) (walk : Walk α) : Prop :=
  ∀ n ≤ found.tokens.length, EndsInside found walk n

theorem endsInside_of_ok {a : α} (walked : walk n = some (.ok a, m)) (forth : n ≤ m)
    (inside : m ≤ found.tokens.length) : EndsInside found walk n := by
  refine ⟨.ok a, m, walked, forth, inside, ?_⟩
  intro report same
  cases same

theorem endsInside_of_error {report : Report} (walked : walk n = some (.error report, m))
    (forth : n ≤ m) (inside : m ≤ found.tokens.length) (place : report.span ≠ none) :
    EndsInside found walk n := by
  refine ⟨.error report, m, walked, forth, inside, ?_⟩
  intro report' same
  cases same
  exact place

/-- A failure has a place, and so has the report about it. -/
theorem span_report_ne_none (failure : SourceFailure) : failure.report.span ≠ none :=
  Option.some_ne_none failure.span

theorem stays_pure (a : α) : Stays found (pure a) :=
  fun n inside => endsInside_of_ok rfl (Nat.le_refl n) inside

theorem Stays.bind {next : α → Walk β} (stays : Stays found walk)
    (others : ∀ a, Stays found (next a)) : Stays found (walk >>= next) := by
  intro n inside
  obtain ⟨result, m, walked, forth, inside', places⟩ := stays n inside
  cases result with
  | ok a =>
    obtain ⟨result, last, walked', forth', inside'', places'⟩ := others a m inside'
    exact ⟨result, last, (bind_of_ok walked).trans walked', Nat.le_trans forth forth', inside'',
      places'⟩
  | error report =>
    exact endsInside_of_error (bind_of_error walked) forth inside' (places report rfl)

/-- **There is a station where the cursor is**, so what is done without one does not matter. -/
theorem stays_peek_bind {next : Option Station → Walk β}
    (others : ∀ station, Stays found (next (some station))) :
    Stays found (peek found.stations >>= next) := by
  intro n inside
  rw [EndsInside, bind_of_ok (ahead_drop inside).peek_eq]
  exact others _ n inside

theorem stays_check (symbol : Symbol) : Stays found (check found.stations symbol) :=
  fun n inside => endsInside_of_ok (ahead_drop inside).check_eq (Nat.le_refl n) inside

theorem stays_isAtEnd : Stays found (isAtEnd found.stations) :=
  fun n inside => endsInside_of_ok (ahead_drop inside).isAtEnd_eq (Nat.le_refl n) inside

/-- There is a station before the cursor, or the cursor is at the first one. -/
theorem stays_previous : Stays found (previous found.stations) := by
  intro n inside
  have there := (ahead_drop (Nat.le_trans (Nat.sub_le n 1) inside)).getElem?_stations
  have here : (get : Walk Nat) n = some (.ok n, n) := rfl
  rw [EndsInside, previous, bind_of_ok here, there]
  exact stays_pure _ n inside

/-- **The cursor never steps over the mark.** -/
theorem stays_advance : Stays found (advance found.stations) := by
  intro n inside
  cases ahead : found.tokens.drop n with
  | nil =>
    have here : Ahead found n [] := ⟨inside, ahead⟩
    rw [EndsInside, advance, bind_of_ok here.isAtEnd_eq, List.isEmpty_nil, if_pos rfl]
    exact stays_previous n inside
  | cons token rest =>
    have here : Ahead found n (token :: rest) := ⟨inside, ahead⟩
    exact endsInside_of_ok here.advance_eq (Nat.le_succ n) here.tail.inside

theorem stays_skip (symbol : Symbol) : Stays found (skip found.stations symbol) := by
  refine (stays_check symbol).bind fun there => ?_
  cases there with
  | true => exact stays_advance.bind fun _ => stays_pure true
  | false => exact stays_pure false

theorem stays_failAt (cause : Cause) (station : Station) :
    Stays found (failAt cause station : Walk α) :=
  fun n inside => endsInside_of_error rfl (Nat.le_refl n) inside (Option.some_ne_none station.span)

theorem stays_consume (symbol : Symbol) (cause : Cause) :
    Stays found (consume found.stations symbol cause) := by
  intro n inside
  rcases (ahead_drop inside).consume_eq symbol cause with
    ⟨span, more, _, ahead, -, walked⟩ | ⟨-, walked⟩
  · have here : Ahead found n (⟨symbol, span⟩ :: more) := ⟨inside, ahead⟩
    exact endsInside_of_ok walked (Nat.le_succ n) here.tail.inside
  · exact endsInside_of_error walked (Nat.le_refl n) inside (span_report_ne_none _)

theorem stays_located (result : Except SourceFailure α) : Stays found (located result) := by
  cases result with
  | ok a => exact stays_pure a
  | error failure =>
    intro n inside
    exact endsInside_of_error rfl (Nat.le_refl n) inside (span_report_ne_none failure)

/-- A walk that ends as reading does stays inside. -/
theorem stays_of_tracks {fits : List Token → List Token → Prop}
    {read : ∀ tokens, Except SourceFailure (α × { rest : List Token // fits tokens rest })}
    (tracks : ∀ n tokens, Ahead found n tokens → Tracks found n walk (read tokens)) :
    Stays found walk := by
  intro n inside
  rcases (tracks n _ (ahead_drop inside)).cases with
    ⟨a, after, _, m, -, forth, ahead, walked⟩ | ⟨failure, m, -, -, forth, inside', walked⟩
  · exact endsInside_of_ok walked forth ahead.inside
  · exact endsInside_of_error walked forth inside' (span_report_ne_none failure)

section

variable {depth : Nat} (deep : 5 * found.tokens.length ≤ depth)

include deep

theorem stays_expression : Stays found (expression found.stations (depth + 3)) :=
  stays_of_tracks fun n tokens ahead => expression_tracks found n depth tokens ahead <|
    Nat.le_trans (Nat.mul_le_mul_left 5 ahead.length_le) deep

theorem stays_items (closing : Symbol) : Stays found (items found.stations (depth + 4) closing) :=
  stays_of_tracks fun n tokens ahead => items_tracks found n depth closing tokens ahead <|
    Nat.le_trans (Nat.mul_le_mul_left 5 ahead.length_le) deep

theorem stays_entries : Stays found (entries found.stations (depth + 4)) :=
  stays_of_tracks fun n tokens ahead => entries_tracks found n depth tokens ahead <|
    Nat.le_trans (Nat.mul_le_mul_left 5 ahead.length_le) deep

theorem stays_signed (sign : Station) (negative : Bool) :
    Stays found (signed found.stations (depth + 4) sign negative) := by
  rw [signed]
  refine stays_peek_bind fun station => ?_
  split
  · exact stays_advance.bind fun _ => stays_located _
  · exact (stays_expression deep).bind fun _ => stays_located _

theorem stays_dict : Stays found (dict found.stations (depth + 5)) := by
  rw [dict]
  exact stays_advance.bind fun _ => (stays_entries deep).bind fun _ =>
    (stays_consume _ _).bind fun _ => stays_pure _

theorem stays_primary : Stays found (primary found.stations (depth + 6)) := by
  have expression := stays_expression (Nat.le_add_right_of_le (k := 2) deep)
  have items (closing : Symbol) := stays_items (Nat.le_succ_of_le deep) closing
  rw [primary]
  refine stays_peek_bind fun station => ?_
  split
  case h_1 none => cases none
  case h_2 => exact stays_advance.bind fun _ => stays_pure _
  case h_3 => exact stays_advance.bind fun _ => stays_located _
  case h_4 => exact stays_advance.bind fun _ => stays_pure _
  case h_5 => exact stays_advance.bind fun _ => stays_pure _
  case h_6 =>
    refine stays_advance.bind fun _ => (stays_skip _).bind fun unit => ?_
    cases unit with
    | true => exact stays_previous.bind fun _ => stays_pure _
    | false =>
      refine expression.bind fun first => (stays_skip _).bind fun comma => ?_
      cases comma with
      | true => exact (items _).bind fun _ => (stays_consume _ _).bind fun _ => stays_pure _
      | false => exact (stays_consume _ _).bind fun _ => stays_pure _
  case h_7 =>
    exact stays_advance.bind fun _ => (items _).bind fun _ =>
      (stays_consume _ _).bind fun _ => stays_pure _
  case h_8 => exact stays_dict deep
  case h_9 => exact stays_failAt _ _

theorem stays_call : Stays found (call found.stations (depth + 7)) := by
  have items (closing : Symbol) := stays_items (Nat.le_add_right_of_le (k := 2) deep) closing
  rw [call]
  refine (stays_primary deep).bind fun e => ?_
  split
  · refine (stays_skip _).bind fun opens => ?_
    cases opens with
    | true => exact (items _).bind fun _ => (stays_consume _ _).bind fun _ => stays_pure _
    | false => exact stays_pure _
  · exact stays_pure _

theorem stays_whole : Stays found (whole found.stations (depth + 3)) := by
  refine (stays_expression deep).bind fun e => stays_isAtEnd.bind fun atEnd => ?_
  cases atEnd with
  | true => exact stays_pure e
  | false => exact stays_advance.bind fun _ => stays_failAt _ _

end

/-- **Every part of the walk over a source stays inside.** -/
structure StaysInside (found : TokenList) (depth : Nat) : Prop where
  whole : Stays found (whole found.stations depth)
  expression : Stays found (expression found.stations depth)
  signed : ∀ sign negative, Stays found (signed found.stations depth sign negative)
  call : Stays found (call found.stations depth)
  primary : Stays found (primary found.stations depth)
  items : ∀ closing, Stays found (items found.stations depth closing)
  dict : Stays found (dict found.stations depth)
  entries : Stays found (entries found.stations depth)
  consume : ∀ symbol cause, Stays found (consume found.stations symbol cause)
  advance : Stays found (advance found.stations)

/-- **A walk that may go deep enough stays inside.** -/
theorem staysInside {depth : Nat} (deep : 5 * found.tokens.length ≤ depth) :
    StaysInside found (depth + 7) where
  whole := stays_whole (Nat.le_add_right_of_le (k := 4) deep)
  expression := stays_expression (Nat.le_add_right_of_le (k := 4) deep)
  signed := stays_signed (Nat.le_add_right_of_le (k := 3) deep)
  call := stays_call deep
  primary := stays_primary (Nat.le_succ_of_le deep)
  items := stays_items (Nat.le_add_right_of_le (k := 3) deep)
  dict := stays_dict (Nat.le_add_right_of_le (k := 2) deep)
  entries := stays_entries (Nat.le_add_right_of_le (k := 3) deep)
  consume := stays_consume
  advance := stays_advance

end Walk

/-! ### The walk over a source -/

variable {source : List Char} {found : TokenList} {failure : SourceFailure}

/-- **Walking over a source is reading it**, and a failure has a place among the tokens. -/
theorem whole_walks {depth : Nat} (scanned : tokenize source = .ok found)
    (deep : 5 * found.tokens.length ≤ depth) :
    (∃ m, m ≤ found.tokens.length ∧ Walk.whole found.stations (depth + 3) 0 =
      some ((parse source).mapError SourceFailure.report, m)) ∧
    ∀ failure, parse source = .error failure → failure.Placed found := by
  have ahead : Ahead found 0 found.tokens := ⟨Nat.zero_le _, rfl⟩
  unfold parse Walk.whole
  simp only [scanned]
  rcases (expression_tracks found 0 depth found.tokens ahead deep).cases with
    ⟨e, after, fit, m, read, -, ahead', walked⟩ | ⟨failure, m, read, placed, -, inside, walked⟩
  case inr =>
    simp only [read]
    refine ⟨⟨m, inside, Walk.bind_of_error walked⟩, ?_⟩
    rintro _ ⟨⟩
    exact placed
  case inl =>
    simp only [read]
    cases after with
    | nil =>
      refine ⟨⟨m, ahead'.inside, ?_⟩, fun failure refused => ?_⟩
      · rw [Walk.bind_of_ok walked, Walk.bind_of_ok ahead'.isAtEnd_eq]
        rfl
      · cases refused
    | cons token rest =>
      refine ⟨⟨m + 1, ahead'.tail.inside, ?_⟩, fun failure refused => ?_⟩
      · rw [Walk.bind_of_ok walked, Walk.bind_of_ok ahead'.isAtEnd_eq, List.isEmpty_cons,
          if_neg Bool.false_ne_true, Walk.bind_of_ok ahead'.advance_eq]
        rfl
      · cases refused
        exact .token (by decide) ahead'.mem

/-! ### Places in the source -/

/-- A span that cuts a source ends where it begins or further on, and inside of the source. -/
theorem Span.Cuts.bounds {span : Span} {before text after : List Char}
    (cuts : span.Cuts source before text after) :
    span.start ≤ span.stop ∧ span.stop ≤ byteLength source := by
  rw [cuts.source_eq, cuts.start_eq, cuts.stop_eq, byteLength_append, byteLength_append,
    byteLength_append]
  exact ⟨Nat.le_add_right _ _, Nat.le_add_right _ _⟩

/-- **The place of a failure among the tokens is a stretch of the source.** -/
theorem SourceFailure.Placed.cuts (placed : failure.Placed found)
    (scanned : tokenize source = .ok found) :
    ∃ before text after, failure.span.Cuts source before text after := by
  obtain ⟨layout, ends⟩ := layout_of_tokenize scanned
  cases placed with
  | token _ member =>
    have start : 0 = byteLength [] := rfl
    obtain ⟨before, text, after, cuts, -⟩ := layout.cuts start _ member
    rw [List.nil_append, List.append_nil] at cuts
    exact ⟨before, text, after, cuts⟩
  | ending _ =>
    refine ⟨source, [], [], ?_, ends, ?_⟩
    · rw [List.append_nil, List.append_nil]
    · rw [List.append_nil]
      exact ends
  | @sign negative before operand after sign e divided forms =>
    rw [divided] at layout
    obtain ⟨front, rest, rfl, layout'⟩ := layout.drop
    rw [← List.cons_append] at layout'
    obtain ⟨gap, part, behind, rfl, -, -, starts, stops, -⟩ := layout'.take
    obtain ⟨first, head, last, ends', span⟩ := forms.ends
    have final : last ∈ (⟨signSymbol negative, sign⟩ :: operand).getLast? := by
      obtain ⟨others, rfl⟩ := List.head?_eq_some_iff.mp head
      exact ends'
    have stop := stops last final
    dsimp only at starts
    rw [Nat.zero_add] at starts stop
    refine ⟨front ++ gap, part, behind, ?_, ?_, ?_⟩
    · simp only [List.append_assoc]
    · rw [byteLength_append]
      exact starts
    · rw [byteLength_append, byteLength_append, span]
      exact stop

/-- What is passed over without the end of a string is the front of the text. -/
theorem Scanning.exists_of_unclosed {quote : Char} {rest : List Char} {size : Nat}
    (unclosed : stringTail quote rest = .unclosed size) :
    ∃ part behind, rest = part ++ behind ∧ size = byteLength part := by
  fun_induction stringTail quote rest generalizing size with
  | case1 =>
    cases unclosed
    exact ⟨[], [], rfl, rfl⟩
  | case2 => cases unclosed
  | case3 =>
    cases unclosed
    exact ⟨['\\'], [], rfl, rfl⟩
  | case4 escaped rest _ ih =>
    cases tail : stringTail quote rest with
    | closed content size' behind =>
      rw [tail] at unclosed
      cases unclosed
    | unclosed size' =>
      rw [tail] at unclosed
      cases unclosed
      obtain ⟨part, behind, rfl, rfl⟩ := ih tail
      refine ⟨'\\' :: escaped :: part, behind, rfl, ?_⟩
      rw [byteLength, byteLength, Nat.add_assoc]
  | case5 rest =>
    cases unclosed
    exact ⟨['\n'], rest, rfl, rfl⟩
  | case6 c rest _ _ _ ih =>
    cases tail : stringTail quote rest with
    | closed content size' behind =>
      rw [tail] at unclosed
      cases unclosed
    | unclosed size' =>
      rw [tail] at unclosed
      cases unclosed
      obtain ⟨part, behind, rfl, rfl⟩ := ih tail
      exact ⟨c :: part, behind, rfl, rfl⟩

/-- **A source that has no tokens is refused at a string that does not end.** -/
theorem cuts_of_tokenize_error (refused : tokenize source = .error failure) :
    failure.cause.kind = .token ∧
      ∃ before text after, failure.span.Cuts source before text after := by
  rcases tokensFrom_cases 0 source with ⟨tokens, layout⟩ |
    ⟨before, quote, rest, tokens, size, rfl, -, -, unclosed, refused'⟩
  · cases refused.symm.trans layout.tokensFrom_eq
  · cases refused.symm.trans refused'
    obtain ⟨part, behind, rfl, rfl⟩ := exists_of_unclosed unclosed
    refine ⟨rfl, before, quote :: part, behind, ?_, Nat.zero_add _, ?_⟩
    · rw [List.append_assoc, List.cons_append]
    · rw [byteLength_append, Nat.zero_add]
      rfl

/-! ### Refused sources -/

/-- **Every refusal of a source is located.** However deep the walk over the tokens of a source may
go, from some depth on, it ends as reading the source does, and no part of it moves the cursor past
the mark or ends with a report that has no place. The report about a failure has the kind of a token
or of parsing, no notes, and the span of a stretch of the source. If it is of parsing, the span is
that of a token, the end of the source, or all from a sign to the end of the expression behind
it. -/
theorem parse_failures_located (source : List Char) :
    (∀ found, tokenize source = .ok found → ∀ depth, 5 * found.tokens.length + 7 ≤ depth →
      Walk.StaysInside found depth ∧
      ∃ m, m ≤ found.tokens.length ∧ Walk.whole found.stations depth 0 =
        some ((parse source).mapError SourceFailure.report, m)) ∧
    ∀ failure, parse source = .error failure →
      (failure.report.kind = .token ∨ failure.report.kind = .parse) ∧
      failure.report.notes = [] ∧ failure.report.span = some failure.span ∧
      failure.span.start ≤ failure.span.stop ∧ failure.span.stop ≤ byteLength source ∧
      (∃ before text after, failure.span.Cuts source before text after) ∧
      (failure.report.kind = .parse → ∃ found, tokenize source = .ok found ∧
        found.stop = byteLength source ∧ failure.Placed found) := by
  constructor
  · intro found scanned depth enough
    obtain ⟨depth, rfl⟩ := Nat.exists_eq_add_of_le' (Nat.le_of_add_left_le enough)
    have deep : 5 * found.tokens.length ≤ depth := Nat.le_of_add_le_add_right enough
    exact ⟨Walk.staysInside deep, (whole_walks scanned (Nat.le_add_right_of_le (k := 4) deep)).1⟩
  intro failure refused
  cases scanned : tokenize source with
  | error failure' =>
    have same : parse source = .error failure' := by
      unfold parse
      rw [scanned]
    cases refused.symm.trans same
    obtain ⟨kind, before, text, after, cuts⟩ := cuts_of_tokenize_error scanned
    refine ⟨.inl kind, rfl, rfl, cuts.bounds.1, cuts.bounds.2, ⟨before, text, after, cuts⟩, ?_⟩
    intro parsing
    cases kind.symm.trans parsing
  | ok found =>
    have placed := (whole_walks scanned (Nat.le_refl _)).2 failure refused
    obtain ⟨before, text, after, cuts⟩ := placed.cuts scanned
    exact ⟨.inr (kind_of_parse_error scanned refused), rfl, rfl, cuts.bounds.1, cuts.bounds.2,
      ⟨before, text, after, cuts⟩, fun _ => ⟨found, rfl, (layout_of_tokenize scanned).2, placed⟩⟩

/-- A list that begins with a sign in front of a signed string. -/
def signSource : List Char := "[+-'é',1]".toList

theorem parse_failures_located_sign :
    parse signSource = .error ⟨.signWithoutNumber, ⟨2, 7⟩⟩ ∧
      (∃ before text after, Span.Cuts ⟨2, 7⟩ signSource before text after) ∧
      ∃ found, tokenize signSource = .ok found ∧
        SourceFailure.Placed found ⟨.signWithoutNumber, ⟨2, 7⟩⟩ ∧
        Walk.StaysInside found (5 * found.tokens.length + 7) := by
  have refused : (parse signSource).map (fun _ => ()) = .error ⟨.signWithoutNumber, ⟨2, 7⟩⟩ := by
    decide +kernel
  cases read : parse signSource with
  | ok e =>
    rw [read] at refused
    cases refused
  | error failure =>
    rw [read] at refused
    cases refused
    obtain ⟨-, -, -, -, -, cuts, places⟩ := (parse_failures_located signSource).2 _ read
    obtain ⟨found, scanned, -, placed⟩ := places rfl
    have walks := (parse_failures_located signSource).1 found scanned _ (Nat.le_refl _)
    exact ⟨rfl, cuts, found, scanned, placed, walks.1⟩

end CallConsole
