/-
**The order of evaluation.**

The visits of an expression are its nodes, each behind its parts, which come from left to right; in
a dict display a key is visited, then its value, and then the two are inserted. Evaluating the
expression is performing its visits one after another, each with what the visits before it have left
on a stack. The first visit that fails is the last one:

* `perform_visits`: evaluation performs the visits in their order;
* `Visit.perform_prints`, `Visit.perform_safe`: a single visit prints its lines, or fails and prints
  nothing; it changes nothing that is there;
* `Visit.performAll_ends`: all visits are performed, or those in front of one that fails;
* `evaluate_in_order`: what an evaluation performs, prints and comes to, whatever has happened on
  the console before.
-/

import CallConsole.Proofs.Printing
import CallConsole.Proofs.RelocatedRuns
import CallConsole.Proofs.SafeRuns

namespace CallConsole

/-! ### Visits -/

/-- What is done at one point of an evaluation. -/
inductive Visit where
  /-- What a node does with its parts, after they have been evaluated. -/
  | node (e : Expression)
  /-- A dict display begins. -/
  | opening
  /-- A key and its value go into the dict display that was the last to begin. -/
  | insertion

namespace Expression

mutual

/-- **The visits of an expression**, in their order. -/
def visits : Expression → List Visit
  | .literal span value => [.node (.literal span value)]
  | .name span id => [.node (.name span id)]
  | .call span function arguments =>
    visitsAll arguments ++ [.node (.call span function arguments)]
  | .list span items => visitsAll items ++ [.node (.list span items)]
  | .tuple span items => visitsAll items ++ [.node (.tuple span items)]
  | .dict span entries => .opening :: visitsEntries entries ++ [.node (.dict span entries)]
  | .group span inner => visits inner ++ [.node (.group span inner)]

/-- The visits of expressions from left to right. -/
def visitsAll : List Expression → List Visit
  | [] => []
  | e :: rest => visits e ++ visitsAll rest

/-- The visits of entries: key, value, insertion, one entry after another. -/
def visitsEntries : List (Expression × Expression) → List Visit
  | [] => []
  | (key, value) :: rest => visits key ++ (visits value ++ .insertion :: visitsEntries rest)

end

end Expression

/-- What visits leave behind: values that have not been used yet and dict displays that have not
ended, the latest first. -/
structure Progress where
  values : List Value
  dicts : List Dict

namespace Progress

/-- Nothing yet. -/
def start : Progress := ⟨[], []⟩

/-- One more value. -/
def push (p : Progress) (v : Value) : Progress := { p with values := v :: p.values }

/-- The latest values, in the order in which they were left. -/
def latest (p : Progress) (count : Nat) : List Value := (p.values.take count).reverse

/-- Without the latest values. -/
def drop (p : Progress) (count : Nat) : Progress := { p with values := p.values.drop count }

end Progress

namespace Visit

/-- **Performs a visit.** A node takes the values of its parts and leaves its own. -/
def perform : Visit → Progress → Run Progress
  | .node (.literal _ value), p => p.push <$> Run.act value.create
  | .node (.name span name), _ => Run.fail ⟨Console.nameCause name, some span, []⟩
  | .node (.call span function arguments), p =>
    (p.drop arguments.length).push <$>
      (Builtin.invoke function (p.latest arguments.length)).mapDiagnostic (·.blame span)
  | .node (.list _ items), p =>
    (p.drop items.length).push <$> Run.act (Action.list (p.latest items.length))
  | .node (.tuple _ items), p =>
    (p.drop items.length).push <$> Run.act (Action.tuple (p.latest items.length))
  | .node (.dict ..), ⟨values, d :: dicts⟩ =>
    (fun v => ⟨v :: values, dicts⟩) <$> Run.act (Action.dict d)
  | .node (.group ..), p => pure p
  | .opening, p => pure { p with dicts := Dict.empty :: p.dicts }
  | .insertion, ⟨v :: k :: values, d :: dicts⟩ =>
    (fun changed => ⟨values, changed :: dicts⟩) <$> Run.act (Action.insertInto d k v)
  | _, p => pure p

/-- **The lines that a visit prints**: a call of `print` prints one, with the texts of its arguments
and a blank between them. -/
def lines (p : Progress) (s : Store) : Visit → List (List Char)
  | .node (.call _ function arguments) =>
    if function = "print" then
      [[' '].intercalate ((p.latest arguments.length).map s.str) ++ ['\n']]
    else []
  | _ => []

/-- Performs visits one after another. -/
def performAll : List Visit → Progress → Run Progress
  | [], p => pure p
  | visit :: rest, p => visit.perform p >>= performAll rest

theorem performAll_append (visits others : List Visit) (p : Progress) :
    performAll (visits ++ others) p = performAll visits p >>= performAll others := by
  induction visits generalizing p with
  | nil => rw [List.nil_append, performAll, pure_bind]
  | cons visit rest ih =>
    rw [List.cons_append, performAll, performAll, bind_assoc]
    exact bind_congr ih

theorem performAll_singleton (visit : Visit) : performAll [visit] = visit.perform :=
  funext fun p => bind_pure (visit.perform p)

end Visit

/-! ### Evaluation in visits -/

namespace Progress

theorem latest_append (vs values : List Value) (dicts : List Dict) :
    latest ⟨vs.reverse ++ values, dicts⟩ vs.length = vs := by
  rw [latest, ← List.length_reverse, List.take_left, List.reverse_reverse]

theorem drop_append (vs values : List Value) (dicts : List Dict) :
    drop ⟨vs.reverse ++ values, dicts⟩ vs.length = ⟨values, dicts⟩ := by
  rw [drop, ← List.length_reverse, List.drop_left]

end Progress

namespace Console

open Visit Expression

/-- As many values come of expressions as there are expressions. -/
theorem length_of_evaluateAll {es : List Expression} {vs : List Value} {w w' : World}
    (ran : evaluateAll es w = .ok vs w') : vs.length = es.length := by
  induction es generalizing vs w with
  | nil =>
    cases ran
    rfl
  | cons e rest ih =>
    rw [evaluateAll] at ran
    obtain ⟨v, w₁, _, ran⟩ := EStateM.exists_of_bind_ok ran
    obtain ⟨others, w₂, done, ran⟩ := EStateM.exists_of_bind_ok ran
    cases ran
    rw [List.length_cons, List.length_cons, ih done]

/-- What is done with the values of expressions is done with the latest values. -/
theorem evaluateAll_bind {α : Type} (es : List Expression) (p : Progress)
    (next : Progress → List Value → Run α) :
    ((fun vs => Progress.mk (vs.reverse ++ p.values) p.dicts) <$> evaluateAll es >>=
        fun p => next (p.drop es.length) (p.latest es.length)) =
      evaluateAll es >>= next p := by
  funext w
  simp only [Bind.bind, EStateM.bind, Functor.map, EStateM.map]
  cases ran : evaluateAll es w with
  | error failure w' => rfl
  | ok vs w' =>
    dsimp only
    rw [← length_of_evaluateAll ran, Progress.drop_append, Progress.latest_append]

mutual

/-- **Evaluating an expression is performing its visits**, which leave its value. -/
theorem perform_visits (e : Expression) (p : Progress) :
    performAll e.visits p = p.push <$> evaluate e := by
  cases e with
  | literal span value => rw [visits, performAll_singleton, perform, evaluate]
  | name span name =>
    rw [visits, performAll_singleton, perform, evaluate]
    rfl
  | call span function arguments =>
    rw [visits, performAll_append, perform_visitsAll arguments p, performAll_singleton, evaluate,
      map_bind]
    exact evaluateAll_bind arguments p fun p vs =>
      p.push <$> (Builtin.invoke function vs).mapDiagnostic (·.blame span)
  | list span items =>
    rw [visits, performAll_append, perform_visitsAll items p, performAll_singleton, evaluate,
      map_bind]
    exact evaluateAll_bind items p fun p vs => p.push <$> Run.act (Action.list vs)
  | tuple span items =>
    rw [visits, performAll_append, perform_visitsAll items p, performAll_singleton, evaluate,
      map_bind]
    exact evaluateAll_bind items p fun p vs => p.push <$> Run.act (Action.tuple vs)
  | dict span entries =>
    obtain ⟨values, dicts⟩ := p
    rw [visits, List.cons_append, performAll, perform, pure_bind, performAll_append,
      perform_visitsEntries entries values Dict.empty dicts, performAll_singleton, evaluate,
      map_bind, bind_map_left]
    rfl
  | group span inner =>
    rw [visits, performAll_append, perform_visits inner p, performAll_singleton, evaluate]
    exact bind_pure _

theorem perform_visitsAll (es : List Expression) (p : Progress) :
    performAll (visitsAll es) p =
      (fun vs => ⟨vs.reverse ++ p.values, p.dicts⟩) <$> evaluateAll es := by
  cases es with
  | nil =>
    rw [visitsAll, performAll, evaluateAll]
    rfl
  | cons e rest =>
    rw [visitsAll, performAll_append, perform_visits e p, evaluateAll, bind_map_left, map_bind]
    refine bind_congr fun v => ?_
    rw [perform_visitsAll rest (p.push v), map_bind, map_eq_pure_bind]
    refine bind_congr fun vs => ?_
    rw [map_pure, List.reverse_cons, List.append_assoc]
    rfl

theorem perform_visitsEntries (entries : List (Expression × Expression)) (values : List Value)
    (d : Dict) (dicts : List Dict) :
    performAll (visitsEntries entries) ⟨values, d :: dicts⟩ =
      (fun d => ⟨values, d :: dicts⟩) <$> evaluateEntries d entries := by
  cases entries with
  | nil =>
    rw [visitsEntries, performAll, evaluateEntries]
    rfl
  | cons entry rest =>
    obtain ⟨key, value⟩ := entry
    rw [visitsEntries, performAll_append, perform_visits key, evaluateEntries, bind_map_left,
      map_bind]
    refine bind_congr fun k => ?_
    rw [performAll_append, perform_visits value, bind_map_left, map_bind]
    refine bind_congr fun v => ?_
    rw [performAll, Progress.push, Progress.push, perform, bind_map_left, map_bind]
    exact bind_congr fun changed => perform_visitsEntries rest values changed dicts

end

end Console

/-! ### Performing visits -/

namespace Visit

/-- **A visit changes nothing that is there**, whether it succeeds or fails. -/
theorem perform_safe (visit : Visit) (p : Progress) (w : World) :
    Run.Safe Trait.any w (visit.perform p) Action.anything := by
  have sound := Trait.any_sound w.store
  have leaves {α : Type} {run : Run α} {holds : Store → α → Prop} {f : α → Progress}
      (safe : Run.Safe Trait.any w run holds) :
      Run.Safe Trait.any w (f <$> run) Action.anything :=
    safe.map fun _ _ _ => trivial
  have nothing (p : Progress) : Run.Safe Trait.any w (pure p) Action.anything :=
    Run.safe_pure sound trivial
  obtain ⟨values, dicts⟩ := p
  match visit with
  | .node (.literal _ value) => exact leaves (Console.create_safe sound value)
  | .node (.name _ _) => exact Run.safe_fail sound _
  | .node (.call _ function arguments) =>
    exact leaves ((Builtin.invoke_safe sound function (Trait.any_all _ _)).mapDiagnostic _)
  | .node (.list _ _) => exact leaves (Run.safe_act (Action.safe_list sound (Trait.any_all _ _)))
  | .node (.tuple _ _) => exact leaves (Run.safe_act (Action.safe_tuple sound (Trait.any_all _ _)))
  | .node (.dict _ _) =>
    cases dicts with
    | nil => exact nothing _
    | cons d dicts => exact leaves (Run.safe_act (Action.safe_dict sound (Trait.any_ofDict _ d)))
  | .node (.group _ _) | .opening => exact nothing _
  | .insertion =>
    match values, dicts with
    | v :: k :: values, d :: dicts =>
      exact leaves (Run.safe_act
        (Action.safe_insertInto sound (Trait.any_ofDict _ d) trivial trivial))
    | [], _ | [_], _ | _ :: _ :: _, [] => exact nothing _

/-- **A visit prints its lines and succeeds, or fails and prints nothing.** Nothing else about it
depends on the sink. -/
theorem perform_prints (visit : Visit) (p : Progress) (s : Store) :
    (∃ p' made, Run.Prints (visit.perform p) s (visit.lines p s) (.ok p') made) ∨
      visit.lines p s = [] ∧
        ∃ failure made, Run.Prints (visit.perform p) s [] (.error failure) made := by
  have acting {α : Type} (action : Action α) (f : α → Progress) :
      (∃ p' made, Run.Prints (f <$> Run.act action) s [] (.ok p') made) ∨
        ([] : List (List Char)) = [] ∧
          ∃ failure made, Run.Prints (f <$> Run.act action) s [] (.error failure) made := by
    rcases Run.act_prints action s with ⟨a, made, prints⟩ | ⟨failure, made, prints⟩
    · exact .inl ⟨f a, made, prints.map f⟩
    · exact .inr ⟨rfl, failure, made, prints.map f⟩
  have staying (p' : Progress) : ∃ p'' made, Run.Prints (pure p') s [] (.ok p'') made :=
    ⟨p', s, fun _ => rfl⟩
  obtain ⟨values, dicts⟩ := p
  match visit with
  | .node (.literal _ value) => exact acting value.create _
  | .node (.name span name) => exact .inr ⟨rfl, _, s, fun _ => rfl⟩
  | .node (.call span function arguments) =>
    rw [lines, perform]
    by_cases print : function = "print"
    · subst print
      rw [if_pos rfl]
      obtain ⟨v, made, prints⟩ := Builtin.print_prints s _
      exact .inl ⟨_, made, (prints.mapDiagnostic (·.blame span)).map _⟩
    · rw [if_neg print]
      rcases Builtin.invoke_prints print s (Progress.latest ⟨values, dicts⟩ arguments.length) with
        ⟨v, made, prints⟩ | ⟨failure, made, prints⟩
      · exact .inl ⟨_, made, (prints.mapDiagnostic (·.blame span)).map _⟩
      · exact .inr ⟨rfl, _, made, (prints.mapDiagnostic (·.blame span)).map _⟩
  | .node (.list _ items) => exact acting (Action.list _) _
  | .node (.tuple _ items) => exact acting (Action.tuple _) _
  | .node (.dict _ _) =>
    cases dicts with
    | nil => exact .inl (staying _)
    | cons d dicts => exact acting (Action.dict d) _
  | .node (.group _ _) => exact .inl (staying _)
  | .opening => exact .inl (staying _)
  | .insertion =>
    match values, dicts with
    | v :: k :: values, d :: dicts => exact acting (Action.insertInto d k v) _
    | [], _ => exact .inl (staying _)
    | [_], _ => exact .inl (staying _)
    | _ :: _ :: _, [] => exact .inl (staying _)

/-- **The visits are performed**, from one store to another, and print the lines. -/
inductive Performs : List Visit → Progress → Store → List (List Char) → Progress → Store → Prop
  | nil (p : Progress) (s : Store) : Performs [] p s [] p s
  | cons {visit : Visit} {rest : List Visit} {p p' p'' : Progress} {s s' s'' : Store}
      {lines : List (List Char)} :
      visit.perform p ⟨s, Sink.empty⟩ = .ok p' ⟨s', ⟨.accepting, (visit.lines p s).flatten⟩⟩ →
      Performs rest p' s' lines p'' s'' →
      Performs (visit :: rest) p s (visit.lines p s ++ lines) p'' s''

/-- **How visits end**: all of them are performed, or those in front of one that fails. That one
changes nothing that is there, and what is behind it is not performed. -/
def Ends (visits : List Visit) (p : Progress) (s : Store) (lines : List (List Char))
    (result : Except Failure Progress) (made : Store) : Prop :=
  match result with
  | .ok p' => Performs visits p s lines p' made
  | .error failure => ∃ before visit behind reached between,
      visits = before ++ visit :: behind ∧ Performs before p s lines reached between ∧
        visit.perform reached ⟨between, Sink.empty⟩ = .error failure ⟨made, Sink.empty⟩ ∧
        between.Grows made

theorem performAll_ends (visits : List Visit) (p : Progress) (s : Store) :
    ∃ lines result made, Ends visits p s lines result made ∧
      Run.Prints (performAll visits p) s lines result made := by
  induction visits generalizing p s with
  | nil => exact ⟨[], .ok p, s, .nil p s, fun _ => rfl⟩
  | cons visit rest ih =>
    rw [performAll]
    rcases visit.perform_prints p s with ⟨p', s', prints⟩ | ⟨silent, failure, made, prints⟩
    case inl =>
      obtain ⟨lines, result, made, ends, others⟩ := ih p' s'
      have performed : visit.perform p ⟨s, Sink.empty⟩ =
          .ok p' ⟨s', ⟨.accepting, (visit.lines p s).flatten⟩⟩ :=
        Run.ok_of_outcome (prints.outcome_accepting [])
      refine ⟨_, result, made, ?_, prints.bind others⟩
      cases result with
      | ok p'' => exact .cons performed ends
      | error failure =>
        obtain ⟨before, last, behind, reached, between, rfl, performs, failed⟩ := ends
        exact ⟨visit :: before, last, behind, reached, between, rfl, .cons performed performs,
          failed⟩
    case inr =>
      have failed : visit.perform p ⟨s, Sink.empty⟩ = .error failure ⟨made, Sink.empty⟩ :=
        Run.error_of_outcome (prints.outcome_accepting [])
      have safe := visit.perform_safe p ⟨s, Sink.empty⟩
      rw [Run.Safe, failed] at safe
      refine ⟨[], .error failure, made, ?_, prints.bind_of_error _⟩
      exact ⟨[], visit, rest, p, s, rfl, .nil p s, failed, safe.grows⟩

end Visit

/-! ### Evaluation in order -/

namespace Console

open Visit

/-- **Expressions are evaluated in order, and nothing before makes a difference.** On a console
without objects, the visits of an expression are performed, one after another and from the first,
until all of them are or one fails; they print lines, and lead to a result and a store. On every
console with a working sink the result is the same, put above the objects that are there, and the
sink takes the lines behind what it holds. If there is no line, a sink that refuses something does
not matter; if there is one, the evaluation fails with the reason of the sink, which has taken
nothing if it refuses writes and the first line if it refuses flushes. -/
theorem evaluate_in_order (e : Expression) :
    ∃ (lines : List (List Char)) (result : Except Failure Value) (made : Store),
      Ends e.visits Progress.start Store.empty lines (result.map Progress.start.push) made ∧
      ∀ (base : Store) (stored : List Char) (reason : String),
        (evaluate e).outcome ⟨base, ⟨.accepting, stored⟩⟩ =
          (result.map (Value.above base),
            ⟨base.above made, ⟨.accepting, stored ++ lines.flatten⟩⟩) ∧
        match lines with
        | [] =>
          (evaluate e).outcome ⟨base, ⟨.refusingWrites reason, stored⟩⟩ =
            (result.map (Value.above base), ⟨base.above made, ⟨.refusingWrites reason, stored⟩⟩) ∧
          (evaluate e).outcome ⟨base, ⟨.refusingFlushes reason, stored⟩⟩ =
            (result.map (Value.above base), ⟨base.above made, ⟨.refusingFlushes reason, stored⟩⟩)
        | line :: _ =>
          (∃ reached, (evaluate e).outcome ⟨base, ⟨.refusingWrites reason, stored⟩⟩ =
            (.error (.sink reason), ⟨reached, ⟨.refusingWrites reason, stored⟩⟩)) ∧
          ∃ reached, (evaluate e).outcome ⟨base, ⟨.refusingFlushes reason, stored⟩⟩ =
            (.error (.sink reason), ⟨reached, ⟨.refusingFlushes reason, stored ++ line⟩⟩) := by
  obtain ⟨lines, ended, made, ends, performed⟩ :=
    performAll_ends e.visits Progress.start Store.empty
  rw [perform_visits] at performed
  obtain ⟨result, rfl, prints⟩ :=
    performed.of_map (fun p => p.values.headD (.null 0)) fun _ => rfl
  refine ⟨lines, result, made, ends, fun base stored reason => ?_⟩
  have lifted : ∀ sink, (evaluate e).outcome ⟨base.above Store.empty, sink⟩ = _ :=
    evaluate_lifts e Store.empty
  rw [Store.above_empty] at lifted
  refine ⟨by rw [lifted, prints.outcome_accepting], ?_⟩
  have writes := prints ⟨.refusingWrites reason, stored⟩
  have flushes := prints ⟨.refusingFlushes reason, stored⟩
  cases lines with
  | nil =>
    dsimp only [Sink.printAll] at writes flushes
    exact ⟨by rw [lifted, writes], by rw [lifted, flushes]⟩
  | cons line rest =>
    rw [Sink.printAll_refusingWrites] at writes
    rw [Sink.printAll_refusingFlushes] at flushes
    obtain ⟨reached, refused⟩ := writes
    obtain ⟨reached', refused'⟩ := flushes
    exact ⟨⟨base.above reached, by rw [lifted, refused]; rfl⟩,
      base.above reached', by rw [lifted, refused']; rfl⟩

end Console

end CallConsole
