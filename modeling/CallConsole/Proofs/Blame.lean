/-
**Who is to blame.**

A failing evaluation ends at one node: at a bare name, at a call whose function refuses its
arguments, or at a dict display that inserts a key without a slot. Everything in front of this node
has been evaluated by then. The nodes around it pass the diagnostic on as it is:

* `Builtin.invoke_error_iff`: what a call is refused for;
* `Console.evaluate_error_iff`: an evaluation fails at its node, or in a part of it behind other
  parts that succeed;
* `Console.evaluate_plug_of_error`: the nodes around a failure change nothing about it;
* `Console.AtFault.unique`: one node only is at fault;
* `Console.failure_blames_innermost`: the diagnostics of sources, by the nodes that are to blame.
-/

import CallConsole.Proofs.Hashing
import CallConsole.Proofs.Recognition
import CallConsole.Proofs.Runs

namespace CallConsole

/-! ### Calls that are refused -/

namespace Builtin

/-- **A call is refused** and leaves a store: no function has the name, the function does not take
that many arguments, or it fails on them. `print` fails on none. -/
inductive Refuses (name : String) (arguments : List Value) (s : Store) : Cause → Store → Prop
  | unknown : find? name = none → Refuses name arguments s (.undefinedName name) s
  | count {function : Builtin} :
      find? name = some function → ¬ function.arity.Accepts arguments.length →
      Refuses name arguments s
        (.wrongArgumentCount function.name function.arity arguments.length) s
  | body {function : Builtin} {cause : Cause} {s' : Store} :
      find? name = some function → function.arity.Accepts arguments.length → function ≠ .print →
      function.body arguments s = .error cause s' → Refuses name arguments s cause s'

variable {name : String} {function : Builtin} {arguments : List Value} {w w' : World}
  {d : Diagnostic}

/-- Printing fails for the reasons of the sink only. -/
theorem printAll_ne_diagnostic : printAll arguments w ≠ .error (.diagnostic d) w' := by
  intro failed
  rcases EStateM.error_of_bind failed with failed | ⟨line, w₁, _, failed⟩
  · obtain ⟨cause, s, failed, -⟩ := Run.error_of_act failed
    cases failed
  · rcases EStateM.error_of_bind failed with failed | ⟨_, w₂, _, failed⟩
    · unfold Run.print at failed
      split at failed <;> cases failed
    · obtain ⟨cause, s, failed, -⟩ := Run.error_of_act failed
      cases failed

/-- **A call fails with a diagnostic exactly if it is refused.** The diagnostic is the bare cause,
and the call has printed nothing. -/
theorem invoke_error_iff : invoke name arguments w = .error (.diagnostic d) w' ↔
    ∃ cause s, d = .ofCause cause ∧ w' = { w with store := s } ∧
      Refuses name arguments w.store cause s := by
  unfold invoke
  cases found : find? name with
  | none =>
    constructor
    case mp =>
      intro failed
      cases failed
      exact ⟨_, _, rfl, rfl, .unknown found⟩
    case mpr =>
      rintro ⟨cause, s, rfl, rfl, refused⟩
      cases refused with
      | unknown => rfl
      | count found' => cases found.symm.trans found'
      | body found' => cases found.symm.trans found'
  | some function =>
    dsimp only
    constructor
    case mp =>
      intro failed
      by_cases accepts : function.arity.Accepts arguments.length
      · rw [call_of_accepts accepts] at failed
        split at failed
        case isTrue => exact absurd failed printAll_ne_diagnostic
        case isFalse other =>
          obtain ⟨cause, s, reason, same, rfl⟩ := Run.error_of_act failed
          cases same
          exact ⟨cause, s, rfl, rfl, .body found accepts other reason⟩
      · rw [call_of_not_accepts accepts] at failed
        cases failed
        exact ⟨_, _, rfl, rfl, .count found accepts⟩
    case mpr =>
      rintro ⟨cause, s, rfl, rfl, refused⟩
      cases refused with
      | unknown missing => cases found.symm.trans missing
      | count found' refused =>
        cases found.symm.trans found'
        exact call_of_not_accepts refused
      | body found' accepts other failed =>
        cases found.symm.trans found'
        rw [call_of_accepts accepts, if_neg other]
        exact Run.act_of_error failed

end Builtin

/-! ### Nodes around a part -/

namespace Expression

/-- A node whose parts stand in a row. -/
inductive Row where
  | call (span : Span) (function : String)
  | list (span : Span)
  | tuple (span : Span)

/-- The node with its parts. -/
def Row.of : Row → List Expression → Expression
  | call span function, items => .call span function items
  | list span, items => .list span items
  | tuple span, items => .tuple span items

theorem Row.of_inj {row row' : Row} {items items' : List Expression}
    (same : row.of items = row'.of items') : row = row' ∧ items = items' := by
  cases row <;> cases row' <;> cases same <;> exact ⟨rfl, rfl⟩

/-- A node without one of the parts right below it. -/
inductive Hole where
  | item (row : Row) (before behind : List Expression)
  | key (span : Span) (before : List (Expression × Expression)) (value : Expression)
      (behind : List (Expression × Expression))
  | value (span : Span) (before : List (Expression × Expression)) (key : Expression)
      (behind : List (Expression × Expression))
  | group (span : Span)

/-- The node with the part put in. -/
def Hole.fill : Hole → Expression → Expression
  | item row before behind, e => row.of (before ++ e :: behind)
  | key span before other behind, e => .dict span (before ++ (e, other) :: behind)
  | value span before other behind, e => .dict span (before ++ (other, e) :: behind)
  | group span, e => .group span e

/-- **The expression with all the nodes around it**, the outermost of which comes first. -/
def plug (around : List Hole) (e : Expression) : Expression := around.foldr Hole.fill e

theorem sizeOf_lt_fill (hole : Hole) (e : Expression) : sizeOf e < sizeOf (hole.fill e) := by
  have item (before behind : List Expression) : sizeOf e < sizeOf (before ++ e :: behind) :=
    List.sizeOf_lt_of_mem (List.mem_append_right _ List.mem_cons_self)
  have entry (pair : Expression × Expression) (before behind : List (Expression × Expression)) :
      sizeOf pair < sizeOf (before ++ pair :: behind) :=
    List.sizeOf_lt_of_mem (List.mem_append_right _ List.mem_cons_self)
  cases hole with
  | item row before behind =>
    have inside := item before behind
    cases row
    all_goals
      simp only [Hole.fill, Row.of, call.sizeOf_spec, list.sizeOf_spec, tuple.sizeOf_spec]
      omega
  | key span before other behind =>
    have inside := entry (e, other) before behind
    simp only [Hole.fill, dict.sizeOf_spec]
    simp only [Prod.mk.sizeOf_spec] at inside
    omega
  | value span before other behind =>
    have inside := entry (other, e) before behind
    simp only [Hole.fill, dict.sizeOf_spec]
    simp only [Prod.mk.sizeOf_spec] at inside
    omega
  | group span =>
    simp only [Hole.fill, group.sizeOf_spec]
    omega

end Expression

namespace Console

open Expression Parsing

/-- What becomes of the values of a row. -/
def finish : Row → List Value → Run Value
  | .call span function, values =>
    (Builtin.invoke function values).mapDiagnostic (·.blame span)
  | .list _, values => Run.act (Action.list values)
  | .tuple _, values => Run.act (Action.tuple values)

theorem evaluate_row (row : Row) (items : List Expression) :
    evaluate (row.of items) = evaluateAll items >>= finish row := by
  cases row <;> rw [Row.of, evaluate] <;> rfl

/-- Evaluates what a node evaluates in front of the missing part. -/
def lead : Hole → Run Unit
  | .item _ before _ => do
    let _ ← evaluateAll before
  | .key _ before _ _ => do
    let _ ← evaluateEntries Dict.empty before
  | .value _ before key _ => do
    let _ ← evaluateEntries Dict.empty before
    let _ ← evaluate key
  | .group _ => pure ()

/-- **Evaluates all that is in front of an expression**, the outermost nodes around it first. -/
def leadAll : List Hole → Run Unit
  | [] => pure ()
  | hole :: inner => do
    lead hole
    leadAll inner

/-- **A node fails by itself**, after its parts have been evaluated: a bare name, a call that is
refused, or an entry of a dict display whose key has no slot. -/
inductive Fault : Expression → World → Diagnostic → World → Prop
  | name (span : Span) (name : String) (w : World) :
      Fault (.name span name) w ⟨nameCause name, some span, []⟩ w
  | call {span : Span} {function : String} {arguments : List Expression} {values : List Value}
      {w w' : World} {cause : Cause} {s : Store} :
      evaluateAll arguments w = .ok values w' → Builtin.Refuses function values w'.store cause s →
      Fault (.call span function arguments) w ⟨cause, some span, []⟩ { w' with store := s }
  | insertion {span : Span} {before behind : List (Expression × Expression)}
      {key value : Expression} {d : Dict} {k v : Value} {type : TypeName} {w w₁ w₂ w' : World} :
      evaluateEntries Dict.empty before w = .ok d w₁ → evaluate key w₁ = .ok k w₂ →
      evaluate value w₂ = .ok v w' → Slot.of? k = .error (.unhashable type) →
      Fault (.dict span (before ++ (key, value) :: behind)) w ⟨.unhashable type, none, []⟩ w'

/-- **The node is at fault** for an evaluation of the expression: what is in front of the node has
been evaluated, and then the node fails by itself. -/
def AtFault (around : List Hole) (node e : Expression) (w : World) (d : Diagnostic) (w' : World) :
    Prop :=
  ∃ w₁, e = plug around node ∧ leadAll around w = .ok () w₁ ∧ Fault node w₁ d w'

/-- An entry of a dict display fails in its key, then in its value, then with its insertion. -/
inductive EntryFails (key value : Expression) (w : World) : Failure → World → Prop
  | key {failure : Failure} {w' : World} :
      evaluate key w = .error failure w' → EntryFails key value w failure w'
  | value {k : Value} {failure : Failure} {w₁ w' : World} :
      evaluate key w = .ok k w₁ → evaluate value w₁ = .error failure w' →
      EntryFails key value w failure w'
  | insertion {k v : Value} {type : TypeName} {w₁ w' : World} :
      evaluate key w = .ok k w₁ → evaluate value w₁ = .ok v w' →
      Slot.of? k = .error (.unhashable type) →
      EntryFails key value w (.ofCause (.unhashable type)) w'

variable {e node part key value : Expression} {es before behind : List Expression}
  {pairs : List (Expression × Expression)} {around : List Hole} {hole : Hole} {dict : Dict}
  {vs : List Value} {w w₁ w' : World} {d : Diagnostic} {failure : Failure}

/-! ### The first part that fails -/

theorem evaluateAll_of_error (done : evaluateAll before w = .ok vs w₁)
    (failed : evaluate e w₁ = .error failure w') (behind : List Expression) :
    evaluateAll (before ++ e :: behind) w = .error failure w' := by
  induction before generalizing vs w with
  | nil =>
    cases done
    rw [List.nil_append, evaluateAll]
    exact EStateM.bind_of_error failed _
  | cons first rest ih =>
    rw [evaluateAll] at done
    obtain ⟨v, w₂, head, done⟩ := EStateM.exists_of_bind_ok done
    obtain ⟨others, w₃, tail, done⟩ := EStateM.exists_of_bind_ok done
    cases done
    rw [List.cons_append, evaluateAll, EStateM.bind_of_ok head]
    exact EStateM.bind_of_error (ih tail) _

theorem exists_of_evaluateAll_error (failed : evaluateAll es w = .error failure w') :
    ∃ before e behind vs w₁, es = before ++ e :: behind ∧ evaluateAll before w = .ok vs w₁ ∧
      evaluate e w₁ = .error failure w' := by
  induction es generalizing w with
  | nil => cases failed
  | cons first rest ih =>
    rw [evaluateAll] at failed
    rcases EStateM.error_of_bind failed with failed | ⟨v, w₂, head, failed⟩
    · exact ⟨[], first, rest, [], w, rfl, rfl, failed⟩
    · rcases EStateM.error_of_bind failed with failed | ⟨others, w₃, _, failed⟩
      · obtain ⟨before, e, behind, vs, w₁, rfl, done, failed⟩ := ih failed
        refine ⟨first :: before, e, behind, v :: vs, w₁, rfl, ?_, failed⟩
        rw [evaluateAll, EStateM.bind_of_ok head, EStateM.bind_of_ok done]
        rfl
      · cases failed

theorem evaluateEntries_append (dict : Dict) (pairs others : List (Expression × Expression)) :
    evaluateEntries dict (pairs ++ others) =
      evaluateEntries dict pairs >>= fun d => evaluateEntries d others := by
  induction pairs generalizing dict with
  | nil => rw [List.nil_append, evaluateEntries, pure_bind]
  | cons pair rest ih =>
    obtain ⟨key, value⟩ := pair
    simp only [List.cons_append, evaluateEntries, bind_assoc, ih]

theorem evaluateEntries_of_entryFails (fails : EntryFails key value w failure w') (dict : Dict)
    (behind : List (Expression × Expression)) :
    evaluateEntries dict ((key, value) :: behind) w = .error failure w' := by
  rw [evaluateEntries]
  cases fails with
  | key failed => exact EStateM.bind_of_error failed _
  | value done failed =>
    rw [EStateM.bind_of_ok done]
    exact EStateM.bind_of_error failed _
  | insertion done done' unhashable =>
    rw [EStateM.bind_of_ok done, EStateM.bind_of_ok done']
    refine EStateM.bind_of_error ?_ _
    exact Run.act_of_error (Action.insertInto_of_error dict unhashable _ _)

theorem exists_of_evaluateEntries_error
    (failed : evaluateEntries dict pairs w = .error failure w') :
    ∃ before key value behind d w₁, pairs = before ++ (key, value) :: behind ∧
      evaluateEntries dict before w = .ok d w₁ ∧ EntryFails key value w₁ failure w' := by
  induction pairs generalizing dict w with
  | nil => cases failed
  | cons pair rest ih =>
    obtain ⟨key, value⟩ := pair
    have here (fails : EntryFails key value w failure w') :
        ∃ before key' value' behind d w₁,
          (key, value) :: rest = before ++ (key', value') :: behind ∧
            evaluateEntries dict before w = .ok d w₁ ∧ EntryFails key' value' w₁ failure w' :=
      ⟨[], key, value, rest, dict, w, rfl, rfl, fails⟩
    rw [evaluateEntries] at failed
    rcases EStateM.error_of_bind failed with failed | ⟨k, w₂, first, failed⟩
    · exact here (.key failed)
    rcases EStateM.error_of_bind failed with failed | ⟨v, w₃, second, failed⟩
    · exact here (.value first failed)
    rcases EStateM.error_of_bind failed with failed | ⟨changed, w₄, third, failed⟩
    · obtain ⟨cause, s, reason, rfl, rfl⟩ := Run.error_of_act failed
      cases hashed : Slot.of? k with
      | error cause' =>
        obtain ⟨_, type, rfl⟩ := Slot.unhashable_of_error hashed
        cases (Action.insertInto_of_error dict hashed v _).symm.trans reason
        exact here (.insertion first second hashed)
      | ok slot => cases (Action.insertInto_of_ok dict hashed v _).symm.trans reason
    · obtain ⟨before, key', value', behind, d, w₁, rfl, done, fails⟩ := ih failed
      refine ⟨(key, value) :: before, key', value', behind, d, w₁, rfl, ?_, fails⟩
      rw [evaluateEntries, EStateM.bind_of_ok first, EStateM.bind_of_ok second,
        EStateM.bind_of_ok third]
      exact done

/-! ### Failures and the nodes around them -/

/-- What has been evaluated in front of an item, a key or a value. -/
theorem exists_of_lead_item {row : Row} (led : lead (.item row before behind) w = .ok () w₁) :
    ∃ vs, evaluateAll before w = .ok vs w₁ := by
  obtain ⟨vs, _, done, led⟩ := EStateM.exists_of_bind_ok led
  cases led
  exact ⟨vs, done⟩

theorem exists_of_lead_key {span : Span} {before behind : List (Expression × Expression)}
    (led : lead (.key span before value behind) w = .ok () w₁) :
    ∃ d, evaluateEntries Dict.empty before w = .ok d w₁ := by
  obtain ⟨d, _, done, led⟩ := EStateM.exists_of_bind_ok led
  cases led
  exact ⟨d, done⟩

theorem exists_of_lead_value {span : Span} {before behind : List (Expression × Expression)}
    (led : lead (.value span before key behind) w = .ok () w₁) :
    ∃ d k w₀, evaluateEntries Dict.empty before w = .ok d w₀ ∧ evaluate key w₀ = .ok k w₁ := by
  obtain ⟨d, w₀, done, led⟩ := EStateM.exists_of_bind_ok led
  obtain ⟨k, _, first, led⟩ := EStateM.exists_of_bind_ok led
  cases led
  exact ⟨d, k, w₀, done, first⟩

/-- A dict display fails in the first entry that does. -/
theorem evaluate_dict_of_entryFails {span : Span} {before : List (Expression × Expression)}
    (done : evaluateEntries Dict.empty before w = .ok dict w₁)
    (fails : EntryFails key value w₁ failure w') (behind : List (Expression × Expression)) :
    evaluate (.dict span (before ++ (key, value) :: behind)) w = .error failure w' := by
  rw [evaluate, evaluateEntries_append]
  refine EStateM.bind_of_error ?_ _
  rw [EStateM.bind_of_ok done]
  exact evaluateEntries_of_entryFails fails dict behind

/-- **A node around a failure fails in the same way.** -/
theorem evaluate_fill_of_error (led : lead hole w = .ok () w₁)
    (failed : evaluate part w₁ = .error failure w') :
    evaluate (hole.fill part) w = .error failure w' := by
  cases hole with
  | item row before behind =>
    obtain ⟨vs, done⟩ := exists_of_lead_item led
    rw [Hole.fill, evaluate_row]
    exact EStateM.bind_of_error (evaluateAll_of_error done failed behind) _
  | key span before value behind =>
    obtain ⟨dict, done⟩ := exists_of_lead_key led
    exact evaluate_dict_of_entryFails done (.key failed) behind
  | value span before key behind =>
    obtain ⟨dict, k, w₀, done, first⟩ := exists_of_lead_value led
    exact evaluate_dict_of_entryFails done (.value first failed) behind
  | group span =>
    cases led
    rw [Hole.fill, evaluate]
    exact failed

/-- All nodes around a failure fail in the same way. -/
theorem evaluate_plug_of_error (led : leadAll around w = .ok () w₁)
    (failed : evaluate part w₁ = .error failure w') :
    evaluate (plug around part) w = .error failure w' := by
  induction around generalizing w with
  | nil =>
    cases led
    exact failed
  | cons hole inner ih =>
    rw [leadAll] at led
    obtain ⟨_, w₂, led, rest⟩ := EStateM.exists_of_bind_ok led
    exact evaluate_fill_of_error led (ih rest)

theorem Fault.evaluate (fault : Fault node w d w') :
    Console.evaluate node w = .error (.diagnostic d) w' := by
  cases fault with
  | name span name => rfl
  | call done refused =>
    rw [Console.evaluate, EStateM.bind_of_ok done, Run.mapDiagnostic,
      Builtin.invoke_error_iff.mpr ⟨_, _, rfl, rfl, refused⟩]
    rfl
  | insertion done first second unhashable =>
    exact evaluate_dict_of_entryFails done (.insertion first second unhashable) _

/-- **The node at fault is the place of the diagnostic**, or a dict display with a key that has no
slot; that diagnostic has no place. -/
theorem Fault.place (fault : Fault node w d w') :
    d.lines = [] ∧ (d.span = some node.span ∨ d.span = none ∧ ∃ span entries type,
      node = .dict span entries ∧ d.cause = .unhashable type) := by
  cases fault with
  | name | call => exact ⟨rfl, .inl rfl⟩
  | insertion => exact ⟨rfl, .inr ⟨rfl, _, _, _, rfl, rfl⟩⟩

/-- A row fails in one of its parts, or with the values of all of them. -/
theorem row_error (row : Row) {items : List Expression}
    (failed : evaluate (row.of items) w = .error failure w') :
    (∃ hole part w₁, row.of items = Hole.fill hole part ∧ lead hole w = .ok () w₁ ∧
      evaluate part w₁ = .error failure w') ∨
    ∃ values w₁, evaluateAll items w = .ok values w₁ ∧
      finish row values w₁ = .error failure w' := by
  rw [evaluate_row] at failed
  rcases EStateM.error_of_bind failed with failed | ended
  case inr => exact .inr ended
  case inl =>
    obtain ⟨before, part, behind, vs, w₁, rfl, done, failed⟩ := exists_of_evaluateAll_error failed
    refine .inl ⟨.item row before behind, part, w₁, rfl, ?_, failed⟩
    rw [lead, EStateM.bind_of_ok done]
    rfl

/-- **An evaluation fails at its node, or in a part of it**, behind other parts that succeed. -/
theorem evaluate_error_iff : evaluate e w = .error (.diagnostic d) w' ↔
    Fault e w d w' ∨ ∃ hole part w₁, e = Hole.fill hole part ∧ lead hole w = .ok () w₁ ∧
      evaluate part w₁ = .error (.diagnostic d) w' := by
  constructor
  case mpr =>
    rintro (fault | ⟨hole, part, w₁, rfl, led, failed⟩)
    · exact fault.evaluate
    · exact evaluate_fill_of_error led failed
  intro failed
  cases e with
  | literal span value =>
    obtain ⟨cause, s, failed, -⟩ := Run.error_of_act failed
    cases value <;> cases failed
  | name span name =>
    cases failed
    exact .inl (.name span name w)
  | call span function arguments =>
    rcases row_error (.call span function) failed with part | ⟨values, w₁, done, failed⟩
    · exact .inr part
    · obtain ⟨d', invoked, rfl⟩ := Run.error_of_mapDiagnostic failed
      obtain ⟨cause, s, rfl, rfl, refused⟩ := Builtin.invoke_error_iff.mp invoked
      exact .inl (.call done refused)
  | list span items =>
    rcases row_error (.list span) failed with part | ⟨values, w₁, done, failed⟩
    · exact .inr part
    · rw [finish] at failed
      obtain ⟨cause, s, failed, -⟩ := Run.error_of_act failed
      cases failed
  | tuple span items =>
    rcases row_error (.tuple span) failed with part | ⟨values, w₁, done, failed⟩
    · exact .inr part
    · rw [finish] at failed
      obtain ⟨cause, s, failed, -⟩ := Run.error_of_act failed
      cases failed
  | dict span entries =>
    rw [evaluate] at failed
    rcases EStateM.error_of_bind failed with failed | ⟨values, w₁, done, failed⟩
    · obtain ⟨before, key, value, behind, dict, w₁, rfl, done, fails⟩ :=
        exists_of_evaluateEntries_error failed
      cases fails with
      | key failed =>
        refine .inr ⟨.key span before value behind, key, w₁, rfl, ?_, failed⟩
        rw [lead, EStateM.bind_of_ok done]
        rfl
      | @value k _ w₂ _ done' failed =>
        refine .inr ⟨.value span before key behind, value, w₂, rfl, ?_, failed⟩
        rw [lead, EStateM.bind_of_ok done, EStateM.bind_of_ok done']
        rfl
      | insertion first second unhashable =>
        exact .inl (.insertion done first second unhashable)
    · obtain ⟨cause, s, failed, -⟩ := Run.error_of_act failed
      cases failed
  | group span inner =>
    rw [evaluate] at failed
    exact .inr ⟨.group span, inner, w, rfl, rfl, failed⟩

theorem exists_atFault_of_error {e : Expression} {w : World}
    (failed : evaluate e w = .error (.diagnostic d) w') :
    ∃ around node, AtFault around node e w d w' := by
  rcases evaluate_error_iff.mp failed with fault | ⟨hole, part, w₁, same, led, failed'⟩
  · exact ⟨[], e, w, rfl, rfl, fault⟩
  · obtain ⟨inner, node, w₂, rfl, led', fault⟩ := exists_atFault_of_error failed'
    refine ⟨hole :: inner, node, w₂, same, ?_, fault⟩
    rw [leadAll, EStateM.bind_of_ok led]
    exact led'
termination_by sizeOf e
decreasing_by
  subst same
  exact sizeOf_lt_fill hole _

/-- **An evaluation fails with a diagnostic exactly if a node is at fault.** -/
theorem evaluate_error_iff_atFault : evaluate e w = .error (.diagnostic d) w' ↔
    ∃ around node, AtFault around node e w d w' := by
  refine ⟨exists_atFault_of_error, ?_⟩
  rintro ⟨around, node, w₁, rfl, led, fault⟩
  exact evaluate_plug_of_error led fault.evaluate

theorem leadAll_append (outer inner : List Hole) :
    leadAll (outer ++ inner) = leadAll outer >>= fun _ => leadAll inner := by
  induction outer with
  | nil => rw [List.nil_append, leadAll, pure_bind]
  | cons hole rest ih => rw [List.cons_append, leadAll, leadAll, ih, bind_assoc]

/-! ### No other node is at fault -/

/-- The expressions that succeed in a row are all in front of one that fails. -/
theorem isPrefix_of_evaluateAll {before' rest : List Expression} {vs' : List Value} {w₂ : World}
    (same : before ++ e :: behind = before' ++ rest) (done : evaluateAll before w = .ok vs w₁)
    (failed : evaluate e w₁ = .error failure w') (done' : evaluateAll before' w = .ok vs' w₂) :
    before' <+: before := by
  rcases List.append_eq_append_iff.mp same with ⟨mid, rfl, split⟩ | ⟨mid, rfl, _⟩
  · cases mid with
    | nil => simp only [List.append_nil, List.prefix_rfl]
    | cons first mid =>
      cases split
      cases done'.symm.trans (evaluateAll_of_error done failed mid)
  · exact List.prefix_append before' mid

/-- The entries that succeed in a row are all in front of one that fails. -/
theorem isPrefix_of_evaluateEntries
    {before behind before' rest : List (Expression × Expression)} {dict₁ dict₂ : Dict} {w₂ : World}
    (same : before ++ (key, value) :: behind = before' ++ rest)
    (done : evaluateEntries dict before w = .ok dict₁ w₁)
    (fails : EntryFails key value w₁ failure w')
    (done' : evaluateEntries dict before' w = .ok dict₂ w₂) : before' <+: before := by
  rcases List.append_eq_append_iff.mp same with ⟨mid, rfl, split⟩ | ⟨mid, rfl, _⟩
  · cases mid with
    | nil => simp only [List.append_nil, List.prefix_rfl]
    | cons first mid =>
      cases split
      rw [evaluateEntries_append, EStateM.bind_of_ok done,
        evaluateEntries_of_entryFails fails] at done'
      cases done'
  · exact List.prefix_append before' mid

variable {e' key' value' node' part' : Expression} {around' : List Hole} {hole' : Hole}
  {d' : Diagnostic} {failure' : Failure} {w₂ w'' : World}

/-- The first one of the expressions that fails is at one place only. -/
theorem evaluateAll_unique {before' behind' : List Expression} {vs' : List Value}
    (same : before ++ e :: behind = before' ++ e' :: behind')
    (done : evaluateAll before w = .ok vs w₁) (failed : evaluate e w₁ = .error failure w')
    (done' : evaluateAll before' w = .ok vs' w₂) (failed' : evaluate e' w₂ = .error failure' w'') :
    before = before' ∧ e = e' ∧ behind = behind' ∧ w₁ = w₂ := by
  have inside := isPrefix_of_evaluateAll same.symm done' failed' done
  have inside' := isPrefix_of_evaluateAll same done failed done'
  obtain rfl : before = before' := inside.eq_of_length_le inside'.length_le
  cases List.append_cancel_left same
  cases done.symm.trans done'
  exact ⟨rfl, rfl, rfl, rfl⟩

/-- The first one of the entries that fails is at one place only. -/
theorem evaluateEntries_unique {before behind before' behind' : List (Expression × Expression)}
    {dict₁ dict₂ : Dict}
    (same : before ++ (key, value) :: behind = before' ++ (key', value') :: behind')
    (done : evaluateEntries dict before w = .ok dict₁ w₁)
    (fails : EntryFails key value w₁ failure w')
    (done' : evaluateEntries dict before' w = .ok dict₂ w₂)
    (fails' : EntryFails key' value' w₂ failure' w'') :
    before = before' ∧ key = key' ∧ value = value' ∧ behind = behind' ∧ w₁ = w₂ := by
  have inside := isPrefix_of_evaluateEntries same.symm done' fails' done
  have inside' := isPrefix_of_evaluateEntries same done fails done'
  obtain rfl : before = before' := inside.eq_of_length_le inside'.length_le
  cases List.append_cancel_left same
  cases done.symm.trans done'
  exact ⟨rfl, rfl, rfl, rfl, rfl⟩

/-- **No node is at fault whose part fails.** -/
theorem Fault.fill_elim (fault : Fault (hole.fill part) w d w') (led : lead hole w = .ok () w₁)
    (failed : Console.evaluate part w₁ = .error failure w'') : False := by
  generalize same : hole.fill part = node at fault
  cases fault with
  | name =>
    cases hole with
    | item row => cases row <;> cases same
    | _ => cases same
  | @call span function _ _ _ _ _ _ done =>
    cases hole with
    | item row before behind =>
      obtain ⟨vs, done'⟩ := exists_of_lead_item led
      have rows : row.of _ = (Row.call span function).of _ := same
      obtain ⟨rfl, rfl⟩ := Row.of_inj rows
      cases done.symm.trans (evaluateAll_of_error done' failed behind)
    | _ => cases same
  | insertion done first second unhashable =>
    cases hole with
    | item row => cases row <;> cases same
    | key =>
      obtain ⟨_, done'⟩ := exists_of_lead_key led
      obtain ⟨-, split⟩ := Expression.dict.inj same
      obtain ⟨-, rfl, rfl, -, rfl⟩ := evaluateEntries_unique split done' (.key failed) done
        (.insertion first second unhashable)
      cases first.symm.trans failed
    | value =>
      obtain ⟨_, _, _, done', first'⟩ := exists_of_lead_value led
      obtain ⟨-, split⟩ := Expression.dict.inj same
      obtain ⟨-, rfl, rfl, -, rfl⟩ := evaluateEntries_unique split done' (.value first' failed)
        done (.insertion first second unhashable)
      cases first.symm.trans first'
      cases second.symm.trans failed
    | group => cases same

/-- **A node has one part only that fails**, behind others that succeed. -/
theorem fill_unique (same : hole.fill part = hole'.fill part')
    (led : lead hole w = .ok () w₁) (failed : evaluate part w₁ = .error failure w')
    (led' : lead hole' w = .ok () w₂) (failed' : evaluate part' w₂ = .error failure' w'') :
    hole = hole' ∧ part = part' ∧ w₁ = w₂ := by
  cases hole with
  | item row =>
    obtain ⟨_, done⟩ := exists_of_lead_item led
    cases hole' with
    | item =>
      obtain ⟨_, done'⟩ := exists_of_lead_item led'
      obtain ⟨rfl, split⟩ := Row.of_inj same
      obtain ⟨rfl, rfl, rfl, rfl⟩ := evaluateAll_unique split done failed done' failed'
      exact ⟨rfl, rfl, rfl⟩
    | _ => cases row <;> cases same
  | key =>
    obtain ⟨_, done⟩ := exists_of_lead_key led
    cases hole' with
    | item row' => cases row' <;> cases same
    | key =>
      obtain ⟨_, done'⟩ := exists_of_lead_key led'
      obtain ⟨rfl, split⟩ := Expression.dict.inj same
      obtain ⟨rfl, rfl, rfl, rfl, rfl⟩ :=
        evaluateEntries_unique split done (.key failed) done' (.key failed')
      exact ⟨rfl, rfl, rfl⟩
    | value =>
      obtain ⟨_, _, _, done', first⟩ := exists_of_lead_value led'
      obtain ⟨rfl, split⟩ := Expression.dict.inj same
      obtain ⟨rfl, rfl, rfl, rfl, rfl⟩ :=
        evaluateEntries_unique split done (.key failed) done' (.value first failed')
      cases first.symm.trans failed
    | group => cases same
  | value =>
    obtain ⟨_, _, _, done, first⟩ := exists_of_lead_value led
    cases hole' with
    | item row' => cases row' <;> cases same
    | key =>
      obtain ⟨_, done'⟩ := exists_of_lead_key led'
      obtain ⟨rfl, split⟩ := Expression.dict.inj same
      obtain ⟨rfl, rfl, rfl, rfl, rfl⟩ :=
        evaluateEntries_unique split done (.value first failed) done' (.key failed')
      cases first.symm.trans failed'
    | value =>
      obtain ⟨_, _, _, done', first'⟩ := exists_of_lead_value led'
      obtain ⟨rfl, split⟩ := Expression.dict.inj same
      obtain ⟨rfl, rfl, rfl, rfl, rfl⟩ :=
        evaluateEntries_unique split done (.value first failed) done' (.value first' failed')
      cases first.symm.trans first'
      exact ⟨rfl, rfl, rfl⟩
    | group => cases same
  | group =>
    cases hole' with
    | item row' => cases row' <;> cases same
    | group =>
      cases led
      cases led'
      cases same
      exact ⟨rfl, rfl, rfl⟩
    | _ => cases same

/-- **No other node is at fault.** -/
theorem AtFault.unique (fault : AtFault around node e w d w')
    (fault' : AtFault around' node' e w d' w'') : around' = around ∧ node' = node := by
  obtain ⟨w₁, rfl, led, own⟩ := fault
  obtain ⟨w₂, same, led', own'⟩ := fault'
  -- Both ways down lead through the one part that fails, so they agree hole by hole.
  induction around generalizing around' w with
  | nil =>
    cases led
    cases around' with
    | nil => exact ⟨rfl, same.symm⟩
    | cons hole' inner' =>
      obtain ⟨_, w₃, led', rest'⟩ := EStateM.exists_of_bind_ok led'
      cases same
      exact (own.fill_elim led' (evaluate_plug_of_error rest' own'.evaluate)).elim
  | cons hole inner ih =>
    obtain ⟨_, w₃, led, rest⟩ := EStateM.exists_of_bind_ok led
    have failed := evaluate_plug_of_error rest own.evaluate
    cases around' with
    | nil =>
      cases led'
      cases same
      exact (own'.fill_elim led failed).elim
    | cons hole' inner' =>
      obtain ⟨_, w₄, led', rest'⟩ := EStateM.exists_of_bind_ok led'
      have failed' := evaluate_plug_of_error rest' own'.evaluate
      obtain ⟨rfl, same, rfl⟩ := fill_unique same led failed led' failed'
      obtain ⟨rfl, rfl⟩ := ih rest same rest'
      exact ⟨rfl, rfl⟩

/-- The nodes around the one at fault fail in the same way. -/
theorem AtFault.evaluate_around {outer inner : List Hole}
    (fault : AtFault (outer ++ inner) node e w d w') :
    ∃ w₀, leadAll outer w = .ok () w₀ ∧
      evaluate (plug inner node) w₀ = .error (.diagnostic d) w' := by
  obtain ⟨w₁, -, led, own⟩ := fault
  rw [leadAll_append] at led
  obtain ⟨_, w₀, before, led⟩ := EStateM.exists_of_bind_ok led
  exact ⟨w₀, before, evaluate_plug_of_error led own.evaluate⟩

/-! ### Failures of sources -/

/-- **Failures are blamed on the innermost node.** A source that is read as an expression fails with
a diagnostic exactly if one of its nodes is at fault after all that is in front of it has been
evaluated: a bare name, with the span of the name; a call that is refused, with the span of the
call; or an entry of a dict display whose key has no slot, without a span. No other node is at
fault, and every node around this one fails with the same diagnostic. -/
theorem failure_blames_innermost {source : List Char} {e : Expression}
    (parsed : parse source = .ok e) (w : World) (d : Diagnostic) (w' : World) :
    (evalSource source w = .error (.diagnostic d) w' ↔
      ∃ around node, AtFault around node e w d w') ∧
    ∀ around node, AtFault around node e w d w' →
      (∀ around' node' d' w'', AtFault around' node' e w d' w'' →
        around' = around ∧ node' = node) ∧
      (d.lines = [] ∧ (d.span = some node.span ∨ d.span = none ∧ ∃ span entries type,
        node = .dict span entries ∧ d.cause = .unhashable type)) ∧
      ∀ outer inner, around = outer ++ inner → ∃ w₀, leadAll outer w = .ok () w₀ ∧
        evaluate (plug inner node) w₀ = .error (.diagnostic d) w' := by
  constructor
  case left =>
    rw [evalSource, parsed]
    exact evaluate_error_iff_atFault
  case right =>
    intro around node fault
    refine ⟨fun _ _ _ _ => fault.unique, ?_, fun outer inner split => ?_⟩
    · obtain ⟨_, -, -, own⟩ := fault
      exact own.place
    · subst split
      exact fault.evaluate_around

/-- A call of an undefined function in a dict display in a tuple. -/
theorem failure_blames_innermost_nested : parse nestedSource = .ok nestedExpression ∧
    evalSource nestedSource World.empty = .error
      (.diagnostic ⟨.undefinedName "f", some ⟨12, 18⟩, []⟩) ⟨⟨#[#[]], #[], 2⟩, Sink.empty⟩ := by
  have scanned : tokenize nestedSource = .ok ⟨nestedTokens, 20⟩ := by decide +kernel
  have parsed : parse nestedSource = .ok nestedExpression :=
    (parse_eq_ok_iff scanned).mpr ((takes_iff _).mpr forms_nested)
  have argument : evaluateAll [.list ⟨14, 16⟩ []] ⟨⟨#[], #[], 2⟩, Sink.empty⟩ =
      .ok [.list 0] ⟨⟨#[#[]], #[], 2⟩, Sink.empty⟩ := rfl
  refine ⟨parsed, (failure_blames_innermost parsed World.empty _ _).1.mpr ?_⟩
  exact ⟨[.item (.tuple ⟨0, 20⟩) [.literal ⟨1, 6⟩ (.int (-10))] [],
    .value ⟨8, 19⟩ [] (.literal ⟨9, 10⟩ (.int 1)) []],
    _, _, rfl, rfl, .call argument (.unknown rfl)⟩

end Console

end CallConsole
