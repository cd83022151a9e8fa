/-
**Runs in parts.**

A run of two parts succeeds if both succeed, and fails where the first of them fails. A change of
its diagnostics is one of those of both parts:

* `ok_of_act`, `error_of_act`, `act_bind`: an action in a world is one of its store;
* `outcome_bind_of_ok`, `outcome_bind_of_error`: what a run of two parts comes to;
* `mapDiagnostic_bind`: changing its diagnostics;
* `Builtin.call_of_accepts`, `Builtin.outcome_invoke`: a call is a check of the number of arguments,
  and what the function does with them.
-/

import CallConsole.Console
import CallConsole.Proofs.Sequencing

namespace CallConsole

/-- The failure with its diagnostic changed, if it is one of the source. -/
def Failure.amend (change : Diagnostic → Diagnostic) : Failure → Failure
  | .diagnostic d => .diagnostic (change d)
  | .sink reason => .sink reason

namespace Run

variable {α β : Type} {w w' : World}

/-! ### How a run ends -/

/-- An action that succeeds has left the store that it made. -/
theorem ok_of_act {action : Action α} {a : α} (ran : act action w = .ok a w') :
    action w.store = .ok a w'.store := by
  unfold act at ran
  split at ran <;> cases ran
  assumption

/-- An action that fails has a cause, and has left the store that it had reached. -/
theorem error_of_act {action : Action α} {failure : Failure}
    (ran : act action w = .error failure w') :
    ∃ cause s, action w.store = .error cause s ∧ failure = .ofCause cause ∧
      w' = { w with store := s } := by
  unfold act at ran
  split at ran <;> cases ran
  exact ⟨_, _, ‹_›, rfl, rfl⟩

theorem act_of_ok {action : Action α} {a : α} {s : Store} (done : action w.store = .ok a s) :
    act action w = .ok a { w with store := s } := by
  rw [act, done]

theorem act_of_error {action : Action α} {cause : Cause} {s : Store}
    (failed : action w.store = .error cause s) :
    act action w = .error (.ofCause cause) { w with store := s } := by
  rw [act, failed]

/-- **Two actions one after the other** are one action. -/
theorem act_bind (action : Action α) (next : α → Action β) :
    act (action >>= next) = act action >>= fun a => act (next a) := by
  funext w
  simp only [act, Bind.bind, EStateM.bind]
  cases action w.store <;> rfl

/-- What a run comes to, it ends with. -/
theorem ok_of_outcome {run : Run α} {a : α} (ended : run.outcome w = (.ok a, w')) :
    run w = .ok a w' := by
  unfold outcome at ended
  cases ran : run w with
  | ok b w₁ =>
    rw [ran] at ended
    cases ended
    rfl
  | error failure w₁ =>
    rw [ran] at ended
    cases ended

theorem error_of_outcome {run : Run α} {failure : Failure}
    (ended : run.outcome w = (.error failure, w')) : run w = .error failure w' := by
  unfold outcome at ended
  cases ran : run w with
  | ok b w₁ =>
    rw [ran] at ended
    cases ended
  | error failure' w₁ =>
    rw [ran] at ended
    cases ended
    rfl

theorem exists_of_outcome_ok {run : Run α} {a : α} (done : (run.outcome w).1 = .ok a) :
    ∃ w', run w = .ok a w' :=
  ⟨_, ok_of_outcome (Prod.ext done rfl)⟩

theorem exists_of_outcome_error {run : Run α} {failure : Failure}
    (failed : (run.outcome w).1 = .error failure) : ∃ w', run w = .error failure w' :=
  ⟨_, error_of_outcome (Prod.ext failed rfl)⟩

/-- What a run of two parts comes to, if the first one fails. -/
theorem outcome_bind_of_error {first : Run α} {failure : Failure}
    (failed : (first.outcome w).1 = .error failure) (next : α → Run β) :
    (first >>= next).outcome w = (.error failure, (first.outcome w).2) := by
  unfold outcome at *
  simp only [Bind.bind, EStateM.bind]
  cases ran : first w with
  | ok a w₁ =>
    rw [ran] at failed
    cases failed
  | error failure' w₁ =>
    rw [ran] at failed
    cases failed
    rfl

/-- What a run of two parts comes to, if the first one succeeds. -/
theorem outcome_bind_of_ok {first : Run α} {a : α}
    (done : (first.outcome w).1 = .ok a) (next : α → Run β) :
    (first >>= next).outcome w = (next a).outcome (first.outcome w).2 := by
  unfold outcome at *
  simp only [Bind.bind, EStateM.bind]
  cases ran : first w with
  | ok a' w₁ =>
    rw [ran] at done
    cases done
    rfl
  | error failure w₁ =>
    rw [ran] at done
    cases done

/-- What a run comes to after its result has been changed. -/
theorem outcome_map (f : α → β) (run : Run α) (w : World) :
    (f <$> run).outcome w = ((run.outcome w).1.map f, (run.outcome w).2) := by
  simp only [outcome, Functor.map, EStateM.map]
  cases run w <;> rfl

/-- What an action comes to, if it succeeds. -/
theorem outcome_act_of_ok {action : Action α} {a : α} {s : Store}
    (done : action w.store = .ok a s) :
    (act action).outcome w = (.ok a, { w with store := s }) := by
  rw [outcome, act_of_ok done]

/-- What an action comes to, if it fails: the cause, and the store that it has reached. -/
theorem outcome_act_of_error {action : Action α} {cause : Cause} {s : Store}
    (failed : action w.store = .error cause s) :
    (act action).outcome w = (.error (.ofCause cause), { w with store := s }) := by
  rw [outcome, act_of_error failed]

/-! ### Changes of diagnostics -/

/-- A diagnostic with a change was one without it. -/
theorem error_of_mapDiagnostic {change : Diagnostic → Diagnostic} {run : Run α} {d : Diagnostic}
    (ran : run.mapDiagnostic change w = .error (.diagnostic d) w') :
    ∃ d', run w = .error (.diagnostic d') w' ∧ d = change d' := by
  unfold mapDiagnostic at ran
  split at ran
  case h_1 => cases ran
  case h_2 d' w₁ done =>
    cases ran
    exact ⟨d', done, rfl⟩
  case h_3 other done =>
    cases ran
    exact absurd rfl (other d)

/-- A change of diagnostics goes through both parts of a run. -/
theorem mapDiagnostic_bind (change : Diagnostic → Diagnostic) (first : Run α) (next : α → Run β) :
    (first >>= next).mapDiagnostic change =
      first.mapDiagnostic change >>= fun a => (next a).mapDiagnostic change := by
  funext w
  simp only [mapDiagnostic, Bind.bind, EStateM.bind]
  cases first w with
  | ok a w₁ => rfl
  | error failure w₁ => cases failure <;> rfl

/-- Two changes of diagnostics are one. -/
theorem mapDiagnostic_mapDiagnostic (change change' : Diagnostic → Diagnostic) (run : Run α) :
    (run.mapDiagnostic change).mapDiagnostic change' =
      run.mapDiagnostic fun d => change' (change d) := by
  funext w
  unfold mapDiagnostic
  cases run w with
  | ok a w' => rfl
  | error failure w' => cases failure <;> rfl

/-- What a run comes to after its diagnostics have been changed. -/
theorem outcome_mapDiagnostic (change : Diagnostic → Diagnostic) (run : Run α) (w : World) :
    (run.mapDiagnostic change).outcome w =
      ((run.outcome w).1.mapError (·.amend change), (run.outcome w).2) := by
  unfold outcome mapDiagnostic
  cases run w with
  | ok a w' => rfl
  | error failure w' => cases failure <;> rfl

/-- What a run comes to after its diagnostics and its result have been changed. -/
theorem outcome_mapDiagnostic_bind (run : Run α) (w : World) (change : Diagnostic → Diagnostic)
    (result : α → β) :
    (run.mapDiagnostic change >>= fun a => pure (result a)).outcome w =
      (((run.outcome w).1.mapError (·.amend change)).map result, (run.outcome w).2) := by
  rw [← map_eq_pure_bind, outcome_map, outcome_mapDiagnostic]

end Run

/-! ### Calls -/

namespace Builtin

variable {name : String} {function : Builtin} {arguments : List Value} {w : World}

/-- A function that takes this many arguments goes on to what it does with them. -/
theorem call_of_accepts (accepts : function.arity.Accepts arguments.length) :
    function.call arguments w =
      if function = .print then printAll arguments w else Run.act (function.body arguments) w := by
  have checked : function.arity.check function.name arguments.length = .ok () := if_pos accepts
  have done : Run.act (Action.tryRead fun _ =>
      function.arity.check function.name arguments.length) w = .ok () w :=
    Run.act_of_ok (Action.tryRead_of_ok checked)
  unfold call
  rw [EStateM.bind_of_ok done]
  cases function <;> rfl

/-- A function that does not take this many arguments is not called. -/
theorem call_of_not_accepts (refused : ¬ function.arity.Accepts arguments.length) :
    function.call arguments w =
      .error (.ofCause (.wrongArgumentCount function.name function.arity arguments.length)) w := by
  have checked : function.arity.check function.name arguments.length = .error _ := if_neg refused
  exact EStateM.bind_of_error (Run.act_of_error (Action.tryRead_of_error checked)) _

/-- What a call comes to: what the function does with the arguments, if it takes that many. -/
theorem outcome_invoke (found : find? name = some function) (silent : function ≠ .print)
    (accepts : function.arity.Accepts arguments.length) :
    (invoke name arguments).outcome w = (Run.act (function.body arguments)).outcome w := by
  rw [Run.outcome, invoke, found]
  dsimp only
  rw [call_of_accepts accepts, if_neg silent]
  rfl

end Builtin

end CallConsole
