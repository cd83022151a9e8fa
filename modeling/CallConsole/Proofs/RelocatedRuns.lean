/-
**Evaluation above other objects.**

What a console holds already makes no difference to an evaluation: its result and all that it makes
are those of an evaluation on an empty console, put above the objects that are there.

* `Run.Lifts.bind`, `Run.lifts_act`, … : lifted runs are put together from lifted runs;
* `Builtin.invoke_lifts`: calls do the same above;
* `Console.evaluate_lifts`: so does the evaluation of an expression.
-/

import CallConsole.Proofs.RelocatedActions
import CallConsole.Proofs.Runs

namespace CallConsole

/-! ### Runs put together -/

namespace Run

variable {α β γ δ : Type} {base : Store}

/-- **Above the objects of a store, the one run does what the other does**, with its result moved
there. -/
def Lifts (base : Store) (move : α → β) (run : Run α) (upper : Run β) : Prop :=
  ∀ (s : Store) (sink : Sink), upper.outcome ⟨base.above s, sink⟩ =
    ((run.outcome ⟨s, sink⟩).1.map move,
      ⟨base.above (run.outcome ⟨s, sink⟩).2.store, (run.outcome ⟨s, sink⟩).2.sink⟩)

theorem lifts_pure (move : α → β) (a : α) : Lifts base move (pure a) (pure (move a)) :=
  fun _ _ => rfl

theorem lifts_fail (move : α → β) (d : Diagnostic) : Lifts base move (fail d) (fail d) :=
  fun _ _ => rfl

theorem lifts_act {move : α → β} {action : Action α} {upper : Action β}
    (lifts : action.Lifts base move upper) : Lifts base move (act action) (act upper) := by
  intro s sink
  unfold outcome act
  rw [lifts s]
  cases action s <;> rfl

theorem lifts_print (line : List Char) : Lifts base id (print line) (print line) := by
  intro s sink
  unfold outcome print
  dsimp only
  cases sink.print line with
  | mk taken printed => cases taken <;> rfl

theorem Lifts.bind {first : Run α} {first' : Run β} {next : α → Run γ} {next' : β → Run δ}
    {move : α → β} {move' : γ → δ} (lifts : Lifts base move first first')
    (others : ∀ a, Lifts base move' (next a) (next' (move a))) :
    Lifts base move' (first >>= next) (first' >>= next') := by
  intro s sink
  have led := lifts s sink
  cases ended : (first.outcome ⟨s, sink⟩).1 with
  | ok a =>
    rw [ended] at led
    rw [outcome_bind_of_ok (congrArg Prod.fst led), outcome_bind_of_ok ended, led]
    exact others a _ _
  | error failure =>
    rw [ended] at led
    rw [outcome_bind_of_error (congrArg Prod.fst led), outcome_bind_of_error ended, led]
    rfl

theorem Lifts.mapDiagnostic {move : α → β} {run : Run α} {upper : Run β}
    (lifts : Lifts base move run upper) (change : Diagnostic → Diagnostic) :
    Lifts base move (run.mapDiagnostic change) (upper.mapDiagnostic change) := by
  intro s sink
  rw [outcome_mapDiagnostic, outcome_mapDiagnostic, lifts s sink]
  cases (run.outcome ⟨s, sink⟩).1 <;> rfl

end Run

/-! ### Calls and expressions -/

namespace Builtin

variable {base : Store}

theorem printAll_lifts (arguments : List Value) :
    Run.Lifts base (Value.above base) (printAll arguments)
      (printAll (arguments.map (Value.above base))) := by
  have line : Action.Lifts base id (Action.read (printedLine · arguments))
      (Action.read (printedLine · (arguments.map (Value.above base)))) := by
    refine Action.lifts_read fun s => ?_
    rw [printedLine, List.map_map]
    exact congrArg (spaced · ++ ['\n']) (List.map_congr_left fun v _ => base.str_above s v)
  refine (Run.lifts_act line).bind fun line => (Run.lifts_print line).bind fun _ => ?_
  exact Run.lifts_act Action.lifts_null

/-- **A call does above what it does below.** -/
theorem invoke_lifts (name : String) (arguments : List Value) :
    Run.Lifts base (Value.above base) (invoke name arguments)
      (invoke name (arguments.map (Value.above base))) := by
  unfold invoke
  split
  case h_2 => exact Run.lifts_act (Action.lifts_fail _ _)
  case h_1 function found =>
    refine (Run.lifts_act (check_lifts function arguments)).bind fun _ => ?_
    cases function with
    | print => exact printAll_lifts arguments
    | _ => exact Run.lifts_act (body_lifts _ arguments)

end Builtin

namespace Console

variable {base : Store}

mutual

/-- **An expression is evaluated above other objects as it is without them.** -/
theorem evaluate_lifts (e : Expression) :
    Run.Lifts base (Value.above base) (evaluate e) (evaluate e) := by
  cases e with
  | literal span value =>
    rw [evaluate]
    cases value with
    | null => exact Run.lifts_act Action.lifts_null
    | bool b => exact Run.lifts_act (Action.lifts_bool b)
    | int n => exact Run.lifts_act (Action.lifts_int n)
    | float x => exact Run.lifts_act (Action.lifts_float x)
    | str text => exact Run.lifts_act (Action.lifts_str text)
  | name span name =>
    rw [evaluate]
    exact Run.lifts_fail _ _
  | call span function arguments =>
    rw [evaluate]
    exact (evaluateAll_lifts arguments).bind fun vs =>
      (Builtin.invoke_lifts function vs).mapDiagnostic _
  | list span items =>
    rw [evaluate]
    exact (evaluateAll_lifts items).bind fun vs => Run.lifts_act (Action.lifts_list vs)
  | tuple span items =>
    rw [evaluate]
    exact (evaluateAll_lifts items).bind fun vs => Run.lifts_act (Action.lifts_tuple vs)
  | dict span entries =>
    rw [evaluate]
    exact (evaluateEntries_lifts Dict.empty entries).bind fun d =>
      Run.lifts_act (Action.lifts_dict d)
  | group span inner =>
    rw [evaluate]
    exact evaluate_lifts inner

theorem evaluateAll_lifts (es : List Expression) :
    Run.Lifts base (List.map (Value.above base)) (evaluateAll es) (evaluateAll es) := by
  cases es with
  | nil =>
    rw [evaluateAll]
    exact Run.lifts_pure _ []
  | cons e rest =>
    rw [evaluateAll]
    exact (evaluate_lifts e).bind fun v => (evaluateAll_lifts rest).bind fun vs =>
      Run.lifts_pure _ (v :: vs)

theorem evaluateEntries_lifts (d : Dict) (entries : List (Expression × Expression)) :
    Run.Lifts base (Dict.above base) (evaluateEntries d entries)
      (evaluateEntries (d.above base) entries) := by
  cases entries with
  | nil =>
    rw [evaluateEntries, evaluateEntries]
    exact Run.lifts_pure _ d
  | cons entry rest =>
    obtain ⟨key, value⟩ := entry
    rw [evaluateEntries, evaluateEntries]
    refine (evaluate_lifts key).bind fun k => (evaluate_lifts value).bind fun v => ?_
    exact (Run.lifts_act (Action.lifts_insertInto d k v)).bind fun changed =>
      evaluateEntries_lifts changed rest

end

end Console

end CallConsole
