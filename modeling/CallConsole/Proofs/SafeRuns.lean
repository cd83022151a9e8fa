/-
**Evaluation is safe.**

A run is safe for a trait if it leaves, whether it succeeds or fails, a store that has grown and
holds values with the trait, and if its result is as described. What is printed does not matter:

* `Builtin.invoke_safe`: every call of a function is safe;
* `Console.evaluate_safe`, `Console.evalSource_safe`: so is the evaluation of every expression and
  of every source;
* `Operand.make_safe`: so is the making of an operand of a program.
-/

import CallConsole.Program
import CallConsole.Proofs.SafeBuiltins

namespace CallConsole

open Store

namespace Run

variable {α β : Type} {trait : Trait} {w : World}

/-- **From the world, the run leads only to stores that have grown** and hold values with
the trait, with a result as described if there is one. -/
def Safe (trait : Trait) (w : World) (run : Run α) (holds : Store → α → Prop) : Prop :=
  match run w with
  | .ok a w' => trait.Growth w.store w'.store ∧ holds w'.store a
  | .error _ w' => trait.Growth w.store w'.store

theorem safe_pure (sound : trait.Sound w.store) {holds : Store → α → Prop} {a : α}
    (result : holds w.store a) : Safe trait w (pure a) holds := ⟨.refl sound, result⟩

theorem safe_fail (sound : trait.Sound w.store) (d : Diagnostic) {holds : Store → α → Prop} :
    Safe trait w (fail d) holds := Trait.Growth.refl sound

/-- **What comes next starts from where the first run led.** -/
theorem Safe.bind {first : Run α} {next : α → Run β} {holds : Store → α → Prop}
    {result : Store → β → Prop} (safe : Safe trait w first holds)
    (others : ∀ a w', trait.Growth w.store w'.store → holds w'.store a →
      Safe trait w' (next a) result) :
    Safe trait w (first >>= next) result := by
  unfold Safe at safe ⊢
  simp only [Bind.bind, EStateM.bind]
  cases ran : first w with
  | error failure w' =>
    rw [ran] at safe
    exact safe
  | ok a w' =>
    rw [ran] at safe
    obtain ⟨growth, held⟩ := safe
    have done := others a w' growth held
    unfold Safe at done
    simp only
    cases ran' : next a w' with
    | error failure w'' =>
      rw [ran'] at done
      exact growth.trans done
    | ok b w'' =>
      rw [ran'] at done
      exact ⟨growth.trans done.1, done.2⟩

theorem Safe.map {run : Run α} {holds : Store → α → Prop} {result : Store → β → Prop} {f : α → β}
    (safe : Safe trait w run holds) (changed : ∀ s a, holds s a → result s (f a)) :
    Safe trait w (f <$> run) result := by
  unfold Safe at safe ⊢
  simp only [Functor.map, EStateM.map]
  cases ran : run w with
  | error failure w' =>
    rw [ran] at safe
    exact safe
  | ok a w' =>
    rw [ran] at safe
    exact ⟨safe.1, changed _ a safe.2⟩

/-- An action that is safe in the store is safe in the world. -/
theorem safe_act {action : Action α} {holds : Store → α → Prop}
    (safe : Action.Safe trait w.store action holds) : Safe trait w (act action) holds := by
  unfold Safe act
  cases ran : action w.store with
  | error cause s => exact safe.error ran
  | ok a s => exact safe.ok ran

theorem safe_print (sound : trait.Sound w.store) (line : List Char) :
    Safe trait w (print line) Action.anything := by
  unfold Safe print
  split
  case h_1 a w' ran =>
    split at ran <;> cases ran
    exact ⟨.refl sound, trivial⟩
  case h_2 failure w' ran =>
    split at ran <;> cases ran
    exact Trait.Growth.refl sound

theorem Safe.mapDiagnostic {run : Run α} {holds : Store → α → Prop} (safe : Safe trait w run holds)
    (change : Diagnostic → Diagnostic) : Safe trait w (run.mapDiagnostic change) holds := by
  unfold Safe Run.mapDiagnostic at *
  cases ran : run w with
  | ok a w' =>
    rw [ran] at safe
    exact safe
  | error failure w' =>
    rw [ran] at safe
    cases failure <;> exact safe

theorem Safe.quietly {run : Run α} {holds : Store → α → Prop}
    (safe : Safe trait { w with sink := Sink.empty } run holds) :
    Safe trait w (Operand.quietly run) holds := by
  unfold Safe Operand.quietly at *
  cases ran : run { w with sink := Sink.empty } with
  | ok a w' =>
    rw [ran] at safe
    exact safe
  | error failure w' =>
    rw [ran] at safe
    exact safe

end Run

open Run

/-! ### Calls -/

namespace Builtin

variable {trait : Trait} {w : World}

theorem printAll_safe (sound : trait.Sound w.store) (arguments : List Value) :
    Safe trait w (printAll arguments) trait.has := by
  refine (safe_act (Action.safe_ask sound _)).bind fun line w₁ growth _ => ?_
  refine (safe_print growth.sound line).bind fun _ w₂ growth₂ _ => ?_
  exact safe_act (Action.safe_null growth₂.sound)

/-- **A call of a function is safe** if its arguments have the trait. -/
theorem call_safe (sound : trait.Sound w.store) (function : Builtin) {arguments : List Value}
    (all : trait.All w.store arguments) : Safe trait w (function.call arguments) trait.has := by
  refine (safe_act (Action.safe_tryAsk sound _)).bind fun _ w₁ growth _ => ?_
  split
  · exact printAll_safe growth.sound arguments
  · exact safe_act (body_safe growth.sound function (all.lasts growth.extends))

theorem invoke_safe (sound : trait.Sound w.store) (name : String) {arguments : List Value}
    (all : trait.All w.store arguments) : Safe trait w (invoke name arguments) trait.has := by
  unfold invoke
  split
  · exact call_safe sound _ all
  · exact safe_act (Action.safe_fail sound _)

end Builtin

/-! ### Expressions -/

namespace Console

variable {trait : Trait} {w : World}

theorem create_safe (sound : trait.Sound w.store) (value : Literal) :
    Safe trait w (Run.act value.create) trait.has := by
  refine safe_act ?_
  cases value with
  | null => exact Action.safe_null sound
  | bool b => exact Action.safe_bool sound b
  | int n => exact Action.safe_int sound n
  | float x => exact Action.safe_float sound x
  | str text => exact Action.safe_str sound text

mutual

/-- **The evaluation of an expression is safe.** -/
theorem evaluate_safe {w : World} (e : Expression) (sound : trait.Sound w.store) :
    Safe trait w (evaluate e) trait.has := by
  cases e with
  | literal span value => exact create_safe sound value
  | name span name => exact safe_fail sound _
  | call span function arguments =>
    refine (evaluateAll_safe arguments sound).bind fun values w' growth all => ?_
    exact (Builtin.invoke_safe growth.sound function all).mapDiagnostic _
  | list span items =>
    refine (evaluateAll_safe items sound).bind fun values w' growth all => ?_
    exact safe_act (Action.safe_list growth.sound all)
  | tuple span items =>
    refine (evaluateAll_safe items sound).bind fun values w' growth all => ?_
    exact safe_act (Action.safe_tuple growth.sound all)
  | dict span entries =>
    refine (evaluateEntries_safe entries sound (trait.ofDict_empty _)).bind ?_
    exact fun d w' growth held => safe_act (Action.safe_dict growth.sound held)
  | group span inner => exact evaluate_safe inner sound

theorem evaluateAll_safe {w : World} (es : List Expression) (sound : trait.Sound w.store) :
    Safe trait w (evaluateAll es) trait.All := by
  cases es with
  | nil => exact safe_pure sound (trait.all_nil _)
  | cons e rest =>
    refine (evaluate_safe e sound).bind fun v w₁ growth has => ?_
    refine (evaluateAll_safe rest growth.sound).bind fun vs w₂ growth₂ all => ?_
    exact safe_pure growth₂.sound (List.forall_mem_cons.mpr ⟨trait.lasts has growth₂.extends, all⟩)

theorem evaluateEntries_safe {w : World} {d : Dict} (pairs : List (Expression × Expression))
    (sound : trait.Sound w.store) (held : trait.OfDict w.store d) :
    Safe trait w (evaluateEntries d pairs) trait.OfDict := by
  match pairs with
  | [] => exact safe_pure sound held
  | (key, value) :: rest =>
    refine (evaluate_safe key sound).bind fun k w₁ growth₁ key => ?_
    refine (evaluate_safe value growth₁.sound).bind fun v w₂ growth₂ value => ?_
    have held := held.lasts (growth₁.trans growth₂).extends
    have inserted := Action.safe_insertInto growth₂.sound held
      (trait.lasts key growth₂.extends) value
    exact (safe_act inserted).bind fun changed w₃ growth₃ held =>
      evaluateEntries_safe rest growth₃.sound held

end

/-- **The evaluation of a source is safe.** -/
theorem evalSource_safe (sound : trait.Sound w.store) (source : List Char) :
    Safe trait w (evalSource source) trait.has := by
  unfold evalSource
  split
  · exact safe_fail sound _
  · exact evaluate_safe _ sound

end Console

/-! ### Operands -/

/-- The values that are bound have the trait. -/
def Trait.OfBindings (trait : Trait) (s : Store) (bindings : List (String × Value)) : Prop :=
  ∀ p ∈ bindings, trait.has s p.2

theorem Trait.OfBindings.lasts {trait : Trait} {s s' : Store} {bindings : List (String × Value)}
    (bound : trait.OfBindings s bindings) (more : s.Extends s') : trait.OfBindings s' bindings :=
  fun p member => trait.lasts (bound p member) more

namespace Operand

variable {trait : Trait} {bindings : List (String × Value)}

/-- A name is bound only to what the table holds for it. -/
theorem mem_of_lookup {α : Type} {name : String} {table : List (String × α)} {a : α}
    (found : Machine.lookup name table = some a) : (name, a) ∈ table := by
  obtain ⟨p, there, rfl⟩ := Option.map_eq_some_iff.mp found
  have same := List.find?_some there
  have member := List.mem_of_find?_eq_some there
  rwa [← of_decide_eq_true same]

mutual

/-- **The making of an operand is safe.** -/
theorem make_safe {w : World} (term : Operand) (sound : trait.Sound w.store)
    (bound : trait.OfBindings w.store bindings) : Safe trait w (make bindings term) trait.has := by
  match term with
  | .null => exact safe_act (Action.safe_null sound)
  | .bool b => exact safe_act (Action.safe_bool sound b)
  | .int n => exact safe_act (Action.safe_int sound n)
  | .float x => exact safe_act (Action.safe_float sound x)
  | .str text => exact safe_act (Action.safe_str sound text)
  | .list items =>
    refine (makeAll_safe items sound bound).bind fun values w' growth all => ?_
    exact safe_act (Action.safe_list growth.sound all)
  | .tuple items =>
    refine (makeAll_safe items sound bound).bind fun values w' growth all => ?_
    exact safe_act (Action.safe_tuple growth.sound all)
  | .dict entries =>
    refine (makeEntries_safe entries sound bound (trait.ofDict_empty _)).bind ?_
    exact fun d w' growth held => safe_act (Action.safe_dict growth.sound held)
  | .call function arguments =>
    refine (makeAll_safe arguments sound bound).bind fun values w' growth all => ?_
    exact (Builtin.invoke_safe (w := { w' with sink := Sink.empty }) growth.sound function
      all).quietly
  | .source text =>
    exact (Console.evalSource_safe (w := { w with sink := Sink.empty }) sound text).quietly
  | .variable name =>
    rw [make]
    split
    case h_1 v found => exact safe_pure sound (bound _ (mem_of_lookup found))
    case h_2 => exact safe_act (Action.safe_fail sound _)

theorem makeAll_safe {w : World} (terms : List Operand) (sound : trait.Sound w.store)
    (bound : trait.OfBindings w.store bindings) :
    Safe trait w (makeAll bindings terms) trait.All := by
  cases terms with
  | nil => exact safe_pure sound (trait.all_nil _)
  | cons term rest =>
    refine (make_safe term sound bound).bind fun v w₁ growth has => ?_
    refine (makeAll_safe rest growth.sound (bound.lasts growth.extends)).bind ?_
    intro vs w₂ growth₂ all
    exact safe_pure growth₂.sound (List.forall_mem_cons.mpr ⟨trait.lasts has growth₂.extends, all⟩)

theorem makeEntries_safe {w : World} {d : Dict} (pairs : List (Operand × Operand))
    (sound : trait.Sound w.store) (bound : trait.OfBindings w.store bindings)
    (held : trait.OfDict w.store d) : Safe trait w (makeEntries bindings d pairs) trait.OfDict := by
  match pairs with
  | [] => exact safe_pure sound held
  | (key, value) :: rest =>
    refine (make_safe key sound bound).bind fun k w₁ growth₁ key => ?_
    refine (make_safe value growth₁.sound (bound.lasts growth₁.extends)).bind ?_
    intro v w₂ growth₂ value
    have growth := growth₁.trans growth₂
    have inserted := Action.safe_insertInto growth₂.sound (held.lasts growth.extends)
      (trait.lasts key growth₂.extends) value
    refine (safe_act inserted).bind fun changed w₃ growth₃ held => ?_
    exact makeEntries_safe rest growth₃.sound (bound.lasts (growth.trans growth₃).extends) held

end

end Operand

end CallConsole
