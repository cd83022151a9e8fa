/-
**Evaluating an expression again.**

What an expression comes to does not depend on the console that it is evaluated on, nor on the place
where it stands in its source. Wherever its evaluation succeeds, the result is a copy of one value:

* `Run.success_bind`: a run of two parts succeeds if both of them do;
* `Console.success_evaluate_move`: places only matter for failures;
* `Console.exists_specimen`: the value that all evaluations of an expression come to copies of;
* `Console.evaluate_again`: an evaluation that succeeds, succeeds in every store.
-/

import CallConsole.Proofs.Copies
import CallConsole.Proofs.EvaluationOrder
import CallConsole.Proofs.NodeSpans
import CallConsole.Proofs.SafeRuns

namespace CallConsole

/-! ### Runs that succeed -/

namespace Run

variable {α β : Type} {w w' : World}

/-- The result of a run and the world after it, if it succeeds. -/
def success (run : Run α) (w : World) : Option (α × World) :=
  match run w with
  | .ok a w' => some (a, w')
  | .error _ _ => none

theorem success_eq_some_iff {run : Run α} {a : α} :
    run.success w = some (a, w') ↔ run w = .ok a w' := by
  unfold success
  cases run w with
  | ok b w₁ => simp
  | error failure w₁ => simp

/-- **A run of two parts succeeds if both of them do.** -/
theorem success_bind (first : Run α) (next : α → Run β) (w : World) :
    (first >>= next).success w =
      (first.success w).bind fun done => (next done.1).success done.2 := by
  simp only [success, Bind.bind, EStateM.bind]
  cases first w <;> rfl

/-- Runs of two parts succeed alike if their parts do. -/
theorem success_bind_congr {first first' : Run α} {next next' : α → Run β}
    (same : ∀ w, first.success w = first'.success w)
    (others : ∀ a w, (next a).success w = (next' a).success w) (w : World) :
    (first >>= next).success w = (first' >>= next').success w := by
  rw [success_bind, success_bind, same]
  exact congrArg _ (funext fun done => others done.1 done.2)

/-- What is said about a failure is no matter of success. -/
theorem success_mapDiagnostic (change : Diagnostic → Diagnostic) (run : Run α) (w : World) :
    (run.mapDiagnostic change).success w = run.success w := by
  unfold success mapDiagnostic
  rcases run w with ⟨a, w₁⟩ | ⟨_ | _, w₁⟩ <;> rfl

end Run

/-! ### Places in the source -/

/-- The expression with all of its places taken away. -/
def Expression.placeless (e : Expression) : Expression := e.move fun _ => 0

namespace Console

open Expression

mutual

/-- **Where an expression stands does not matter** as long as its evaluation succeeds. -/
theorem success_evaluate_move (f : Nat → Nat) (e : Expression) (w : World) :
    (evaluate (e.move f)).success w = (evaluate e).success w := by
  cases e with
  | literal | name => rfl
  | call span function arguments =>
    rw [move, evaluate, evaluate]
    refine Run.success_bind_congr (success_evaluateAll_move f arguments) (fun vs w => ?_) w
    rw [Run.success_mapDiagnostic, Run.success_mapDiagnostic]
  | list span items =>
    rw [move, evaluate, evaluate]
    exact Run.success_bind_congr (success_evaluateAll_move f items) (fun _ _ => rfl) w
  | tuple span items =>
    rw [move, evaluate, evaluate]
    exact Run.success_bind_congr (success_evaluateAll_move f items) (fun _ _ => rfl) w
  | dict span entries =>
    rw [move, evaluate, evaluate]
    exact Run.success_bind_congr (success_evaluateEntries_move f Dict.empty entries)
      (fun _ _ => rfl) w
  | group span inner =>
    rw [move, evaluate, evaluate]
    exact success_evaluate_move f inner w

theorem success_evaluateAll_move (f : Nat → Nat) (es : List Expression) (w : World) :
    (evaluateAll (moveAll f es)).success w = (evaluateAll es).success w := by
  cases es with
  | nil => rfl
  | cons e rest =>
    rw [moveAll, evaluateAll, evaluateAll]
    refine Run.success_bind_congr (success_evaluate_move f e) (fun v => ?_) w
    exact Run.success_bind_congr (success_evaluateAll_move f rest) fun _ _ => rfl

theorem success_evaluateEntries_move (f : Nat → Nat) (d : Dict)
    (entries : List (Expression × Expression)) (w : World) :
    (evaluateEntries d (moveEntries f entries)).success w =
      (evaluateEntries d entries).success w := by
  match entries with
  | [] => rfl
  | (key, value) :: rest =>
    rw [moveEntries, evaluateEntries, evaluateEntries]
    refine Run.success_bind_congr (success_evaluate_move f key) (fun k => ?_) w
    refine Run.success_bind_congr (success_evaluate_move f value) fun v => ?_
    refine Run.success_bind_congr (fun _ => rfl) fun changed => ?_
    exact success_evaluateEntries_move f changed rest

end

variable {e e' : Expression} {w w' : World} {v : Value}

/-- **The same expression at another place** succeeds in the same way. -/
theorem evaluate_of_placeless (same : e'.placeless = e.placeless) (ran : evaluate e w = .ok v w') :
    evaluate e' w = .ok v w' := by
  rw [← Run.success_eq_some_iff] at ran ⊢
  rw [← success_evaluate_move (fun _ => 0)] at ran ⊢
  exact (congrArg (fun e => (evaluate e).success w) same).trans ran

/-! ### Other stores -/

/-- What is printed and what it comes to does not depend on the sink. -/
theorem evaluate_prints (e : Expression) :
    ∃ lines result made, Run.Prints (evaluate e) Store.empty lines result made := by
  obtain ⟨lines, ended, made, _, performed⟩ :=
    Visit.performAll_ends e.visits Progress.start Store.empty
  rw [perform_visits] at performed
  obtain ⟨result, _, prints⟩ := performed.of_map (fun p => p.values.headD (.null 0)) fun _ => rfl
  exact ⟨lines, result, made, prints⟩

/-- An evaluation that succeeds, succeeds without any objects, and its result is that one put above
the objects that are there. -/
theorem exists_below (ran : evaluate e w = .ok v w') :
    ∃ v₀ s₀, (evaluate e).outcome ⟨Store.empty, w.sink⟩ = (.ok v₀, ⟨s₀, w'.sink⟩) ∧
      v = v₀.above w.store ∧ w'.store = w.store.above s₀ := by
  have lifted := @evaluate_lifts w.store e Store.empty w.sink
  rw [Store.above_empty, Run.outcome, ran] at lifted
  cases below : (evaluate e).outcome ⟨Store.empty, w.sink⟩ with
  | mk result reached =>
    rw [below] at lifted
    cases result with
    | error failure => cases lifted
    | ok v₀ =>
      cases lifted
      exact ⟨v₀, reached.store, rfl, rfl, rfl⟩

/-- **An evaluation that succeeds, succeeds in every store**, and prints the same. -/
theorem evaluate_again (ran : evaluate e w = .ok v w') (s : Store) :
    ∃ v' s', evaluate e ⟨s, w.sink⟩ = .ok v' ⟨s', w'.sink⟩ := by
  obtain ⟨v₀, s₀, below, _, _⟩ := exists_below ran
  have lifted := @evaluate_lifts s e Store.empty w.sink
  rw [Store.above_empty, below] at lifted
  exact ⟨_, _, Run.ok_of_outcome lifted⟩

end Console

/-- **The expression comes to copies of the specimen**, at whatever place it stands and on whatever
console its evaluation succeeds. -/
def Specimen.Of (x : Specimen) (e : Expression) : Prop :=
  ∀ (e' : Expression) (w : World) (v : Value) (w' : World), e'.placeless = e.placeless →
    Console.evaluate e' w = .ok v w' →
      v = x.value.above w.store ∧ w'.store = w.store.above x.store

namespace Console

variable {e : Expression} {w w' : World} {v : Value}

/-- **There is such a value** for every expression whose evaluation succeeds somewhere. -/
theorem exists_specimen (ran : evaluate e w = .ok v w') : ∃ x : Specimen, x.Of e := by
  obtain ⟨lines, result, made, prints⟩ := evaluate_prints e
  -- whatever the sink is, a success is the one result that the lines lead to
  have only {sink : Sink} {v₀ : Value} {reached : World}
      (below : (evaluate e).outcome ⟨Store.empty, sink⟩ = (.ok v₀, reached)) :
      result = .ok v₀ ∧ reached.store = made := by
    have printed := prints sink
    split at printed
    · cases below.symm.trans printed
      exact ⟨rfl, rfl⟩
    · obtain ⟨_, refused⟩ := printed
      cases below.symm.trans refused
  obtain ⟨v₀, s₀, below, _, _⟩ := exists_below ran
  obtain ⟨rfl, rfl⟩ := only below
  have safe : Run.Safe Trait.proper ⟨Store.empty, w.sink⟩ (evaluate e) Trait.proper.has :=
    evaluate_safe e (Trait.Sound.empty _)
  rw [Run.Safe, Run.ok_of_outcome below] at safe
  refine ⟨⟨s₀, v₀, safe.1.sound, safe.2⟩, fun e' w₁ v₁ w₁' same ran₁ => ?_⟩
  obtain ⟨v₂, s₂, below₂, rfl, store⟩ := exists_below (evaluate_of_placeless same.symm ran₁)
  obtain ⟨value, rfl⟩ := only below₂
  cases value
  exact ⟨rfl, store⟩

end Console

namespace Store

/-- A store grows by what is put above it. -/
theorem grows_above (base s : Store) : base.Grows (base.above s) where
  lists place items there := by
    obtain ⟨inside, _⟩ := Array.getElem?_eq_some_iff.mp there
    rw [above, Array.getElem?_append_left inside, there]
  dicts place d there := by
    obtain ⟨inside, _⟩ := Array.getElem?_eq_some_iff.mp there
    rw [above, Array.getElem?_append_left inside, there]

end Store

/-- What an expression comes to is such a copy, in a store that has grown. -/
theorem Specimen.Of.copied {x : Specimen} {e e' : Expression} (of : x.Of e)
    (same : e'.placeless = e.placeless) {w w' : World} {v : Value}
    (ran : Console.evaluate e' w = .ok v w') : x.Copied w'.store v ∧ w.store.Grows w'.store := by
  obtain ⟨rfl, store⟩ := of e' w v w' same ran
  rw [store]
  exact ⟨⟨w.store, rfl, .refl _⟩, Store.grows_above w.store x.store⟩

end CallConsole
