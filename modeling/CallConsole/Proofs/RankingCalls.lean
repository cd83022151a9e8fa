/-
**The functions that rank values: `sorted`, `min` and `max`.**

Each of them takes the elements of a value, or several arguments, and then only compares them:

* `Action.extremum_eq_select`: the search for an extreme value is one for the first that no later
  one beats;
* `Builtin.sortedOf_eq`, `Builtin.extremumOf_eq`, `Builtin.extremumOf_several`: what the functions
  do with the elements;
* `Builtin.outcome_sorted`, `Builtin.outcome_min`, `Builtin.outcome_max`: a call by name does that.
-/

import CallConsole.Proofs.ComparisonsMade
import CallConsole.Proofs.Frames

namespace CallConsole

/-- The value compares with the best one so far as it is wanted. -/
def Store.beats (s : Store) (wanted : Ordering) (v best : Value) : Except Cause Bool :=
  (s.compare v best).map (· == wanted)

/-- **An extreme value is the first that no later one beats.** The search leaves the store as it
is. -/
theorem Action.extremum_eq_select (s : Store) (wanted : Ordering) (best : Value)
    (rest : List Value) : Action.extremum wanted best rest s =
      Action.tryRead (fun s => Sorting.select (s.beats wanted) best rest) s := by
  induction rest generalizing best with
  | nil => rfl
  | cons v rest ih =>
    rw [Action.tryRead, Sorting.select, Store.beats]
    cases compared : s.compare v best with
    | error cause => exact EStateM.bind_of_error (tryRead_of_error compared) _
    | ok o =>
      rw [Action.extremum, EStateM.bind_of_ok (tryRead_of_ok compared)]
      by_cases better : o = wanted
      · subst better
        simp only [Except.map, ↓reduceIte, beq_self_eq_true]
        exact ih v
      · simp only [Except.map, better, ↓reduceIte, beq_eq_false_iff_ne.mpr better]
        exact ih best

namespace Builtin

variable {s s' : Store} {v : Value} {items : List Value}

/-! ### What the functions do -/

/-- **`sorted` makes a list of the sorted elements.** The flag is read before they are taken. -/
theorem sortedOf_eq (taken : Action.elements v s = .ok items s') (flag : Option Value) :
    sortedOf v flag s =
      (Action.tryRead (·.sort (flag.any s.truthy) items) >>= Action.list) s' := by
  have expected := Action.expectIterable_of_elements taken "sorted"
  have asked : Action.read (fun s => flag.any s.truthy) s = .ok (flag.any s.truthy) s := rfl
  rw [sortedOf, EStateM.bind_of_ok expected, EStateM.bind_of_ok asked, EStateM.bind_of_ok taken]

/-- **`min` and `max` of one argument search its elements.** -/
theorem extremumOf_eq (function : String) (wanted : Ordering)
    (taken : Action.elements v s = .ok items s') :
    extremumOf function wanted [v] s = extremumAmong function wanted items s' :=
  EStateM.bind_of_ok taken _

/-- **`min` and `max` of several arguments search the arguments.** -/
theorem extremumOf_several (function : String) (wanted : Ordering) (many : 2 ≤ items.length) :
    extremumOf function wanted items s = extremumAmong function wanted items s := by
  match items with
  | _ :: _ :: _ => rfl

theorem outcome_sorted (w : World) (v : Value) (flag : Option Value) :
    (invoke "sorted" (v :: flag.toList)).outcome w = (Run.act (sortedOf v flag)).outcome w := by
  have found : find? "sorted" = some .sorted := rfl
  cases flag with
  | none => exact outcome_invoke found nofun ⟨Nat.le_refl 1, Nat.le_succ 1⟩
  | some descending => exact outcome_invoke found nofun ⟨Nat.le_succ 1, Nat.le_refl 2⟩

theorem outcome_min (w : World) {arguments : List Value} (nonempty : arguments ≠ []) :
    (invoke "min" arguments).outcome w = (Run.act (extremumOf "min" .lt arguments)).outcome w :=
  have found : find? "min" = some .min := rfl
  outcome_invoke found nofun (List.length_pos_of_ne_nil nonempty)

theorem outcome_max (w : World) {arguments : List Value} (nonempty : arguments ≠ []) :
    (invoke "max" arguments).outcome w = (Run.act (extremumOf "max" .gt arguments)).outcome w :=
  have found : find? "max" = some .max := rfl
  outcome_invoke found nofun (List.length_pos_of_ne_nil nonempty)

end Builtin

end CallConsole
