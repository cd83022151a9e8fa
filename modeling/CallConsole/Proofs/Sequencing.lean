/-
**Two operations, one after the other.**

An operation that may fail leaves a state behind either way. Of two of them, the second one goes on
from the state that the first one has led to, unless the first one has failed:

* `exists_of_bind_ok`, `error_of_bind`: how two operations can end;
* `bind_of_ok`, `bind_of_error`: how they go on after the first one;
* `map_of_ok`, `exists_of_map_ok`: what a change of the result makes of it.
-/

namespace CallConsole

namespace EStateM

variable {ε σ α β : Type} {s s' : σ}

/-- Two operations succeed in both of them. -/
theorem exists_of_bind_ok {first : EStateM ε σ α} {next : α → EStateM ε σ β} {b : β}
    (ran : (first >>= next) s = .ok b s') :
    ∃ a between, first s = .ok a between ∧ next a between = .ok b s' := by
  simp only [Bind.bind, EStateM.bind] at ran
  split at ran
  case h_1 a between done => exact ⟨a, between, done, ran⟩
  case h_2 => cases ran

/-- Two operations fail in the first one, or in the second one after it. -/
theorem error_of_bind {first : EStateM ε σ α} {next : α → EStateM ε σ β} {failure : ε}
    (ran : (first >>= next) s = .error failure s') :
    first s = .error failure s' ∨
      ∃ a between, first s = .ok a between ∧ next a between = .error failure s' := by
  simp only [Bind.bind, EStateM.bind] at ran
  split at ran
  case h_1 a between done => exact .inr ⟨a, between, done, ran⟩
  case h_2 failure' between failed =>
    cases ran
    exact .inl failed

/-- Two operations go on with the second one. -/
theorem bind_of_ok {first : EStateM ε σ α} {a : α} (done : first s = .ok a s')
    (next : α → EStateM ε σ β) : (first >>= next) s = next a s' := by
  simp only [Bind.bind, EStateM.bind, done]

/-- Two operations end where the first one fails. -/
theorem bind_of_error {first : EStateM ε σ α} {failure : ε} (failed : first s = .error failure s')
    (next : α → EStateM ε σ β) : (first >>= next) s = .error failure s' := by
  simp only [Bind.bind, EStateM.bind, failed]

theorem map_of_ok {action : EStateM ε σ α} {a : α} (done : action s = .ok a s') (f : α → β) :
    (f <$> action) s = .ok (f a) s' := by
  simp only [Functor.map, EStateM.map, done]

theorem map_of_error {action : EStateM ε σ α} {failure : ε} (failed : action s = .error failure s')
    (f : α → β) : (f <$> action) s = .error failure s' := by
  simp only [Functor.map, EStateM.map, failed]

/-- The change of a result does not come to a failure. -/
theorem error_of_map {action : EStateM ε σ α} {f : α → β} {failure : ε}
    (ran : (f <$> action) s = .error failure s') : action s = .error failure s' := by
  simp only [Functor.map, EStateM.map] at ran
  split at ran <;> cases ran
  assumption

/-- A changed result is that of an operation that has succeeded. -/
theorem exists_of_map_ok {action : EStateM ε σ α} {f : α → β} {b : β}
    (ran : (f <$> action) s = .ok b s') : ∃ a, action s = .ok a s' ∧ f a = b := by
  simp only [Functor.map, EStateM.map] at ran
  split at ran <;> cases ran
  exact ⟨_, ‹_›, rfl⟩

end EStateM

end CallConsole
