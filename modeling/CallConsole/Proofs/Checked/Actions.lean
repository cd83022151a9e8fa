/-
**Actions in machine operations.**

An action of a machine reads and changes the store as one of the library does, and may go wrong on
the way. `Mirrors` says that it does not, and does what the library does; there is one rule for
each way to put actions together.

* `Mirrors.bind`: two actions one after the other;
* `fold_mirrors`: taking the elements of a value one by one, with an invariant of the steps left;
* `elements_bind`, `foldElements_mirrors`, `anyElement_mirrors`: traversals from their start.
-/

import CallConsole.Builtin.Argument
import CallConsole.Proofs.Checked.Cursors
import CallConsole.Proofs.Sequencing

namespace CallConsole

namespace Action

variable {α β : Type} {s s' : Store}

theorem length_of_mapM {f : α → Action β} {as : List α} {bs : List β}
    (ran : as.mapM f s = .ok bs s') : bs.length = as.length := by
  induction as generalizing bs s with
  | nil =>
    cases ran
    rfl
  | cons a rest ih =>
    rw [List.mapM_cons] at ran
    obtain ⟨b, s₁, _, ran⟩ := EStateM.exists_of_bind_ok ran
    obtain ⟨others, s₂, done, ran⟩ := EStateM.exists_of_bind_ok ran
    cases ran
    exact congrArg (· + 1) (ih done)

end Action

/-- An operation of a machine on the store that may fail, and may go wrong. There is a store after
a failure. -/
def CheckedAction (α : Type) : Type := Store → Checked (EStateM.Result Cause Store α)

/-- Where nothing has gone wrong, what comes next starts from the store that was reached. -/
instance : Monad CheckedAction where
  pure a s := .ok (.ok a s)
  bind first next s := do
    match ← first s with
    | .ok a s' => next a s'
    | .error cause s' => .ok (.error cause s')

namespace CheckedAction

variable {α β : Type} {s : Store}

/-- An action of the library in which there is nothing to go wrong. -/
def plain (action : Action α) : CheckedAction α := fun s => .ok (action s)

/-- Computes something from the store. -/
def read (f : Store → Checked α) : CheckedAction α := fun s => (f s).map (.ok · s)

/-- Computes something from the store, or fails. -/
def tryRead (f : Store → Checked (Except Cause α)) : CheckedAction α := fun s =>
  (f s).map fun
    | .ok a => .ok a s
    | .error cause => .error cause s

/-- **The action does not go wrong in a store, and does there what an action of the library
does.** -/
def Mirrors (checked : CheckedAction α) (action : Action α) (s : Store) : Prop :=
  checked s = .ok (action s)

/-! ### Rules -/

section Rules

variable {checked : CheckedAction α} {action : Action α} {next : α → CheckedAction β}
  {next' : α → Action β}

/-- What follows a result goes on from it. -/
theorem bind_ok {a : α} {s' : Store} (ran : checked s = .ok (.ok a s')) :
    (checked >>= next) s = next a s' := by
  simp only [Bind.bind, Except.bind, ran]

/-- Nothing follows a failure. -/
theorem bind_error {cause : Cause} {s' : Store} (failed : checked s = .ok (.error cause s')) :
    (checked >>= next) s = .ok (.error cause s') := by
  simp only [Bind.bind, Except.bind, failed]

theorem Mirrors.plain (action : Action α) (s : Store) : Mirrors (plain action) action s := rfl

/-- **One action after another.** -/
theorem Mirrors.bind (first : Mirrors checked action s)
    (rest : ∀ a s', action s = .ok a s' → Mirrors (next a) (next' a) s') :
    Mirrors (checked >>= next) (action >>= next') s := by
  unfold Mirrors at first ⊢
  cases done : action s with
  | error cause s' =>
    rw [bind_error (first.trans (congrArg Except.ok done)), EStateM.bind_of_error done]
  | ok a s' =>
    rw [bind_ok (first.trans (congrArg Except.ok done)), rest a s' done, EStateM.bind_of_ok done]

theorem Mirrors.read {f : Store → Checked α} {f' : Store → α} (same : f s = .ok (f' s)) :
    Mirrors (CheckedAction.read f) (Action.read f') s := by
  rw [Mirrors, CheckedAction.read, same]
  rfl

theorem Mirrors.tryRead {f : Store → Checked (Except Cause α)} {f' : Store → Except Cause α}
    (same : f s = .ok (f' s)) : Mirrors (CheckedAction.tryRead f) (Action.tryRead f') s := by
  rw [Mirrors, CheckedAction.tryRead, Action.tryRead, same]
  cases f' s <;> rfl

/-- Something is computed first. -/
theorem Mirrors.compute {f : Store → Checked α} {a : α} {action : Action β} (found : f s = .ok a)
    (rest : Mirrors (next a) action s) : Mirrors (CheckedAction.read f >>= next) action s := by
  have ran : CheckedAction.read f s = .ok (.ok a s) := by
    rw [CheckedAction.read, found]
    rfl
  rw [Mirrors, bind_ok ran]
  exact rest

/-- Reading leaves the store as it is. -/
theorem Mirrors.read_bind {f : Store → Checked α} {f' : Store → α} (same : f s = .ok (f' s))
    (rest : Mirrors (next (f' s)) (next' (f' s)) s) :
    Mirrors (CheckedAction.read f >>= next) (Action.read f' >>= next') s :=
  (Mirrors.read same).bind fun a s' done => by
    cases done
    exact rest

theorem Mirrors.tryRead_bind {f : Store → Checked (Except Cause α)} {f' : Store → Except Cause α}
    (same : f s = .ok (f' s)) (rest : ∀ a, f' s = .ok a → Mirrors (next a) (next' a) s) :
    Mirrors (CheckedAction.tryRead f >>= next) (Action.tryRead f' >>= next') s :=
  (Mirrors.tryRead same).bind fun a s' done => by
    obtain ⟨found, rfl⟩ := Action.ok_of_tryRead done
    exact rest a found

/-- A check of an iterable argument leaves the store as it is. -/
theorem Mirrors.expectIterable_bind {function : String} {v : Value} {next : Unit → CheckedAction β}
    {next' : Unit → Action β} (rest : Mirrors (next ()) (next' ()) s) :
    Mirrors (CheckedAction.plain (Action.expectIterable function v) >>= next)
      (Action.expectIterable function v >>= next') s := by
  refine (Mirrors.plain _ s).bind fun a s' done => ?_
  unfold Action.expectIterable at done
  split at done <;> cases done
  exact rest

end Rules

/-! ### Traversals -/

/-- A traversal of a value from its start. -/
def start (v : Value) : CheckedAction Counter := tryRead (Counter.start · v)

/-- All elements of a value, as objects. -/
def elements (v : Value) : CheckedAction (List Value) := do
  let counter ← start v
  let items ← read fun s => counter.drain s (counter.cursor.remaining s)
  plain (Action.make (Item.createAll · items))

/-- Takes items one by one into an accumulator, in so many steps and one that finds the end. -/
def fold (s : Store) (step : α → Item → CheckedAction α) :
    Nat → Counter → α → CheckedAction α
  | 0, counter, total => do
    match ← read fun _ => counter.next s with
    | (none, _) => pure total
    | (some _, _) => read fun _ => .error .unfinished
  | count + 1, counter, total => do
    match ← read fun _ => counter.next s with
    | (none, _) => pure total
    | (some item, moved) => step total item >>= fold s step count moved

/-- Takes the elements of a value one by one into an accumulator; the first failure ends it. -/
def foldElements (v : Value) (step : α → Value → CheckedAction α) (total : α) :
    CheckedAction α := do
  let counter ← start v
  let s ← plain (Action.read id)
  let take (total : α) (item : Item) : CheckedAction α :=
    plain (Action.make item.create) >>= step total
  fold s take (counter.cursor.remaining s) counter total

/-- Some element of a value has the property; later elements are not taken. -/
def anyElement (v : Value) (holds : Store → Value → Checked Bool) : CheckedAction Bool := do
  let counter ← start v
  read fun s =>
    counter.any s (fun item => holds s (item.create s).1) (counter.cursor.remaining s)

/-- **What goes on from the start of a value goes on from a cursor there.** -/
theorem start_bind {v : Value} (short : s.Addressable v) {next : Counter → CheckedAction β}
    {next' : Cursor → Action β}
    (rest : ∀ counter : Counter, counter.Sound s →
      Mirrors (next counter) (next' counter.cursor) s) :
    Mirrors (start v >>= next) (Action.start v >>= next') s := by
  rcases Counter.start_cases v short with ⟨cause, opened, failed⟩ | ⟨counter, opened, sound, same⟩
  · have ran : start v s = .ok (.error cause s) := by
      rw [start, tryRead, opened]
      rfl
    have failed' : Action.start v s = .error cause s := Action.tryRead_of_error failed
    rw [Mirrors, bind_error ran, EStateM.bind_of_error failed']
  · have ran : start v s = .ok (.ok counter s) := by
      rw [start, tryRead, opened]
      rfl
    have started : Action.start v s = .ok counter.cursor s := Action.tryRead_of_ok same
    rw [Mirrors, bind_ok ran, EStateM.bind_of_ok started]
    exact rest counter sound

/-- One object is made for each item. -/
theorem length_createAll (s : Store) (items : List Item) :
    (Item.createAll s items).1.length = items.length :=
  (Item.forall₂_createAll s items).length_eq.symm

/-- The elements of a value are fewer than `2 ^ 64`. -/
theorem length_elements_lt {v : Value} (short : s.Addressable v) {items : List Value} {s' : Store}
    (done : Action.elements v s = .ok items s') : items.length < 2 ^ 64 := by
  obtain ⟨c, s, started, made⟩ := EStateM.exists_of_bind_ok done
  obtain ⟨opened, rfl⟩ := Action.ok_of_tryRead started
  cases made
  rcases Counter.start_cases v short with ⟨cause, _, failed⟩ | ⟨counter, _, sound, same⟩
  · cases failed.symm.trans opened
  · cases same.symm.trans opened
    refine Nat.lt_of_le_of_lt (Nat.le_of_eq ?_) (counter.remaining_lt sound)
    refine (length_createAll s (counter.cursor.drain s)).trans ?_
    rw [Cursor.drain_eq, Cursor.length_ahead]

/-- **All elements are found**, and made into objects, whose number is a word. -/
theorem elements_bind {v : Value} (short : s.Addressable v) {next : List Value → CheckedAction β}
    {next' : List Value → Action β}
    (rest : ∀ items s', items.length < 2 ^ 64 → Mirrors (next items) (next' items) s') :
    Mirrors (elements v >>= next) (Action.elements v >>= next') s := by
  have found : Mirrors (elements v) (Action.elements v) s :=
    start_bind short fun _ sound => .read_bind (Counter.drain_eq sound rfl) (.plain _ s)
  exact found.bind fun items s' done => rest items s' (length_elements_lt short done)

/-- **Taking items does not go wrong** if no step does. What the accumulator holds may depend on the
number of items that are left. -/
theorem fold_mirrors {s₀ : Store} {step : α → Item → CheckedAction α}
    {step' : α → Item → Action α} {holds : Nat → α → Prop}
    (mirrors : ∀ count total item s, holds (count + 1) total →
      Mirrors (step total item) (step' total item) s)
    (keeps : ∀ count total item s total' s', holds (count + 1) total →
      step' total item s = .ok total' s' → holds count total')
    {counter : Counter} (sound : counter.Sound s₀) {count : Nat}
    (steps : counter.cursor.remaining s₀ = count) {total : α} (held : holds count total) :
    Mirrors (fold s₀ step count counter total) (counter.cursor.fold s₀ step' count total) s := by
  -- the store that is traversed is that of the start; the one that the steps act on changes
  induction count generalizing counter total s with
  | zero =>
    obtain ⟨moved, stepped⟩ := Counter.next_of_remaining_zero sound steps
    rw [fold, Cursor.fold]
    exact .compute stepped rfl
  | succ count ih =>
    obtain ⟨item, moved, stepped, sound', same, fewer⟩ :=
      Counter.next_of_remaining_succ sound steps
    rw [fold, Cursor.fold, same]
    refine .compute stepped ?_
    exact (mirrors count total item s held).bind fun total' s' done =>
      ih sound' fewer (keeps count total item s total' s' held done)

/-- **Taking the elements of a value does not go wrong** if no step does. -/
theorem foldElements_mirrors (holds : Nat → α → Prop) {v : Value} (short : s.Addressable v)
    {step : α → Value → CheckedAction α} {step' : α → Value → Action α}
    (mirrors : ∀ count total element s, holds (count + 1) total →
      Mirrors (step total element) (step' total element) s)
    (keeps : ∀ count total element s total' s', holds (count + 1) total →
      step' total element s = .ok total' s' → holds count total')
    {total : α} (held : ∀ count < 2 ^ 64, holds count total) :
    Mirrors (foldElements v step total) (Action.foldElements v step' total) s := by
  refine start_bind short fun counter sound => (Mirrors.plain _ s).bind fun s₀ s' done => ?_
  cases done
  have all := held _ (counter.remaining_lt sound)
  refine fold_mirrors (fun count total item s held => ?_)
    (fun count total item s total' s' held done => ?_) sound rfl all
  · exact (Mirrors.plain _ s).bind fun element s' _ => mirrors count total element s' held
  · exact keeps count total _ _ total' s' held done

/-- **Looking for an element does not go wrong** if looking at one does not. -/
theorem anyElement_mirrors {v : Value} (short : s.Addressable v)
    {holds : Store → Value → Checked Bool} {test : Store → Value → Bool}
    (tested : ∀ s element, holds s element = .ok (test s element)) :
    Mirrors (anyElement v holds) (Action.anyElement v test) s :=
  start_bind short fun _ sound =>
    .read (Counter.any_eq sound (fun item => tested s (item.create s).1) rfl)

end CheckedAction

end CallConsole
