/-
**What a step of a program can do.**

A step makes its operands, and the store grows by them. Then it makes or reads something, changes
one list or dict, opens a cursor or moves one. `Moves` lists these cases, for any trait of the
values in the machine, and everything about whole programs is derived from the list:

* `step_moves`: a step is one of the cases;
* `run_follows`: what a step of a program does besides leaves the cursors, and the store grows;
* `run_grows`, `run_evolves`: without a change the store only grows, and no step ever makes a list
  shorter or takes a key out of a dict;
* `run_sound`, `runs_sound`: a machine keeps a trait, and so do all that are reached from it.
-/

import CallConsole.Proofs.Changes
import CallConsole.Proofs.SafeRuns

namespace CallConsole

/-! ### Steps on operands -/

namespace Step

open CallConsole.Action

variable {trait : Trait} {s : Store} {v : Value}

/-- A step whose value can be bound is not there to change something. -/
theorem unchanged_of_binds {step : Step} (binds : step.binds = true) : step.changed? = none := by
  cases step with
  | bind | call | getItem | add | next => rfl
  | _ => cases binds

/-- A value that the step can bind has the trait. -/
def Answers (trait : Trait) (step : Step) (s : Store) (answer : Answer) : Prop :=
  step.binds = true → ∀ v, answer = .value v → trait.has s v

theorem itemAt_mem {indexed : Indexed} {items : List Value} {index : Value}
    (found : itemAt indexed items index = .ok v) : v ∈ items := by
  unfold itemAt at found
  split at found
  case h_1 => cases found
  case h_2 slot _ =>
    split at found <;> cases found
    case h_1 there => exact List.mem_of_getElem? there

theorem has_get? {d : Dict} (held : trait.OfDict s d) {key : Value}
    (found : d.get? key = .ok (some v)) : trait.has s v := by
  unfold Dict.get? at found
  cases hashed : Slot.of? key with
  | error cause =>
    rw [hashed] at found
    cases found
  | ok slot =>
    rw [hashed] at found
    obtain ⟨e, there, rfl⟩ := Option.map_eq_some_iff.mp (Except.ok.inj found)
    exact (held e (List.mem_of_find?_eq_some there)).2

theorem getItem_safe (sound : trait.Sound s) {on : Value} (has : trait.has s on) (index : Value) :
    Safe trait s (Action.getItem on index) trait.has := by
  cases on with
  | list place =>
    refine safe_tryRead sound fun v found => ?_
    exact sound.items place v (Array.mem_toList_iff.mp (itemAt_mem found))
  | tuple id items =>
    exact safe_tryRead sound fun v found => trait.parts has v (itemAt_mem found)
  | str id text =>
    rw [Action.getItem, characterAt]
    split
    · exact safe_fail sound _
    · exact safe_str sound _
  | dict place =>
    refine safe_tryRead sound fun v found => ?_
    split at found <;> cases found
    case h_2 there => exact has_get? (sound.contents place) there
  | _ => exact safe_fail sound _

theorem add_safe (sound : trait.Sound s) {left right : Value} (first : trait.has s left)
    (second : trait.has s right) : Safe trait s (Action.add left right) trait.has := by
  unfold Action.add
  split
  · exact (safe_tryAsk sound _).bind fun sum _ growth _ => Builtin.create_safe growth.sound sum
  · split
    · exact safe_str sound _
    · have both (i j : Nat) : Safe trait s
          (Action.read fun s => (s.items i).toList ++ (s.items j).toList) trait.All := by
        refine safe_read sound fun v member => ?_
        rcases List.mem_append.mp member with left | right
        · exact sound.items i v (Array.mem_toList_iff.mp left)
        · exact sound.items j v (Array.mem_toList_iff.mp right)
      exact (both _ _).bind fun items _ growth all => safe_list growth.sound all
    · refine safe_tuple sound fun v member => ?_
      exact (List.mem_append.mp member).elim (trait.parts first v) (trait.parts second v)
    · exact safe_fail sound _

/-- What a step that can bind nothing answers does not matter. -/
theorem silent {step : Step} {action : Action Answer} (silent : step.binds = false)
    (safe : Safe trait s action anything) : Safe trait s action (step.Answers trait) where
  ok ran := by
    refine ⟨(safe.ok ran).1, fun binds => ?_⟩
    rw [silent] at binds
    cases binds
  error ran := safe.error ran

/-- The answer is the value found. -/
theorem value_safe {step : Step} {action : Action Value} (safe : Safe trait s action trait.has) :
    Safe trait s (Answer.value <$> action) (step.Answers trait) := by
  refine safe.map fun s' v has _ u same => ?_
  cases same
  exact has

/-- What is asked of a range has no effect. -/
theorem range_safe (sound : trait.Sound s) (v : Value) (ask : Range → Answer) :
    Safe trait s (do let r ← rangeOf v; pure (ask r)) anything := by
  cases v with
  | range id r => exact safe_pure sound trivial
  | _ => exact safe_fail sound _

/-- What is asked of a dict has no effect, if the question has none. -/
theorem dict_safe (sound : trait.Sound s) (v : Value) {ask : Nat → Action Answer}
    (asks : ∀ place, Safe trait s (ask place) anything) :
    Safe trait s (do let place ← dictOf v; ask place) anything := by
  cases v with
  | dict place => exact asks place
  | _ => exact safe_fail sound _

/-- **What a step does with its operands**, if it is not there to change one of them. -/
theorem act_safe (sound : trait.Sound s) (step : Step) (unchanged : step.changed? = none)
    {values : List Value} (all : trait.All s values) :
    Safe trait s (step.act values) (step.Answers trait) := by
  have one {v : Value} {rest : List Value} (all : trait.All s (v :: rest)) : trait.has s v :=
    all v List.mem_cons_self
  have two {v u : Value} {rest : List Value} (all : trait.All s (v :: u :: rest)) :
      trait.has s u := all u (List.mem_cons_of_mem _ List.mem_cons_self)
  have asked {α : Type} {answer : α → Answer} (f : Store → α) :
      Safe trait s (answer <$> Action.read f) anything :=
    (safe_ask sound f).map fun _ _ _ => trivial
  have tried {α : Type} {answer : α → Answer} (f : Store → Except Cause α) :
      Safe trait s (answer <$> Action.tryRead f) anything :=
    (safe_tryAsk sound f).map fun _ _ _ => trivial
  unfold act
  split
  · refine safe_pure sound fun _ u same => ?_
    cases same
    exact one all
  · exact value_safe (getItem_safe sound (one all) _)
  · cases unchanged
  · cases unchanged
  · exact value_safe (add_safe sound (one all) (two all))
  · exact silent rfl (tried _)
  · exact silent rfl (tried _)
  · exact silent rfl (asked _)
  · exact silent rfl (safe_pure sound trivial)
  · exact silent rfl (asked _)
  · exact silent rfl (safe_pure sound trivial)
  · exact silent rfl (safe_pure sound trivial)
  · exact silent rfl (safe_pure sound trivial)
  · exact silent rfl (asked _)
  · refine silent rfl ((safe_ask sound _).bind fun found _ growth _ => ?_)
    split <;> exact safe_pure growth.sound trivial
  · refine silent rfl ?_
    split <;> exact safe_pure sound trivial
  · refine silent rfl ?_
    split <;> exact safe_pure sound trivial
  · refine silent rfl ((safe_ask sound _).bind fun found _ growth _ => ?_)
    split <;> exact safe_pure growth.sound trivial
  · exact silent rfl (range_safe sound _ _)
  · exact silent rfl (range_safe sound _ _)
  · exact silent rfl (range_safe sound _ _)
  · cases unchanged
  · exact silent rfl (dict_safe sound _ fun _ => tried _)
  · exact silent rfl (dict_safe sound _ fun _ => tried _)
  · exact silent rfl (dict_safe sound _ fun _ => asked _)
  · exact silent rfl (dict_safe sound _ fun _ => asked _)
  · exact silent rfl (dict_safe sound _ fun _ => asked _)
  · exact safe_pure sound fun _ u same => nomatch same

theorem insert_changes {place : Nat} {key : Value} (has : trait.has s key)
    (value : trait.has s v) {replaced : Option Value} {s' : Store}
    (ran : Action.insert place key v s = .ok replaced s') : s.Changes trait s' := by
  unfold Action.insert changeDict at ran
  split at ran <;> cases ran
  case h_1 inserted => exact .insert has value inserted

theorem setItem_changes {on index : Value} (key : trait.has s index) (value : trait.has s v)
    {s' : Store} (ran : Action.setItem on index v s = .ok () s') : s.Changes trait s' := by
  cases on with
  | list place =>
    obtain ⟨slot, between, found, written⟩ := EStateM.exists_of_bind_ok ran
    obtain ⟨_, rfl⟩ := ok_of_tryRead found
    cases written
    exact .assign value
  | dict place =>
    obtain ⟨replaced, between, inserted, last⟩ := EStateM.exists_of_bind_ok ran
    cases last
    exact insert_changes key value inserted
  | _ => cases ran

theorem append_changes {on : Value} (value : trait.has s v) {s' : Store}
    (ran : Action.append on v s = .ok () s') : s.Changes trait s' := by
  cases on with
  | list place =>
    cases ran
    exact .append value
  | _ => cases ran

/-- **What a step changes**, if it is there to change one of its operands and succeeds. -/
theorem act_changes (step : Step) (changed : step.changed? ≠ none) {values : List Value}
    (all : trait.All s values) {answer : Answer} {s' : Store}
    (ran : step.act values s = .ok answer s') : s.Changes trait s' := by
  unfold act at ran
  split at ran
  case h_3 on index v =>
    obtain ⟨_, ran, _⟩ := EStateM.exists_of_map_ok ran
    exact setItem_changes (all index (by simp)) (all v (by simp)) ran
  case h_4 on v =>
    obtain ⟨_, ran, _⟩ := EStateM.exists_of_map_ok ran
    exact append_changes (all v (by simp)) ran
  case h_22 on key v =>
    cases on with
    | dict place =>
      have inserted : (answerValue <$> Action.insert place key v) s = .ok answer s' := ran
      obtain ⟨_, ran, _⟩ := EStateM.exists_of_map_ok inserted
      exact insert_changes (all key (by simp)) (all v (by simp)) ran
    | _ => cases ran
  case h_28 =>
    cases ran
    exact .nothing
  all_goals exact absurd rfl changed

/-- **A step that is there to change one of its operands and fails, has not changed it.** -/
theorem unchanged_of_act (step : Step) (changed : step.changed? ≠ none) {values : List Value}
    {cause : Cause} {s' : Store} (ran : step.act values s = .error cause s') : s' = s := by
  unfold act at ran
  split at ran
  case h_3 on index v => exact unchanged_of_setItem (EStateM.error_of_map ran)
  case h_4 on v => exact unchanged_of_append (EStateM.error_of_map ran)
  case h_22 on key v =>
    cases on with
    | dict place =>
      have inserted : (answerValue <$> Action.insert place key v) s = .error cause s' := ran
      exact unchanged_of_insert (EStateM.error_of_map inserted)
    | _ =>
      cases ran
      rfl
  case h_28 => cases ran
  all_goals exact absurd rfl changed

end Step

/-! ### Machines -/

/-- **All that the machine holds has the trait.** -/
structure Trait.OfMachine (trait : Trait) (m : Machine) : Prop where
  store : trait.Sound m.world.store
  bindings : trait.OfBindings m.world.store m.bindings
  cursors : ∀ p ∈ m.cursors, trait.OfCursor m.world.store p.2

/-- All that the machine holds is proper. -/
abbrev Machine.Sound (m : Machine) : Prop := Trait.proper.OfMachine m

namespace Trait

variable {trait : Trait} {m : Machine}

theorem ofMachine_start (trait : Trait) (mode : SinkMode) :
    trait.OfMachine (Machine.start mode) where
  store := .empty trait
  bindings := List.forall_mem_nil _
  cursors := List.forall_mem_nil _

namespace OfMachine

/-- The machine goes on with a world that has the trait. -/
theorem withWorld (held : trait.OfMachine m) {w : World} (sound : trait.Sound w.store)
    (more : m.world.store.Extends w.store) : trait.OfMachine { m with world := w } where
  store := sound
  bindings := held.bindings.lasts more
  cursors p member := (held.cursors p member).lasts more

theorem grown (held : trait.OfMachine m) {w : World}
    (growth : trait.Growth m.world.store w.store) : trait.OfMachine { m with world := w } :=
  held.withWorld growth.sound growth.extends

theorem bind (held : trait.OfMachine m) (name : String) {v : Value}
    (has : trait.has m.world.store v) :
    trait.OfMachine { m with bindings := Machine.rebind name v m.bindings } where
  store := held.store
  bindings p member := by
    rcases List.mem_cons.mp member with rfl | old
    · exact has
    · exact held.bindings p (List.mem_filter.mp old).1
  cursors := held.cursors

theorem «open» (held : trait.OfMachine m) (name : String) {c : Cursor}
    (traversed : trait.OfCursor m.world.store c) :
    trait.OfMachine { m with cursors := Machine.rebind name c m.cursors } where
  store := held.store
  bindings := held.bindings
  cursors p member := by
    rcases List.mem_cons.mp member with rfl | old
    · exact traversed
    · exact held.cursors p (List.mem_filter.mp old).1

/-- A machine with nothing in its sink has the trait as before. -/
theorem withoutOutput (held : trait.OfMachine m) : trait.OfMachine m.withoutOutput :=
  ⟨held.store, held.bindings, held.cursors⟩

/-- The object of an item that a cursor yields is made in a store that grows. -/
theorem yields (held : trait.OfMachine m) {name : String} {c moved : Cursor} {item : Item}
    (found : Machine.lookup name m.cursors = some c)
    (stepped : c.next m.world.store = (some item, moved)) :
    trait.Growth m.world.store (item.create m.world.store).2 ∧
      trait.has (item.create m.world.store).2 (item.create m.world.store).1 :=
  have traversed := held.cursors _ (Operand.mem_of_lookup found)
  OfItem.create item (traversed.item held.store stepped) held.store

/-- A machine has the trait after one of its cursors has moved. -/
theorem moved (held : trait.OfMachine m) {name : String} {c moved : Cursor} {item : Option Item}
    (found : Machine.lookup name m.cursors = some c)
    (stepped : c.next m.world.store = (item, moved)) :
    trait.OfMachine { m with cursors := Machine.rebind name moved m.cursors } :=
  held.open name ((held.cursors _ (Operand.mem_of_lookup found)).moved stepped)

end OfMachine

end Trait

/-! ### Steps of a machine -/

namespace Machine

variable {trait : Trait} {m : Machine}

/-- **What a step can do to a machine.** -/
inductive Moves (trait : Trait) (m : Machine) : Step → Except Failure Answer → Machine → Prop
  /-- The store has grown, and nothing else has changed. -/
  | grows {step : Step} {outcome : Except Failure Answer} {w : World} :
      trait.Growth m.world.store w.store →
      (∀ answer, outcome = .ok answer → step.Answers trait w.store answer) →
      Moves trait m step outcome { m with world := w }
  /-- The operands have been made, and one of them has changed. -/
  | changes {step : Step} {outcome : Except Failure Answer} {w : World} {s : Store} :
      step.changed? ≠ none → trait.Growth m.world.store w.store → w.store.Changes trait s →
      Moves trait m step outcome { m with world := { w with store := s } }
  /-- The operand has been made, and a cursor stands at its start. -/
  | opens {on : Operand} {name : String} {w : World} {v : Value} {c : Cursor} :
      trait.Growth m.world.store w.store → trait.has w.store v → w.store.cursor v = .ok c →
      Moves trait m (.iterate on name) (.ok .nothing)
        { m with world := w, cursors := rebind name c m.cursors }
  /-- A cursor has moved, and the object of the item that it passed has been made. -/
  | yields {name : String} {c moved : Cursor} {item : Item} :
      lookup name m.cursors = some c → c.next m.world.store = (some item, moved) →
      Moves trait m (.next name) (.ok (.value (item.create m.world.store).1))
        { m with
          world := { m.world with store := (item.create m.world.store).2 }
          cursors := rebind name moved m.cursors }
  /-- A cursor has no item left. -/
  | exhausts {name : String} {c moved : Cursor} :
      lookup name m.cursors = some c → c.next m.world.store = (none, moved) →
      Moves trait m (.next name) (.ok .exhausted) { m with cursors := rebind name moved m.cursors }

/-- Running something safe in a machine changes its world only. -/
theorem perform_cases {α : Type} {run : Run α} {holds : Store → α → Prop}
    (safe : Run.Safe trait m.world run holds) :
    (∃ a w, m.perform run = (.ok a, { m with world := w }) ∧
      trait.Growth m.world.store w.store ∧ holds w.store a) ∨
    ∃ failure w, m.perform run = (.error failure, { m with world := w }) ∧
      trait.Growth m.world.store w.store := by
  unfold Run.Safe at safe
  unfold perform Run.outcome
  cases ran : run m.world with
  | ok a w =>
    rw [ran] at safe
    exact .inl ⟨a, w, rfl, safe.1, safe.2⟩
  | error failure w =>
    rw [ran] at safe
    exact .inr ⟨failure, w, rfl, safe⟩

/-- What was made in a machine is as described, and its world is all that has changed. -/
theorem perform_ok {α : Type} {run : Run α} {holds : Store → α → Prop}
    (safe : Run.Safe trait m.world run holds) {a : α} {made : Machine}
    (ran : m.perform run = (.ok a, made)) :
    trait.Growth m.world.store made.world.store ∧ holds made.world.store a ∧
      made = { m with world := made.world } := by
  rcases perform_cases safe with ⟨b, w, done, growth, held⟩ | ⟨failure, w, done, _⟩
  · cases done.symm.trans ran
    exact ⟨growth, held, rfl⟩
  · cases done.symm.trans ran

/-- Acting on operands is safe, or changes one of them. -/
theorem act_moves (held : trait.OfMachine m) (step : Step) {values : List Value}
    (all : trait.All m.world.store values) :
    Moves trait m step (m.perform (Run.act (step.act values))).1
      (m.perform (Run.act (step.act values))).2 := by
  by_cases unchanged : step.changed? = none
  · have safe := Run.safe_act (Step.act_safe held.store step unchanged all)
    rcases perform_cases safe with ⟨answer, w, done, growth, answers⟩ | ⟨failure, w, done, growth⟩
    · rw [done]
      refine .grows growth fun other same => ?_
      cases same
      exact answers
    · rw [done]
      exact .grows growth nofun
  · unfold perform Run.outcome Run.act
    cases ran : step.act values m.world.store with
    | error cause s =>
      obtain rfl := Step.unchanged_of_act step unchanged ran
      exact .changes unchanged (.refl held.store) .nothing
    | ok answer s =>
      exact .changes unchanged (.refl held.store) (Step.act_changes step unchanged all ran)

/-- The operands are made first; the step goes on from there. -/
theorem Moves.after {step : Step} {outcome : Except Failure Answer} {m' : Machine} {w : World}
    (growth : trait.Growth m.world.store w.store)
    (moves : Moves trait { m with world := w } step outcome m')
    (other : ∀ name, step ≠ .next name) : Moves trait m step outcome m' := by
  cases moves with
  | grows more answers => exact .grows (growth.trans more) answers
  | changes changed more change => exact .changes changed (growth.trans more) change
  | opens more has opened => exact .opens (growth.trans more) has opened
  | yields => exact absurd rfl (other _)
  | exhausts => exact absurd rfl (other _)

/-- **A step is one of the cases.** -/
theorem step_moves (held : trait.OfMachine m) (step : Step) :
    Moves trait m step (m.step step).1 (m.step step).2 := by
  unfold Machine.step
  rcases perform_cases (Operand.makeAll_safe step.operands held.store held.bindings) with
    ⟨values, w, made, growth, all⟩ | ⟨failure, w, made, growth⟩
  case inr =>
    rw [made]
    exact .grows growth nofun
  case inl =>
    rw [made]
    dsimp only
    split
    case h_1 _ function arguments =>
      rcases perform_cases (m := { m with world := w })
        (Builtin.invoke_safe growth.sound function all) with
        ⟨v, w', done, more, result⟩ | ⟨failure, w', done, more⟩
      · rw [done]
        refine .grows (growth.trans more) fun answer same _ u value => ?_
        cases same
        cases value
        exact result
      · rw [done]
        exact .grows (growth.trans more) nofun
    case h_2 operand name on =>
      cases opened : w.store.cursor on with
      | error cause => exact .grows growth nofun
      | ok c => exact .opens growth (all on List.mem_cons_self) opened
    case h_3 _ name =>
      -- A step of a cursor has no operands, so the world is still the one before it.
      obtain rfl : m.world = w := congrArg (fun reached => reached.2.world) made
      cases found : lookup name m.cursors with
      | none => exact .grows (.refl held.store) nofun
      | some c =>
        cases stepped : c.next m.world.store with
        | mk item moved =>
          cases item with
          | none =>
            dsimp only
            rw [stepped]
            exact .exhausts found stepped
          | some item =>
            dsimp only
            rw [stepped]
            exact .yields found stepped
    case h_4 calls nexts iterates =>
      exact (act_moves (held.grown growth) step all).after growth nexts

/-! ### After a step -/

namespace Moves

variable {step : Step} {outcome : Except Failure Answer} {m' : Machine}

/-- **A step leaves a machine with the trait** if it finds one. -/
theorem sound (moves : Moves trait m step outcome m') (held : trait.OfMachine m) :
    trait.OfMachine m' := by
  cases moves with
  | grows growth _ => exact held.grown growth
  | changes _ growth changes =>
    exact held.withWorld (changes.sound growth.sound) (growth.extends.trans changes.extends)
  | opens growth has opened =>
    exact (held.grown growth).open _ (Trait.ofCursor_of_opened growth.sound _ has opened)
  | yields found stepped => exact (held.moved found stepped).grown (held.yields found stepped).1
  | exhausts found stepped => exact held.moved found stepped

/-- **A value that the step can bind has the trait.** -/
theorem answers (moves : Moves trait m step outcome m') (held : trait.OfMachine m)
    (binds : step.binds = true) {v : Value} (answered : outcome = .ok (.value v)) :
    trait.has m'.world.store v := by
  cases moves with
  | grows _ answers => exact answers _ answered binds v rfl
  | changes changed => exact absurd (Step.unchanged_of_binds binds) changed
  | opens => cases answered
  | yields found stepped =>
    cases answered
    exact (held.yields found stepped).2
  | exhausts => cases answered

/-- **No step makes a list shorter**, takes a key out of a dict or loses a place. -/
theorem evolves (moves : Moves trait m step outcome m') (held : trait.OfMachine m) :
    m.world.store.Evolves m'.world.store := by
  cases moves with
  | grows growth _ => exact growth.grows.evolves
  | changes _ growth changes => exact growth.grows.evolves.trans changes.evolves
  | opens growth => exact growth.grows.evolves
  | yields found stepped => exact (held.yields found stepped).1.grows.evolves
  | exhausts => exact .refl _

/-- **A step that is not there to change something changes nothing.** -/
theorem store_grows (moves : Moves trait m step outcome m') (held : trait.OfMachine m)
    (unchanged : step.changed? = none) : m.world.store.Grows m'.world.store := by
  cases moves with
  | grows growth _ => exact growth.grows
  | changes changed => exact absurd unchanged changed
  | opens growth => exact growth.grows
  | yields found stepped => exact (held.yields found stepped).1.grows
  | exhausts => exact .refl _

end Moves

/-! ### After a step of a program -/

/-- **What a step of a program does after the step itself**: it binds a value, and makes the operand
whose text is shown. The cursors stay, and the store grows. -/
structure Follows (trait : Trait) (m m' : Machine) : Prop where
  sound : trait.OfMachine m'
  cursors : m'.cursors = m.cursors
  grows : m.world.store.Grows m'.world.store

theorem bindAnswer_follows (held : trait.OfMachine m) (target : Option String) (step : Step)
    {outcome : Except Failure Answer} (has : step.binds = true → ∀ v,
      outcome = .ok (.value v) → trait.has m.world.store v) :
    Follows trait m (m.bindAnswer target step outcome) := by
  unfold bindAnswer
  split
  case h_1 v name =>
    split
    case isTrue binds => exact ⟨held.bind name (has binds v rfl), rfl, .refl _⟩
    case isFalse => exact ⟨held, rfl, .refl _⟩
  case h_2 => exact ⟨held, rfl, .refl _⟩

theorem textAfter_follows (held : trait.OfMachine m) (term : Operand) :
    Follows trait m (m.textAfter term).2 := by
  unfold textAfter
  rcases perform_cases (Operand.make_safe term held.store held.bindings) with
    ⟨v, w, made, growth, _⟩ | ⟨failure, w, made, growth⟩
  · rw [made]
    exact ⟨held.grown growth, rfl, growth.grows⟩
  · rw [made]
    exact ⟨held.grown growth, rfl, growth.grows⟩

theorem Follows.trans {m' m'' : Machine} (first : Follows trait m m')
    (second : Follows trait m' m'') : Follows trait m m'' :=
  ⟨second.sound, second.cursors.trans first.cursors, first.grows.trans second.grows⟩

/-- The outcome is that of the step itself. -/
theorem run_outcome (m : Machine) (target : Option String) (step : Step) :
    (m.run target step).1.outcome = (m.withoutOutput.step step).1 := by
  unfold run
  dsimp only
  split <;> rfl

/-- **A step of a program** is a step, and what follows it. -/
theorem run_follows (held : trait.OfMachine m) (target : Option String) (step : Step) :
    Follows trait (m.withoutOutput.step step).2 (m.run target step).2 := by
  have moves := step_moves held.withoutOutput step
  have bound := bindAnswer_follows (moves.sound held.withoutOutput) target step
    fun binds v => moves.answers held.withoutOutput binds
  unfold run
  dsimp only
  split
  · exact bound
  · exact bound.trans (textAfter_follows bound.sound _)

theorem run_sound (held : trait.OfMachine m) (target : Option String) (step : Step) :
    trait.OfMachine (m.run target step).2 :=
  (run_follows held target step).sound

theorem run_evolves (held : trait.OfMachine m) (target : Option String) (step : Step) :
    m.world.store.Evolves (m.run target step).2.world.store :=
  ((step_moves held.withoutOutput step).evolves held.withoutOutput).trans
    (run_follows held target step).grows.evolves

theorem run_grows (held : trait.OfMachine m) (target : Option String) {step : Step}
    (unchanged : step.changed? = none) :
    m.world.store.Grows (m.run target step).2.world.store :=
  ((step_moves held.withoutOutput step).store_grows held.withoutOutput unchanged).trans
    (run_follows held target step).grows

end Machine

/-! ### Whole programs -/

/-- A program: its steps, each with the variable for its value, if there is one. -/
abbrev Program := List (Option String × Step)

namespace Machine

variable {trait : Trait} {m : Machine}

/-- The machine after a program. -/
def runs (m : Machine) : Program → Machine
  | [] => m
  | (target, step) :: rest => (m.run target step).2.runs rest

/-- **Every machine that a program reaches has the trait**, if the first one has it. -/
theorem runs_sound (held : trait.OfMachine m) (program : Program) :
    trait.OfMachine (m.runs program) := by
  induction program generalizing m with
  | nil => exact held
  | cons first rest ih => exact ih (run_sound held first.1 first.2)

/-- No program makes a list shorter, or takes a key out of a dict. -/
theorem runs_evolves (held : trait.OfMachine m) (program : Program) :
    m.world.store.Evolves (m.runs program).world.store := by
  induction program generalizing m with
  | nil => exact .refl _
  | cons first rest ih =>
    exact (run_evolves held first.1 first.2).trans (ih (run_sound held first.1 first.2))

end Machine

end CallConsole
