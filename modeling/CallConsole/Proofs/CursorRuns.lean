/-
**Cursors in whole programs.**

Between the step that opens a cursor and a later one that asks it for an element, a program can do
anything. What is said of a cursor is an account if it lasts through all that happens to the store,
and if a step of the cursor carries it on; then it can still be said at the end, with the number of
values that were yielded in between:

* `account_run`, `account_runs`: accounts last through steps and programs;
* `cursor_yields_elements`: where no list and no dict changes, a cursor yields the elements of its
  value, and its length and its truth agree with them;
* `cursor_follows_source`: whatever changes, a cursor in a list yields what the list holds at that
  moment, and cursors in other things yield what there was at the start.
-/

import CallConsole.Proofs.SafeMachines

namespace CallConsole

/-! ### Names -/

namespace Machine

variable {α : Type} {name other : String}

theorem lookup_rebind_self (name : String) (a : α) (table : List (String × α)) :
    lookup name (rebind name a table) = some a := by
  simp [lookup, rebind]

theorem lookup_rebind_of_ne (different : other ≠ name) (a : α) (table : List (String × α)) :
    lookup name (rebind other a table) = lookup name table := by
  have kept (p : String × α) :
      decide (decide (p.1 ≠ other) = true ∧ decide (p.1 = name) = true) = decide (p.1 = name) := by
    by_cases same : p.1 = name
    · simp [same, different.symm]
    · simp [same]
  simp only [lookup, rebind, List.find?_cons, different, decide_false, List.find?_filter, kept]

end Machine

/-! ### What a step opens and yields -/

namespace Step

/-- The step has opened a cursor of that name. -/
def opens (name : String) (step : Step) (outcome : Except Failure Answer) : Bool :=
  match step with
  | .iterate _ cursor => cursor = name && outcome.isOk
  | _ => false

/-- The value that the step has taken from the cursor of that name, if there is one. -/
def yields (name : String) (step : Step) (outcome : Except Failure Answer) : List Value :=
  match step, outcome with
  | .next cursor, .ok (.value v) => if cursor = name then [v] else []
  | _, _ => []

theorem yields_of_ne {name : String} {step : Step} (other : step ≠ .next name)
    (outcome : Except Failure Answer) : step.yields name outcome = [] := by
  unfold yields
  split
  case h_1 cursor v =>
    split
    case isTrue same => exact absurd (congrArg Step.next same) other
    case isFalse => rfl
  case h_2 => rfl

end Step

namespace Answer

/-- The answer that an object is, if there is one. -/
def ofObject : Option Value → Answer
  | some v => .value v
  | none => .exhausted

/-- The answer of a cursor: the object of the item that it has passed, if there is one. -/
def ofItem (s : Store) : Option Item → Answer
  | some item => .value (item.create s).1
  | none => .exhausted

/-- An object that is there already is itself the answer. -/
theorem ofItem_object (s : Store) (found : Option Value) :
    ofItem s (found.map .object) = ofObject found := by
  cases found <;> rfl

theorem ofObject_eq_exhausted_iff {found : Option Value} :
    ofObject found = .exhausted ↔ found = none := by
  cases found with
  | none => exact iff_of_true rfl rfl
  | some v => exact iff_of_false nofun nofun

end Answer

namespace Machine

variable {m : Machine} {name : String}

/-- All that the program takes from the cursor of that name, in this order. -/
def yielded (name : String) (m : Machine) : Program → List Value
  | [] => []
  | (target, step) :: rest =>
    step.yields name (m.run target step).1.outcome ++ yielded name (m.run target step).2 rest

/-- Every step of the program is as described, in the machine that it is done in. -/
def Throughout (holds : Machine → Option String → Step → Prop) (m : Machine) : Program → Prop
  | [] => True
  | (target, step) :: rest => holds m target step ∧ Throughout holds (m.run target step).2 rest

/-- The step does not open a cursor of that name. -/
def Keeps (name : String) (m : Machine) (target : Option String) (step : Step) : Prop :=
  step.opens name (m.run target step).1.outcome = false

/-- The step relates the stores before and after it. -/
def Relates (related : Store → Store → Prop) (m : Machine) (target : Option String) (step : Step) :
    Prop :=
  related m.world.store (m.run target step).2.world.store

/-- The step is not there to change anything, or the lists and dicts that were there before it are
as they were. -/
def Spares (m : Machine) (target : Option String) (step : Step) : Prop :=
  step.changed? = none ∨ m.Relates Store.Grows target step

/-- **Nothing changes but by the steps that are there to change something.** -/
theorem grows_throughout (sound : m.Sound) {program : Program}
    (spared : m.Throughout Spares program) : m.Throughout (Relates Store.Grows) program := by
  induction program generalizing m with
  | nil => trivial
  | cons first rest ih =>
    refine ⟨spared.1.elim (run_grows sound first.1) id, ?_⟩
    exact ih (run_sound sound first.1 first.2) spared.2

/-- No list becomes shorter. -/
theorem evolves_throughout (sound : m.Sound) (program : Program) :
    m.Throughout (Relates Store.Evolves) program := by
  induction program generalizing m with
  | nil => trivial
  | cons first rest ih => exact ⟨run_evolves sound first.1 first.2, ih (run_sound sound _ _)⟩

/-! ### Single steps -/

/-- A step keeps the cursors that it neither opens nor moves. -/
theorem Moves.lookup_eq {trait : Trait} {step : Step} {outcome : Except Failure Answer}
    {m' : Machine} (moves : Moves trait m step outcome m') (kept : step.opens name outcome = false)
    (other : step ≠ .next name) : lookup name m'.cursors = lookup name m.cursors := by
  cases moves with
  | grows | changes => rfl
  | @opens on opened _ _ _ =>
    refine lookup_rebind_of_ne (fun same => ?_) _ _
    cases same
    rw [Step.opens, decide_eq_true rfl] at kept
    cases kept
  | yields | exhausts => exact lookup_rebind_of_ne (fun same => other (congrArg Step.next same)) _ _

theorem lookup_run (sound : m.Sound) {target : Option String} {step : Step}
    (kept : m.Keeps name target step) (other : step ≠ .next name) :
    lookup name (m.run target step).2.cursors = lookup name m.cursors := by
  rw [Keeps, run_outcome] at kept
  rw [(run_follows sound target step).cursors]
  exact (step_moves sound.withoutOutput step).lookup_eq kept other

/-- A step of a cursor answers the item that it passes, and leaves the cursor behind it. -/
theorem step_next {c : Cursor} (found : lookup name m.cursors = some c) :
    (m.step (.next name)).1 = .ok (.ofItem m.world.store (c.next m.world.store).1) ∧
      lookup name (m.step (.next name)).2.cursors = some (c.next m.world.store).2 := by
  have made : m.perform (Operand.makeAll m.bindings (Step.next name).operands) = (.ok [], m) := rfl
  unfold step
  rw [made]
  dsimp only
  rw [found]
  dsimp only
  cases stepped : c.next m.world.store with
  | mk item moved =>
    cases item with
    | none => exact ⟨rfl, lookup_rebind_self name moved m.cursors⟩
    | some item => exact ⟨rfl, lookup_rebind_self name moved m.cursors⟩

theorem run_next_outcome {c : Cursor} (found : lookup name m.cursors = some c)
    (target : Option String) : (m.run target (.next name)).1.outcome =
      .ok (.ofItem m.world.store (c.next m.world.store).1) := by
  rw [run_outcome]
  exact (step_next (m := m.withoutOutput) found).1

theorem lookup_run_next (sound : m.Sound) {c : Cursor} (found : lookup name m.cursors = some c)
    (target : Option String) :
    lookup name (m.run target (.next name)).2.cursors = some (c.next m.world.store).2 := by
  rw [(run_follows sound target _).cursors]
  exact (step_next (m := m.withoutOutput) found).2

/-- An operand that was made alone was made among the operands of its step. -/
theorem perform_single {on : Operand} {v : Value} {made : Machine}
    (ran : m.perform (on.make m.bindings) = (.ok v, made)) :
    m.perform (Operand.makeAll m.bindings [on]) = (.ok [v], made) := by
  unfold perform Run.outcome at ran ⊢
  unfold Operand.makeAll Operand.makeAll
  simp only [Bind.bind, EStateM.bind]
  cases done : on.make m.bindings m.world with
  | error failure w =>
    rw [done] at ran
    cases ran
  | ok u w =>
    rw [done] at ran
    cases ran
    rfl

/-- **Opening a cursor** puts it at the start of the value. -/
theorem run_iterate {on : Operand} {v : Value} {made : Machine} {c : Cursor}
    (ran : m.withoutOutput.perform (on.make m.bindings) = (.ok v, made))
    (opened : made.world.store.cursor v = .ok c) (name : String) (target : Option String) :
    (m.run target (.iterate on name)).1.outcome = .ok .nothing ∧
      (m.run target (.iterate on name)).2 =
        { made with cursors := rebind name c made.cursors } := by
  have operands : m.withoutOutput.perform (Operand.makeAll m.withoutOutput.bindings
      (Step.iterate on name).operands) = (.ok [v], made) := perform_single ran
  have stepped : m.withoutOutput.step (.iterate on name) =
      (.ok .nothing, { made with cursors := rebind name c made.cursors }) := by
    unfold step
    rw [operands]
    dsimp only
    rw [opened]
  unfold run
  rw [stepped]
  exact ⟨rfl, rfl⟩

/-- **Appending to a list** makes it longer by the value, and nothing else happens to it. -/
theorem items_run_append (sound : m.Sound) {on item : Operand} {place : Nat} {v : Value}
    {made : Machine} (ran : m.withoutOutput.perform (Operand.makeAll m.bindings [on, item]) =
      (.ok [.list place, v], made))
    (inside : place < m.world.store.lists.size) (target : Option String) :
    (m.run target (.append on item)).2.world.store.items place =
      (m.world.store.items place).push v := by
  have operands : m.withoutOutput.perform (Operand.makeAll m.withoutOutput.bindings
      (Step.append on item).operands) = (.ok [.list place, v], made) := ran
  have growth : Trait.proper.Growth m.world.store made.world.store :=
    (perform_ok (m := m.withoutOutput)
      (Operand.makeAll_safe [on, item] sound.store sound.bindings) ran).1
  have covered : place < made.world.store.lists.size :=
    Nat.lt_of_lt_of_le inside growth.extends.lists
  have stepped : (m.withoutOutput.step (.append on item)).2.world.store =
      made.world.store.changeList place (·.push v) := by
    unfold step
    rw [operands]
    rfl
  -- The list is made or looked up once more for its text, which leaves it as it is.
  have follows := (run_follows sound target (.append on item)).grows
  rw [stepped] at follows
  have changed := (made.world.store.extends_changeList place (·.push v)).lists
  rw [follows.items_eq (Nat.lt_of_lt_of_le covered changed), Store.items_changeList,
    if_pos ⟨rfl, covered⟩, growth.grows.items_eq inside]

/-! ### Accounts of cursors -/

/-- **An account of cursors**: what it tells of a cursor that has yielded so many items lasts
through all related changes of the store, and steps of the cursor carry it on. -/
structure Account (related : Store → Store → Prop) (tells : Store → Nat → Cursor → Prop) :
    Prop where
  lasts : ∀ {s s' : Store} {count : Nat} {c : Cursor},
    tells s count c → related s s' → tells s' count c
  yields : ∀ {s : Store} {count : Nat} {c moved : Cursor} {item : Item},
    tells s count c → c.next s = (some item, moved) → tells s (count + 1) moved
  exhausts : ∀ {s : Store} {count : Nat} {c moved : Cursor},
    tells s count c → c.next s = (none, moved) → tells s count moved

section Accounts

variable {related : Store → Store → Prop} {tells : Store → Nat → Cursor → Prop}

/-- **An account lasts through a step**, with the value that the step takes from the cursor. -/
theorem account_run (account : Account related tells) (sound : m.Sound) {c : Cursor}
    (found : lookup name m.cursors = some c) {count : Nat} (said : tells m.world.store count c)
    {target : Option String} {step : Step} (relates : m.Relates related target step)
    (kept : m.Keeps name target step) :
    ∃ c', lookup name (m.run target step).2.cursors = some c' ∧
      tells (m.run target step).2.world.store
        (count + (step.yields name (m.run target step).1.outcome).length) c' := by
  by_cases moves : step = .next name
  case neg =>
    refine ⟨c, (lookup_run sound kept moves).trans found, ?_⟩
    rw [Step.yields_of_ne moves]
    exact account.lasts said relates
  case pos =>
    subst moves
    refine ⟨_, lookup_run_next sound found target, ?_⟩
    rw [run_next_outcome found]
    cases stepped : c.next m.world.store with
    | mk item moved =>
      cases item with
      | none => exact account.lasts (account.exhausts said stepped) relates
      | some item =>
        rw [Answer.ofItem, Step.yields, if_pos rfl]
        exact account.lasts (account.yields said stepped) relates

/-- **An account lasts through a program**, with all that the program takes from the cursor. -/
theorem account_runs (account : Account related tells) (sound : m.Sound) {c : Cursor}
    (found : lookup name m.cursors = some c) {count : Nat} (said : tells m.world.store count c)
    {program : Program} (relates : m.Throughout (Relates related) program)
    (kept : m.Throughout (Keeps name) program) :
    ∃ c', lookup name (m.runs program).cursors = some c' ∧
      tells (m.runs program).world.store (count + (m.yielded name program).length) c' := by
  induction program generalizing m c count with
  | nil => exact ⟨c, found, said⟩
  | cons first rest ih =>
    obtain ⟨target, step⟩ := first
    obtain ⟨relates, others⟩ := relates
    obtain ⟨kept, later⟩ := kept
    obtain ⟨c', found', said'⟩ := account_run account sound found said relates kept
    rw [yielded, List.length_append, ← Nat.add_assoc]
    exact ih (run_sound sound target step) found' said' others later

end Accounts

end Machine

/-! ### Three accounts -/

namespace Cursor

open Machine

variable {items : List Item} {s s' : Store} {count : Nat} {c moved : Cursor} {item : Item}

/-- Of the items, all but those that have been yielded are ahead of the cursor. -/
def Leaves (items : List Item) (s : Store) (count : Nat) (c : Cursor) : Prop :=
  c.ahead s = items.drop count

theorem Leaves.yields (leaves : Leaves items s count c) (stepped : c.next s = (some item, moved)) :
    Leaves items s (count + 1) moved := by
  unfold Leaves at *
  rw [← List.tail_drop, ← leaves, ahead_of_yields stepped, List.tail_cons]

theorem Leaves.exhausts (leaves : Leaves items s count c) (stepped : c.next s = (none, moved)) :
    Leaves items s count moved := by
  obtain ⟨nothing, left⟩ := ahead_of_exhausts stepped
  exact left.trans (nothing.symm.trans leaves)

/-- The next item is the one that is numbered by how many there were. -/
theorem Leaves.next_eq (leaves : Leaves items s count c) : (c.next s).1 = items[count]? := by
  rw [next_eq_head?, leaves, List.head?_drop]

/-- **While stores only grow**, proper cursors go on through the items that were ahead of them. -/
theorem account_proper (items : List Item) :
    Account Store.Grows fun s count c => c.Proper s ∧ Leaves items s count c where
  lasts said grows := ⟨said.1.mono grows.covers, (said.1.ahead_eq grows).trans said.2⟩
  yields said stepped := ⟨said.1.moved stepped, said.2.yields stepped⟩
  exhausts said stepped := ⟨said.1.moved stepped, said.2.exhausts stepped⟩

/-- The cursor holds all that it will yield. -/
def Settled : Cursor → Prop
  | .fixed _ | .chars _ | .forward .. | .backward .. => True
  | .live .. | .numbered .. | .rows _ => False

theorem Settled.ahead_eq (settled : c.Settled) (s s' : Store) : c.ahead s = c.ahead s' := by
  cases c with
  | fixed | chars | forward | backward => rfl
  | live | numbered | rows => exact settled.elim

theorem Settled.step (settled : c.Settled) {item : Option Item}
    (stepped : c.next s = (item, moved)) : moved.Settled := by
  have next : (c.next s).2.Settled := by
    cases c with
    | fixed items => cases items <;> trivial
    | chars text => cases text <;> trivial
    | forward r index =>
      rw [Cursor.next]
      split <;> trivial
    | backward r remaining => cases remaining <;> trivial
    | live | numbered | rows => exact settled.elim
  rwa [stepped] at next

/-- **Whatever happens to the store**, settled cursors go on through the items that were ahead of
them. -/
theorem account_settled (items : List Item) :
    Account Store.Evolves fun s count c => c.Settled ∧ Leaves items s count c where
  lasts said _ := ⟨said.1, (said.1.ahead_eq _ _).trans said.2⟩
  yields said stepped := ⟨Settled.step said.1 stepped, said.2.yields stepped⟩
  exhausts said stepped := ⟨Settled.step said.1 stepped, said.2.exhausts stepped⟩

/-- The cursor stands in the list, behind as many items as it has yielded. -/
structure Stands (place : Nat) (s : Store) (count : Nat) (c : Cursor) : Prop where
  eq : c = .live place count
  inside : place < s.lists.size
  within : count ≤ (s.items place).size

theorem next_live (s : Store) (place count : Nat) :
    (next s (.live place count)).1 = ((s.items place)[count]?).map .object := by
  rw [next]
  split
  case h_1 v found => rw [found, Option.map_some]
  case h_2 found => rw [found, Option.map_none]

/-- **Whatever happens to a list**, a cursor in it stands behind as many items as it has yielded. -/
theorem account_live (place : Nat) : Account Store.Evolves (Stands place) where
  lasts said evolves :=
    ⟨said.eq, Nat.lt_of_lt_of_le said.inside evolves.covers.lists,
      Nat.le_trans said.within (evolves.longer place)⟩
  yields said stepped := by
    obtain ⟨rfl, inside, _⟩ := said
    rw [next] at stepped
    split at stepped <;> cases stepped
    case h_1 v found => exact ⟨rfl, inside, (Array.getElem?_eq_some_iff.mp found).1⟩
  exhausts said stepped := by
    obtain ⟨rfl, inside, within⟩ := said
    rw [next] at stepped
    split at stepped <;> cases stepped
    exact ⟨rfl, inside, within⟩

end Cursor

/-- A cursor at the start of the value holds all that it will yield. -/
def Value.settled : Value → Bool
  | .dict _ | .str .. | .tuple .. | .range .. | .reversed .. | .reversedRange .. => true
  | _ => false

theorem Store.exists_settled_cursor (s : Store) {v : Value} (settled : v.settled = true) :
    ∃ c, s.cursor v = .ok c ∧ c.Settled := by
  cases v with
  | dict | str | tuple | range | reversed | reversedRange => exact ⟨_, rfl, trivial⟩
  | _ => cases settled

/-! ### Whole runs -/

namespace Machine

variable {m : Machine} {name : String}

/-- Some program reaches the machine. -/
def Reachable (m : Machine) : Prop :=
  ∃ (mode : SinkMode) (program : Program), (start mode).runs program = m

/-- Every machine that some program reaches has every trait. -/
theorem Reachable.ofMachine (reachable : m.Reachable) (trait : Trait) : trait.OfMachine m := by
  obtain ⟨mode, program, rfl⟩ := reachable
  exact runs_sound (trait.ofMachine_start mode) program

theorem Reachable.sound (reachable : m.Reachable) : m.Sound := reachable.ofMachine Trait.proper

/-- An operand of a sound machine is proper, and what it leads to is sound. -/
theorem operand_sound (sound : m.Sound) {on : Operand} {v : Value} {made : Machine}
    (ran : m.withoutOutput.perform (on.make m.bindings) = (.ok v, made)) :
    made.Sound ∧ made.world.store.Proper v := by
  obtain ⟨growth, proper, same⟩ :=
    perform_ok (m := m.withoutOutput) (Operand.make_safe on sound.store sound.bindings) ran
  refine ⟨?_, proper⟩
  rw [same]
  exact sound.withoutOutput.grown growth

/-- Where every step only lets the store grow, so does the program. -/
theorem grows_runs {program : Program} (grows : m.Throughout (Relates Store.Grows) program) :
    m.world.store.Grows (m.runs program).world.store := by
  induction program generalizing m with
  | nil => exact .refl _
  | cons first rest ih => exact grows.1.trans (ih grows.2)

/-- An account that holds of a cursor at the start of a value holds of it after every program, with
all that the program has taken from it. -/
theorem account_iterate {related : Store → Store → Prop} {tells : Store → Nat → Cursor → Prop}
    (account : Account related tells) (sound : m.Sound) {on : Operand} {v : Value} {made : Machine}
    (ran : m.withoutOutput.perform (on.make m.bindings) = (.ok v, made)) {c : Cursor}
    (opened : made.world.store.cursor v = .ok c) (said : tells made.world.store 0 c)
    {target : Option String} {during : Program}
    (relates : (m.run target (.iterate on name)).2.Throughout (Relates related) during)
    (kept : (m.run target (.iterate on name)).2.Throughout (Keeps name) during) :
    ∃ c', lookup name ((m.run target (.iterate on name)).2.runs during).cursors = some c' ∧
      tells ((m.run target (.iterate on name)).2.runs during).world.store
        ((m.run target (.iterate on name)).2.yielded name during).length c' := by
  have reached := (run_iterate ran opened name target).2
  have found : lookup name (m.run target (.iterate on name)).2.cursors = some c := by
    rw [reached]
    exact lookup_rebind_self name c made.cursors
  have started : tells (m.run target (.iterate on name)).2.world.store 0 c := by
    rw [reached]
    exact said
  have counted := account_runs account (run_sound sound target _) found started relates kept
  rwa [Nat.zero_add] at counted

/-- **Where nothing changes, every cursor yields the elements of its value.** A cursor is opened on
a value that can be traversed; then comes any program that opens no other cursor of its name and
changes no list and no dict that is there, though it may move this cursor and all others. After it,
a step of the cursor answers the element that is numbered by how many it has yielded, or that there
is none left, and the length and the truth of the value are those of its elements. -/
theorem cursor_yields_elements (reachable : m.Reachable) {on : Operand} {v : Value} {made : Machine}
    (ran : m.withoutOutput.perform (on.make m.bindings) = (.ok v, made))
    (iterable : v.iterable = true) (target again : Option String) (during : Program)
    (spared : (m.run target (.iterate on name)).2.Throughout Spares during)
    (kept : (m.run target (.iterate on name)).2.Throughout (Keeps name) during) :
    let opened := m.run target (.iterate on name)
    let now := opened.2.runs during
    let elements := made.world.store.elements v
    opened.1.outcome = .ok .nothing ∧
      (now.run again (.next name)).1.outcome =
        .ok (.ofItem now.world.store elements[(opened.2.yielded name during).length]?) ∧
      now.world.store.length? v = some elements.length ∧
      (now.world.store.truthy v = true ↔ elements ≠ []) := by
  intro opened now elements
  have sound := reachable.sound
  obtain ⟨sound', proper⟩ := operand_sound sound ran
  obtain ⟨c, started, traversed⟩ := Store.exists_cursor sound'.store proper iterable
  obtain ⟨outcome, reached⟩ := run_iterate ran started name target
  have said : c.Proper made.world.store ∧ Cursor.Leaves elements made.world.store 0 c :=
    ⟨traversed, Store.cursor_elements v started⟩
  have unchanged := grows_throughout (run_sound sound target (.iterate on name)) spared
  obtain ⟨c', found, _, leaves⟩ :=
    account_iterate (Cursor.account_proper elements) sound ran started said unchanged kept
  have grows : made.world.store.Grows now.world.store := by
    have same : opened.2.world = made.world := by rw [reached]
    exact same ▸ grows_runs unchanged
  have soundNow : now.Sound := runs_sound (run_sound sound target _) during
  obtain ⟨_, later, _⟩ :=
    Store.exists_cursor soundNow.store (proper.mono grows.covers) iterable
  -- The length and the truth are asked for at the end, of elements that were there at the start.
  refine ⟨outcome, ?_, ?_, ?_⟩
  · rw [run_next_outcome found, leaves.next_eq]
  · rw [Store.length?_elements v later, proper.elements_eq grows]
  · rw [Store.truthy_elements later, proper.elements_eq grows, Bool.not_eq_true',
      List.isEmpty_eq_false_iff]

/-- A list of two numbers and a text of three letters. -/
def prepared : Machine :=
  (start .accepting).runs
    [(some "numbers", .bind (.list [.int 1, .int 2])),
      (some "letters", .bind (.str ['a', 'b', 'c']))]

/-- Rows of the numbers, from the last to the first and numbered themselves, of the letters, and of
a range from ten down to five. -/
def numberedRows : Operand :=
  .call "zip"
    [.call "enumerate" [.call "reversed" [.variable "numbers"], .int 5], .variable "letters",
      .call "range" [.int 10, .int 4, .int (-3)]]

/-- The range has two integers. -/
theorem integers_downward : (⟨10, 4, -3, by decide⟩ : Range).integers = [10, 7] := by
  have first : (⟨10, 4, -3, by decide⟩ : Range).progression 10 = [10, 7] := by
    rw [Range.progression, dif_pos (by decide), Range.progression, dif_pos (by decide),
      Range.progression, dif_neg (by decide)]
    rfl
  exact congrArg (List.map Int64.ofInt) first

/-- A cursor in the rows moves in turn with one in the numbers. -/
def interleaved : Program :=
  [(none, .iterate (.variable "numbers") "numbers"), (some "row", .next "rows"),
    (some "number", .next "numbers"), (none, .next "numbers"), (none, .next "numbers")]

/-- The cursor in the rows goes on with the second of them, whatever the other cursor does. -/
theorem cursor_yields_elements_interleaved :
    ∃ v made, prepared.Reachable ∧
      prepared.withoutOutput.perform (numberedRows.make prepared.bindings) = (.ok v, made) ∧
      v.iterable = true ∧
      (prepared.run none (.iterate numberedRows "rows")).2.Throughout Spares interleaved ∧
      (prepared.run none (.iterate numberedRows "rows")).2.Throughout (Keeps "rows") interleaved ∧
      made.world.store.elements v =
        [.row [.numbered 5 (.object (.int 1 2)), .char 'a', .int 10],
          .row [.numbered 6 (.object (.int 0 1)), .char 'b', .int 7]] ∧
      (((prepared.run none (.iterate numberedRows "rows")).2.runs interleaved).run none
        (.next "rows")).1.outcome =
          .ok (.value (.tuple 20 [.tuple 17 [.int 16 6, .int 0 1], .str 18 ['b'], .int 19 7])) := by
  have reachable : prepared.Reachable := ⟨.accepting, _, rfl⟩
  have spared : (prepared.run none (.iterate numberedRows "rows")).2.Throughout Spares
      interleaved := ⟨.inl rfl, .inl rfl, .inl rfl, .inl rfl, .inl rfl, trivial⟩
  have kept : (prepared.run none (.iterate numberedRows "rows")).2.Throughout (Keeps "rows")
      interleaved := ⟨rfl, rfl, rfl, rfl, rfl, trivial⟩
  let rows : Value := .zip 10 [.enumerate 5 (.reversed 3 [.int 1 2, .int 0 1]) 5,
    .str 2 ['a', 'b', 'c'], .range 9 ⟨10, 4, -3, by decide⟩]
  have elements (s : Store) : s.elements rows =
      [.row [.numbered 5 (.object (.int 1 2)), .char 'a', .int 10],
        .row [.numbered 6 (.object (.int 0 1)), .char 'b', .int 7]] := by
    simp only [rows, Store.elements, Store.elementsAll, integers_downward]
    rfl
  have ran : prepared.withoutOutput.perform (numberedRows.make prepared.bindings) =
      (.ok rows, _) := rfl
  refine ⟨rows, _, reachable, ran, rfl, spared, kept, elements _, ?_⟩
  have count : ((prepared.run none (.iterate numberedRows "rows")).2.yielded "rows"
    interleaved).length = 1 := rfl
  have next : ((prepared.run none (.iterate numberedRows "rows")).2.runs
    interleaved).world.store.next = 16 := rfl
  have yielded := (cursor_yields_elements reachable ran rfl none none interleaved spared kept).2.1
  rw [elements, count] at yielded
  refine yielded.trans (congrArg Except.ok ?_)
  simp only [List.getElem?_cons_succ, List.getElem?_cons_zero, Answer.ofItem, Item.create,
    Item.createAll, Store.create, next]

/-- A step of a cursor in a list answers what the list holds at its place. -/
theorem run_next_live {place count : Nat} (found : lookup name m.cursors = some (.live place count))
    (target : Option String) : (m.run target (.next name)).1.outcome =
      .ok (.ofObject (m.world.store.items place)[count]?) := by
  rw [run_next_outcome found, Cursor.next_live, Answer.ofItem_object]

/-- **A cursor at the end of a list goes on** with a value that is appended. -/
theorem run_next_appended (sound : m.Sound) {place count : Nat}
    (found : lookup name m.cursors = some (.live place count))
    (inside : place < m.world.store.lists.size) (done : (m.world.store.items place).size = count)
    {on item : Operand} {v : Value} {made : Machine}
    (ran : m.withoutOutput.perform (Operand.makeAll m.bindings [on, item]) =
      (.ok [.list place, v], made)) (target again : Option String) :
    ((m.run target (.append on item)).2.run again (.next name)).1.outcome = .ok (.value v) := by
  have kept : m.Keeps name target (.append on item) := rfl
  have stays := (lookup_run sound kept nofun).trans found
  rw [run_next_live stays, items_run_append sound ran inside, ← done, Array.getElem?_push_size]
  rfl

/-- **Whatever changes, cursors in lists follow them, and cursors in other things do not.** A cursor
is opened on a value; then comes any program that opens no other cursor of its name. If the value is
a list, a step of the cursor answers what the list then holds behind as many items as the cursor has
yielded; there is nothing left exactly if the list is no longer than that, and then it goes on with
a value that is appended next. If the value is a dict, it answers the keys that the dict had when
the cursor was opened; and in a text, a tuple, a range or something reversed, the elements that
there were then. -/
theorem cursor_follows_source (reachable : m.Reachable) {on : Operand} {v : Value} {made : Machine}
    (ran : m.withoutOutput.perform (on.make m.bindings) = (.ok v, made))
    (target again : Option String) (during : Program)
    (kept : (m.run target (.iterate on name)).2.Throughout (Keeps name) during) :
    let opened := (m.run target (.iterate on name)).2
    let now := opened.runs during
    let count := (opened.yielded name during).length
    let answer := (now.run again (.next name)).1.outcome
    (∀ place, v = .list place →
      count ≤ (now.world.store.items place).size ∧
      answer = .ok (.ofObject (now.world.store.items place)[count]?) ∧
      (answer = .ok .exhausted ↔ (now.world.store.items place).size ≤ count) ∧
      ∀ (other item : Operand) (u : Value) (filled : Machine) (target' : Option String),
        answer = .ok .exhausted →
        now.withoutOutput.perform (Operand.makeAll now.bindings [other, item]) =
          (.ok [.list place, u], filled) →
        ((now.run target' (.append other item)).2.run again (.next name)).1.outcome =
          .ok (.value u)) ∧
    (∀ place, v = .dict place →
      answer = .ok (.ofObject (made.world.store.contents place).keys[count]?)) ∧
    (v.settled = true →
      answer = .ok (.ofItem now.world.store (made.world.store.elements v)[count]?)) := by
  intro opened now count answer
  have sound := reachable.sound
  have soundOpened : opened.Sound := run_sound sound target _
  have soundNow : now.Sound := runs_sound soundOpened during
  have evolves := evolves_throughout soundOpened during
  have settled (fixed : v.settled = true) :
      answer = .ok (.ofItem now.world.store (made.world.store.elements v)[count]?) := by
    obtain ⟨c, started, holds⟩ := made.world.store.exists_settled_cursor fixed
    obtain ⟨c', found, _, leaves⟩ := account_iterate (Cursor.account_settled _) sound ran started
      ⟨holds, Store.cursor_elements v started⟩ evolves kept
    exact (run_next_outcome found again).trans (by rw [leaves.next_eq])
  refine ⟨?_, ?_, settled⟩
  · rintro place rfl
    have inside : place < made.world.store.lists.size := by
      cases (operand_sound sound ran).2 with
      | list inside => exact inside
    have started : made.world.store.cursor (.list place) = .ok (.live place 0) := rfl
    obtain ⟨c', found, rfl, inside', within⟩ := account_iterate (Cursor.account_live place) sound
      ran started ⟨rfl, inside, Nat.zero_le _⟩ evolves kept
    have answered : answer = .ok (.ofObject (now.world.store.items place)[count]?) :=
      run_next_live found again
    have exhausted : answer = .ok .exhausted ↔ (now.world.store.items place).size ≤ count := by
      rw [answered, Except.ok.injEq, Answer.ofObject_eq_exhausted_iff, Array.getElem?_eq_none_iff]
    refine ⟨within, answered, exhausted, fun other item u filled target' done ran' => ?_⟩
    exact run_next_appended soundNow found inside' (Nat.le_antisymm (exhausted.mp done) within) ran'
      target' again
  · rintro place rfl
    rw [settled rfl, Store.elements, List.getElem?_map, Answer.ofItem_object]

/-- A list changes while a cursor moves through it to the end. -/
def changing : Program :=
  [(none, .next "numbers"), (none, .append (.variable "numbers") (.int 7)),
    (none, .setItem (.variable "numbers") (.int 1) (.int 8)), (none, .next "numbers"),
    (none, .next "numbers"), (none, .next "numbers")]

/-- The cursor has seen the changes, and it goes on with what is appended after the end. -/
theorem cursor_follows_source_changing :
    ∃ v made, prepared.Reachable ∧
      prepared.withoutOutput.perform (Operand.make prepared.bindings (.variable "numbers")) =
        (.ok v, made) ∧
      (prepared.run none (.iterate (.variable "numbers") "numbers")).2.Throughout (Keeps "numbers")
        changing ∧
      (prepared.run none (.iterate (.variable "numbers") "numbers")).2.yielded "numbers" changing =
        [.int 0 1, .int 5 8, .int 3 7] ∧
      ((((prepared.run none (.iterate (.variable "numbers") "numbers")).2.runs changing).run none
        (.append (.variable "numbers") .null)).2.run none (.next "numbers")).1.outcome =
          .ok (.value (.null 6)) := by
  have reachable : prepared.Reachable := ⟨.accepting, _, rfl⟩
  have kept : (prepared.run none (.iterate (.variable "numbers") "numbers")).2.Throughout
      (Keeps "numbers") changing := ⟨rfl, rfl, rfl, rfl, rfl, rfl, trivial⟩
  obtain ⟨_, _, exhausted, resumes⟩ :=
    (cursor_follows_source reachable rfl none none changing kept).1 0 rfl
  refine ⟨_, _, reachable, rfl, kept, rfl, ?_⟩
  exact resumes (.variable "numbers") .null _ _ none (exhausted.mpr (by decide)) rfl

end Machine

end CallConsole
