/-
**Reversal.**

`reversed` takes down the elements of its argument from the last to the first, or turns a range
around without making them. Either way the result holds all that it will ever yield:

* `Value.captures_of_settled`: a value that holds its items yields them at all times;
* `Builtin.reversedOf_turns`: what one call makes of the items;
* `Builtin.reversedTimes_turns`: what nested calls make of them, by induction on their number;
* `Builtin.reversed_captures`: all of this.
-/

import CallConsole.Proofs.CursorRuns
import CallConsole.Proofs.Frames
import CallConsole.Proofs.RangeElements
import CallConsole.Proofs.Runs
import CallConsole.Proofs.Similarity
import Mathlib.Data.List.Forall2

namespace CallConsole

/-! ### Items -/

/-- The items after they have been turned around so many times. -/
def turned {α : Type} (count : Nat) (items : List α) : List α :=
  if count % 2 = 0 then items else items.reverse

theorem turned_succ {α : Type} (count : Nat) (items : List α) :
    turned (count + 1) items = (turned count items).reverse := by
  unfold turned
  by_cases even : count % 2 = 0
  · rw [if_pos even, if_neg (by omega)]
  · rw [if_neg even, if_pos (by omega), List.reverse_reverse]

theorem length_turned {α : Type} (count : Nat) (items : List α) :
    (turned count items).length = items.length := by
  unfold turned
  split
  · rfl
  · exact List.length_reverse

/-- The second item is the first one, or the string that was made of its character. -/
inductive Item.Shows : Item → Item → Prop
  | same (item : Item) : Shows item item
  | made (c : Char) (id : Nat) : Shows (.char c) (.object (.str id [c]))

theorem Item.Shows.trans {first second third : Item} (shows₁ : first.Shows second)
    (shows₂ : second.Shows third) : first.Shows third := by
  cases shows₁ with
  | same => exact shows₂
  | made c id =>
    cases shows₂ with
    | same => exact .made c id

/-- The strings made of characters show them. -/
theorem Item.exists_createAll_chars (s : Store) (text : List Char) :
    ∃ vs s', Item.createAll s (text.map .char) = (vs, s') ∧
      List.Forall₂ Item.Shows (text.map .char) (vs.map .object) := by
  have made := forall₂_createAll s (text.map .char)
  refine ⟨_, _, rfl, ?_⟩
  rw [List.forall₂_map_left_iff] at made ⊢
  rw [List.forall₂_map_right_iff]
  refine made.imp fun c v object => ?_
  obtain ⟨s', rfl⟩ := object
  exact .made c s'.next

/-! ### Values that hold what they yield -/

/-- A traversal of the value passes the items. -/
def Store.Passes (s : Store) (v : Value) (items : List Item) : Prop :=
  ∃ c, s.cursor v = .ok c ∧ c.drain s = items

theorem Store.Passes.elements_eq {s : Store} {v : Value} {items : List Item}
    (passes : s.Passes v items) : s.elements v = items := by
  obtain ⟨c, opened, rfl⟩ := passes
  rw [Cursor.drain_eq, Store.cursor_elements v opened]

theorem Store.Passes.length?_eq {s : Store} {v : Value} {items : List Item}
    (passes : s.Passes v items) : s.length? v = some items.length := by
  have elements := passes.elements_eq
  obtain ⟨c, opened, _⟩ := passes
  rw [Store.length?_elements v opened, elements]

/-- **The value yields the items at all times.** In every store a traversal passes them, and they
are counted. In every machine that a program has reached, a cursor can be opened on the value; then,
whatever a program does that opens no other cursor of its name, a step of the cursor answers the
item that is numbered by how many it has yielded, or that there is none left. -/
structure Value.Captures (v : Value) (items : List Item) : Prop where
  passes : ∀ s : Store, s.Passes v items
  length : ∀ s : Store, s.length? v = some items.length
  answers : ∀ {m : Machine} {on : Operand} {made : Machine} (name : String)
    (target again : Option String) (during : Program), m.Reachable →
    m.withoutOutput.perform (on.make m.bindings) = (.ok v, made) →
    let opened := m.run target (.iterate on name)
    let now := opened.2.runs during
    opened.2.Throughout (Machine.Keeps name) during →
    opened.1.outcome = .ok .nothing ∧
      (now.run again (.next name)).1.outcome =
        .ok (.ofItem now.world.store items[(opened.2.yielded name during).length]?)

/-- **A value that holds its items yields them at all times.** -/
theorem Value.captures_of_settled {v : Value} {items : List Item} (settled : v.settled = true)
    (passes : ∀ s : Store, s.Passes v items) : v.Captures items where
  passes := passes
  length s := (passes s).length?_eq
  answers := by
    intro m on made name target again during reachable ran opened now kept
    have sound := reachable.sound
    have evolves := Machine.evolves_throughout
      (Machine.run_sound sound target (.iterate on name)) during
    obtain ⟨c, started, holds⟩ := made.world.store.exists_settled_cursor settled
    have leaves : Cursor.Leaves items made.world.store 0 c :=
      (Store.cursor_elements v started).trans (passes _).elements_eq
    obtain ⟨c', found, _, left⟩ := Machine.account_iterate (Cursor.account_settled items) sound ran
      started ⟨holds, leaves⟩ evolves kept
    refine ⟨(Machine.run_iterate ran started name target).1, ?_⟩
    rw [Machine.run_next_outcome found, left.next_eq]

namespace Value

theorem captures_reversed (id : Nat) (vs : List Value) :
    (reversed id vs).Captures (vs.map .object) :=
  captures_of_settled rfl fun s => ⟨.fixed vs, rfl, Cursor.drain_fixed s vs⟩

theorem captures_range (id : Nat) (r : Range) : (range id r).Captures (r.integers.map .int) := by
  refine captures_of_settled rfl fun s => ⟨.forward r 0, rfl, ?_⟩
  rw [Cursor.drain_eq, Cursor.ahead, List.drop_zero]

theorem captures_reversedRange (id : Nat) (r : Range) :
    (reversedRange id r).Captures (r.integers.map .int).reverse := by
  refine captures_of_settled rfl fun s => ⟨.backward r r.length, rfl, ?_⟩
  rw [Cursor.drain_eq, Cursor.ahead, List.map_reverse, ← Range.integers_eq]

end Value

/-! ### Calls -/

namespace Builtin

variable {s : Store} {v : Value} {items : List Item}

/-- The types of what can be turned around. -/
def reversibleTypes : List TypeName := [.list, .tuple, .str, .range, .reversed]

/-- The value yields the items of another one from the last to the first, at all times. They are
the same items, except that the characters of a string have been made strings. -/
structure Turns (v : Value) (items : List Item) (r : Value) (others : List Item) : Prop where
  shows : List.Forall₂ Item.Shows items.reverse others
  same : v.type ≠ .str → others = items.reverse
  captures : r.Captures others
  type : r.type ∈ [.range, .reversed]

/-- The objects that are taken down turn the items around that they show. -/
theorem turns_snapshot {vs : List Value} {s' : Store} (taken : Action.elements v s = .ok vs s')
    (snapshot : reversedOf v = (do
      let items ← Action.elements v
      Action.make (·.create (.reversed · items.reverse))))
    (shown : List.Forall₂ Item.Shows items (vs.map .object))
    (same : v.type ≠ .str → vs.map .object = items) :
    ∃ r s' others, reversedOf v s = .ok r s' ∧ Turns v items r others := by
  refine ⟨.reversed s'.next vs.reverse, (s'.create (.reversed · vs.reverse)).2, _, ?_, {
    shows := List.rel_reverse shown
    same := fun other => congrArg List.reverse (same other)
    captures := ?_
    type := List.mem_of_mem_tail (List.mem_singleton_self _) }⟩
  · rw [snapshot, EStateM.bind_of_ok taken]
    rfl
  · rw [← List.map_reverse]
    exact Value.captures_reversed _ _

/-- **What one call makes of the items** that a traversal passes. -/
theorem reversedOf_turns (reversible : v.type ∈ reversibleTypes) (passes : s.Passes v items) :
    ∃ r s' others, reversedOf v s = .ok r s' ∧ Turns v items r others := by
  have refl (items : List Item) : List.Forall₂ Item.Shows items items :=
    List.forall₂_same.mpr fun item _ => .same item
  obtain rfl := passes.elements_eq
  cases v with
  | list place =>
    have taken := Action.elements_objects (s := s) (v := .list place) rfl
    exact turns_snapshot taken rfl (refl _) fun _ => rfl
  | tuple id vs =>
    have taken := Action.elements_objects (s := s) (v := .tuple id vs) rfl
    exact turns_snapshot taken rfl (refl _) fun _ => rfl
  | reversed id vs =>
    have taken : Action.elements (.reversed id vs) s = .ok vs s := by
      rw [Action.elements_of_cursor rfl, Cursor.drain_fixed, Item.createAll_objects]
    exact turns_snapshot taken rfl (refl _) fun _ => rfl
  | str id text =>
    obtain ⟨vs, s', made, shown⟩ := Item.exists_createAll_chars s text
    have taken : Action.elements (.str id text) s = .ok vs s' := by
      rw [Action.elements_of_cursor rfl, Cursor.drain_eq, Cursor.ahead, made]
    exact turns_snapshot taken rfl shown fun other => absurd rfl other
  | range id r =>
    exact ⟨_, _, _, rfl, refl _, fun _ => rfl, Value.captures_reversedRange s.next r,
      List.mem_of_mem_tail (List.mem_singleton_self _)⟩
  | reversedRange id r =>
    have back : (s.elements (.reversedRange id r)).reverse = r.integers.map .int := by
      rw [Store.elements, List.map_reverse, List.reverse_reverse]
    refine ⟨_, _, _, rfl, refl _, fun _ => rfl, ?_, List.mem_cons_self⟩
    rw [back]
    exact Value.captures_range s.next r
  | _ => simp [Value.type, reversibleTypes] at reversible

/-- A call of `reversed` is what it does with its argument. -/
theorem outcome_reversed (w : World) (v : Value) :
    (invoke "reversed" [v]).outcome w = (Run.act (reversedOf v)).outcome w := by
  have found : find? "reversed" = some .reversed := rfl
  exact outcome_invoke found nofun rfl

/-- So many nested calls of `reversed`. -/
def reversedTimes : Nat → Value → Run Value
  | 0, v => pure v
  | count + 1, v => do
    let r ← reversedTimes count v
    invoke "reversed" [r]

/-- The value yields the items of another one, turned around so many times. If it is another value,
it does so at all times. -/
structure TurnsTimes (count : Nat) (s : Store) (v : Value) (items : List Item) (r : Value)
    (others : List Item) : Prop where
  shows : List.Forall₂ Item.Shows (turned count items) others
  same : v.type ≠ .str → others = turned count items
  passes : s.Passes r others
  captures : 0 < count → r.Captures others
  reversible : r.type ∈ reversibleTypes
  notText : v.type ≠ .str → r.type ≠ .str

/-- **What nested calls make of the items** that a traversal passes. -/
theorem reversedTimes_turns {w : World} (reversible : v.type ∈ reversibleTypes)
    (passes : w.store.Passes v items) (count : Nat) :
    ∃ r w' others, (reversedTimes count v).outcome w = (.ok r, w') ∧
      TurnsTimes count w'.store v items r others := by
  induction count with
  | zero =>
    exact ⟨v, w, items, rfl, {
      shows := List.forall₂_same.mpr fun item _ => .same item
      same := fun _ => rfl
      passes := passes
      captures := nofun
      reversible := reversible
      notText := id }⟩
  | succ count ih =>
    obtain ⟨r, w', others, ran, before⟩ := ih
    obtain ⟨r', s', others', called, turns⟩ := reversedOf_turns before.reversible before.passes
    have kinds : ∀ type ∈ [TypeName.range, .reversed], type ∈ reversibleTypes ∧ type ≠ .str := by
      decide
    refine ⟨r', { w' with store := s' }, others', ?_, {
      shows := ?shows
      same := ?same
      passes := turns.captures.passes s'
      captures := fun _ => turns.captures
      reversible := (kinds _ turns.type).1
      notText := fun _ => (kinds _ turns.type).2 }⟩
    · have done : ((reversedTimes count v).outcome w).1 = .ok r := congrArg Prod.fst ran
      rw [reversedTimes, Run.outcome_bind_of_ok done, ran, outcome_reversed,
        Run.outcome_act_of_ok called]
    case shows =>
      rw [turned_succ]
      have shown := Store.forall₂_trans (List.rel_reverse before.shows) turns.shows
      exact shown.imp fun _ _ ⟨_, first, second⟩ => first.trans second
    case same =>
      intro other
      rw [turned_succ, turns.same (before.notText other), before.same other]

/-! ### Ranges -/

/-- **A range is turned around without making its integers**: nested calls only make the range
again, or a range to be walked from its end. -/
theorem reversedTimes_range (w : World) (id : Nat) (r : Range) (count : Nat) :
    ∃ id', (reversedTimes count (.range id r)).outcome w =
      (.ok (if count % 2 = 0 then .range id' r else .reversedRange id' r),
        { w with store := { w.store with next := w.store.next + count } }) := by
  induction count with
  | zero => exact ⟨id, rfl⟩
  | succ count ih =>
    obtain ⟨id', ran⟩ := ih
    have done := congrArg Prod.fst ran
    refine ⟨w.store.next + count, ?_⟩
    rw [reversedTimes, Run.outcome_bind_of_ok done, ran, outcome_reversed]
    by_cases even : count % 2 = 0
    · rw [if_pos even, if_neg (by omega)]
      rfl
    · rw [if_neg even, if_pos (by omega)]
      rfl

/-- The integers of a range, turned around so many times, are its exact terms. -/
theorem getElem?_turned_integers (r : Range) (count : Nat) {k : Nat} (inside : k < r.length) :
    ∃ x, (turned count (r.integers.map Item.int))[k]? = some (.int x) ∧
      x.toInt = r.term (if count % 2 = 0 then k else r.length - 1 - k) := by
  unfold turned
  split
  case isTrue =>
    refine ⟨r.element k, ?_, Range.toInt_element inside⟩
    rw [List.getElem?_map, Range.getElem?_integers inside, Option.map_some]
  case isFalse =>
    have opposite : r.length - 1 - k < r.length := by omega
    refine ⟨r.element (r.length - 1 - k), ?_, Range.toInt_element opposite⟩
    rw [List.getElem?_reverse (by rwa [List.length_map, Range.length_integers]), List.length_map,
      Range.length_integers, List.getElem?_map, Range.getElem?_integers opposite, Option.map_some]

/-! ### All of this -/

/-- **`reversed` captures and reverses.** A list, a tuple, a string, a range or something reversed
has elements, and any number of nested calls makes a value that yields them, turned around as many
times; of a string the characters, as strings. Their number is that of the elements. After one call
or more it yields them at all times, whatever happens to any object. For a range no integer is made
before it is asked for, and all of them are exact. For every other value a call fails, since the
type does not match. -/
theorem reversed_captures (w : World) (v : Value) :
    (v.type ∉ reversibleTypes → ∃ cause, cause.kind = .typeMismatch ∧
      (invoke "reversed" [v]).outcome w = (.error (.ofCause cause), w)) ∧
    (v.type ∈ reversibleTypes → ∃ elements, w.store.Passes v elements ∧
      ∀ count, ∃ r w' items, (reversedTimes count v).outcome w = (.ok r, w') ∧
        w'.store.Passes r items ∧
        List.Forall₂ Item.Shows (turned count elements) items ∧
        (v.type ≠ .str → items = turned count elements) ∧
        w'.store.length? r = w.store.length? v ∧
        (0 < count → r.Captures items) ∧
        ∀ id range, v = .range id range →
          (∃ id', r = if count % 2 = 0 then .range id' range else .reversedRange id' range) ∧
          w' = { w with store := { w.store with next := w.store.next + count } } ∧
          items.length = range.length ∧
          ∀ k < range.length, ∃ x, items[k]? = some (.int x) ∧
            x.toInt = range.term (if count % 2 = 0 then k else range.length - 1 - k)) := by
  constructor
  · intro other
    refine ⟨.notReversible v.type, rfl, ?_⟩
    rw [outcome_reversed]
    refine Run.outcome_act_of_error ?_
    cases v with
    | list | tuple | str | range | reversed | reversedRange =>
      simp [Value.type, reversibleTypes] at other
    | _ => rfl
  · intro reversible
    obtain ⟨c, opened⟩ : ∃ c, w.store.cursor v = .ok c := by
      cases v with
      | list | tuple | str | range | reversed | reversedRange => exact ⟨_, rfl⟩
      | _ => simp [Value.type, reversibleTypes] at reversible
    have passes : w.store.Passes v (c.drain w.store) := ⟨c, opened, rfl⟩
    refine ⟨_, passes, fun count => ?_⟩
    obtain ⟨r, w', items, ran, turns⟩ := reversedTimes_turns reversible passes count
    have length : w'.store.length? r = w.store.length? v := by
      rw [turns.passes.length?_eq, passes.length?_eq, ← turns.shows.length_eq, length_turned]
    refine ⟨r, w', items, ran, turns.passes, turns.shows, turns.same, length, turns.captures, ?_⟩
    rintro id range rfl
    obtain ⟨id', made⟩ := reversedTimes_range w id range count
    rw [ran] at made
    cases made
    have elements : items = turned count (range.integers.map .int) := by
      rw [turns.same nofun, ← passes.elements_eq, Store.elements]
    refine ⟨⟨id', rfl⟩, rfl, ?_, ?_⟩
    · rw [elements, length_turned, List.length_map, Range.length_integers]
    · rw [elements]
      exact fun k inside => getElem?_turned_integers range count inside

/-- Two numbers have been turned around, and have changed since. -/
def changedSince : Machine :=
  (Machine.start .accepting).runs
    [(some "numbers", .bind (.list [.int 1, .int 2])),
      (some "letters", .bind (.str ['a', 'b', 'c'])),
      (some "back", .call "reversed" [.variable "numbers"]),
      (none, .append (.variable "numbers") .null),
      (none, .setItem (.variable "numbers") (.int 0) .null)]

/-- The numbers change again while a cursor moves through them from the last to the first. -/
def changingStill : Program :=
  [(none, .next "back"), (none, .setItem (.variable "numbers") (.int 1) .null)]

theorem reversed_captures_changed :
    (∃ cause, cause.kind = .typeMismatch ∧ (invoke "reversed" [.dict 0]).outcome
      Machine.prepared.world = (.error (.ofCause cause), Machine.prepared.world)) ∧
    (∃ made, changedSince.Reachable ∧
      changedSince.withoutOutput.perform (Operand.make changedSince.bindings (.variable "back")) =
        (.ok (.reversed 3 [.int 1 2, .int 0 1]), made) ∧
      (((changedSince.run none (.iterate (.variable "back") "back")).2.runs changingStill).run none
        (.next "back")).1.outcome = .ok (.value (.int 0 1))) := by
  have reachable : changedSince.Reachable := ⟨.accepting, _, rfl⟩
  refine ⟨(reversed_captures Machine.prepared.world (.dict 0)).1 (by decide), ?_⟩
  obtain ⟨elements, passes, times⟩ :=
    (reversed_captures Machine.prepared.world (.list 0)).2 (by decide)
  obtain ⟨r, w', items, ran, _, _, same, _, captures, _⟩ := times 1
  obtain rfl := passes.elements_eq
  obtain rfl := same nofun
  have made : (reversedTimes 1 (.list 0)).outcome Machine.prepared.world =
      (.ok (.reversed 3 [.int 1 2, .int 0 1]), _) := rfl
  rw [made] at ran
  cases ran
  have looked : changedSince.withoutOutput.perform
      (Operand.make changedSince.bindings (.variable "back")) =
        (.ok (.reversed 3 [.int 1 2, .int 0 1]), changedSince.withoutOutput) := rfl
  have answers := (captures Nat.zero_lt_one).answers "back" none none changingStill reachable
    looked ⟨rfl, rfl, trivial⟩
  exact ⟨_, reachable, looked, answers.2⟩

end Builtin

end CallConsole
