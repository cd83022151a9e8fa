/-
**Every state that a program reaches is well formed.**

Unchanging objects are numbered in the order in which they are made, and hold only objects that were
there before them. So a chain of references that passes through no list and no dict leads to ever
smaller numbers, and comes to an end:

* `Trait.aged`: what is made of older objects is younger than they are;
* `Trait.OfMachine.has`: all that a machine has, has the traits of the machine;
* `Machine.Refers.rank_lt`: references of unchanging objects go down;
* `Store.Reaches.unchanging`: what can be found in a key of a dict never changes;
* `Machine.reachable_wellFormed`: what holds in every state that a program reaches.
-/

import CallConsole.Proofs.CursorRuns
import CallConsole.Proofs.KeyClasses

namespace CallConsole

/-! ### Older objects -/

namespace Value

/-- **The object has a smaller number**, if it has one, and what it holds is older than it is. -/
inductive Older : Nat → Value → Prop
  | list (n place : Nat) : Older n (.list place)
  | dict (n place : Nat) : Older n (.dict place)
  | object {n id : Nat} {v : Value} : v.identity = .object id → id < n →
      (∀ u ∈ v.parts, Older id u) → Older n v

variable {m n id : Nat} {v : Value}

theorem Older.mono (older : Older m v) (le : m ≤ n) : Older n v := by
  cases older with
  | list _ place => exact .list n place
  | dict _ place => exact .dict n place
  | object same less parts => exact .object same (Nat.lt_of_lt_of_le less le) parts

theorem Older.lt (older : Older n v) (same : v.identity = .object id) : id < n := by
  cases older with
  | list | dict => cases same
  | object own less parts =>
    cases own.symm.trans same
    exact less

theorem Older.parts (older : Older n v) (same : v.identity = .object id) :
    ∀ u ∈ v.parts, Older id u := by
  cases older with
  | list | dict => cases same
  | object own less parts =>
    cases own.symm.trans same
    exact parts

/-- What an object holds is as old as the object. -/
theorem Older.of_mem_parts (older : Older n v) : ∀ u ∈ v.parts, Older n u := by
  cases older with
  | list | dict => exact List.forall_mem_nil _
  | object same less parts => exact fun u member => (parts u member).mono (Nat.le_of_lt less)

/-- What is made of older objects is older than what comes next. -/
theorem Made.older (made : v.Made (Older id) id) : Older (id + 1) v :=
  .object made.identity (Nat.lt_succ_self id) made.parts

end Value

namespace Trait

/-- **Objects that are made later are younger** than all that they hold. -/
def aged : Trait where
  has s v := v.Older s.next
  lasts older more := older.mono more.next
  parts older := older.of_mem_parts
  made made := made.older
  list _ := .list _ _
  dict _ := .dict _ _

end Trait

/-! ### What a machine has -/

/-- The cursor holds the value, or stands in it. -/
inductive Cursor.Holds : Cursor → Value → Prop
  | live {place index : Nat} : Holds (.live place index) (.list place)
  | fixed {items : List Value} {v : Value} : v ∈ items → Holds (.fixed items) v
  | numbered {source : Cursor} {index : Integer} {v : Value} :
      Holds source v → Holds (.numbered source index) v
  | rows {sources : List Cursor} {c : Cursor} {v : Value} :
      c ∈ sources → Holds c v → Holds (.rows sources) v

namespace Machine

/-- **The machine has the value**: it is bound, a list or dict of the store, in a cursor, or held by
another value that the machine has. -/
inductive Has (m : Machine) : Value → Prop
  | bound {name : String} {v : Value} : (name, v) ∈ m.bindings → Has m v
  | list {place : Nat} : place < m.world.store.lists.size → Has m (.list place)
  | dict {place : Nat} : place < m.world.store.dicts.size → Has m (.dict place)
  | cursor {name : String} {c : Cursor} {v : Value} : (name, c) ∈ m.cursors → c.Holds v → Has m v
  | held {v u : Value} : Has m v → m.world.store.Holds v u → Has m u

/-- An object that the machine has holds another one. -/
inductive Refers (m : Machine) : Identity → Identity → Prop
  | holds {v u : Value} : m.Has v → m.world.store.Holds v u → Refers m v.identity u.identity

end Machine

namespace Trait

variable {trait : Trait} {s : Store} {v u : Value}

theorem OfCursor.has {c : Cursor} (held : trait.OfCursor s c) (holds : c.Holds v) :
    trait.has s v := by
  induction holds with
  | live =>
    cases held with
    | live _ has => exact has
  | fixed member =>
    cases held with
    | fixed all => exact all _ member
  | numbered _ ih =>
    cases held with
    | numbered _ inner => exact ih inner
  | rows member _ ih =>
    cases held with
    | rows each => exact ih (each _ member)

/-- **All that the machine has, has the trait** of the machine. -/
theorem OfMachine.has {m : Machine} (held : trait.OfMachine m) (has : m.Has v) :
    trait.has m.world.store v := by
  induction has with
  | bound member => exact held.bindings _ member
  | list inside => exact trait.list inside
  | dict inside => exact trait.dict inside
  | cursor member holds => exact (held.cursors _ member).has holds
  | held _ holds ih => exact has_of_holds held.store ih holds

end Trait

/-! ### References that go down -/

/-- Unchanging objects by their numbers, above all lists and dicts. -/
def Identity.rank : Identity → Nat
  | .object id => id + 1
  | .list _ | .dict _ => 0

/-- What an unchanging object holds is one of its parts. -/
theorem Store.Holds.mem_parts {s : Store} {v u : Value} {id : Nat} (holds : s.Holds v u)
    (same : v.identity = .object id) : u ∈ v.parts := by
  cases holds with
  | item | key | value => cases same
  | element member | reversed member | part member => exact member
  | source => exact List.mem_cons_self

/-- **A reference of an unchanging object leads to a list, a dict or an older object.** -/
theorem Machine.Refers.rank_lt {m : Machine} (held : Trait.aged.OfMachine m) {x y : Identity}
    (refers : m.Refers x y) {id : Nat} (unchanging : x = .object id) : y.rank < x.rank := by
  cases refers with
  | @holds v u has holds =>
    have older := (held.has has).parts unchanging u (holds.mem_parts unchanging)
    rw [unchanging]
    cases older with
    | list | dict => exact Nat.succ_pos id
    | object same less parts =>
      rw [same]
      exact Nat.succ_lt_succ less

namespace Machine

variable {m : Machine}

/-- A reference from an object that can never change. -/
def RefersUnchanging (m : Machine) (x y : Identity) : Prop :=
  (∃ id, x = .object id) ∧ m.Refers x y

theorem RefersUnchanging.rank_lt (held : Trait.aged.OfMachine m) {x y : Identity}
    (refers : m.RefersUnchanging x y) : y.rank < x.rank := by
  obtain ⟨⟨id, unchanging⟩, refers⟩ := refers
  exact refers.rank_lt held unchanging

/-- **Following references of unchanging objects comes to an end.** -/
theorem wellFounded_refers (held : Trait.aged.OfMachine m) :
    WellFounded fun y x => m.RefersUnchanging x y :=
  Subrelation.wf (RefersUnchanging.rank_lt held) (measure Identity.rank).wf

/-- **Every cycle of references passes through a list or a dict.** -/
theorem not_cycle (held : Trait.aged.OfMachine m) (x : Identity) :
    ¬ Relation.TransGen m.RefersUnchanging x x := by
  have lower {y : Identity} (path : Relation.TransGen m.RefersUnchanging x y) :
      y.rank < x.rank := by
    induction path with
    | single refers => exact refers.rank_lt held
    | tail _ refers ih => exact Nat.lt_trans (refers.rank_lt held) ih
  exact fun cycle => Nat.lt_irrefl _ (lower cycle)

end Machine

/-! ### Keys that never change -/

namespace Store

variable {s : Store} {v u : Value}

/-- What a value with a slot holds has a slot, too. -/
theorem Holds.hashed (holds : s.Holds v u) {slot : Slot} (hashed : Slot.of? v = .ok slot) :
    ∃ slot, Slot.of? u = .ok slot := by
  cases holds with
  | element member =>
    obtain ⟨slots, found, _⟩ := Slot.of?_tuple.mp hashed
    exact Slot.exists_of_mem_ofItems? found member
  | item | key | value | reversed | source | part => cases hashed

/-- **Nothing that can be found in a value with a slot is a list or a dict.** -/
theorem Reaches.unchanging (reached : s.Reaches v u) {slot : Slot}
    (hashed : Slot.of? v = .ok slot) : ∃ id, u.identity = .object id := by
  have found : ∃ slot, Slot.of? u = .ok slot := by
    induction reached with
    | refl => exact ⟨slot, hashed⟩
    | tail _ holds ih =>
      obtain ⟨slot, hashed⟩ := ih
      exact holds.hashed hashed
  obtain ⟨slot, hashed⟩ := found
  cases u with
  | list | dict => cases hashed
  | _ => exact ⟨_, rfl⟩

end Store

/-! ### Reachable states -/

namespace Machine

variable {m : Machine}

/-- **Every state that a program reaches is well formed**, whatever has failed on the way. The step
of a range is not zero, and what an `enumerate` or a `zip` goes through can be traversed. A value
counts as one that can be traversed only if it has a cursor and a length. A dict holds each of its
keys under the slot of the key; nothing in a key is a list or a dict, so that nothing that happens
later gives it another slot, and the dict keeps it there. Every cycle of references passes through a
list or a dict, and to follow references without passing one comes to an end. -/
theorem reachable_wellFormed (reachable : m.Reachable) :
    (∀ id r, m.Has (.range id r) ∨ m.Has (.reversedRange id r) → r.step ≠ 0) ∧
    (∀ id source start, m.Has (.enumerate id source start) → source.iterable = true) ∧
    (∀ id sources, m.Has (.zip id sources) → ∀ source ∈ sources, source.iterable = true) ∧
    (∀ v, m.Has v → v.iterable = true →
      ∃ c n, m.world.store.cursor v = .ok c ∧ m.world.store.length? v = some n) ∧
    (∀ place, ∀ e ∈ (m.world.store.contents place).entries,
      Slot.of? e.key = .ok e.slot ∧ (m.world.store.contents place).entryAt? e.slot = some e ∧
      (∀ v, m.world.store.Reaches e.key v → ∃ id, v.identity = .object id) ∧
      ∀ program, ∃ e', ((m.runs program).world.store.contents place).entryAt? e.slot = some e' ∧
        e'.key = e.key) ∧
    (WellFounded fun y x => m.RefersUnchanging x y) ∧
    ∀ x, ¬ Relation.TransGen m.RefersUnchanging x x := by
  have sound := reachable.sound
  have aged := reachable.ofMachine Trait.aged
  refine ⟨fun _ r _ => r.step_ne_zero, fun id source start has => ?_, fun id sources has => ?_,
    fun v has iterable => ?_, fun place e member => ?_, wellFounded_refers aged, not_cycle aged⟩
  · have proper : m.world.store.Proper (.enumerate id source start) := sound.has has
    cases proper with
    | enumerate _ _ _ iterable => exact iterable
  · have proper : m.world.store.Proper (.zip id sources) := sound.has has
    cases proper with
    | zip _ _ iterable => exact iterable
  · obtain ⟨c, opened, _⟩ := Store.exists_cursor sound.store (sound.has has) iterable
    exact ⟨c, _, opened, Store.length?_elements v opened⟩
  · have found := Dict.entryAt?_of_mem member
    refine ⟨e.hashed, found, fun v reached => reached.unchanging e.hashed, fun program => ?_⟩
    exact (runs_evolves sound program).keys place e.slot e found

/-- A list and a tuple that hold each other, something lazy that goes through both of them, and a
dict that holds it under a tuple. -/
def knotted : Program :=
  [(some "list", .bind (.list [])), (some "tuple", .bind (.tuple [.variable "list", .int 1])),
    (none, .append (.variable "list") (.variable "tuple")),
    (some "lazy", .call "enumerate" [.call "zip" [.variable "list", .variable "tuple"]]),
    (some "dict", .bind (.dict [(.tuple [.int 1, .str ['a']], .variable "lazy")])),
    (none, .append (.variable "list") (.variable "dict"))]

/-- The machine after that. -/
def tied : Machine := (start .accepting).runs knotted

/-- The lazy value, as the machine has it. -/
def lazyRows : Value := .enumerate 3 (.zip 2 [.list 0, .tuple 1 [.list 0, .int 0 1]]) 0

/-- The list and the tuple make a cycle. The lazy value that goes through them has a cursor and a
length, and the dict has its key for good. -/
theorem reachable_wellFormed_knotted :
    tied.Reachable ∧ tied.Refers (.list 0) (.object 1) ∧ tied.Refers (.object 1) (.list 0) ∧
      tied.Has lazyRows ∧ lazyRows.iterable = true ∧
      (∃ c n, tied.world.store.cursor lazyRows = .ok c ∧
        tied.world.store.length? lazyRows = some n) ∧
      ∃ e ∈ (tied.world.store.contents 0).entries, e.key = .tuple 6 [.int 4 1, .str 5 ['a']] ∧
        ∀ program, ∃ e', ((tied.runs program).world.store.contents 0).entryAt? e.slot = some e' ∧
          e'.key = e.key := by
  have reachable : tied.Reachable := ⟨.accepting, knotted, rfl⟩
  have list : tied.Has (.list 0) := .list Nat.zero_lt_one
  have item : .tuple 1 [.list 0, .int 0 1] ∈ tied.world.store.items 0 := by
    exact List.mem_toArray.mpr List.mem_cons_self
  have tuple : tied.Has (.tuple 1 [.list 0, .int 0 1]) := .held list (.item item)
  have lazyHas : tied.Has lazyRows :=
    .bound (List.mem_cons_of_mem _ List.mem_cons_self : ("lazy", lazyRows) ∈ tied.bindings)
  obtain ⟨_, _, _, traversed, keys, _⟩ := reachable_wellFormed reachable
  have entry : _ ∈ (tied.world.store.contents 0).entries := List.mem_cons_self
  exact ⟨reachable, .holds list (.item item), .holds tuple (.element List.mem_cons_self), lazyHas,
    rfl, traversed _ lazyHas rfl, _, entry, rfl, (keys 0 _ entry).2.2.2⟩

end Machine

end CallConsole
