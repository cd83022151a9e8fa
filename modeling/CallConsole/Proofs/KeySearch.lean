/-
**Looking up a key is searching for an equal one.**

A dict looks a key up by its slot, and never compares it with the keys that are there. Searching
them one by one for an equal key comes to the same:

* `yieldsEqual_dict`: the search goes through the keys of a dict;
* `contains_eq`, `getItem_eq`: membership and subscripting find the entry of an equal key;
* `lookup_is_linear_search`: which values have slots, when two slots are the same, and that lookups
  and the search agree because of it.
-/

import CallConsole.Proofs.KeyClasses
import CallConsole.Proofs.Traversal
import CallConsole.Subscript

namespace CallConsole

namespace Store

/-- **The linear search**: some element that a traversal yields equals the item. -/
def YieldsEqual (s : Store) (on item : Value) : Prop :=
  ∃ cursor, s.cursor on = .ok cursor ∧
    ∃ element ∈ cursor.drain s, s.equal (element.create s).1 item = true

/-- The first entry of a dict whose key equals the item. -/
def entryUnder? (s : Store) (place : Nat) (item : Value) : Option Entry :=
  (s.contents place).entries.find? fun e => s.equal e.key item

variable {s : Store} {place : Nat} {key : Value}

/-- A traversal of a dict goes through its keys. -/
theorem yieldsEqual_dict :
    s.YieldsEqual (.dict place) key ↔
      ∃ other ∈ (s.contents place).keys, s.equal other key = true := by
  constructor
  · rintro ⟨_, ⟨⟩, element, member, equal⟩
    rw [Cursor.drain_eq, Cursor.ahead] at member
    obtain ⟨other, inside, rfl⟩ := List.mem_map.mp member
    exact ⟨other, inside, equal⟩
  · rintro ⟨other, inside, equal⟩
    refine ⟨_, rfl, .object other, ?_, equal⟩
    rw [Cursor.drain_eq, Cursor.ahead]
    exact List.mem_map_of_mem inside

/-- The search succeeds exactly if an entry has an equal key. -/
theorem yieldsEqual_iff_isSome :
    s.YieldsEqual (.dict place) key ↔ (s.entryUnder? place key).isSome = true := by
  rw [yieldsEqual_dict, Dict.keys, entryUnder?, List.find?_isSome]
  constructor
  · rintro ⟨_, inside, equal⟩
    obtain ⟨e, member, rfl⟩ := List.mem_map.mp inside
    exact ⟨e, member, equal⟩
  · rintro ⟨e, member, equal⟩
    exact ⟨e.key, List.mem_map_of_mem member, equal⟩

section Lookup

variable (keys : ∀ other ∈ (s.contents place).keys, s.NanFree other) (hashable : ¬ key.Unhashable)
  (free : s.NanFree key)

include keys hashable free

/-- **Membership in a dict** is that of an equal key. -/
theorem contains_eq :
    s.contains (.dict place) key = .ok (s.entryUnder? place key).isSome := by
  obtain ⟨slot, hashed⟩ := slot_of_hashable hashable
  rw [contains, Dict.contains, hashed, Except.map, entryAt?_eq_find? hashed free keys, entryUnder?]

/-- **Subscripting a dict** yields the value of an equal key, or misses the key. -/
theorem getItem_eq :
    Action.getItem (.dict place) key s =
      match s.entryUnder? place key with
      | some e => .ok e.value s
      | none => .error (.keyNotFound (s.repr key)) s := by
  obtain ⟨slot, hashed⟩ := slot_of_hashable hashable
  rw [Action.getItem, Action.valueOf, Action.tryRead, Dict.get?, hashed, Except.map, Dict.valueAt?,
    entryAt?_eq_find? hashed free keys, entryUnder?]
  cases (s.contents place).entries.find? fun e => s.equal e.key key with
  | none => rfl
  | some e => rfl

end Lookup

/-- **Slots agree with equality, so lookups agree with the linear search.** Exactly the lists, dicts
and lazy sequences, and the tuples that hold one at any depth, have no slot. Of two values without
NaN that have slots, the slots are the same exactly if the values are equal. In a dict whose keys
are without NaN, a key without NaN that has a slot is a member exactly if some key that a traversal
yields equals it; then subscripting succeeds, and otherwise it fails for want of the key. -/
theorem lookup_is_linear_search (s : Store) :
    (∀ v : Value, (∃ cause, Slot.of? v = .error cause) ↔ v.Unhashable) ∧
    (∀ a b x y, s.NanFree a → s.NanFree b → Slot.of? a = .ok x → Slot.of? b = .ok y →
      (x = y ↔ s.equal a b = true)) ∧
    ∀ place key, (∀ other ∈ (s.contents place).keys, s.NanFree other) → ¬ key.Unhashable →
      s.NanFree key →
      (s.contains (.dict place) key = .ok true ↔ s.YieldsEqual (.dict place) key) ∧
      (s.contains (.dict place) key = .ok false ↔ ¬ s.YieldsEqual (.dict place) key) ∧
      ((∃ v, Action.getItem (.dict place) key s = .ok v s) ↔ s.YieldsEqual (.dict place) key) ∧
      (Action.getItem (.dict place) key s = .error (.keyNotFound (s.repr key)) s ↔
        ¬ s.YieldsEqual (.dict place) key) := by
  refine ⟨fun v => Slot.unhashable_iff.symm, fun a b x y freeA freeB first second =>
    Slot.slot_eq_iff_equal first second freeA freeB, fun place key keys hashable free => ?_⟩
  rw [contains_eq keys hashable free, getItem_eq keys hashable free, yieldsEqual_iff_isSome]
  cases s.entryUnder? place key <;> simp

/-- The key `(True, -0.0)`. -/
def truthKey : Value := .tuple 4 [.bool 2 true, .float 3 (.zero true)]

/-- A dict with the keys `2 ** 53` and `(True, -0.0)`. -/
def pairStore : Store where
  lists := #[]
  dicts := #[.after [(.int 0 9007199254740992, .str 1 ['a']), (truthKey, .str 5 ['b'])]]
  next := 6

/-- The key `(1.0, 0)`. -/
def pairKey : Value := .tuple 8 [.float 6 ⟨0x3ff0000000000000⟩, .int 7 0]

theorem lookup_is_linear_search_pair :
    ((∀ other ∈ (pairStore.contents 0).keys, pairStore.NanFree other) ∧ ¬ pairKey.Unhashable ∧
      pairStore.NanFree pairKey) ∧
    Slot.of? pairKey = Slot.of? truthKey ∧ pairStore.equal pairKey truthKey = true ∧
    pairStore.contains (.dict 0) pairKey = .ok true ∧ pairStore.YieldsEqual (.dict 0) pairKey ∧
    ∃ v, Action.getItem (.dict 0) pairKey pairStore = .ok v pairStore := by
  have keys : ∀ other ∈ (pairStore.contents 0).keys, pairStore.NanFree other := by
    intro other member
    rcases List.mem_pair.mp member with rfl | rfl
    · exact nanFree_of_forall not_false fun w holds => by cases holds
    · refine nanFree_numbers fun v member => ?_
      rcases List.mem_pair.mp member with rfl | rfl <;> exact ⟨_, rfl, by decide⟩
  have free : pairStore.NanFree pairKey := by
    refine nanFree_numbers fun v member => ?_
    rcases List.mem_pair.mp member with rfl | rfl <;> exact ⟨_, rfl, by decide⟩
  have hashable : ¬ pairKey.Unhashable := by decide
  have slots : Slot.of? pairKey = .ok (.tuple [.int 1, .int 0]) ∧
      Slot.of? truthKey = .ok (.tuple [.int 1, .int 0]) := by decide +kernel
  have equal := ((lookup_is_linear_search pairStore).2.1 pairKey truthKey _ _ free
    (keys truthKey (.tail _ List.mem_cons_self)) slots.1 slots.2).mp rfl
  have agree := (lookup_is_linear_search pairStore).2.2 0 pairKey keys hashable free
  have member : pairStore.contains (.dict 0) pairKey = .ok true := by decide +kernel
  have found := agree.1.mp member
  exact ⟨⟨keys, hashable, free⟩, slots.1.trans slots.2.symm, equal, member, found,
    agree.2.2.1.mpr found⟩

end Store

end CallConsole
