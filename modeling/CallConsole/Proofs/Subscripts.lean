/-
**Subscripts.**

A position is an integer or a boolean and counts from the front, or from behind the end if it is
negative. Reading at a position yields what a traversal yields there; writing to it changes what is
read at this position and nothing else. A dict is written to under a key, and read under all keys
that equal it:

* `position_of_counts`: the index that a position stands for;
* `Action.getItem_sequence`: what is read from a list, a tuple or a string;
* `Action.answer_getItem_assigned`, `Action.answer_getItem_inserted`: what is read after a write;
* `Action.subscript_laws`: all of these.
-/

import CallConsole.Proofs.Changes
import CallConsole.Proofs.Frames
import CallConsole.Proofs.KeyClasses
import CallConsole.Subscript

namespace CallConsole

/-! ### Positions -/

/-- The integer counts to the index among so many items: from the front on, or from behind the end
if it is negative. -/
def Counts (n : Int) (length k : Nat) : Prop :=
  k < length ∧ (k : Int) = if 0 ≤ n then n else length + n

instance (n : Int) (length k : Nat) : Decidable (Counts n length k) :=
  inferInstanceAs (Decidable (_ ∧ _))

/-- An integer counts to an index exactly within these bounds. -/
theorem exists_counts_iff {n : Int} {length : Nat} :
    (∃ k, Counts n length k) ↔ -(length : Int) ≤ n ∧ n < length := by
  unfold Counts
  constructor
  · rintro ⟨k, inside, index⟩
    split at index <;> omega
  · rintro ⟨least, most⟩
    refine ⟨(if 0 ≤ n then n else length + n).toNat, ?_⟩
    split <;> omega

/-- What stands for an integer is an integer or a boolean. -/
theorem Value.integer?_eq_none_iff {v : Value} :
    v.integer? = none ↔ v.type ≠ .int ∧ v.type ≠ .bool := by
  cases v <;> simp [integer?, type]

section Position

variable {indexed : Indexed} {length : Nat} {index : Value} {n : Integer}

/-- **A position stands for the index that its integer counts to.** -/
theorem position_of_counts (integer : index.integer? = some n) {k : Nat}
    (counts : Counts n.toInt length k) : position indexed length index = .ok k := by
  obtain ⟨inside, reached⟩ := counts
  have resolved : (if n.toInt < 0 then n.toInt + (length : Int) else n.toInt) = k := by
    split at reached <;> split <;> omega
  rw [position, integer]
  simp only [resolved]
  rw [if_pos (by omega), Int.toNat_natCast]

/-- An integer that counts to no index is out of range. -/
theorem position_of_not_counts (integer : index.integer? = some n)
    (outside : ¬ ∃ k, Counts n.toInt length k) :
    position indexed length index = .error (.indexOutOfRange indexed) := by
  rw [exists_counts_iff] at outside
  rw [position, integer]
  refine if_neg fun inside => outside ?_
  split at inside <;> omega

/-- Something else than an integer or a boolean is no position. -/
theorem position_of_none (other : index.integer? = none) :
    position indexed length index = .error (.indexNotInteger indexed index.type) := by
  rw [position, other]

/-- **The answer follows the position.** It succeeds exactly where the position is an integer or a
boolean within the bounds. Anything else has the wrong type, and all other integers are wrong
values; then the store is as before. -/
structure Subscripted {α : Type} (s : Store) (length : Nat) (index : Value)
    (answer : EStateM.Result Cause Store α) : Prop where
  succeeds : (∃ a s', answer = .ok a s') ↔
    ∃ n, index.integer? = some n ∧ -(length : Int) ≤ n.toInt ∧ n.toInt < length
  mismatches : (∃ cause, answer = .error cause s ∧ cause.kind = .typeMismatch) ↔
    index.type ≠ .int ∧ index.type ≠ .bool
  misses : (∃ cause, answer = .error cause s ∧ cause.kind = .value) ↔
    ∃ n, index.integer? = some n ∧ ¬ (-(length : Int) ≤ n.toInt ∧ n.toInt < length)

/-- What fails as the position does, and succeeds at an index, follows the position. -/
theorem Subscripted.of_position {α : Type} {s : Store} {answer : EStateM.Result Cause Store α}
    (indexed : Indexed)
    (found : ∀ n k, index.integer? = some n → Counts n.toInt length k → ∃ a s', answer = .ok a s')
    (failed : ∀ cause, position indexed length index = .error cause → answer = .error cause s) :
    Subscripted s length index answer := by
  cases integer : index.integer? with
  | none =>
    have mismatch := failed _ (position_of_none integer)
    have types := Value.integer?_eq_none_iff.mp integer
    subst mismatch
    exact {
      succeeds := by simp [integer]
      mismatches := iff_of_true ⟨_, rfl, rfl⟩ types
      misses := by simp [integer, Cause.kind] }
  | some n =>
    have types : ¬ (index.type ≠ .int ∧ index.type ≠ .bool) := by
      rw [← Value.integer?_eq_none_iff, integer]
      exact nofun
    by_cases inside : ∃ k, Counts n.toInt length k
    · obtain ⟨k, counts⟩ := inside
      obtain ⟨a, s', rfl⟩ := found n k integer counts
      have bounds := exists_counts_iff.mp ⟨k, counts⟩
      exact {
        succeeds := iff_of_true ⟨a, s', rfl⟩ ⟨n, integer, bounds⟩
        mismatches := iff_of_false nofun types
        misses := by simp [integer, bounds] }
    · have miss := failed _ (position_of_not_counts integer inside)
      rw [exists_counts_iff] at inside
      subst miss
      exact {
        succeeds := by simpa [integer] using inside
        mismatches := iff_of_false (by simp [Cause.kind]) types
        misses := iff_of_true ⟨_, rfl, rfl⟩ ⟨n, integer, inside⟩ }

end Position

/-! ### Texts of keys -/

namespace Store

mutual

/-- **The text of a value with a slot** is the same in every store. -/
theorem reprInside_of_slot (s s' : Store) (active active' : List Identity) {v : Value} {slot : Slot}
    (hashed : Slot.of? v = .ok slot) : s.reprInside active v = s'.reprInside active' v := by
  cases v with
  | null | int | float | str => rw [reprInside, reprInside]
  | bool id b => cases b <;> rw [reprInside, reprInside]
  | tuple id items =>
    obtain ⟨slots, all, _⟩ := Slot.of?_tuple.mp hashed
    rw [reprInside, reprInside, reprItems_of_slots s s' active active' all]
  | list | dict | range | reversed | reversedRange | enumerate | zip => cases hashed
termination_by sizeOf v

/-- The texts of values with slots are the same in every store. -/
theorem reprItems_of_slots (s s' : Store) (active active' : List Identity) {items : List Value}
    {slots : List Slot} (hashed : Slot.ofItems? items = .ok slots) :
    s.reprItems active items = s'.reprItems active' items := by
  match items with
  | [] => rw [reprItems, reprItems]
  | item :: rest =>
    obtain ⟨first, others, head, tail, _⟩ := Slot.ofItems?_cons.mp hashed
    rw [reprItems, reprItems, reprInside_of_slot s s' active active' head,
      reprItems_of_slots s s' active active' tail]
termination_by sizeOf items

end

end Store

/-! ### Sequences -/

/-- An item is found at an index inside. -/
theorem itemAt_of_counts (indexed : Indexed) {items : List Value} {index : Value} {n : Integer}
    (integer : index.integer? = some n) {k : Nat} (counts : Counts n.toInt items.length k) :
    ∃ v, items[k]? = some v ∧ itemAt indexed items index = .ok v := by
  have there := List.getElem?_eq_getElem counts.1
  refine ⟨_, there, ?_⟩
  rw [itemAt, position_of_counts integer counts]
  simp only [there]

namespace Action

variable {s s' : Store} {place : Nat} {index key other x : Value}

/-- What an action answers in a store, without what it makes of the store. -/
def answer {α : Type} (action : Action α) (s : Store) : Except Cause α :=
  match action s with
  | .ok a _ => .ok a
  | .error cause _ => .error cause

/-- **The answer reads among the items**: it makes the item at the index that the position stands
for, or fails as the position does and makes nothing. -/
structure Reads (s : Store) (items : List Item) (index : Value)
    (answer : EStateM.Result Cause Store Value) : Prop where
  yields : ∀ n k, index.integer? = some n → Counts n.toInt items.length k →
    ∃ item, items[k]? = some item ∧ answer = .ok (item.create s).1 (item.create s).2
  fails : ∃ indexed, ∀ cause, position indexed items.length index = .error cause →
    answer = .error cause s

theorem Reads.subscripted {items : List Item} {answer : EStateM.Result Cause Store Value}
    (reads : Reads s items index answer) : Subscripted s items.length index answer := by
  obtain ⟨indexed, fails⟩ := reads.fails
  refine .of_position indexed (fun n k integer counts => ?_) fails
  obtain ⟨item, _, found⟩ := reads.yields n k integer counts
  exact ⟨_, _, found⟩

/-- Objects are read as they are. -/
theorem reads_objects (indexed : Indexed) (items : List Value) :
    Reads s (items.map .object) index (tryRead (fun _ => itemAt indexed items index) s) where
  yields n k integer counts := by
    rw [List.length_map] at counts
    obtain ⟨v, there, found⟩ := itemAt_of_counts indexed integer counts
    refine ⟨.object v, ?_, ?_⟩
    · rw [List.getElem?_map, there, Option.map_some]
    · exact tryRead_of_ok found
  fails := by
    refine ⟨indexed, fun cause failed => tryRead_of_error ?_⟩
    rw [List.length_map] at failed
    rw [itemAt, failed]

/-- Characters are read as new strings. -/
theorem reads_chars (text : List Char) :
    Reads s (text.map .char) index (characterAt text index s) where
  yields n k integer counts := by
    rw [List.length_map] at counts
    have inside := counts.1
    have there := List.getElem?_eq_getElem inside
    refine ⟨.char text[k], ?_, ?_⟩
    · rw [List.getElem?_map, there, Option.map_some]
    · rw [characterAt, position_of_counts integer counts, Item.create]
      simp only [there]
      rfl
  fails := by
    refine ⟨.string, fun cause failed => ?_⟩
    rw [List.length_map] at failed
    rw [characterAt, failed]
    rfl

/-- **Reading at a position of a sequence** yields what a traversal from its start yields there. -/
theorem getItem_sequence {v : Value} (sequence : v.type ∈ [.list, .tuple, .str]) :
    ∃ c, s.cursor v = .ok c ∧ ∀ index, Reads s (c.drain s) index (getItem v index s) := by
  cases v with
  | list place =>
    refine ⟨_, rfl, fun index => ?_⟩
    rw [Cursor.drain_live]
    exact reads_objects .list _
  | tuple id items =>
    refine ⟨_, rfl, fun index => ?_⟩
    rw [Cursor.drain_fixed]
    exact reads_objects .tuple _
  | str id text =>
    refine ⟨_, rfl, fun index => ?_⟩
    rw [Cursor.drain_eq, Cursor.ahead]
    exact reads_chars text
  | _ => simp [Value.type] at sequence

/-! ### Writing to lists -/

theorem setItem_list_of_counts (x : Value) {n : Integer} (integer : index.integer? = some n)
    {k : Nat} (counts : Counts n.toInt (s.items place).size k) :
    setItem (.list place) index x s = .ok () (s.changeList place (·.setIfInBounds k x)) :=
  EStateM.bind_of_ok (tryRead_of_ok (position_of_counts integer counts)) _

/-- **Writing to a list follows the position.** -/
theorem setItem_list (s : Store) (place : Nat) (index x : Value) :
    Subscripted s (s.items place).size index (setItem (.list place) index x s) :=
  .of_position .listAssignment
    (fun _ _ integer counts => ⟨_, _, setItem_list_of_counts x integer counts⟩)
    fun _ failed => EStateM.bind_of_error (tryRead_of_error failed) _

/-- A write to a list replaces the item at the index. -/
theorem items_of_setItem {n : Integer} (integer : index.integer? = some n) {k : Nat}
    (counts : Counts n.toInt (s.items place).size k)
    (written : setItem (.list place) index x s = .ok () s') :
    s'.items place = (s.items place).setIfInBounds k x := by
  have there : place < s.lists.size := by
    by_contra outside
    have none := congrArg List.length (Store.items_eq_nil outside)
    rw [Array.length_toList, List.length_nil] at none
    have inside := counts.1
    omega
  cases (setItem_list_of_counts x integer counts).symm.trans written
  rw [Store.items_changeList, if_pos ⟨rfl, there⟩]

/-- What a list answers at a position. -/
theorem answer_getItem_list {n : Integer} (integer : index.integer? = some n) {k : Nat}
    (counts : Counts n.toInt (s.items place).size k) :
    ∃ v, (s.items place)[k]? = some v ∧ answer (getItem (.list place) index) s = .ok v := by
  rw [← Array.length_toList] at counts
  obtain ⟨v, there, found⟩ := itemAt_of_counts .list integer counts
  refine ⟨v, by rwa [Array.getElem?_toList] at there, ?_⟩
  rw [answer, getItem, tryRead_of_ok found]

/-- **After a write to a list**, the position that was written to holds the new item, and every
other one what it held before. -/
theorem answer_getItem_assigned {n m : Integer} (integer : index.integer? = some n) {k : Nat}
    (counts : Counts n.toInt (s.items place).size k)
    (written : setItem (.list place) index x s = .ok () s')
    (integer' : other.integer? = some m) {l : Nat}
    (counts' : Counts m.toInt (s.items place).size l) :
    answer (getItem (.list place) other) s' =
      if l = k then .ok x else answer (getItem (.list place) other) s := by
  have items := items_of_setItem integer counts written
  have again : Counts m.toInt (s'.items place).size l := by
    rwa [items, Array.size_setIfInBounds]
  obtain ⟨v, there, found⟩ := answer_getItem_list integer' again
  rw [found]
  rw [items, Array.getElem?_setIfInBounds] at there
  split at there
  case isTrue same =>
    rw [if_pos same.symm]
    rw [if_pos counts.1] at there
    cases there
    rfl
  case isFalse different =>
    obtain ⟨old, before, held⟩ := answer_getItem_list integer' counts'
    rw [if_neg fun same => different same.symm, held]
    rw [before] at there
    cases there
    rfl

/-! ### Writing to dicts -/

/-- What a dict answers to a key with a slot. -/
theorem answer_getItem_dict {slot : Slot} (hashed : Slot.of? key = .ok slot) :
    answer (getItem (.dict place) key) s =
      match (s.contents place).valueAt? slot with
      | some v => .ok v
      | none => .error (.keyNotFound (s.repr key)) := by
  rw [answer, getItem, valueOf, tryRead, Dict.get?, hashed, Except.map]
  cases (s.contents place).valueAt? slot <;> rfl

/-- **After a write to a dict**, every key without NaN that equals the one written under finds the
new value, and every other one what it found before. -/
theorem answer_getItem_inserted (there : s.HasObject (.dict place))
    (written : setItem (.dict place) key x s = .ok () s') (hashable : ¬ other.Unhashable)
    (free : s.NanFree other) :
    answer (getItem (.dict place) other) s' =
      if s.equal other key then .ok x else answer (getItem (.dict place) other) s := by
  obtain ⟨slot, hashed⟩ := Store.slot_of_hashable hashable
  cases hashedKey : Slot.of? key with
  | error cause => cases (setItem_dict_of_error s place hashedKey x).symm.trans written
  | ok slot' =>
    cases (setItem_dict_of_ok s place hashedKey x).symm.trans written
    have agree := Slot.slot_eq_iff_of_left hashed hashedKey free
    have text (d : Dict) : (s.replaceDict place d).repr other = s.repr other :=
      Store.reprInside_of_slot _ _ _ _ hashed
    rw [answer_getItem_dict hashed, answer_getItem_dict hashed, text, Store.contents_replaceDict,
      if_pos ⟨rfl, there⟩, Dict.valueAt?_put]
    by_cases same : slot = slot'
    · rw [if_pos same, if_pos (agree.mp same)]
    · rw [if_neg same, if_neg (mt agree.mpr same)]

/-! ### The laws -/

/-- **The laws of subscripts.** Reading from a list, a tuple or a string succeeds exactly where the
position is an integer or a boolean within the bounds, and yields what a traversal from its start
yields at the index; otherwise the type does not match or the value is wrong. Writing to a list
succeeds under the same condition and leaves its length; then the index holds the new item, and
every other one what it held. A write that fails changes nothing. After a write to a dict, every key
without NaN that equals the one written under finds the new value, and every other one what it found
before. -/
theorem subscript_laws (s : Store) :
    (∀ v : Value, v.type ∈ [.list, .tuple, .str] → ∃ c, s.cursor v = .ok c ∧
      ∀ index, Subscripted s (c.drain s).length index (getItem v index s) ∧
        ∀ n k, index.integer? = some n → Counts n.toInt (c.drain s).length k →
          ∃ item, (c.drain s)[k]? = some item ∧
            getItem v index s = .ok (item.create s).1 (item.create s).2) ∧
    (∀ place index x, Subscripted s (s.items place).size index (setItem (.list place) index x s) ∧
      ∀ s', setItem (.list place) index x s = .ok () s' →
        (s'.items place).size = (s.items place).size ∧
        ∀ n k, index.integer? = some n → Counts n.toInt (s.items place).size k →
          ∀ other m l, other.integer? = some m → Counts m.toInt (s.items place).size l →
            answer (getItem (.list place) other) s' =
              if l = k then .ok x else answer (getItem (.list place) other) s) ∧
    (∀ on index x sink failure w',
      (Run.act (setItem on index x)).outcome ⟨s, sink⟩ = (.error failure, w') → w' = ⟨s, sink⟩) ∧
    ∀ place key x s', s.HasObject (.dict place) → setItem (.dict place) key x s = .ok () s' →
      ∀ other, ¬ other.Unhashable → s.NanFree other →
        answer (getItem (.dict place) other) s' =
          if s.equal other key then .ok x else answer (getItem (.dict place) other) s := by
  refine ⟨?sequences, ?lists, ?failures, ?dicts⟩
  case sequences =>
    intro v sequence
    obtain ⟨c, opened, reads⟩ := getItem_sequence (s := s) sequence
    exact ⟨c, opened, fun index => ⟨(reads index).subscripted, (reads index).yields⟩⟩
  case lists =>
    intro place index x
    refine ⟨setItem_list s place index x, fun s' written => ⟨?_, ?_⟩⟩
    · obtain ⟨n, integer, bounds⟩ := (setItem_list s place index x).succeeds.mp ⟨_, _, written⟩
      obtain ⟨k, counts⟩ := exists_counts_iff.mpr bounds
      rw [items_of_setItem integer counts written, Array.size_setIfInBounds]
    · intro n k integer counts other m l integer' counts'
      exact answer_getItem_assigned integer counts written integer' counts'
  case failures =>
    intro on index x sink failure w' failed
    obtain ⟨_, _, ran, _, rfl⟩ := Run.error_of_act (Run.error_of_outcome failed)
    rw [unchanged_of_setItem ran]
  case dicts =>
    intro place key x s' there written other hashable free
    exact answer_getItem_inserted there written hashable free

/-- A store with the list `[None, None]` and the dict `{1: 'a', 2: 'b'}`. -/
def pairedStore : Store where
  lists := #[#[.null 0, .null 1]]
  dicts := #[.after [(.int 2 1, .str 3 ['a']), (.int 4 2, .str 5 ['b'])]]
  next := 6

theorem subscript_laws_paired :
    getItem (.str 6 ['a', 'é']) (.int 7 (-1)) pairedStore =
      .ok (.str 6 ['é']) { pairedStore with next := 7 } ∧
    (∃ s', setItem (.list 0) (.int 7 (-1)) (.null 8) pairedStore = .ok () s' ∧
      answer (getItem (.list 0) (.bool 9 true)) s' = .ok (.null 8) ∧
      answer (getItem (.list 0) (.int 10 0)) s' =
        answer (getItem (.list 0) (.int 10 0)) pairedStore) ∧
    (∃ failure w', (Run.act (setItem (.list 0) (.int 7 2) (.null 8))).outcome
      ⟨pairedStore, Sink.empty⟩ = (.error failure, w') ∧ w' = ⟨pairedStore, Sink.empty⟩) ∧
    ∃ s', setItem (.dict 0) (.float 7 ⟨0x3ff0000000000000⟩) (.null 8) pairedStore = .ok () s' ∧
      answer (getItem (.dict 0) (.bool 9 true)) s' = .ok (.null 8) ∧
      answer (getItem (.dict 0) (.int 10 2)) s' =
        answer (getItem (.dict 0) (.int 10 2)) pairedStore := by
  obtain ⟨sequences, lists, failures, dicts⟩ := subscript_laws pairedStore
  refine ⟨?_, ?_, ?_, ?_⟩
  · obtain ⟨c, opened, reads⟩ := sequences (.str 6 ['a', 'é']) (by decide)
    cases opened
    rw [Cursor.drain_eq, Cursor.ahead] at reads
    obtain ⟨item, there, found⟩ := (reads (.int 7 (-1))).2 (-1) 1 rfl (by decide)
    cases there
    exact found
  · obtain ⟨subscripted, after⟩ := lists 0 (.int 7 (-1)) (.null 8)
    obtain ⟨_, s', written⟩ := subscripted.succeeds.mpr ⟨-1, rfl, by decide⟩
    have reads := (after s' written).2 (-1) 1 rfl (by decide)
    exact ⟨s', written, reads (.bool 9 true) 1 1 rfl (by decide),
      reads (.int 10 0) 0 0 rfl (by decide)⟩
  · obtain ⟨subscripted, _⟩ := lists 0 (.int 7 2) (.null 8)
    obtain ⟨cause, failed, _⟩ := subscripted.misses.mpr ⟨2, rfl, by decide⟩
    have outcome := Run.outcome_act_of_error (w := ⟨pairedStore, Sink.empty⟩) failed
    exact ⟨_, _, outcome, failures _ _ _ _ _ _ outcome⟩
  · have one : Slot.of? (.float 7 ⟨0x3ff0000000000000⟩) = .ok (.int 1) := by decide +kernel
    have written := setItem_dict_of_ok pairedStore 0 one (.null 8)
    have free : pairedStore.NanFree (.bool 9 true) ∧ pairedStore.NanFree (.int 10 2) :=
      ⟨Store.nanFree_number rfl rfl, Store.nanFree_number rfl rfl⟩
    have same := Slot.slot_eq_iff_of_left (x := .int 1) rfl one free.1
    have apart := Slot.slot_eq_iff_of_left (x := .int 2) rfl one free.2
    have reads := dicts 0 (.float 7 ⟨0x3ff0000000000000⟩) (.null 8) _ Nat.zero_lt_one written
    refine ⟨_, written, ?_, ?_⟩
    · rw [reads _ (by decide) free.1, if_pos (same.mp rfl)]
    · rw [reads _ (by decide) free.2, if_neg (mt apart.mpr (by decide))]

end Action

end CallConsole
