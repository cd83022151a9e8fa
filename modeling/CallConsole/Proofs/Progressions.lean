/-
**Ranges are exact arithmetic progressions.**

Three widths of integers meet in a range: its bounds are words, its length may need one bit more,
and the products on the way to an element need twice as many. None of this shows:

* `Range.map_toInt_integers`, `Range.monotone_integers`: the integers of a range are those of the
  progression, and go one way;
* `Builtin.elements_range`, `Builtin.outcome_list`: the elements of a range, made into a list;
* `Builtin.range_arithmetic_exact`: length, elements and listing are exact for all words;
* `Builtin.range_equal_iff`: ranges are equal exactly if they yield the same integers, or are equal
  as lists.
-/

import CallConsole.Proofs.Checked.Ranges
import CallConsole.Proofs.Equality
import CallConsole.Proofs.Evaluation
import CallConsole.Proofs.Frames

namespace CallConsole

/-! ### The integers of a range -/

namespace Range

variable (r : Range)

/-- The integers are those of the progression that come before the stop. -/
theorem map_toInt_integers : r.integers.map Int64.toInt = (List.range r.length).map r.term :=
  r.toInt_integers.trans r.progression_start

/-- **They go one way**, up or down with the step. -/
theorem monotone_integers : (r.integers.map Int64.toInt).Pairwise
    fun m n => if 0 < r.step.toInt then m < n else n < m := by
  have nonzero := r.step_toInt_ne_zero
  rw [map_toInt_integers, List.pairwise_map]
  refine List.pairwise_lt_range.imp fun {k l} less => ?_
  unfold term
  have apart : (l : Int) * r.step.toInt = k * r.step.toInt + (l - k) * r.step.toInt := by
    rw [← Int.add_mul]
    congr 1
    omega
  split
  case isTrue up =>
    have further : 0 < ((l : Int) - k) * r.step.toInt := Int.mul_pos (by omega) up
    omega
  case isFalse down =>
    have further : ((l : Int) - k) * r.step.toInt < 0 :=
      Int.mul_neg_of_pos_of_neg (by omega) (by omega)
    omega

/-- None of them comes twice. -/
theorem nodup_integers : r.integers.Nodup := by
  refine List.Pairwise.imp ?_ (List.pairwise_map.mp r.monotone_integers)
  rintro m n ordered rfl
  split at ordered <;> exact Int.lt_irrefl _ ordered

end Range

/-! ### Ranges as lists -/

/-- Integers are made one after another, with consecutive numbers. -/
theorem Item.createAll_ints (s : Store) (ns : List Integer) :
    Item.createAll s (ns.map .int) =
      (ns.mapIdx fun k n => .int (s.next + k) n, { s with next := s.next + ns.length }) := by
  induction ns generalizing s with
  | nil => rfl
  | cons n rest ih =>
    simp only [List.map_cons, createAll, create, Store.create, ih, List.mapIdx_cons,
      List.length_cons, Nat.add_zero, Nat.add_assoc, Nat.add_comm 1]

namespace Builtin

/-- **The elements of a range are its integers**, as new objects. -/
theorem elements_range (s : Store) (id : Nat) (r : Range) :
    Action.elements (.range id r) s = .ok (r.integers.mapIdx fun k n => .int (s.next + k) n)
      { s with next := s.next + r.length } := by
  have opened : s.cursor (.range id r) = .ok (.forward r 0) := rfl
  rw [Action.elements_of_cursor opened, Cursor.drain_eq, Cursor.ahead, List.drop_zero,
    Item.createAll_ints, Range.length_integers]

/-- A call of `list` is what it does with its argument. -/
theorem outcome_invoke_list (w : World) (v : Value) :
    (invoke "list" [v]).outcome w = (Run.act (listOf v)).outcome w := by
  have found : find? "list" = some .list := rfl
  have accepts : (arity .list).Accepts [v].length := ⟨Nat.zero_le 1, Nat.le_refl 1⟩
  exact outcome_invoke found nofun accepts

/-- **`list` makes a list of the elements.** -/
theorem outcome_list {w : World} {v : Value} {items : List Value} {s : Store}
    (taken : Action.elements v w.store = .ok items s) :
    (invoke "list" [v]).outcome w =
      (.ok (.list s.lists.size), { w with store := (s.createList items).2 }) := by
  refine (outcome_invoke_list w v).trans (Run.outcome_act_of_ok ?_)
  have expected := Action.expectIterable_of_elements taken "list"
  rw [listOf, EStateM.bind_of_ok expected, EStateM.bind_of_ok taken]
  rfl

/-- **The list of a range holds its integers.** -/
theorem list_range (w : World) (id : Nat) (r : Range) :
    ∃ w', (invoke "list" [.range id r]).outcome w = (.ok (.list w.store.lists.size), w') ∧
      w.store.Grows w'.store ∧ w'.store.lists.size = w.store.lists.size + 1 ∧
      (w'.store.items w.store.lists.size).toList =
        r.integers.mapIdx fun k n => .int (w.store.next + k) n := by
  have ran := outcome_list (elements_range w.store id r)
  have grown := invoke_grows w "list" [.range id r]
  rw [ran] at grown
  refine ⟨_, ran, grown, Array.size_push .., ?_⟩
  exact congrArg Array.toList ((Store.items_createList _ _ _).trans (if_pos rfl))

/-- **`range` of three bounds makes the range.** -/
theorem outcome_range (w : World) (i j k : Nat) (r : Range) :
    (invoke "range" [.int i r.start, .int j r.stop, .int k r.step]).outcome w =
      (.ok (.range w.store.next r), { w with store := (w.store.create (.range · r)).2 }) := by
  rw [Run.outcome, Console.invoke_range_three, Run.act, Console.rangeOf_bounds]
  rfl

/-- **Ranges are exact over all words.** For every start and stop and every step but zero, the
length found in words is the number of steps that stay before the stop, and fits a word without
sign; the elements are computed without overflow at every index that is a word, and are exactly the
start and so many steps inside the range; and `list` of a `range` holds these integers in their
order, which go one way and none of which comes twice. -/
theorem range_arithmetic_exact (r : Range) :
    (Checked.rangeLength r = .ok r.length ∧ r.length ≤ 2 ^ 64 - 1 ∧
      ∀ k : Nat, (if 0 < r.step.toInt then r.start.toInt + k * r.step.toInt < r.stop.toInt
        else r.stop.toInt < r.start.toInt + k * r.step.toInt) ↔ k < r.length) ∧
    (∀ index < 2 ^ 64, Checked.rangeElement r index = .ok (r.element index)) ∧
    (∀ index < r.length,
      (r.element index).toInt = r.start.toInt + index * r.step.toInt) ∧
    ∀ (w : World) (i j k : Nat), ∃ id w₁ place w₂,
      (invoke "range" [.int i r.start, .int j r.stop, .int k r.step]).outcome w =
        (.ok (.range id r), w₁) ∧
      (invoke "list" [.range id r]).outcome w₁ = (.ok (.list place), w₂) ∧
      ∃ ns : List Integer, (w₂.store.items place).toList =
          ns.mapIdx (fun count n => .int (w₁.store.next + count) n) ∧
        ns.map Int64.toInt = (List.range r.length).map
          (fun count : Nat => r.start.toInt + count * r.step.toInt) ∧
        (ns.map Int64.toInt).Pairwise (fun m n => if 0 < r.step.toInt then m < n else n < m) ∧
        ns.Nodup := by
  refine ⟨⟨Checked.rangeLength_eq r, Nat.le_sub_one_of_lt r.length_lt, r.before_stop_iff⟩,
    fun index => Checked.rangeElement_eq r, fun index => Range.toInt_element, ?_⟩
  intro w i j k
  obtain ⟨w₂, listed, _, _, items⟩ :=
    list_range { w with store := (w.store.create (.range · r)).2 } w.store.next r
  exact ⟨_, _, _, w₂, outcome_range w i j k r, listed, r.integers, items, r.map_toInt_integers,
    r.monotone_integers, r.nodup_integers⟩

/-- The range of all words but the last one. -/
def widestRange : Range := ⟨Int64.minValue, Int64.maxValue, 1, by decide⟩

/-- The widest range has the greatest length of all, and its last element is found. -/
theorem range_arithmetic_exact_widest :
    Checked.rangeLength widestRange = .ok (2 ^ 64 - 1) ∧
      (Checked.rangeElement widestRange (2 ^ 64 - 2)).map Int64.toInt = .ok (2 ^ 63 - 2) := by
  obtain ⟨⟨length, _, _⟩, word, inside, _⟩ := range_arithmetic_exact widestRange
  have count : widestRange.length = 2 ^ 64 - 1 := by decide
  refine ⟨count ▸ length, ?_⟩
  rw [word (2 ^ 64 - 2) (by decide)]
  exact congrArg Except.ok (inside (2 ^ 64 - 2) (by rw [count]; decide))

end Builtin

/-! ### Equality of ranges -/

namespace Store

variable {s : Store}

/-- Integers are equal if they are the same. -/
theorem equal_int_iff {i j : Nat} {m n : Integer} :
    s.equal (.int i m) (.int j n) = true ↔ m = n := by
  rw [equal_iff_matches]
  constructor
  · intro agree
    cases agree with
    | number first second same =>
      cases first
      cases second
      have tied : some (Ord.compare m.toInt n.toInt) = some .eq :=
        Number.order?_eq_some_eq_iff.mpr same
      exact Int64.toInt_inj.mp (Int.compare_eq_eq.mp (Option.some.inj tied))
    | lazy isLazy => exact absurd isLazy (Value.not_isLazy_of_number rfl)
  · rintro rfl
    exact .number rfl rfl ⟨rfl, rfl, rfl⟩

/-- Integers made one after another are equal item by item if they are the same integers. -/
theorem forall₂_equal_iff {ms ns : List Integer} (f g : Nat → Nat) :
    List.Forall₂ (s.equal · · = true) (ms.mapIdx fun k n => .int (f k) n)
      (ns.mapIdx fun k n => .int (g k) n) ↔ ms = ns := by
  induction ms generalizing ns f g with
  | nil => cases ns <;> simp
  | cons m ms ih =>
    cases ns with
    | nil => simp
    | cons n ns =>
      rw [List.mapIdx_cons, List.mapIdx_cons, List.forall₂_cons, equal_int_iff, List.cons.injEq]
      exact and_congr_right fun _ => ih (fun k => f (k + 1)) fun k => g (k + 1)

/-- Different lists of such integers are equal if they hold the same integers. -/
theorem equal_lists_iff {p q : Nat} (apart : p ≠ q) {ms ns : List Integer} {f g : Nat → Nat}
    (first : (s.items p).toList = ms.mapIdx fun k n => .int (f k) n)
    (second : (s.items q).toList = ns.mapIdx fun k n => .int (g k) n) :
    s.equal (.list p) (.list q) = true ↔ ms = ns := by
  rw [equal_iff_matches]
  constructor
  · intro agree
    cases agree with
    | number number => cases number
    | sameList => exact absurd rfl apart
    | list each =>
      rw [first, second] at each
      exact (forall₂_equal_iff f g).mp each
    | lazy isLazy => rcases isLazy with h | h | h <;> cases h
  · intro same
    refine .list ?_
    rw [first, second]
    exact (forall₂_equal_iff f g).mpr same

/-- **Ranges are equal if they run through the same integers.** -/
theorem equal_range_iff {i j : Nat} {first second : Range} :
    s.equal (.range i first) (.range j second) = true ↔ first.integers = second.integers := by
  rw [equal_iff_matches]
  constructor
  · intro agree
    cases agree with
    | number number => cases number
    | range _ _ same => exact same
    | lazy isLazy => rcases isLazy with h | h | h <;> cases h
  · exact .range i j

end Store

/-- **Two cursors yield the same items for good** if the same are ahead of them. -/
theorem Cursor.take_eq_iff {s : Store} {c c' : Cursor} :
    (∀ count, c.take s count = c'.take s count) ↔ c.ahead s = c'.ahead s := by
  simp only [take_eq]
  constructor
  · intro same
    have whole := same (max (c.ahead s).length (c'.ahead s).length)
    rwa [List.take_of_length_le (Nat.le_max_left _ _),
      List.take_of_length_le (Nat.le_max_right _ _)] at whole
  · intro same count
    rw [same]

/-- **Equality of ranges is equality of sequences.** Two ranges are equal exactly if a traversal of
the one yields the same integers as a traversal of the other, however far they go; and exactly if
the lists that `list` makes of them are equal. -/
theorem Builtin.range_equal_iff (w : World) (i j : Nat) (first second : Range) :
    (∃ c c', w.store.cursor (.range i first) = .ok c ∧ w.store.cursor (.range j second) = .ok c' ∧
      (w.store.equal (.range i first) (.range j second) = true ↔
        ∀ count, c.take w.store count = c'.take w.store count)) ∧
    ∃ p q w₁ w₂, (invoke "list" [.range i first]).outcome w = (.ok (.list p), w₁) ∧
      (invoke "list" [.range j second]).outcome w₁ = (.ok (.list q), w₂) ∧
      (w.store.equal (.range i first) (.range j second) = true ↔
        w₂.store.equal (.list p) (.list q) = true) := by
  constructor
  · refine ⟨.forward first 0, .forward second 0, rfl, rfl, ?_⟩
    rw [Store.equal_range_iff, Cursor.take_eq_iff, Cursor.ahead, Cursor.ahead, List.drop_zero,
      List.drop_zero]
    exact (List.map_injective_iff.mpr fun _ _ => Item.int.inj).eq_iff.symm
  · obtain ⟨w₁, listed, _, size, items⟩ := list_range w i first
    obtain ⟨w₂, listed', grows, _, items'⟩ := list_range w₁ j second
    refine ⟨_, _, w₁, w₂, listed, listed', ?_⟩
    have made : w.store.lists.size < w₁.store.lists.size := by rw [size]; exact Nat.lt_succ_self _
    rw [← grows.items_eq made] at items
    rw [Store.equal_range_iff, Store.equal_lists_iff (Nat.ne_of_lt made) items items']

end CallConsole
