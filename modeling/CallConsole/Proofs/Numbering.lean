/-
**Numbered elements.**

`enumerate` numbers the elements of a value from a start on. A number is a word, and behind the
largest one there is no other: the elements that come after it get the same number again, without a
failure. So the numbers are those that one expects exactly as long as they fit:

* `Integer.toInt_advance`, `Integer.nodup_advance_iff`: the numbers, and when none comes twice;
* `Numbers.of_createAll`: the pairs that are made of numbered elements;
* `Builtin.outcome_enumerate`, `Builtin.elements_of_list`: the two calls;
* `Builtin.list_enumerate`: what the list of all pairs holds.
-/

import CallConsole.Proofs.Progressions

namespace CallConsole

/-! ### Numbers -/

namespace Integer

/-- Each number is so many steps from the start, or the largest one. -/
theorem toInt_advance (n : Integer) (count : Nat) :
    (n.advance count).toInt = min (n.toInt + count) (2 ^ 63 - 1) := by
  have fits := n.fits_toInt
  unfold Fits at fits
  rw [advance, Int64.toInt_ofInt_of_le] <;> omega

/-- The numbers are exact as long as they fit. -/
theorem advance_exact_iff (n : Integer) (length : Nat) :
    (∀ k < length, (n.advance k).toInt = n.toInt + k) ↔ n.toInt + length ≤ 2 ^ 63 := by
  have fits := n.fits_toInt
  unfold Fits at fits
  simp only [toInt_advance]
  constructor
  · intro exact
    rcases Nat.eq_zero_or_pos length with rfl | some
    · omega
    · have last := exact (length - 1) (by omega)
      omega
  · intro room k inside
    omega

/-- **No number comes twice as long as they fit**, and the largest one does as soon as they do
not. -/
theorem nodup_advance_iff (n : Integer) (length : Nat) :
    ((List.range length).map fun k => some (n.advance k)).Nodup ↔
      n.toInt + length ≤ 2 ^ 63 := by
  have fits := n.fits_toInt
  unfold Fits at fits
  rw [List.nodup_map_iff_inj_on List.nodup_range]
  have same_iff (k l : Nat) : some (n.advance k) = some (n.advance l) ↔
      min (n.toInt + k) (2 ^ 63 - 1) = min (n.toInt + l) (2 ^ 63 - 1) := by
    rw [Option.some.injEq, ← Int64.toInt_inj, toInt_advance, toInt_advance]
  simp only [List.mem_range, same_iff]
  constructor
  · intro apart
    by_contra beyond
    have same := apart (length - 2) (by omega) (length - 1) (by omega) (by omega)
    omega
  · intro room k inside l inside' same
    omega

end Integer

/-! ### Pairs -/

/-- The number that a pair begins with. -/
def Value.index? : Value → Option Integer
  | .tuple _ (.int _ n :: _) => some n
  | _ => none

/-- **The pairs are the items with their numbers**, which go up from the start as far as integers
go. -/
structure Numbers (start : Integer) (items : List Item) (pairs : List Value) : Prop where
  length : pairs.length = items.length
  pair : ∀ (k : Nat) (item : Item), items[k]? = some item → ∃ id number s,
    pairs[k]? = some (.tuple id [.int number (start.advance k), (item.create s).1])

namespace Numbers

variable {start : Integer} {items : List Item} {pairs : List Value}

/-- **Numbered items are made into such pairs.** -/
theorem of_createAll (s : Store) (start : Integer) (items : List Item) :
    Numbers start items (Item.createAll s (numberedFrom start items)).1 := by
  have made := Item.forall₂_createAll s (numberedFrom start items)
  generalize (Item.createAll s (numberedFrom start items)).1 = pairs at made
  have length : (numberedFrom start items).length = items.length := List.length_mapIdx
  refine ⟨made.length_eq.symm.trans length, fun k item there => ?_⟩
  have inside : k < items.length := (List.getElem?_eq_some_iff.mp there).1
  have numbered : (numberedFrom start items)[k]? = some (.numbered (start.advance k) item) := by
    rw [numberedFrom, List.getElem?_mapIdx, there, Option.map_some]
  obtain ⟨within, same⟩ := List.getElem?_eq_some_iff.mp numbered
  have within' : k < pairs.length := made.length_eq ▸ within
  obtain ⟨s', pair⟩ := made.get within within'
  rw [List.get_eq_getElem, List.get_eq_getElem, same] at pair
  rw [List.getElem?_eq_getElem within', pair]
  exact ⟨_, _, _, rfl⟩

/-- The numbers of the pairs. -/
theorem map_index? (numbers : Numbers start items pairs) :
    pairs.map Value.index? = (List.range pairs.length).map fun k => some (start.advance k) := by
  refine List.ext_getElem? fun k => ?_
  rw [List.getElem?_map, List.getElem?_map]
  by_cases inside : k < pairs.length
  · have there := List.getElem?_eq_getElem (numbers.length ▸ inside : k < items.length)
    obtain ⟨id, number, s, pair⟩ := numbers.pair k _ there
    rw [pair, List.getElem?_range inside]
    rfl
  · have outside := Nat.le_of_not_lt inside
    rw [List.getElem?_eq_none outside,
      List.getElem?_eq_none (by rwa [List.length_range])]
    rfl

/-- **The numbers are exact exactly if they fit.** -/
theorem exact_iff (numbers : Numbers start items pairs) :
    (∀ (k : Nat) (pair : Value), pairs[k]? = some pair →
      ∃ n, pair.index? = some n ∧ n.toInt = start.toInt + k) ↔
    start.toInt + pairs.length ≤ 2 ^ 63 := by
  have index (k : Nat) (pair : Value) (there : pairs[k]? = some pair) :
      pair.index? = some (start.advance k) := by
    have inside := (List.getElem?_eq_some_iff.mp there).1
    have same := congrArg (·[k]?) numbers.map_index?
    simpa only [List.getElem?_map, there, List.getElem?_range inside, Option.map_some,
      Option.some.injEq] using same
  rw [← Integer.advance_exact_iff]
  constructor
  · intro exact k inside
    obtain ⟨n, found, value⟩ := exact k _ (List.getElem?_eq_getElem inside)
    rw [index k _ (List.getElem?_eq_getElem inside)] at found
    cases found
    exact value
  · intro exact k pair there
    exact ⟨_, index k pair there, exact k (List.getElem?_eq_some_iff.mp there).1⟩

/-- **No number comes twice exactly if they fit.** -/
theorem nodup_iff (numbers : Numbers start items pairs) :
    (pairs.map Value.index?).Nodup ↔ start.toInt + pairs.length ≤ 2 ^ 63 := by
  rw [numbers.map_index?]
  exact start.nodup_advance_iff pairs.length

end Numbers

/-! ### Calls -/

mutual

/-- Elements are read from lists and dicts alone. -/
theorem Store.elements_create (s : Store) (make : Nat → Value) (v : Value) :
    (s.create make).2.elements v = s.elements v := by
  cases v with
  | enumerate id source start => rw [elements, elements, elements_create s make source]
  | zip id sources => rw [elements, elements, elementsAll_create s make sources]
  | _ => rfl

theorem Store.elementsAll_create (s : Store) (make : Nat → Value) (vs : List Value) :
    (s.create make).2.elementsAll vs = s.elementsAll vs := by
  cases vs with
  | nil => rfl
  | cons v rest =>
    rw [elementsAll, elementsAll, elements_create s make v, elementsAll_create s make rest]

end

namespace Builtin

variable {w w' : World} {v start r : Value} {n : Integer}

/-- A call of `enumerate` is what it does with its arguments. -/
theorem outcome_invoke_enumerate (w : World) (v start : Value) :
    (invoke "enumerate" [v, start]).outcome w =
      (Run.act (enumerateOf v (some start))).outcome w := by
  have found : find? "enumerate" = some .enumerate := rfl
  have accepts : (arity .enumerate).Accepts [v, start].length := ⟨Nat.le_succ 1, Nat.le_refl 2⟩
  exact outcome_invoke found nofun accepts

/-- **`enumerate` keeps a value that can be traversed, and a start.** -/
theorem outcome_enumerate (w : World) (iterable : v.iterable = true)
    (number : start.integer? = some n) :
    (invoke "enumerate" [v, start]).outcome w = (.ok (.enumerate w.store.next v n),
      { w with store := (w.store.create (.enumerate · v n)).2 }) := by
  refine (outcome_invoke_enumerate w v start).trans (Run.outcome_act_of_ok ?_)
  simp only [enumerateOf, Action.expectIterable, Action.expectInteger, iterable, number]
  rfl

/-- Nothing else is taken by it. -/
theorem enumerate_of_ok (ran : (invoke "enumerate" [v, start]).outcome w = (.ok r, w')) :
    v.iterable = true ∧ ∃ n, start.integer? = some n := by
  rw [outcome_invoke_enumerate] at ran
  have acted := Run.ok_of_act (Run.ok_of_outcome ran)
  simp only [enumerateOf, Action.expectIterable, Action.expectInteger] at acted
  cases iterable : v.iterable with
  | false =>
    rw [iterable] at acted
    cases acted
  | true =>
    cases number : start.integer? with
    | none =>
      rw [iterable, number] at acted
      cases acted
    | some n => exact ⟨rfl, n, rfl⟩

/-- A list is made of nothing but elements. -/
theorem elements_of_list (ran : (invoke "list" [v]).outcome w = (.ok r, w')) :
    ∃ items s, Action.elements v w.store = .ok items s := by
  rw [outcome_invoke_list] at ran
  have acted := Run.ok_of_act (Run.ok_of_outcome ran)
  obtain ⟨_, s, expected, acted⟩ := EStateM.exists_of_bind_ok acted
  obtain ⟨items, s', taken, _⟩ := EStateM.exists_of_bind_ok acted
  unfold Action.expectIterable at expected
  split at expected <;> cases expected
  exact ⟨items, s', taken⟩

/-- All elements of a value, with numbers. -/
def listEnumerated (v start : Value) : Run Value := do
  let pairs ← invoke "enumerate" [v, start]
  invoke "list" [pairs]

/-- The list of the numbered elements, if they can be taken. -/
theorem outcome_listEnumerated (iterable : v.iterable = true) (number : start.integer? = some n)
    {items : List Value} {s : Store}
    (taken : Action.elements (.enumerate w.store.next v n)
      (w.store.create (.enumerate · v n)).2 = .ok items s) :
    (listEnumerated v start).outcome w =
      (.ok (.list s.lists.size), { w with store := (s.createList items).2 }) := by
  have called := outcome_enumerate w iterable number
  rw [listEnumerated, Run.outcome_bind_of_ok (congrArg Prod.fst called), called]
  exact outcome_list taken

/-- The elements of a numbered value are the pairs. -/
theorem numbers_of_elements {s s' : Store} {id : Nat} {pairs : List Value}
    (taken : Action.elements (.enumerate id v n) s = .ok pairs s') :
    Numbers n (s.elements v) pairs := by
  obtain ⟨c, opened⟩ := Action.exists_cursor_of_elements taken
  cases (Action.elements_of_cursor opened).symm.trans taken
  rw [Cursor.drain_eq, Store.cursor_elements _ opened]
  exact Numbers.of_createAll s n (s.elements v)

end Builtin

/-- **`enumerate` numbers the elements, up to the largest integer.** If the list of the numbered
elements can be made, the start is an integer, and the list holds one pair for each element: the
element, and the start and so many more, or the largest integer where this is less. So the numbers
are exact, and none comes twice, exactly if the last one fits. The list can be made of every value
that can be traversed, whatever integer the start is. -/
theorem list_enumerate (w : World) (v start : Value) :
    (∀ r w', (Builtin.listEnumerated v start).outcome w = (.ok r, w') →
      ∃ n place pairs, start.integer? = some n ∧ r = .list place ∧
        (w'.store.items place).toList = pairs ∧ Numbers n (w.store.elements v) pairs ∧
        (∀ k : Nat, (n.advance k).toInt = min (n.toInt + k) (2 ^ 63 - 1)) ∧
        ((∀ (k : Nat) (pair : Value), pairs[k]? = some pair →
          ∃ m, pair.index? = some m ∧ m.toInt = n.toInt + k) ↔
            n.toInt + pairs.length ≤ 2 ^ 63) ∧
        ((pairs.map Value.index?).Nodup ↔ n.toInt + pairs.length ≤ 2 ^ 63)) ∧
    (∀ n, start.integer? = some n → w.store.Proper v → v.iterable = true →
      ∃ place w', (Builtin.listEnumerated v start).outcome w = (.ok (.list place), w')) := by
  constructor
  · intro r w' ran
    obtain ⟨numbered, w₁, called, listed⟩ := EStateM.exists_of_bind_ok (Run.ok_of_outcome ran)
    have called : (Builtin.invoke "enumerate" [v, start]).outcome w = (.ok numbered, w₁) := by
      rw [Run.outcome, called]
    have listed : (Builtin.invoke "list" [numbered]).outcome w₁ = (.ok r, w') := by
      rw [Run.outcome, listed]
    obtain ⟨iterable, n, number⟩ := Builtin.enumerate_of_ok called
    cases (Builtin.outcome_enumerate w iterable number).symm.trans called
    obtain ⟨pairs, s, taken⟩ := Builtin.elements_of_list listed
    cases (Builtin.outcome_list taken).symm.trans listed
    have numbers := Builtin.numbers_of_elements taken
    rw [Store.elements_create] at numbers
    refine ⟨n, _, pairs, number, rfl, ?_, numbers, n.toInt_advance, numbers.exact_iff,
      numbers.nodup_iff⟩
    exact congrArg Array.toList ((Store.items_createList _ _ _).trans (if_pos rfl))
  · intro n number proper iterable
    have grows := w.store.grows_create (.enumerate · v n)
    obtain ⟨c, opened⟩ := Store.Proper.opens (Store.Proper.mono proper grows.covers) iterable
    have opened' : (w.store.create (.enumerate · v n)).2.cursor (.enumerate w.store.next v n) =
        .ok (.numbered c n) := by
      rw [Store.cursor, opened]
      rfl
    have taken := Action.elements_of_cursor opened'
    exact ⟨_, _, Builtin.outcome_listEnumerated iterable number taken⟩

/-- A store with a list of two strings. -/
def lettersStore : Store := ⟨#[#[.str 0 ['a'], .str 1 ['b']]], #[], 2⟩

theorem list_enumerate_letters :
    ∃ place w' pairs,
      (Builtin.listEnumerated (.list 0) (.int 2 7)).outcome ⟨lettersStore, Sink.empty⟩ =
        (.ok (.list place), w') ∧
      (w'.store.items place).toList = pairs ∧
      pairs.length = 2 ∧ (pairs.map Value.index?).Nodup := by
  obtain ⟨all, made⟩ := list_enumerate ⟨lettersStore, Sink.empty⟩ (.list 0) (.int 2 7)
  obtain ⟨place, w', ran⟩ := made 7 rfl (.list (by decide)) rfl
  obtain ⟨n, _, pairs, number, same, items, numbers, _, _, apart⟩ := all _ _ ran
  cases number
  cases same
  have length : pairs.length = 2 := numbers.length
  have room : Int64.toInt 7 + (2 : Nat) ≤ 2 ^ 63 := by decide
  exact ⟨_, w', pairs, ran, items, length, apart.mpr (length.symm ▸ room)⟩

/-- Two numbered items, where no number comes after the first one. -/
def lastNumbers : Expression :=
  .call ⟨0, 44⟩ "list" [.call ⟨5, 43⟩ "enumerate"
    [.list ⟨15, 21⟩ [.literal ⟨16, 17⟩ (.int 1), .literal ⟨19, 20⟩ (.int 2)],
      .literal ⟨23, 42⟩ (.int Int64.maxValue)]]

/-- Both items get the same number. -/
theorem evaluate_lastNumbers : ∃ w' first second,
    Console.evaluate lastNumbers World.empty = .ok (.list 1) w' ∧
    (w'.store.items 1).toList = [first, second] ∧
    first.index? = some Int64.maxValue ∧ second.index? = some Int64.maxValue :=
  ⟨_, _, _, rfl, rfl, rfl, rfl⟩

end CallConsole
