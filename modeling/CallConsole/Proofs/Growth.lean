/-
**Stores that grow, and what is proper in them.**

Nothing is ever taken out of a store, so a value that refers to places of the store goes on to do
so. A value is proper if all that it refers to is there, and if what it numbers or puts in rows can
be traversed:

* `items_of_grows`, `contents_of_grows`: what was made keeps its contents while the store grows;
* `extends_create`, `extends_createList`, `extends_createDict`: whatever is made, no place is lost
  and no number is given out again;
* `Proper.mono`: a proper value stays proper where no place is lost.
-/

import CallConsole.Cursor

namespace CallConsole

namespace Store

/-! ### Growth -/

/-- The second store has the lists and dicts of the first one at the same places. -/
structure Grows (before after : Store) : Prop where
  lists : ∀ (place : Nat) (items : Array Value),
    before.lists[place]? = some items → after.lists[place]? = some items
  dicts : ∀ (place : Nat) (d : Dict),
    before.dicts[place]? = some d → after.dicts[place]? = some d

variable {s s' : Store}

theorem Grows.refl (s : Store) : s.Grows s := ⟨fun _ _ => id, fun _ _ => id⟩

theorem Grows.trans {s'' : Store} (first : s.Grows s') (second : s'.Grows s'') : s.Grows s'' where
  lists place items there := second.lists place items (first.lists place items there)
  dicts place d there := second.dicts place d (first.dicts place d there)

/-- Making an unchanging object adds nothing to the lists and dicts. -/
theorem grows_create (s : Store) (make : Nat → Value) : s.Grows (s.create make).2 :=
  ⟨fun _ _ => id, fun _ _ => id⟩

theorem getElem?_push {α : Type} {xs : Array α} {place : Nat} {x y : α}
    (there : xs[place]? = some x) : (xs.push y)[place]? = some x := by
  obtain ⟨inside, same⟩ := Array.getElem?_eq_some_iff.mp there
  rw [Array.getElem?_push_lt inside, same]

theorem grows_createList (s : Store) (items : List Value) : s.Grows (s.createList items).2 :=
  ⟨fun _ _ there => getElem?_push there, fun _ _ => id⟩

theorem grows_createDict (s : Store) (d : Dict) : s.Grows (s.createDict d).2 :=
  ⟨fun _ _ => id, fun _ _ there => getElem?_push there⟩

/-- **A list that was made keeps its items**, however the store grows. -/
theorem items_of_grows {items : List Value} (grows : (s.createList items).2.Grows s') :
    (s'.items s.lists.size).toList = items := by
  have there := grows.lists s.lists.size items.toArray Array.getElem?_push_size
  rw [Store.items, there]
  rfl

/-- **A dict that was made keeps its contents**, however the store grows. -/
theorem contents_of_grows {d : Dict} (grows : (s.createDict d).2.Grows s') :
    s'.contents s.dicts.size = d := by
  have there := grows.dicts s.dicts.size d Array.getElem?_push_size
  rw [contents, there]
  rfl

/-- What a list of the first store holds, it holds in the second one. -/
theorem Grows.items_eq (grows : s.Grows s') {place : Nat} (inside : place < s.lists.size) :
    s'.items place = s.items place := by
  have there := Array.getElem?_eq_getElem inside
  rw [items, items, grows.lists place _ there, there]

/-- What a dict of the first store holds, it holds in the second one. -/
theorem Grows.contents_eq (grows : s.Grows s') {place : Nat} (inside : place < s.dicts.size) :
    s'.contents place = s.contents place := by
  have there := Array.getElem?_eq_getElem inside
  rw [contents, contents, grows.dicts place _ there, there]

/-! ### Places -/

/-- Every place of the first store is one of the second. -/
structure Covers (before after : Store) : Prop where
  lists : before.lists.size ≤ after.lists.size
  dicts : before.dicts.size ≤ after.dicts.size

theorem Covers.refl (s : Store) : s.Covers s := ⟨Nat.le_refl _, Nat.le_refl _⟩

theorem Covers.trans {s'' : Store} (first : s.Covers s') (second : s'.Covers s'') : s.Covers s'' :=
  ⟨Nat.le_trans first.lists second.lists, Nat.le_trans first.dicts second.dicts⟩

theorem size_le_of_getElem? {α : Type} {xs ys : Array α}
    (keeps : ∀ (place : Nat) (x : α), xs[place]? = some x → ys[place]? = some x) :
    xs.size ≤ ys.size := by
  refine Nat.le_of_not_lt fun shorter => ?_
  have there := keeps ys.size xs[ys.size] (Array.getElem?_eq_getElem shorter)
  rw [Array.getElem?_eq_none (Nat.le_refl _)] at there
  cases there

theorem Grows.covers (grows : s.Grows s') : s.Covers s' :=
  ⟨size_le_of_getElem? grows.lists, size_le_of_getElem? grows.dicts⟩

/-- No place is lost, and no number of an unchanging object is given out again. -/
structure Extends (before after : Store) : Prop extends Covers before after where
  next : before.next ≤ after.next

theorem Extends.refl (s : Store) : s.Extends s := ⟨.refl s, Nat.le_refl _⟩

theorem Extends.trans {s'' : Store} (first : s.Extends s') (second : s'.Extends s'') :
    s.Extends s'' :=
  ⟨first.toCovers.trans second.toCovers, Nat.le_trans first.next second.next⟩

theorem extends_create (s : Store) (make : Nat → Value) : s.Extends (s.create make).2 :=
  ⟨(grows_create s make).covers, Nat.le_succ _⟩

theorem extends_createList (s : Store) (items : List Value) :
    s.Extends (s.createList items).2 := ⟨(grows_createList s items).covers, Nat.le_refl _⟩

theorem extends_createDict (s : Store) (d : Dict) : s.Extends (s.createDict d).2 :=
  ⟨(grows_createDict s d).covers, Nat.le_refl _⟩

/-- The new list stands behind the others. -/
theorem items_createList (s : Store) (items : List Value) (place : Nat) :
    (s.createList items).2.items place =
      if place = s.lists.size then items.toArray else s.items place := by
  show (s.lists.push items.toArray)[place]?.getD #[] = _
  rw [Array.getElem?_push]
  split <;> rfl

/-- The new dict stands behind the others. -/
theorem contents_createDict (s : Store) (d : Dict) (place : Nat) :
    (s.createDict d).2.contents place = if place = s.dicts.size then d else s.contents place := by
  show (s.dicts.push d)[place]?.getD Dict.empty = _
  rw [Array.getElem?_push]
  split <;> rfl

/-! ### Proper values -/

/-- **All that the value refers to is in the store**, and what it numbers or puts in rows can be
traversed. -/
inductive Proper (s : Store) : Value → Prop
  | null (id : Nat) : s.Proper (.null id)
  | bool (id : Nat) (b : Bool) : s.Proper (.bool id b)
  | int (id : Nat) (n : Integer) : s.Proper (.int id n)
  | float (id : Nat) (x : Double) : s.Proper (.float id x)
  | str (id : Nat) (text : List Char) : s.Proper (.str id text)
  | list {place : Nat} : place < s.lists.size → s.Proper (.list place)
  | dict {place : Nat} : place < s.dicts.size → s.Proper (.dict place)
  | tuple (id : Nat) {items : List Value} : (∀ v ∈ items, s.Proper v) → s.Proper (.tuple id items)
  | range (id : Nat) (r : Range) : s.Proper (.range id r)
  | reversed (id : Nat) {items : List Value} :
      (∀ v ∈ items, s.Proper v) → s.Proper (.reversed id items)
  | reversedRange (id : Nat) (r : Range) : s.Proper (.reversedRange id r)
  | enumerate (id : Nat) {source : Value} (start : Integer) : s.Proper source →
      source.iterable = true → s.Proper (.enumerate id source start)
  | zip (id : Nat) {sources : List Value} : (∀ v ∈ sources, s.Proper v) →
      (∀ v ∈ sources, v.iterable = true) → s.Proper (.zip id sources)

/-- **A proper value stays proper** where no place is lost. -/
theorem Proper.mono {v : Value} (proper : s.Proper v) (covers : s.Covers s') : s'.Proper v := by
  induction proper with
  | null id => exact .null id
  | bool id b => exact .bool id b
  | int id n => exact .int id n
  | float id x => exact .float id x
  | str id text => exact .str id text
  | list inside => exact .list (Nat.lt_of_lt_of_le inside covers.lists)
  | dict inside => exact .dict (Nat.lt_of_lt_of_le inside covers.dicts)
  | tuple id _ each => exact .tuple id each
  | range id r => exact .range id r
  | reversed id _ each => exact .reversed id each
  | reversedRange id r => exact .reversedRange id r
  | enumerate id start _ iterable source => exact .enumerate id start source iterable
  | zip id _ iterable each => exact .zip id each iterable

end Store

end CallConsole
