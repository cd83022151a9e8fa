/-
**Traversals above other objects.**

A cursor above the objects of a store moves as it moves without them:

* `Item.create_above`: an item stands for the same object, put above;
* `Cursor.next_above`, `Cursor.drain_above`: a cursor yields the same items, put above;
* `Store.cursor_above`, `Store.truthy_above`: traversals start at the same elements, and what is
  known without a traversal is the same.
-/

import CallConsole.Proofs.Relocation

namespace CallConsole

variable (base : Store)

/-! ### Items -/

namespace Item

mutual

/-- The item above the objects of a store. -/
def above : Item → Item
  | .object v => .object (v.above base)
  | .char c => .char c
  | .int n => .int n
  | .numbered index item => .numbered index (above item)
  | .row items => .row (aboveAll items)

/-- Items above the objects of a store. -/
def aboveAll : List Item → List Item
  | [] => []
  | item :: rest => above item :: aboveAll rest

end

theorem aboveAll_eq_map (items : List Item) : aboveAll base items = items.map (above base) := by
  induction items with
  | nil => rfl
  | cons item rest ih => rw [aboveAll, ih, List.map_cons]

mutual

/-- **An item stands for the same object above.** -/
theorem create_above (s : Store) (item : Item) :
    create (base.above s) (item.above base) =
      ((item.create s).1.above base, base.above (item.create s).2) := by
  cases item with
  | object | char | int => rfl
  | numbered index item =>
    rw [above, create, create]
    dsimp only [Store.create]
    have numbered : Store.mk (base.above s).lists (base.above s).dicts ((base.above s).next + 1) =
        base.above { s with next := s.next + 1 } := rfl
    rw [numbered, create_above { s with next := s.next + 1 } item]
    rfl
  | row items =>
    rw [above, create, create, createAll_above s items]
    dsimp only [Store.create]
    rw [Value.above, Value.aboveAll_eq_map]
    rfl

theorem createAll_above (s : Store) (items : List Item) :
    createAll (base.above s) (aboveAll base items) =
      ((createAll s items).1.map (Value.above base), base.above (createAll s items).2) := by
  cases items with
  | nil => rfl
  | cons item rest =>
    rw [aboveAll, createAll, createAll, create_above s item]
    dsimp only
    rw [createAll_above]
    rfl

end

end Item

/-! ### Cursors -/

namespace Cursor

mutual

/-- The cursor above the objects of a store. -/
def above : Cursor → Cursor
  | .live place index => .live (base.lists.size + place) index
  | .fixed items => .fixed (items.map (Value.above base))
  | .chars text => .chars text
  | .forward r index => .forward r index
  | .backward r remaining => .backward r remaining
  | .numbered source index => .numbered (above source) index
  | .rows sources => .rows (aboveAll sources)

/-- Cursors above the objects of a store. -/
def aboveAll : List Cursor → List Cursor
  | [] => []
  | source :: rest => above source :: aboveAll rest

end

variable (s : Store)

mutual

/-- **A cursor yields the same item above**, put above. -/
theorem next_above (c : Cursor) :
    (c.above base).next (base.above s) =
      ((c.next s).1.map (Item.above base), (c.next s).2.above base) := by
  cases c with
  | live place index =>
    rw [above, next, next, Store.items_above, Array.getElem?_map]
    cases (s.items place)[index]? <;> rfl
  | fixed items => cases items <;> rfl
  | chars text => cases text <;> rfl
  | forward r index =>
    rw [above, next, next]
    split <;> rfl
  | backward r remaining => cases remaining <;> rfl
  | numbered source index =>
    rw [above, next, next, next_above source]
    cases source.next s with
    | mk item moved => cases item <;> rfl
  | rows sources =>
    cases sources with
    | nil => rfl
    | cons source rest =>
      have all := nextAll_above (source :: rest)
      rw [aboveAll] at all
      rw [above, aboveAll, next, next, all]
      cases nextAll s (source :: rest) with
      | mk items moved =>
        cases items with
        | none => rfl
        | some items =>
          dsimp only [Option.map_some]
          rw [Item.above, Item.aboveAll_eq_map, above]

theorem nextAll_above (cs : List Cursor) :
    nextAll (base.above s) (aboveAll base cs) =
      ((nextAll s cs).1.map (·.map (Item.above base)), aboveAll base (nextAll s cs).2) := by
  cases cs with
  | nil => rfl
  | cons source rest =>
    rw [aboveAll, nextAll, nextAll, next_above source, nextAll_above rest]
    cases source.next s with
    | mk item moved =>
      cases item with
      | none => rfl
      | some item =>
        cases nextAll s rest with
        | mk items others => cases items <;> rfl

end

mutual

theorem remaining_above (c : Cursor) :
    (c.above base).remaining (base.above s) = c.remaining s := by
  cases c with
  | live place index => rw [above, remaining, remaining, Store.size_items_above]
  | fixed items => exact List.length_map _
  | chars | forward | backward => rfl
  | numbered source index => rw [above, remaining, remaining, remaining_above source]
  | rows sources =>
    cases sources with
    | nil => rfl
    | cons source rest =>
      rw [above, aboveAll, remaining, remaining, remaining_above source, remainingLeast_above]

theorem remainingLeast_above (bound : Nat) (cs : List Cursor) :
    remainingLeast (base.above s) bound (aboveAll base cs) = remainingLeast s bound cs := by
  cases cs with
  | nil => rfl
  | cons source rest =>
    rw [aboveAll, remainingLeast, remainingLeast, remaining_above source, remainingLeast_above]

end

theorem take_above (count : Nat) (c : Cursor) :
    (c.above base).take (base.above s) count = (c.take s count).map (Item.above base) := by
  induction count generalizing c with
  | zero => rfl
  | succ count ih =>
    rw [take, take, next_above]
    cases c.next s with
    | mk item moved =>
      cases item with
      | none => rfl
      | some item => exact congrArg (_ :: ·) (ih moved)

theorem drain_above (c : Cursor) :
    (c.above base).drain (base.above s) = (c.drain s).map (Item.above base) := by
  rw [drain, drain, remaining_above, take_above]

/-- What is asked of the items above is what was asked of them below. -/
theorem any_above {holds holds' : Item → Bool}
    (same : ∀ item, holds' (item.above base) = holds item) (count : Nat) (c : Cursor) :
    (c.above base).any (base.above s) holds' count = c.any s holds count := by
  induction count generalizing c with
  | zero => rfl
  | succ count ih =>
    rw [any, any, next_above]
    cases c.next s with
    | mk item moved =>
      cases item with
      | none => rfl
      | some item =>
        show (holds' (item.above base) || _) = (holds item || _)
        rw [same, ih moved]

end Cursor

/-! ### What is known of a traversal -/

namespace Store

variable (s : Store)

mutual

/-- **A traversal starts above where it started.** -/
theorem cursor_above (v : Value) :
    (base.above s).cursor (v.above base) = (s.cursor v).map (Cursor.above base) := by
  cases v with
  | list | str | range | reversedRange | null | bool | int | float => rfl
  | dict place =>
    rw [Value.above, cursor, contents_above, Dict.keys_above]
    rfl
  | tuple id items | reversed id items =>
    rw [Value.above, cursor, Value.aboveAll_eq_map]
    rfl
  | enumerate id source start =>
    rw [Value.above, cursor, cursor, cursor_above source]
    cases s.cursor source <;> rfl
  | zip id sources =>
    rw [Value.above, cursor, cursor, cursors_above sources]
    cases s.cursors sources <;> rfl

theorem cursors_above (vs : List Value) :
    (base.above s).cursors (Value.aboveAll base vs) =
      (s.cursors vs).map (Cursor.aboveAll base) := by
  cases vs with
  | nil => rfl
  | cons v rest =>
    rw [Value.aboveAll, cursors, cursors, cursor_above v, cursors_above rest]
    cases s.cursor v with
    | error cause => rfl
    | ok first => cases s.cursors rest <;> rfl

end

mutual

theorem length?_above (v : Value) : (base.above s).length? (v.above base) = s.length? v := by
  cases v with
  | list place => rw [Value.above, length?, length?, size_items_above]
  | dict place => rw [Value.above, length?, length?, contents_above, Dict.length_above]
  | tuple id items | reversed id items =>
    rw [Value.above, length?, length?, Value.aboveAll_eq_map, List.length_map]
  | enumerate id source start => rw [Value.above, length?, length?, length?_above source]
  | zip id sources =>
    cases sources with
    | nil => rfl
    | cons source rest =>
      rw [Value.above, Value.aboveAll, length?, length?, length?_above source]
      exact congrArg _ (funext fun least => leastLength?_above least rest)
  | _ => rfl

theorem leastLength?_above (bound : Nat) (vs : List Value) :
    (base.above s).leastLength? bound (Value.aboveAll base vs) = s.leastLength? bound vs := by
  cases vs with
  | nil => rfl
  | cons v rest =>
    rw [Value.aboveAll, leastLength?, leastLength?, length?_above v]
    exact congrArg _ (funext fun length => leastLength?_above (min bound length) rest)

end

mutual

theorem isEmpty_above (v : Value) : (base.above s).isEmpty (v.above base) = s.isEmpty v := by
  cases v with
  | str => rfl
  | enumerate id source start => rw [Value.above, isEmpty, isEmpty, isEmpty_above source]
  | zip id sources =>
    rw [Value.above, isEmpty, isEmpty, anyEmpty_above sources, Value.aboveAll_eq_map,
      List.isEmpty_map]
  | _ => exact congrArg (fun length => decide (length = some 0)) (length?_above base s _)

theorem anyEmpty_above (vs : List Value) :
    (base.above s).anyEmpty (Value.aboveAll base vs) = s.anyEmpty vs := by
  cases vs with
  | nil => rfl
  | cons v rest => rw [Value.aboveAll, anyEmpty, anyEmpty, isEmpty_above v, anyEmpty_above rest]

end

/-- **A value counts as true above if it did.** -/
theorem truthy_above (v : Value) : (base.above s).truthy (v.above base) = s.truthy v := by
  cases v with
  | list place => rw [Value.above, truthy, truthy, isEmpty_items_above]
  | dict place => rw [Value.above, truthy, truthy, contents_above, Dict.length_above]
  | tuple id items => rw [Value.above, truthy, truthy, Value.aboveAll_eq_map, List.isEmpty_map]
  | null | bool | int | float | str => rfl
  | _ => exact congrArg (!·) (isEmpty_above base s _)

theorem sequence?_above (v : Value) :
    (base.above s).sequence? (v.above base) = (s.sequence? v).map (·.map (Value.above base)) := by
  cases v with
  | list place =>
    rw [Value.above, sequence?, sequence?, items_above, Array.toList_map]
    rfl
  | tuple id items =>
    rw [Value.above, sequence?, sequence?, Value.aboveAll_eq_map]
    rfl
  | _ => rfl

end Store

end CallConsole
