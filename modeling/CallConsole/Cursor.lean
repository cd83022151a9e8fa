/-
**Traversals.**

A cursor is a place in the elements of a value. It reads lists as they are at the moment of each
step; dict keys, characters, tuples and reversed sequences are those of the start. What a step
yields is an `Item`: an object that is there already, or a description of one that is made when the
item is taken.
-/

import CallConsole.Store

namespace CallConsole

/-- An element of a traversal. -/
inductive Item where
  /-- An object that is there already. -/
  | object (v : Value)
  /-- A string of one character. -/
  | char (c : Char)
  | int (n : Integer)
  /-- An element with its number. -/
  | numbered (index : Integer) (item : Item)
  | row (items : List Item)

namespace Item

mutual

/-- The object that an item stands for, made where it is not there already. -/
def create (s : Store) : Item → Value × Store
  | .object v => (v, s)
  | .char c => s.create (.str · [c])
  | .int n => s.create (.int · n)
  | .numbered index item =>
    let (number, s) := s.create (.int · index)
    let (v, s) := create s item
    s.create (.tuple · [number, v])
  | .row items =>
    let (vs, s) := createAll s items
    s.create (.tuple · vs)

/-- The objects that items stand for, made from left to right. -/
def createAll (s : Store) : List Item → List Value × Store
  | [] => ([], s)
  | item :: rest =>
    let (v, s) := create s item
    let (vs, s) := createAll s rest
    (v :: vs, s)

end

end Item

/-- A place in the elements of a value. -/
inductive Cursor where
  /-- The items of a list from an index on, read from the list itself. -/
  | live (place index : Nat)
  /-- The given items. -/
  | fixed (items : List Value)
  | chars (text : List Char)
  /-- The elements of a range from an index on. -/
  | forward (r : Range) (index : Nat)
  /-- The first `remaining` elements of a range, from the last of them to the first. -/
  | backward (r : Range) (remaining : Nat)
  /-- The elements of another cursor with consecutive numbers. -/
  | numbered (source : Cursor) (index : Integer)
  /-- Rows of one element of each cursor. -/
  | rows (sources : List Cursor)

namespace Cursor

mutual

/-- **One step.** Nothing is yielded when there is no element left; the cursor can be asked
again. -/
def next (s : Store) : Cursor → Option Item × Cursor
  | .live place index =>
    match (s.items place)[index]? with
    | some v => (some (.object v), .live place (index + 1))
    | none => (none, .live place index)
  | .fixed [] => (none, .fixed [])
  | .fixed (v :: rest) => (some (.object v), .fixed rest)
  | .chars [] => (none, .chars [])
  | .chars (c :: rest) => (some (.char c), .chars rest)
  | .forward r index =>
    if index < r.length then (some (.int (r.element index)), .forward r (index + 1))
    else (none, .forward r index)
  | .backward r 0 => (none, .backward r 0)
  | .backward r (remaining + 1) => (some (.int (r.element remaining)), .backward r remaining)
  | .numbered source index =>
    match next s source with
    | (some item, moved) => (some (.numbered index item), .numbered moved index.successor)
    | (none, moved) => (none, .numbered moved index)
  | .rows [] => (none, .rows [])
  | .rows (source :: rest) =>
    match nextAll s (source :: rest) with
    | (some items, moved) => (some (.row items), .rows moved)
    | (none, moved) => (none, .rows moved)

/-- One item of each cursor. Cursors after the first that has none are not moved. -/
def nextAll (s : Store) : List Cursor → Option (List Item) × List Cursor
  | [] => (some [], [])
  | source :: rest =>
    match next s source with
    | (none, moved) => (none, moved :: rest)
    | (some item, moved) =>
      match nextAll s rest with
      | (some items, others) => (some (item :: items), moved :: others)
      | (none, others) => (none, moved :: others)

end

mutual

/-- The number of steps that yield an element while nothing changes. -/
def remaining (s : Store) : Cursor → Nat
  | .live place index => (s.items place).size - index
  | .fixed items => items.length
  | .chars text => text.length
  | .forward r index => r.length - index
  | .backward _ remaining => remaining
  | .numbered source _ => remaining s source
  | .rows [] => 0
  | .rows (source :: rest) => remainingLeast s (remaining s source) rest

/-- The least of a bound and the numbers of steps of some cursors. -/
def remainingLeast (s : Store) (bound : Nat) : List Cursor → Nat
  | [] => bound
  | source :: rest => remainingLeast s (min bound (remaining s source)) rest

end

/-- The next `count` items, or as many as there are. -/
def take (s : Store) : Nat → Cursor → List Item
  | 0, _ => []
  | count + 1, cursor =>
    match cursor.next s with
    | (some item, moved) => item :: take s count moved
    | (none, _) => []

/-- All items from the cursor on. -/
def drain (s : Store) (cursor : Cursor) : List Item := cursor.take s (cursor.remaining s)

/-- Takes items one by one into an accumulator, and stops at the first failure. -/
def fold {α : Type} (s : Store) (step : α → Item → Action α) : Nat → Cursor → α → Action α
  | 0, _, total => pure total
  | count + 1, cursor, total =>
    match cursor.next s with
    | (some item, moved) => do
      let total ← step total item
      fold s step count moved total
    | (none, _) => pure total

/-- Some item has the property; items after the first such one are not taken. -/
def any (s : Store) (holds : Item → Bool) : Nat → Cursor → Bool
  | 0, _ => false
  | count + 1, cursor =>
    match cursor.next s with
    | (some item, moved) => holds item || any s holds count moved
    | (none, _) => false

end Cursor

namespace Store

mutual

/-- **A cursor at the start of a value**, or the type that has no elements. -/
def cursor (s : Store) : Value → Except Cause Cursor
  | .list place => .ok (.live place 0)
  | .dict place => .ok (.fixed (s.contents place).keys)
  | .str _ text => .ok (.chars text)
  | .tuple _ items => .ok (.fixed items)
  | .range _ r => .ok (.forward r 0)
  | .reversed _ items => .ok (.fixed items)
  | .reversedRange _ r => .ok (.backward r r.length)
  | .enumerate _ source start => (cursor s source).map (.numbered · start)
  | .zip _ sources => (cursors s sources).map .rows
  | .null _ => .error (.notIterable .none)
  | .bool .. => .error (.notIterable .bool)
  | .int .. => .error (.notIterable .int)
  | .float .. => .error (.notIterable .float)

/-- A cursor at the start of each value. -/
def cursors (s : Store) : List Value → Except Cause (List Cursor)
  | [] => .ok []
  | v :: rest =>
    match cursor s v with
    | .error cause => .error cause
    | .ok first => (cursors s rest).map (first :: ·)

end

mutual

/-- **The number of elements of a value**, without a traversal. -/
def length? (s : Store) : Value → Option Nat
  | .list place => some (s.items place).size
  | .dict place => some (s.contents place).length
  | .str _ text => some text.length
  | .tuple _ items => some items.length
  | .range _ r => some r.length
  | .reversed _ items => some items.length
  | .reversedRange _ r => some r.length
  | .enumerate _ source _ => length? s source
  | .zip _ [] => some 0
  | .zip _ (source :: rest) => (length? s source).bind fun least => leastLength? s least rest
  | .null _ | .bool .. | .int .. | .float .. => none

/-- The least of a bound and the lengths of some values. -/
def leastLength? (s : Store) (bound : Nat) : List Value → Option Nat
  | [] => some bound
  | v :: rest => (length? s v).bind fun length => leastLength? s (min bound length) rest

end

mutual

/-- **The value has no elements.** This is found out without a traversal, and for rows without all
of the lengths: there is none if there are no sources, or one of them has no elements. -/
def isEmpty (s : Store) : Value → Bool
  | .str _ text => text.isEmpty
  | .zip _ sources => sources.isEmpty || anyEmpty s sources
  | .enumerate _ source _ => isEmpty s source
  | v => s.length? v = some 0

/-- Some of the values has no elements. -/
def anyEmpty (s : Store) : List Value → Bool
  | [] => false
  | v :: rest => isEmpty s v || anyEmpty s rest

end

/-- The value counts as true: it is no zero, not nothing, and has an element if it can have any. -/
def truthy (s : Store) : Value → Bool
  | .null _ => false
  | .bool _ b => b
  | .int _ n => n ≠ 0
  | .float _ x => x.code ≠ 0
  | .str _ text => !text.isEmpty
  | .list place => !(s.items place).isEmpty
  | .dict place => (s.contents place).length ≠ 0
  | .tuple _ items => !items.isEmpty
  | v => !s.isEmpty v

end Store

end CallConsole
