/-
**The order of values.**

Numbers are ordered by value, strings by code points, lists and tuples by their first different
items. Equal items are passed over, so they need not have an order. Containers may hold themselves,
so a comparison goes only `depthLimit` containers deep.
-/

import CallConsole.Equality

namespace CallConsole

/-- The order of two texts: the first different characters decide, then the lengths. -/
def textOrder : List Char → List Char → Ordering
  | [], [] => .eq
  | [], _ :: _ => .lt
  | _ :: _, [] => .gt
  | c :: cs, d :: ds => (compare c.toNat d.toNat).then (textOrder cs ds)

namespace Store

/-- How many containers deep a comparison goes. -/
def depthLimit : Nat := 200

/-- The order of two values, with the order of two sequences of items given. -/
def compareWith (s : Store) (items : List Value → List Value → Except Cause Ordering)
    (left right : Value) : Except Cause Ordering :=
  match Number.of? left, Number.of? right with
  | some a, some b => .ok ((a.order? b).getD .eq)
  | _, _ =>
    match left, right with
    | .str _ a, .str _ b => .ok (textOrder a b)
    | .list i, .list j => items (s.items i).toList (s.items j).toList
    | .tuple _ xs, .tuple _ ys => items xs ys
    | _, _ => .error (.incomparable left.type right.type)

/-- The order of two sequences: that of their first items that are neither equal nor of the same
rank, or else that of their lengths. -/
def compareItems (equal : Value → Value → Bool) (order : Value → Value → Except Cause Ordering) :
    List Value → List Value → Except Cause Ordering
  | x :: xs, y :: ys =>
    if equal x y then compareItems equal order xs ys
    else match order x y with
      | .error cause => .error cause
      | .ok .eq => compareItems equal order xs ys
      | .ok decided => .ok decided
  | xs, ys => .ok (compare xs.length ys.length)

/-- The order of two values, at most `depth` containers deep. -/
def compareWithin (s : Store) : Nat → Value → Value → Except Cause Ordering
  | 0 => s.compareWith fun _ _ => .error .comparisonTooDeep
  | depth + 1 => s.compareWith (compareItems s.equal (s.compareWithin depth))

/-- **The order of two values.** NaN ranks with every number. -/
def compare (s : Store) (left right : Value) : Except Cause Ordering :=
  s.compareWithin depthLimit left right

end Store

end CallConsole
