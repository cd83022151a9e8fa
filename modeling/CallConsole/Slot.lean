/-
**Slots of dict keys.**

A dict finds an entry by the slot of its key. Equal numbers share a slot whatever their type: a
boolean and a whole double take the slot of the integer that they equal, every other double the slot
of its bits. A tuple's slot is the list of its items' slots. Lists, dicts and lazy sequences have
none.
-/

import CallConsole.Value

namespace CallConsole

/-- The place of a key in a dict. -/
inductive Slot where
  | null
  | int (n : Integer)
  | float (x : Double)
  | str (text : List Char)
  | tuple (items : List Slot)

namespace Slot

mutual

/-- Equality of slots can be decided. -/
def decideEq : (first second : Slot) → Decidable (first = second)
  | .null, .null => .isTrue rfl
  | .int m, .int n => decidable_of_iff (m = n) (by simp)
  | .float x, .float y => decidable_of_iff (x = y) (by simp)
  | .str s, .str t => decidable_of_iff (s = t) (by simp)
  | .tuple xs, .tuple ys =>
    match decideEqAll xs ys with
    | .isTrue equal => .isTrue (by rw [equal])
    | .isFalse differ => .isFalse (by simpa using differ)
  | .null, .int _ | .null, .float _ | .null, .str _ | .null, .tuple _
  | .int _, .null | .int _, .float _ | .int _, .str _ | .int _, .tuple _
  | .float _, .null | .float _, .int _ | .float _, .str _ | .float _, .tuple _
  | .str _, .null | .str _, .int _ | .str _, .float _ | .str _, .tuple _
  | .tuple _, .null | .tuple _, .int _ | .tuple _, .float _ | .tuple _, .str _ =>
    .isFalse (by simp)

/-- Equality of lists of slots can be decided. -/
def decideEqAll : (first second : List Slot) → Decidable (first = second)
  | [], [] => .isTrue rfl
  | [], _ :: _ | _ :: _, [] => .isFalse (by simp)
  | x :: xs, y :: ys =>
    match decideEq x y, decideEqAll xs ys with
    | .isTrue head, .isTrue tail => .isTrue (by rw [head, tail])
    | .isFalse differ, _ => .isFalse (by simp [differ])
    | _, .isFalse differ => .isFalse (by simp [differ])

end

instance : DecidableEq Slot := decideEq

/-- The slot of a double. -/
def ofDouble (x : Double) : Slot :=
  match x.toInteger? with
  | some n => .int n
  | none => .float x

mutual

/-- **The slot of a value**, or the type that has none. -/
def of? : Value → Except Cause Slot
  | .null _ => .ok .null
  | .bool _ b => .ok (.int (Integer.ofBool b))
  | .int _ n => .ok (.int n)
  | .float _ x => .ok (ofDouble x)
  | .str _ text => .ok (.str text)
  | .tuple _ items => (ofItems? items).map .tuple
  | .list _ => .error (.unhashable .list)
  | .dict _ => .error (.unhashable .dict)
  | .range .. => .error (.unhashable .range)
  | .reversed .. | .reversedRange .. => .error (.unhashable .reversed)
  | .enumerate .. => .error (.unhashable .enumerate)
  | .zip .. => .error (.unhashable .zip)

/-- The slots of the items of a tuple; the first item without one fails. -/
def ofItems? : List Value → Except Cause (List Slot)
  | [] => .ok []
  | item :: rest =>
    match of? item with
    | .error cause => .error cause
    | .ok slot => (ofItems? rest).map (slot :: ·)

end

end Slot

end CallConsole
