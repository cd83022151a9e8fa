/-
**Positions, appending, joining and membership.**

A position is an integer or a boolean; a negative one counts from the end. Dicts are subscripted by
key.
-/

import CallConsole.Cursor
import CallConsole.Equality
import CallConsole.Render

namespace CallConsole

/-- **The index that a position stands for** in something of the given length. -/
def position (indexed : Indexed) (length : Nat) (index : Value) : Except Cause Nat :=
  match index.integer? with
  | none => .error (.indexNotInteger indexed index.type)
  | some n =>
    let resolved := if n.toInt < 0 then n.toInt + length else n.toInt
    if 0 ≤ resolved ∧ resolved < length then .ok resolved.toNat
    else .error (.indexOutOfRange indexed)

/-- An item at a position of a sequence. -/
def itemAt (indexed : Indexed) (items : List Value) (index : Value) : Except Cause Value :=
  match position indexed items.length index with
  | .error cause => .error cause
  | .ok slot =>
    match items[slot]? with
    | some v => .ok v
    | none => .error (.indexOutOfRange indexed)

namespace Action

/-- The character at a position of a text, as a new string. -/
def characterAt (text : List Char) (index : Value) : Action Value :=
  match position .string text.length index with
  | .error cause => fail cause
  | .ok slot => str (text[slot]?.toList)

/-- The value of a key of a dict. -/
def valueOf (place : Nat) (key : Value) : Action Value := tryRead fun s =>
  match (s.contents place).get? key with
  | .error cause => .error cause
  | .ok (some v) => .ok v
  | .ok none => .error (.keyNotFound (s.repr key))

/-- **`on[index]`** -/
def getItem (on index : Value) : Action Value :=
  match on with
  | .list place => tryRead fun s => itemAt .list (s.items place).toList index
  | .tuple _ items => tryRead fun _ => itemAt .tuple items index
  | .str _ text => characterAt text index
  | .dict place => valueOf place index
  | _ => fail (.notSubscriptable on.type)

/-- Writes to a dict and yields the value that was replaced. -/
def insert (place : Nat) (key v : Value) : Action (Option Value) :=
  changeDict place (·.insert key v)

/-- **`on[index] = v`** for lists and dicts. -/
def setItem (on index v : Value) : Action Unit :=
  match on with
  | .list place => do
    let slot ← tryRead fun s => position .listAssignment (s.items place).size index
    change (·.changeList place (·.setIfInBounds slot v))
  | .dict place => do
    let _ ← insert place index v
  | _ => fail (.notAssignable on.type)

/-- **Appends to a list in place.** -/
def append (on v : Value) : Action Unit :=
  match on with
  | .list place => change (·.changeList place (·.push v))
  | _ => fail (.notAppendable on.type)

/-- **`left + right`**: a sum of numbers, or a new string, list or tuple of both. -/
def add (left right : Value) : Action Value :=
  match Number.of? left, Number.of? right with
  | some a, some b => do
    let sum ← tryRead fun _ => a.add b
    sum.create
  | _, _ =>
    match left, right with
    | .str _ a, .str _ b => str (a ++ b)
    | .list i, .list j => do
      let items ← read fun s => (s.items i).toList ++ (s.items j).toList
      list items
    | .tuple _ xs, .tuple _ ys => tuple (xs ++ ys)
    | _, _ => fail (.notAddable left.type right.type)

end Action

/-- The needle occurs in the text as a run of characters. -/
def occursIn (needle text : List Char) : Bool :=
  match text with
  | [] => needle.isEmpty
  | _ :: rest => needle.isPrefixOf text || occursIn needle rest

namespace Store

/-- **`item in on`.** A string is searched for a run of characters, a dict for a key, everything
else for an equal element. -/
def contains (s : Store) (on item : Value) : Except Cause Bool :=
  match on, item with
  | .str _ text, .str _ needle => .ok (occursIn needle text)
  | .str .., _ => .error (.notSearchable item.type)
  | .dict place, _ => (s.contents place).contains item
  | _, _ =>
    match s.cursor on with
    | .error cause => .error cause
    | .ok cursor =>
      .ok (cursor.any s (fun element => s.equal (element.create s).1 item) (cursor.remaining s))

end Store

end CallConsole
