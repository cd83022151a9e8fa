/-
**Arguments of builtin functions.**

The checks that several functions make of an argument, and the traversal of an argument's elements.
-/

import CallConsole.Cursor
import CallConsole.Number

namespace CallConsole

namespace Action

/-- The argument must be an integer or a boolean. -/
def expectInteger (function : String) (v : Value) : Action Integer :=
  match v.integer? with
  | some n => pure n
  | none => fail (.argumentNotInteger function v.type)

/-- The argument must be a number. -/
def expectNumber (function : String) (v : Value) : Action Number :=
  match Number.of? v with
  | some number => pure number
  | none => fail (.argumentNotNumber function v.type)

/-- The argument must be iterable; the failure names the function. -/
def expectIterable (function : String) (v : Value) : Action Unit :=
  if v.iterable then pure () else fail (.argumentNotIterable function v.type)

/-- A cursor at the start of the elements of a value. -/
def start (v : Value) : Action Cursor := tryRead (·.cursor v)

/-- **All elements of a value**, as objects. -/
def elements (v : Value) : Action (List Value) := do
  let cursor ← start v
  let items ← read cursor.drain
  make (Item.createAll · items)

/-- Takes the elements of a value one by one into an accumulator; the first failure ends it. -/
def foldElements {α : Type} (v : Value) (step : α → Value → Action α) (total : α) : Action α := do
  let cursor ← start v
  let s ← read id
  let take (total : α) (item : Item) : Action α := do
    let element ← make item.create
    step total element
  cursor.fold s take (cursor.remaining s) total

/-- Some element of a value has the property; later elements are not taken. -/
def anyElement (v : Value) (holds : Store → Value → Bool) : Action Bool := do
  let cursor ← start v
  read fun s => cursor.any s (fun item => holds s (item.create s).1) (cursor.remaining s)

end Action

/-- The items of a list or tuple, as they are now. -/
def Store.sequence? (s : Store) : Value → Option (List Value)
  | .list place => some (s.items place).toList
  | .tuple _ items => some items
  | _ => none

end CallConsole
