/-
**Values.**

Every value is an object with an identity of its own: two values made at different times are
different objects even where they are equal. Lists and dicts are the objects that change, so a value
holds only the reference to their contents, which live in the store. All other values hold their
contents themselves and hold only values that were there before them.
-/

import CallConsole.Failure
import CallConsole.Range

namespace CallConsole

/-- A value of the console. `id` numbers the unchanging objects; lists and dicts are numbered by
their places in the store. -/
inductive Value where
  | null (id : Nat)
  | bool (id : Nat) (b : Bool)
  | int (id : Nat) (n : Integer)
  | float (id : Nat) (x : Double)
  | str (id : Nat) (text : List Char)
  | list (place : Nat)
  | dict (place : Nat)
  | tuple (id : Nat) (items : List Value)
  | range (id : Nat) (r : Range)
  /-- The elements of something else, kept in reverse order. -/
  | reversed (id : Nat) (items : List Value)
  /-- A range to be walked from its end. -/
  | reversedRange (id : Nat) (r : Range)
  /-- The elements of the source, numbered from the start on. -/
  | enumerate (id : Nat) (source : Value) (start : Integer)
  /-- Rows of one element of each source. -/
  | zip (id : Nat) (sources : List Value)

/-- What tells one object from another. -/
inductive Identity where
  | object (id : Nat)
  | list (place : Nat)
  | dict (place : Nat)
deriving DecidableEq

namespace Value

/-- The identity of a value. -/
def identity : Value → Identity
  | list place => .list place
  | dict place => .dict place
  | null id | bool id _ | int id _ | float id _ | str id _ | tuple id _ | range id _
  | reversed id _ | reversedRange id _ | enumerate id _ _ | zip id _ => .object id

/-- The two values are one object. -/
def same (first second : Value) : Bool := first.identity = second.identity

/-- The type of a value. -/
def type : Value → TypeName
  | null _ => .none
  | bool .. => .bool
  | int .. => .int
  | float .. => .float
  | str .. => .str
  | list _ => .list
  | dict _ => .dict
  | tuple .. => .tuple
  | range .. => .range
  | reversed .. | reversedRange .. => .reversed
  | enumerate .. => .enumerate
  | zip .. => .zip

/-- The value can be traversed. -/
def iterable : Value → Bool
  | null _ | bool .. | int .. | float .. => false
  | str .. | list _ | dict _ | tuple .. | range .. | reversed .. | reversedRange .. | enumerate ..
  | zip .. => true

/-- The integer that stands for the value wherever a position is expected. -/
def integer? : Value → Option Integer
  | int _ n => some n
  | bool _ b => some (Integer.ofBool b)
  | _ => none

/-- The characters of a string. -/
def text? : Value → Option (List Char)
  | str _ text => some text
  | _ => none

/-- The value is nothing. -/
def isNull : Value → Bool
  | null _ => true
  | _ => false

/-- The value counts as one of the named type; a boolean counts as an integer too. -/
def isInstance (v : Value) (typeName : String) : Bool :=
  v.type.text = typeName || (typeName = TypeName.int.text && v.type = .bool)

end Value

end CallConsole
