/-
**The builtin functions.**

The table of the functions that can be called by name, each with the number of arguments that it
takes. The number is checked before anything else; only `print` touches the sink.
-/

import CallConsole.Builtin.Collection
import CallConsole.Builtin.Inspection
import CallConsole.Builtin.Numeric
import CallConsole.World

namespace CallConsole

/-- A function that can be called by name. -/
inductive Builtin where
  | print
  | str | int | float | bool | chr | ord
  | len | sorted | reversed | enumerate | zip | any | all | list | dict | range
  | abs | min | max | sum | pow | sqrt | round
  | type | isinstance
deriving DecidableEq

/-- The number of arguments must be accepted. -/
def Arity.check (function : String) (arity : Arity) (count : Nat) : Except Cause Unit :=
  if arity.Accepts count then .ok () else .error (.wrongArgumentCount function arity count)

namespace Builtin

/-- All builtin functions, in the order in which they are listed. -/
def table : List Builtin :=
  [.print, .str, .int, .float, .bool, .chr, .ord, .len, .sorted, .reversed, .enumerate, .zip, .any,
    .all, .list, .dict, .range, .abs, .min, .max, .sum, .pow, .sqrt, .round, .type, .isinstance]

/-- The name that a function is called by. -/
def name : Builtin → String
  | print => "print"
  | str => "str"
  | int => "int"
  | float => "float"
  | bool => "bool"
  | chr => "chr"
  | ord => "ord"
  | len => "len"
  | sorted => "sorted"
  | reversed => "reversed"
  | enumerate => "enumerate"
  | zip => "zip"
  | any => "any"
  | all => "all"
  | list => "list"
  | dict => "dict"
  | range => "range"
  | abs => "abs"
  | min => "min"
  | max => "max"
  | sum => "sum"
  | pow => "pow"
  | sqrt => "sqrt"
  | round => "round"
  | type => "type"
  | isinstance => "isinstance"

/-- How many arguments a function takes. -/
def arity : Builtin → Arity
  | print | zip => .atLeast 0
  | min | max => .atLeast 1
  | str | bool | list | dict => .between 0 1
  | sorted | enumerate | sum | round => .between 1 2
  | range => .between 1 3
  | int | float | chr | ord | len | reversed | any | all | abs | sqrt | type => .exactly 1
  | pow | isinstance => .exactly 2

/-- The function of a name. -/
def find? (name : String) : Option Builtin := table.find? (·.name = name)

/-- Texts with a blank between them. -/
def spaced : List (List Char) → List Char
  | [] => []
  | [text] => text
  | text :: rest => text ++ ' ' :: spaced rest

/-- The line that `print` writes for its arguments. -/
def printedLine (s : Store) (arguments : List Value) : List Char :=
  spaced (arguments.map s.str) ++ ['\n']

/-- What a function other than `print` does with an accepted number of arguments. -/
def body : Builtin → List Value → Action Value
  | str, [] => Action.str []
  | str, [v] => strOf v
  | int, [v] => intOf v
  | float, [v] => floatOf v
  | bool, [] => Action.bool false
  | bool, [v] => boolOf v
  | chr, [v] => chrOf v
  | ord, [v] => ordOf v
  | len, [v] => lenOf v
  | sorted, [v] => sortedOf v none
  | sorted, [v, descending] => sortedOf v (some descending)
  | reversed, [v] => reversedOf v
  | enumerate, [v] => enumerateOf v none
  | enumerate, [v, start] => enumerateOf v (some start)
  | zip, sources => zipOf sources
  | any, [v] => anyOf v
  | all, [v] => allOf v
  | list, [] => Action.list []
  | list, [v] => listOf v
  | dict, [] => Action.dict Dict.empty
  | dict, [v] => dictOf v
  | range, bounds => rangeOfBounds bounds
  | abs, [v] => absOf v
  | min, arguments => extremumOf "min" .lt arguments
  | max, arguments => extremumOf "max" .gt arguments
  | sum, [v] => sumOf v none
  | sum, [v, start] => sumOf v (some start)
  | pow, [base, exponent] => powOf base exponent
  | sqrt, [v] => sqrtOf v
  | round, [v] => roundOf v none
  | round, [v, places] => roundOf v (some places)
  | type, [v] => typeOf v
  | isinstance, [v, types] => isInstanceOf v types
  | function, arguments =>
    Action.fail (.wrongArgumentCount function.name function.arity arguments.length)

/-- Prints the arguments on one line. -/
def printAll (arguments : List Value) : Run Value := do
  let line ← Run.act (Action.read (printedLine · arguments))
  Run.print line
  Run.act Action.null

/-- Calls a function. -/
def call (function : Builtin) (arguments : List Value) : Run Value := do
  Run.act (Action.tryRead fun _ => function.arity.check function.name arguments.length)
  match function with
  | print => printAll arguments
  | _ => Run.act (function.body arguments)

/-- **Calls the function of a name.** -/
def invoke (name : String) (arguments : List Value) : Run Value :=
  match find? name with
  | some function => function.call arguments
  | none => Run.act (Action.fail (.undefinedName name))

end Builtin

end CallConsole
