/-
**The console.**

Expressions are evaluated from left to right, arguments before their call. A failure ends the
evaluation; a call that fails takes the blame unless a part of it did already. A script is evaluated
line by line.
-/

import CallConsole.Builtin
import CallConsole.Expression.Parsing

namespace CallConsole

namespace Run

/-- Changes the diagnostic of a failure. -/
def mapDiagnostic {α : Type} (change : Diagnostic → Diagnostic) (run : Run α) : Run α := fun w =>
  match run w with
  | .ok a w => .ok a w
  | .error (.diagnostic d) w => .error (.diagnostic (change d)) w
  | .error failure w => .error failure w

/-- Fails with a diagnostic. -/
def fail {α : Type} (d : Diagnostic) : Run α := fun w => .error (.diagnostic d) w

end Run

namespace Literal

/-- The object made for a literal. -/
def create : Literal → Action Value
  | null => Action.null
  | bool b => Action.bool b
  | int n => Action.int n
  | float x => Action.float x
  | str text => Action.str text

end Literal

namespace Console

/-- A bare name is a failure, of one kind for functions and of another for all else. -/
def nameCause (name : String) : Cause :=
  if (Builtin.find? name).isSome then .uncalledBuiltin name else .undefinedName name

mutual

/-- **Evaluates an expression.** -/
def evaluate : Expression → Run Value
  | .literal _ value => Run.act value.create
  | .name span name => Run.fail ⟨nameCause name, some span, []⟩
  | .call span function arguments => do
    let values ← evaluateAll arguments
    (Builtin.invoke function values).mapDiagnostic (·.blame span)
  | .list _ items => do
    let values ← evaluateAll items
    Run.act (Action.list values)
  | .tuple _ items => do
    let values ← evaluateAll items
    Run.act (Action.tuple values)
  | .dict _ entries => do
    let d ← evaluateEntries Dict.empty entries
    Run.act (Action.dict d)
  | .group _ inner => evaluate inner

/-- Evaluates expressions from left to right. -/
def evaluateAll : List Expression → Run (List Value)
  | [] => pure []
  | e :: rest => do
    let v ← evaluate e
    let vs ← evaluateAll rest
    pure (v :: vs)

/-- Evaluates the entries of a dict display: key, value, insertion, one entry after another. -/
def evaluateEntries (d : Dict) : List (Expression × Expression) → Run Dict
  | [] => pure d
  | (key, value) :: rest => do
    let k ← evaluate key
    let v ← evaluate value
    let changed ← Run.act (Action.insertInto d k v)
    evaluateEntries changed rest

end

/-- **Reads and evaluates one expression.** -/
def evalSource (source : List Char) : Run Value :=
  match parse source with
  | .error failure => Run.fail failure.toDiagnostic
  | .ok e => evaluate e

/-- The lines of a text, without their ends. A line ends with a newline, which may have a carriage
return before it; what follows the last newline is a line unless it is empty. -/
def lines : List Char → List (List Char)
  | [] => []
  | '\n' :: rest => [] :: lines rest
  | '\r' :: '\n' :: rest => [] :: lines rest
  | c :: rest =>
    match lines rest with
    | [] => [[c]]
    | line :: more => (c :: line) :: more

/-- Evaluates lines, the first of which has the given number, and counts those that are not blank.
The first failure ends the run and learns its line. -/
def runLines (number : Nat) : List (List Char) → Run Nat
  | [] => pure 0
  | line :: rest =>
    if isBlankSource line then runLines (number + 1) rest
    else do
      let _ ← (evalSource line).mapDiagnostic (·.atLine number)
      let count ← runLines (number + 1) rest
      pure (count + 1)

/-- **Runs a script** and counts the lines that were evaluated. -/
def runSource (source : List Char) : Run Nat := runLines 1 (lines source)

end Console

end CallConsole
