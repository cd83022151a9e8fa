/-
**Functions on collections**: `len`, `sorted`, `reversed`, `enumerate`, `zip`, `any`, `all`, `list`,
`dict` and `range`.
-/

import CallConsole.Builtin.Argument
import CallConsole.Sorting

namespace CallConsole

namespace Builtin

/-- `len(v)` -/
def lenOf (v : Value) : Action Value :=
  match v with
  | .str .. | .list _ | .tuple .. | .dict _ => do
    let length ← Action.read (·.length? v)
    Action.int (Int64.ofNat (length.getD 0))
  | _ => Action.fail (.lengthless v.type)

/-- `sorted(v)`, descending if the flag counts as true -/
def sortedOf (v : Value) (descending : Option Value) : Action Value := do
  Action.expectIterable "sorted" v
  let down ← Action.read fun s => descending.any s.truthy
  let items ← Action.elements v
  let sorted ← Action.tryRead (·.sort down items)
  Action.list sorted

/-- `reversed(v)`; the elements are those of the moment of the call -/
def reversedOf (v : Value) : Action Value :=
  match v with
  | .range _ r => Action.make (·.create (.reversedRange · r))
  | .reversedRange _ r => Action.range r
  | .list _ | .tuple .. | .str .. | .reversed .. => do
    let items ← Action.elements v
    Action.make (·.create (.reversed · items.reverse))
  | _ => Action.fail (.notReversible v.type)

/-- `enumerate(v)`, numbered from the start on -/
def enumerateOf (v : Value) (start : Option Value) : Action Value := do
  Action.expectIterable "enumerate" v
  let first ← match start with
    | some n => Action.expectInteger "enumerate" n
    | none => pure 0
  Action.make (·.create (.enumerate · v first))

/-- `zip(v, …)` -/
def zipOf (sources : List Value) : Action Value := do
  sources.forM (Action.expectIterable "zip")
  Action.make (·.create (.zip · sources))

/-- `any(v)` -/
def anyOf (v : Value) : Action Value := do
  Action.expectIterable "any" v
  let found ← Action.anyElement v Store.truthy
  Action.bool found

/-- `all(v)` -/
def allOf (v : Value) : Action Value := do
  Action.expectIterable "all" v
  let missing ← Action.anyElement v fun s element => !s.truthy element
  Action.bool !missing

/-- `list(v)` -/
def listOf (v : Value) : Action Value := do
  Action.expectIterable "list" v
  let items ← Action.elements v
  Action.list items

/-- One more pair for a dict; `index` counts the pairs. -/
def addPair (progress : Nat × Dict) (element : Value) : Action (Nat × Dict) := do
  let (index, d) := progress
  match ← Action.read (·.sequence? element) with
  | some [key, v] =>
    let changed ← Action.insertInto d key v
    pure (index + 1, changed)
  | _ => Action.fail (.elementNotPair index)

/-- `dict(v)`: a copy of a dict, or the pairs of anything else -/
def dictOf (v : Value) : Action Value :=
  match v with
  | .dict place => do
    let d ← Action.read (·.contents place)
    Action.dict d
  | _ => do
    Action.expectIterable "dict" v
    let (_, d) ← Action.foldElements v addPair (0, Dict.empty)
    Action.dict d

/-- A range with the given bounds. -/
def rangeOf (start stop step : Integer) : Action Value :=
  match Range.of? start stop step with
  | some r => Action.range r
  | none => Action.fail .zeroStep

/-- `range(stop)`, `range(start, stop)` and `range(start, stop, step)` -/
def rangeOfBounds (bounds : List Value) : Action Value := do
  match ← bounds.mapM (Action.expectInteger "range") with
  | [stop] => rangeOf 0 stop 1
  | [start, stop] => rangeOf start stop 1
  | [start, stop, step] => rangeOf start stop step
  | other => Action.fail (.wrongArgumentCount "range" (.between 1 3) other.length)

end Builtin

end CallConsole
