/-
**Functions on numbers**: `abs`, `min`, `max`, `sum`, `pow`, `sqrt` and `round`.
-/

import CallConsole.Builtin.Conversion
import CallConsole.Comparison
import CallConsole.Double.Places

namespace CallConsole

namespace Integer

/-- **The exact power**, if it fits. No base other than `0`, `1` and `-1` has a power above the
sixty-third in a word. -/
def power? (base exponent : Integer) : Option Integer :=
  if base.toInt.natAbs ≤ 1 then
    if exponent = 0 then some 1
    else if exponent.toInt % 2 = 0 then ofInt? (base.toInt * base.toInt)
    else some base
  else if 63 < exponent.toInt then none
  else ofInt? (base.toInt ^ exponent.toInt.toNat)

/-- **Rounds to `places` decimal places**, half-way cases to the even multiple. Below `-19` places
the unit is more than twice every integer. -/
def roundTo? (n places : Integer) : Option Integer :=
  if 0 ≤ places.toInt then some n
  else if places.toInt < -19 then some 0
  else
    let unit := 10 ^ (-places.toInt).toNat
    let multiple := nearestEven n.toInt.natAbs unit * unit
    ofInt? (if n.toInt < 0 then -(multiple : Int) else multiple)

end Integer

namespace Action

/-- The value found, or the failure that a result does not fit. -/
def orTooLarge (function : String) (result : Option Integer) : Action Value :=
  match result with
  | some n => int n
  | none => fail (.resultTooLarge function)

/-- The first of the values that no later one beats: `wanted` is how the better value compares with
the other. -/
def extremum (wanted : Ordering) (best : Value) : List Value → Action Value
  | [] => pure best
  | v :: rest => do
    let order ← tryRead (·.compare v best)
    extremum wanted (if order = wanted then v else best) rest

end Action

namespace Builtin

/-- `abs(v)` -/
def absOf (v : Value) : Action Value := do
  match ← Action.expectNumber "abs" v with
  | .int n => Action.orTooLarge "abs" (Integer.ofInt? n.toInt.natAbs)
  | .float x => Action.float x.abs

/-- The first of the candidates that no later one beats, if there is a candidate. -/
def extremumAmong (function : String) (wanted : Ordering) : List Value → Action Value
  | [] => Action.fail (.emptySequence function)
  | first :: rest => Action.extremum wanted first rest

/-- `min(…)` and `max(…)`, of the elements of one argument or of several arguments -/
def extremumOf (function : String) (wanted : Ordering) (arguments : List Value) : Action Value := do
  let candidates ← match arguments with
    | [v] => Action.elements v
    | _ => pure arguments
  extremumAmong function wanted candidates

/-- One more term of a sum. -/
def addTerm (total term : Value) : Action Value :=
  match Number.of? total, Number.of? term with
  | some a, some b => do
    let sum ← Action.tryRead fun _ => a.add b
    sum.create
  | _, _ => Action.fail (.notAddable total.type term.type)

/-- `sum(v)`, from zero or the given start on -/
def sumOf (v : Value) (start : Option Value) : Action Value := do
  if v.iterable then pure () else Action.fail (.notIterable v.type)
  let total ← match start with
    | some first => do
      let _ ← Action.expectNumber "sum" first
      pure first
    | none => Action.int 0
  Action.foldElements v addTerm total

/-- A power of doubles. -/
def doublePower (base exponent : Double) : Action Value :=
  if base.code = 0 && exponent.negative && !exponent.isNan && exponent.code ≠ 0 then
    Action.fail .zeroToNegativePower
  else match base.power? exponent with
    | some x => Action.float x
    | none => Action.fail .powerUndefined

/-- `pow(base, exponent)` -/
def powOf (base exponent : Value) : Action Value := do
  let b ← Action.expectNumber "pow" base
  let e ← Action.expectNumber "pow" exponent
  match b, e with
  | .int m, .int n =>
    if 0 ≤ n.toInt then Action.orTooLarge "pow" (m.power? n)
    else doublePower b.toDouble e.toDouble
  | _, _ => doublePower b.toDouble e.toDouble

/-- `sqrt(v)` -/
def sqrtOf (v : Value) : Action Value := do
  let number ← Action.expectNumber "sqrt" v
  let x := number.toDouble
  if x.negative && !x.isNan && x.code ≠ 0 then Action.fail .rootOfNegative
  else Action.float x.squareRoot

/-- The whole number nearest to a double, if it fits. -/
def roundedInteger (x : Double) : Except Cause Integer :=
  if x.isNan then .error .integerOfNan
  else if x.isInfinite then .error .integerOfInfinity
  else match Integer.ofInt? x.nearestInt with
    | some n => .ok n
    | none => .error (.integerOfLarge x)

/-- A number rounded to that many digits; a double that is rounded to none becomes an integer. -/
def rounded (number : Number) (digits : Option Integer) : Action Value :=
  match number, digits with
  | .int n, none => Action.int n
  | .int n, some d => Action.orTooLarge "round" (n.roundTo? d)
  | .float x, none => do
    let n ← Action.tryRead fun _ => roundedInteger x
    Action.int n
  | .float x, some d => Action.float (x.roundTo d.toInt)

/-- `round(v)` and `round(v, places)` -/
def roundOf (v : Value) (places : Option Value) : Action Value := do
  let number ← Action.expectNumber "round" v
  let digits ← match places with
    | none | some (.null _) => pure none
    | some p => some <$> Action.expectInteger "round" p
  rounded number digits

end Builtin

end CallConsole
