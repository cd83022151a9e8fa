/-
**Functions on types**: `type` and `isinstance`.
-/

import CallConsole.Builtin.Argument

namespace CallConsole

namespace Builtin

/-- `type(v)` -/
def typeOf (v : Value) : Action Value := Action.str v.type.text.toList

/-- The value is of one of the named types. Names after the first that fits are not looked at. -/
def isInstanceOfAny (v : Value) : List Value → Except Cause Bool
  | [] => .ok false
  | name :: rest =>
    match name.text? with
    | none => .error (.typeNameNotText name.type)
    | some text => if v.isInstance (String.ofList text) then .ok true else isInstanceOfAny v rest

/-- `isinstance(v, types)` -/
def isInstanceOf (v types : Value) : Action Value := do
  let names ← match types with
    | .str .. => pure [types]
    | .list _ | .tuple .. => Action.read fun s => (s.sequence? types).getD []
    | _ => Action.fail (.typeNamesNotText types.type)
  let fits ← Action.tryRead fun _ => isInstanceOfAny v names
  Action.bool fits

end Builtin

end CallConsole
