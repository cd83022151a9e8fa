/-
**Conversions between types**: `str`, `int`, `float`, `bool`, `chr` and `ord`.
-/

import CallConsole.Builtin.Argument
import CallConsole.Double.Reading
import CallConsole.Render
import CallConsole.Text.Blank

namespace CallConsole

/-- The whole number next to a double on the side of zero, if there is one and it fits. -/
def Integer.ofTruncated (x : Double) : Except Cause Integer :=
  if x.isNan then .error .integerOfNan
  else if x.isInfinite then .error .integerOfInfinity
  else match Integer.ofInt? x.truncate with
    | some n => .ok n
    | none => .error (.integerOfLarge x)

/-- The text is a sign or none, and then at least one digit. -/
def isIntegerText (text : List Char) : Bool :=
  let digits := (Decimal.readSign text).2
  !digits.isEmpty && digits.all Char.isDigit

/-- The integer that a text of that shape denotes. -/
def integerTextValue (text : List Char) : Int :=
  let (negative, digits) := Decimal.readSign text
  if negative then -(Decimal.ofDigits digits : Int) else Decimal.ofDigits digits

/-- **Reads an integer** with blanks around it. -/
def Integer.ofText (text : List Char) : Except Cause Integer :=
  let trimmed := trimBlanks text
  if isIntegerText trimmed then
    match Integer.ofInt? (integerTextValue trimmed) with
    | some n => .ok n
    | none => .error (.integerTextTooLarge trimmed)
  else .error (.integerTextMalformed text)

/-- **Reads a double** with blanks around it. -/
def Double.ofText (text : List Char) : Except Cause Double :=
  match Double.read? (trimBlanks text) with
  | some x => .ok x
  | none => .error (.floatTextMalformed text)

/-- The character with the given code point. -/
def characterOfCode? (code : Int) : Option Char :=
  if _valid : 0 ≤ code ∧ code.toNat.isValidChar then some (Char.ofNat code.toNat) else none

namespace Builtin

/-- `str(v)` -/
def strOf (v : Value) : Action Value := do
  let text ← Action.read (·.str v)
  Action.str text

/-- `int(v)` -/
def intOf : Value → Action Value
  | .int _ n => Action.int n
  | .bool _ b => Action.int (Integer.ofBool b)
  | .float _ x => do
    let n ← Action.tryRead fun _ => Integer.ofTruncated x
    Action.int n
  | .str _ text => do
    let n ← Action.tryRead fun _ => Integer.ofText text
    Action.int n
  | v => Action.fail (.notConvertible "int" v.type)

/-- `float(v)` -/
def floatOf : Value → Action Value
  | .float _ x => Action.float x
  | .int _ n => Action.float (Double.ofInt n.toInt)
  | .bool _ b => Action.float (Double.ofInt (Integer.ofBool b).toInt)
  | .str _ text => do
    let x ← Action.tryRead fun _ => Double.ofText text
    Action.float x
  | v => Action.fail (.notConvertible "float" v.type)

/-- `bool(v)` -/
def boolOf (v : Value) : Action Value := do
  let b ← Action.read (·.truthy v)
  Action.bool b

/-- `chr(v)` -/
def chrOf (v : Value) : Action Value := do
  let code ← Action.expectInteger "chr" v
  match characterOfCode? code.toInt with
  | some c => Action.str [c]
  | none => Action.fail (.notCharacterCode code)

/-- `ord(v)` -/
def ordOf (v : Value) : Action Value :=
  match v.text? with
  | some [c] => Action.int (Int64.ofNat c.toNat)
  | some text => Action.fail (.ordOfLength text.length)
  | none => Action.fail (.ordOfOther v.type)

end Builtin

end CallConsole
