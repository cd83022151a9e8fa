/-
**Numbers.**

Integers, booleans and doubles form one numeric order. It is exact: an integer is compared with a
double in units of `2 ^ -1074`, of which both are a whole number.
-/

import CallConsole.Double.Arithmetic
import CallConsole.Store

namespace CallConsole

/-- The numeric view of a value. -/
inductive Number where
  | int (n : Integer)
  | float (x : Double)
deriving DecidableEq

namespace Number

/-- The number that a value is; a boolean is an integer here. -/
def of? : Value → Option Number
  | .int _ n => some (.int n)
  | .bool _ b => some (.int (Integer.ofBool b))
  | .float _ x => some (.float x)
  | _ => none

/-- The number is not a number. -/
def isNan : Number → Bool
  | int _ => false
  | float x => x.isNan

/-- The value in units of `2 ^ -1074`. -/
def signedUnits : Number → Int
  | int n => n.toInt * Double.oneUnits
  | float x => x.signedUnits

/-- **The exact order of two numbers**; there is none if one of them is NaN. -/
def order? : Number → Number → Option Ordering
  | int m, int n => some (compare m.toInt n.toInt)
  | a, b => if a.isNan || b.isNan then none else some (compare a.signedUnits b.signedUnits)

/-- The number as a double. -/
def toDouble : Number → Double
  | int n => Double.ofInt n.toInt
  | float x => x

/-- The object made for a number. -/
def create : Number → Action Value
  | int n => Action.int n
  | float x => Action.float x

/-- **The sum.** Two integers have an integer sum, if it fits; otherwise doubles are added. -/
def add : Number → Number → Except Cause Number
  | int m, int n =>
    match Integer.ofInt? (m.toInt + n.toInt) with
    | some sum => .ok (int sum)
    | none => .error .sumTooLarge
  | a, b => .ok (float (a.toDouble.add b.toDouble))

end Number

end CallConsole
