/-
**Reading doubles.**

A decimal is read as the double nearest to it, a tie going to the even code. `Double.read?` accepts
a signed decimal and, in any case of letters, `inf`, `infinity` and `nan`.
-/

import CallConsole.Decimal
import CallConsole.Double

namespace CallConsole

namespace Double

/-- The double nearest to `± decimal`. A decimal of more than `310` places before the point is
beyond every double, and one that starts more than `330` places after it is nearer to zero than to
the least double, so no power of ten is formed for them. -/
def ofDecimal (negative : Bool) (decimal : Decimal) : Double :=
  let places := Decimal.length decimal.digits + decimal.exponent
  if decimal.digits = 0 ∨ places < -330 then zero negative
  else if 310 < places then infinite negative
  else ofRatio negative decimal.numerator decimal.denominator

/-- The names of infinity and of the missing number, in lower case. -/
def ofName? (negative : Bool) (name : List Char) : Option Double :=
  if name = ['i', 'n', 'f'] ∨ name = ['i', 'n', 'f', 'i', 'n', 'i', 't', 'y'] then
    some (infinite negative)
  else if name = ['n', 'a', 'n'] then some (ofCode negative nan.code)
  else none

/-- **Reads a double.** The whole text must be used up. -/
def read? (text : List Char) : Option Double :=
  let (negative, unsigned) := Decimal.readSign text
  match Decimal.read? unsigned with
  | some decimal => some (ofDecimal negative decimal)
  | none => ofName? negative (unsigned.map Char.toLower)

end Double

end CallConsole
