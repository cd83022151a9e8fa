/-
**Arithmetic on doubles.**

A sum is the double nearest to the exact sum. Powers and square roots are those of the machine. An
operand that is no number is passed on, with its first fraction bit set.
-/

import CallConsole.Double

namespace CallConsole

namespace Double

/-- The bit that an operation sets in every NaN that it passes on. -/
def quietBit : UInt64 := 0x0008000000000000

/-- A NaN as an operation passes it on. -/
def passOn (x : Double) : Double := ⟨x.bits ||| quietBit⟩

/-- The double nearest to a signed number of units; `negativeZero` is the sign of a zero. -/
def ofSignedUnits (negativeZero : Bool) (units : Int) : Double :=
  if units = 0 then zero negativeZero
  else ofCode (decide (units < 0)) (nearestCode units.natAbs 1)

/-- **The double nearest to the exact sum.** An infinite term is the sum whatever the other is, but
infinities of opposite sign have no sum. A sum of zero is negative only if both terms are. -/
def add (x y : Double) : Double :=
  if x.isNan then x.passOn
  else if y.isNan then y.passOn
  else if x.isInfinite then
    if y.isInfinite && x.negative != y.negative then invalid else x
  else if y.isInfinite then y
  else ofSignedUnits (x.negative && y.negative) (x.signedUnits + y.signedUnits)

/-- The machine's double with the same bits. -/
def toFloat (x : Double) : Float := Float.ofBits x.bits

/-- The double with the bits of the machine's one. -/
def ofFloat (x : Float) : Double := ⟨x.toBits⟩

/-- The power, if the operands have one. -/
def power? (base exponent : Double) : Option Double :=
  let result := ofFloat (base.toFloat.pow exponent.toFloat)
  if result.isNan then
    if base.isNan then some base.passOn
    else if exponent.isNan then some exponent.passOn
    else none
  else some result

/-- The square root of a number that is not below zero. -/
def squareRoot (x : Double) : Double := if x.isNan then x.passOn else ofFloat x.toFloat.sqrt

end Double

end CallConsole
